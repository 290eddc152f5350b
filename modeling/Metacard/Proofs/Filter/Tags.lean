import Mathlib
import Metacard.Proofs.Filter.Tree
/-!
# The tags of filters

A tag is written as a word in any case or as a sign. Each text is read as the tag that is written by
it, if there is one, and every tag has one spelling: words in capitals, and `<>` for `!=`.
-/

set_option autoImplicit false

namespace Metacard

namespace Text

def capitals (text : String) : String :=
  String.ofList (text.toList.map Char.toUpper)

theorem capitals_eq_of_equalIgnoringCase {left right : String}
    (same : equalIgnoringCase left right = true) : capitals left = capitals right := by
  have upper := congrArg (List.map Char.toUpper) (equalIgnoringCase_iff.1 same)
  simp only [List.map_map, Function.comp_def, Char.toUpper_toLower_eq_toUpper] at upper
  rw [capitals, capitals, upper]

theorem equalIgnoringCase_congr {left right : String} (same : equalIgnoringCase left right = true)
    (word : String) : equalIgnoringCase left word = equalIgnoringCase right word := by
  rw [equalIgnoringCase, equalIgnoringCase, equalIgnoringCase_iff.1 same]

end Text

namespace Filter

inductive Tag where
  | connective (kind : Connective)
  | negation
  | operator (kind : Operator)
  deriving DecidableEq

namespace Tag

def text : Tag → String
  | .connective kind => kind.keyword
  | .negation => "NOT"
  | .operator kind => kind.token

/-- Words are written in any case, signs as they are; `<>` may be written as `!=`. -/
def IsWritten : Tag → String → Prop
  | .operator .like, text => Text.equalIgnoringCase text "LIKE" = true
  | .operator .ilike, text => Text.equalIgnoringCase text "ILIKE" = true
  | .operator .notEquals, text => text = "<>" ∨ text = "!="
  | .operator kind, text => text = kind.token
  | tag, text => Text.equalIgnoringCase text tag.text = true

/-- The tag that a text is read as: a connective is tried before a negation, and a negation before
the operators. -/
def ofText? (text : String) : Option Tag :=
  match Connective.ofTag? text with
  | some kind => some (.connective kind)
  | none =>
      if Text.equalIgnoringCase text "NOT" then some .negation
      else (Operator.ofTag? text).map .operator

/-- A text respelled: a word in capitals, and `<>` for `!=`. -/
def spelling (text : String) : String :=
  if text = "!=" then "<>" else Text.capitals text

theorem ofText?_text (tag : Tag) : ofText? tag.text = some tag := by
  rcases tag with kind | - | kind <;> (try cases kind) <;> decide

theorem ofText?_of_word {text word : String} (same : Text.equalIgnoringCase text word = true)
    (noSign : ∀ sign ∈ ["=", "<>", "!=", ">", ">=", "<", "<="],
      Text.equalIgnoringCase sign word = false) : ofText? text = ofText? word := by
  have differs (other : String) (isOther : Text.equalIgnoringCase other word = true) :
      ∀ sign ∈ ["=", "<>", "!=", ">", ">=", "<", "<="], other ≠ sign := by
    rintro sign member rfl
    rw [noSign other member] at isOther
    exact Bool.false_ne_true isOther
  have textDiffers := differs text same
  have wordDiffers := differs word (Text.equalIgnoringCase_refl word)
  simp only [List.forall_mem_cons] at textDiffers wordDiffers
  simp only [ofText?, Connective.ofTag?, Operator.ofTag?, Text.equalIgnoringCase_congr same,
    textDiffers, wordDiffers, false_or, if_false]

theorem ofText?_of_isWritten {tag : Tag} {text : String} (written : tag.IsWritten text) :
    ofText? text = some tag := by
  rw [← ofText?_text tag]
  rcases tag with kind | - | kind
  · exact ofText?_of_word written (by cases kind <;> decide)
  · exact ofText?_of_word written (by decide)
  · cases kind with
    | like => exact ofText?_of_word written (by decide)
    | ilike => exact ofText?_of_word written (by decide)
    | notEquals => rcases written with rfl | rfl <;> decide
    | _ => exact congrArg ofText? written

theorem isWritten_of_ofText? {tag : Tag} {text : String} (read : ofText? text = some tag) :
    tag.IsWritten text := by
  rw [ofText?] at read
  split at read
  · rename_i kind isConnective
    obtain rfl := Option.some.inj read
    rw [Connective.ofTag?] at isConnective
    split_ifs at isConnective with isAnd isOr <;> obtain rfl := Option.some.inj isConnective
    · exact isAnd
    · exact isOr
  · split at read
    · rename_i isNegation
      obtain rfl := Option.some.inj read
      exact isNegation
    · obtain ⟨kind, isOperator, rfl⟩ := Option.map_eq_some_iff.1 read
      rw [Operator.ofTag?] at isOperator
      split_ifs at isOperator <;> obtain rfl := Option.some.inj isOperator <;> assumption

theorem ofText?_eq_some_iff {tag : Tag} {text : String} :
    ofText? text = some tag ↔ tag.IsWritten text :=
  ⟨isWritten_of_ofText?, ofText?_of_isWritten⟩

theorem spelling_of_isWritten {tag : Tag} {text : String} (written : tag.IsWritten text) :
    spelling text = tag.text := by
  have word {word : String} (isWord : Text.equalIgnoringCase text word = true)
      (noSign : Text.equalIgnoringCase "!=" word = false) :
      spelling text = Text.capitals word := by
    rw [spelling, if_neg, Text.capitals_eq_of_equalIgnoringCase isWord]
    rintro rfl
    rw [noSign] at isWord
    exact Bool.false_ne_true isWord
  rcases tag with kind | - | kind
  · rw [word written (by cases kind <;> decide)]
    cases kind <;> decide
  · rw [word written (by decide)]
    decide
  · cases kind with
    | like =>
      rw [word written (by decide)]
      decide
    | ilike =>
      rw [word written (by decide)]
      decide
    | notEquals => rcases written with rfl | rfl <;> decide
    | _ =>
      obtain rfl := written
      decide

end Tag

end Filter

end Metacard
