import Mathlib.Tactic.SplitIfs
import Metacard.Proofs.Json.Grammar
import Metacard.Proofs.Json.Induction
/-!
# JSON texts tell values apart

No two values have the same text. A text inside a value is read back from its escapes, and a value
ends where its text does: by its closing mark, or, as a number has none, where a character follows
that no number goes on with.
-/

set_option autoImplicit false

namespace Metacard

namespace Json

theorem toDigits_sixteen : ∀ n < 16,
    Nat.toDigits 16 n = [Nat.digitChar n] ∧ Text.hexValue? (Nat.digitChar n) = some n := by
  decide

theorem toDigits_sixteen_teens : ∀ n < 16,
    Nat.toDigits 16 (16 + n) = ['1', Nat.digitChar n] := by
  decide

open Grammar in
theorem isCharText_escapedChar (c : Char) : IsCharText (escapedChar c).toList c := by
  have same : Char.ofNat c.toNat = c := Char.ofNat_toNat c
  have zero : Text.hexValue? '0' = some 0 := by decide
  generalize isEscaped : escapedChar c = escaped
  unfold escapedChar at isEscaped
  split_ifs at isEscaped with quote backslash backspace formFeed lineFeed carriageReturn tab small
    control <;> subst isEscaped
  · exact quote ▸ .marked (by decide)
  · exact backslash ▸ .marked (by decide)
  · exact backspace ▸ .marked (by decide)
  · exact formFeed ▸ .marked (by decide)
  · exact lineFeed ▸ .marked (by decide)
  · exact carriageReturn ▸ .marked (by decide)
  · exact tab ▸ .marked (by decide)
  · obtain ⟨digits, isDigit⟩ := toDigits_sixteen c.toNat small
    have isUnit := IsUnit.digits zero zero zero isDigit
    simpa [Text.hex, digits, same] using IsCharText.unit isUnit (by omega)
  · obtain ⟨n, isRest⟩ : ∃ n, c.toNat = 16 + n := Nat.exists_eq_add_of_le (by omega)
    obtain ⟨-, isDigit⟩ := toDigits_sixteen n (by omega)
    have isUnit := IsUnit.digits zero zero (show Text.hexValue? '1' = some 1 by decide) isDigit
    rw [isRest] at same
    simpa [Text.hex, isRest, toDigits_sixteen_teens n (by omega), same] using
      IsCharText.unit isUnit (by omega)
  · simpa using IsCharText.plain quote backslash (Nat.not_lt.1 control)

def escapedChars (chars : List Char) : List Char :=
  chars.flatMap fun c => (escapedChar c).toList

theorem toList_renderText (text : String) :
    (renderText text).toList = '"' :: (escapedChars text.toList ++ ['"']) := by
  rw [renderText, String.toList_append, String.toList_append, String.toList_join,
    List.flatMap_map]
  rfl

open Grammar in
theorem isQuoted_renderText (text : String) : IsQuoted (renderText text).toList text := by
  have each : ∀ piece ∈ text.toList.map fun c => ((escapedChar c).toList, c),
      IsCharText piece.1 piece.2 := List.forall_mem_map.2 fun c _ => isCharText_escapedChar c
  rw [toList_renderText]
  simpa [escapedChars, List.flatMap_map, Function.comp_def] using IsQuoted.chars each

theorem text?_escapedChars (text : String) (rest : List Char) :
    Reader.text? (escapedChars text.toList ++ '"' :: rest) = some (text, rest) :=
  Grammar.text?_iff.2 ⟨(renderText text).toList, by simp [toList_renderText],
    isQuoted_renderText text⟩

/-! ## Values -/

def EndsNumber (rest : List Char) : Prop :=
  ∀ c ∈ rest.head?, Number.isTextChar c = false

/-- What is written for an item is written for no other, whatever follows that ends a number. -/
def IsTold {α : Type} (write : α → List Char) (item : α) : Prop :=
  ∀ other rest otherRest, EndsNumber rest → EndsNumber otherRest →
    write item ++ rest = write other ++ otherRest → item = other ∧ rest = otherRest

theorem endsNumber_cons {c : Char} (rest : List Char) (ends : Number.isTextChar c = false) :
    EndsNumber (c :: rest) := by
  intro first isFirst
  exact Option.some.inj isFirst ▸ ends

theorem renderText_append_inj {left right : String} {rest otherRest : List Char}
    (same : (renderText left).toList ++ rest = (renderText right).toList ++ otherRest) :
    left = right ∧ rest = otherRest := by
  simp only [toList_renderText, List.cons_append, List.append_assoc, List.nil_append,
    List.cons.injEq, true_and] at same
  have read := text?_escapedChars left rest
  rw [same, text?_escapedChars] at read
  obtain ⟨rfl, rfl⟩ := Prod.mk.inj (Option.some.inj read)
  exact ⟨rfl, rfl⟩

theorem isTold_number (value : Number) :
    IsTold (fun number : Number => number.render.toList) value := by
  intro other rest otherRest ends otherEnds same
  have taken (number : Number) {rest : List Char} (ends : EndsNumber rest) :
      (number.render.toList ++ rest).takeWhile Number.isTextChar = number.render.toList := by
    have nothing : rest.takeWhile Number.isTextChar = [] := by
      cases rest with
      | nil => rfl
      | cons c rest => exact List.takeWhile_cons_of_neg (by simp [ends c rfl])
    rw [List.takeWhile_append_of_pos fun c => number.isTextChar_of_mem_render, nothing,
      List.append_nil]
  have sameText : value.render.toList = other.render.toList := by
    rw [← taken value ends, same, taken other otherEnds]
  dsimp only at same
  rw [sameText] at same
  exact ⟨Number.render_injective (String.toList_injective sameText), List.append_cancel_left same⟩

section

variable {α : Type} {write : α → List Char} {close : Char}

theorem endsNumber_flatMap (ends : Number.isTextChar close = false) (items : List α)
    (rest : List Char) :
    EndsNumber ((items.flatMap fun item => ',' :: write item) ++ close :: rest) := by
  cases items with
  | nil => exact endsNumber_cons rest ends
  | cons item others => exact endsNumber_cons _ (by decide)

theorem flatMap_append_inj (ends : Number.isTextChar close = false) (noComma : close ≠ ',')
    {items : List α} (told : ∀ item ∈ items, IsTold write item) :
    ∀ {others : List α} {rest otherRest : List Char},
      (items.flatMap fun item => ',' :: write item) ++ close :: rest =
          (others.flatMap fun item => ',' :: write item) ++ close :: otherRest →
        items = others ∧ rest = otherRest := by
  induction items with
  | nil =>
    intro others rest otherRest same
    cases others with
    | nil => exact ⟨rfl, List.tail_eq_of_cons_eq same⟩
    | cons other others => exact absurd (List.head_eq_of_cons_eq same) noComma
  | cons item items inductionHypothesis =>
    intro others rest otherRest same
    obtain ⟨itemTold, itemsTold⟩ := List.forall_mem_cons.1 told
    cases others with
    | nil => exact absurd (List.head_eq_of_cons_eq same).symm noComma
    | cons other others =>
      simp only [List.flatMap_cons, List.cons_append, List.append_assoc] at same
      obtain ⟨rfl, sameRest⟩ := itemTold other _ _ (endsNumber_flatMap ends items rest)
        (endsNumber_flatMap ends others otherRest) (List.tail_eq_of_cons_eq same)
      obtain ⟨rfl, rfl⟩ := inductionHypothesis itemsTold sameRest
      exact ⟨rfl, rfl⟩

theorem separated_append_inj (ends : Number.isTextChar close = false) (noComma : close ≠ ',')
    (opens : ∀ item, ∃ c text, write item = c :: text ∧ c ≠ close) {items others : List α}
    (told : ∀ item ∈ items, IsTold write item) {rest otherRest : List Char}
    (same : separated write items ++ close :: rest = separated write others ++ close :: otherRest) :
    items = others ∧ rest = otherRest := by
  cases items with
  | nil =>
    cases others with
    | nil => exact ⟨rfl, List.tail_eq_of_cons_eq same⟩
    | cons other others =>
      obtain ⟨c, text, written, noClose⟩ := opens other
      simp only [separated, written, List.cons_append, List.nil_append] at same
      exact absurd (List.head_eq_of_cons_eq same).symm noClose
  | cons item items =>
    obtain ⟨itemTold, itemsTold⟩ := List.forall_mem_cons.1 told
    cases others with
    | nil =>
      obtain ⟨c, text, written, noClose⟩ := opens item
      simp only [separated, written, List.cons_append, List.nil_append] at same
      exact absurd (List.head_eq_of_cons_eq same) noClose
    | cons other others =>
      simp only [separated, List.append_assoc] at same
      obtain ⟨rfl, sameRest⟩ := itemTold other _ _ (endsNumber_flatMap ends items rest)
        (endsNumber_flatMap ends others otherRest) same
      obtain ⟨rfl, rfl⟩ := flatMap_append_inj ends noComma itemsTold sameRest
      exact ⟨rfl, rfl⟩

end

def memberChars (entry : String × Json) : List Char :=
  (renderText entry.1).toList ++ ':' :: entry.2.render.toList

theorem toList_renderItems (items : List Json) :
    (renderItems items).toList = separated (fun item => item.render.toList) items := by
  cases items with
  | nil => rfl
  | cons item rest =>
    induction rest generalizing item with
    | nil => simp [renderItems, separated]
    | cons next rest inductionHypothesis =>
      simp [renderItems, separated, inductionHypothesis next]

theorem toList_renderMembers (members : List (String × Json)) :
    (renderMembers members).toList = separated memberChars members := by
  cases members with
  | nil => rfl
  | cons entry rest =>
    induction rest generalizing entry with
    | nil => simp [renderMembers, separated, memberChars]
    | cons next rest inductionHypothesis =>
      simp [renderMembers, separated, memberChars, inductionHypothesis next]

inductive Form where
  | null
  | boolean
  | number
  | text
  | array
  | object
  deriving DecidableEq

def form : Json → Form
  | .null => .null
  | .boolean _ => .boolean
  | .number _ => .number
  | .text _ => .text
  | .array _ => .array
  | .object _ => .object

/-- The form of the values whose texts begin with a character. -/
def formOf? (c : Char) : Option Form :=
  if Number.isTextChar c then some .number
  else if c = 'n' then some .null
  else if c = 't' ∨ c = 'f' then some .boolean
  else if c = '"' then some .text
  else if c = '[' then some .array
  else if c = '\x7b' then some .object
  else none

theorem exists_render_eq_cons (value : Json) :
    ∃ c rest, value.render.toList = c :: rest ∧ formOf? c = some value.form := by
  cases value with
  | null => exact ⟨'n', _, rfl, by decide⟩
  | boolean value => cases value <;> exact ⟨_, _, rfl, by decide⟩
  | number value =>
    obtain ⟨c, rest, isText⟩ := List.exists_cons_of_ne_nil value.toList_render_ne_nil
    have isTextChar := value.isTextChar_of_mem_render (isText ▸ List.mem_cons_self)
    exact ⟨c, rest, isText, by rw [formOf?, if_pos isTextChar]; rfl⟩
  | text value => exact ⟨'"', _, toList_renderText value, rfl⟩
  | array items => exact ⟨'[', (renderItems items).toList ++ [']'], by simp [render], rfl⟩
  | object members =>
    exact ⟨'\x7b', (renderMembers members).toList ++ ['\x7d'], by simp [render], rfl⟩

theorem form_eq_of_append {left right : Json} {rest otherRest : List Char}
    (same : left.render.toList ++ rest = right.render.toList ++ otherRest) :
    left.form = right.form := by
  obtain ⟨c, text, isText, isForm⟩ := exists_render_eq_cons left
  obtain ⟨other, otherText, isOtherText, isOtherForm⟩ := exists_render_eq_cons right
  rw [isText, isOtherText] at same
  obtain rfl := List.head_eq_of_cons_eq same
  exact Option.some.inj (isForm.symm.trans isOtherForm)

theorem isTold_member {entry : String × Json}
    (told : IsTold (fun value : Json => value.render.toList) entry.2) :
    IsTold memberChars entry := by
  intro other rest otherRest ends otherEnds same
  simp only [memberChars, List.append_assoc, List.cons_append] at same
  obtain ⟨sameKey, sameRest⟩ := renderText_append_inj same
  obtain ⟨sameValue, sameEnd⟩ :=
    told other.2 rest otherRest ends otherEnds (List.tail_eq_of_cons_eq sameRest)
  exact ⟨Prod.ext sameKey sameValue, sameEnd⟩

/-- A value is told by its text from all others, whatever follows. -/
theorem isTold (value : Json) : IsTold (fun value : Json => value.render.toList) value := by
  induction value with
  | null =>
    intro other rest otherRest _ _ same
    cases other with
    | null => exact ⟨rfl, List.append_cancel_left same⟩
    | boolean | number | text | array | object => exact nomatch form_eq_of_append same
  | boolean value =>
    intro other rest otherRest _ _ same
    cases other with
    | boolean other =>
      cases value <;> cases other <;> simp [render] at same <;> exact ⟨rfl, same⟩
    | null | number | text | array | object => exact nomatch form_eq_of_append same
  | number value =>
    intro other rest otherRest ends otherEnds same
    cases other with
    | number other =>
      obtain ⟨rfl, rfl⟩ := isTold_number value other rest otherRest ends otherEnds same
      exact ⟨rfl, rfl⟩
    | null | boolean | text | array | object => exact nomatch form_eq_of_append same
  | text value =>
    intro other rest otherRest _ _ same
    cases other with
    | text other =>
      obtain ⟨rfl, rfl⟩ := renderText_append_inj same
      exact ⟨rfl, rfl⟩
    | null | boolean | number | array | object => exact nomatch form_eq_of_append same
  | array items inductionHypothesis =>
    intro other rest otherRest _ _ same
    cases other with
    | array others =>
      have opens (item : Json) : ∃ c text, item.render.toList = c :: text ∧ c ≠ ']' := by
        obtain ⟨c, text, isText, isForm⟩ := exists_render_eq_cons item
        exact ⟨c, text, isText, by rintro rfl; exact nomatch isForm⟩
      simp only [render, String.toList_append, toList_renderItems, List.append_assoc] at same
      obtain ⟨rfl, rfl⟩ := separated_append_inj (by decide) (by decide) opens inductionHypothesis
        (List.append_cancel_left same)
      exact ⟨rfl, rfl⟩
    | null | boolean | number | text | object => exact nomatch form_eq_of_append same
  | object members inductionHypothesis =>
    intro other rest otherRest _ _ same
    cases other with
    | object others =>
      have opens (entry : String × Json) :
          ∃ c text, memberChars entry = c :: text ∧ c ≠ '\x7d' := by
        rw [memberChars, toList_renderText]
        exact ⟨'"', _, rfl, by decide⟩
      simp only [render, String.toList_append, toList_renderMembers, List.append_assoc] at same
      obtain ⟨rfl, rfl⟩ := separated_append_inj (by decide) (by decide) opens
        (fun entry member => isTold_member (inductionHypothesis entry member))
        (List.append_cancel_left same)
      exact ⟨rfl, rfl⟩
    | null | boolean | number | text | array => exact nomatch form_eq_of_append same

theorem render_injective : Function.Injective render := by
  intro left right same
  have ends : EndsNumber [] := fun _ isFirst => nomatch isFirst
  exact (isTold left right [] [] ends ends (by dsimp only; rw [same])).1

end Json

end Metacard
