import Mathlib.Data.List.Forall2
import Metacard.Proofs.Cql.Reader
import Metacard.Proofs.Filter.Induction
import Metacard.Proofs.Outcome
/-!
# Filters and their query texts

The text of a filter says what the filter says: it is read as the filter with its properties freed
of blanks at both ends, its list operands spread over groups, and without the connectives of groups
of one member. No text and no property of a filter, whatever its characters, changes the structure
of the text.
-/

set_option autoImplicit false

namespace Metacard.Cql

/-! ## What the text of a filter leaves of it -/

mutual

/-- The comparison of a property with an operand, a list being spread over a group. -/
def spread (operator : Operator) (property : String) : Operand → Query
  | .text value => .leaf ⟨operator, property, .text value⟩
  | .number value => .leaf ⟨operator, property, .number value⟩
  | .boolean value => .leaf ⟨operator, property, .boolean value⟩
  | .list elements =>
      .group (shown .or elements.length) (spreadAll operator property elements)

def spreadAll (operator : Operator) (property : String) : List Operand → List Query
  | [] => []
  | element :: rest => spread operator property element :: spreadAll operator property rest

end

mutual

/-- The query of a filter: the filter up to what its text does not show. -/
def normal : Filter → Query
  | .comparison leaf => spread leaf.operator (Text.trim leaf.property) leaf.operand
  | .group connective members =>
      .group (shown connective members.length) (normalAll members)
  | .negation inner => .negation (normal inner)

def normalAll : List Filter → List Query
  | [] => []
  | member :: rest => normal member :: normalAll rest

end

theorem spreadAll_eq (operator : Operator) (property : String) (elements : List Operand) :
    spreadAll operator property elements = elements.map (spread operator property) := by
  induction elements with
  | nil => rfl
  | cons element rest inductionHypothesis => rw [spreadAll, inductionHypothesis, List.map_cons]

theorem normalAll_eq (members : List Filter) : normalAll members = members.map normal := by
  induction members with
  | nil => rfl
  | cons member rest inductionHypothesis => rw [normalAll, inductionHypothesis, List.map_cons]

/-- The text consists of the tokens of the query with blanks between them. -/
structure Spells (text : String) (query : Query) : Prop where
  proper : query.Proper
  spelled : text.toList ++ [' '] = spaced query.tokens

theorem spaced_word_toList (word : String) :
    spaced [.word word.toList] = word.toList ++ [' '] := by
  simp [Token.spelling]

theorem spelling_nameToken (name : String) :
    (nameToken name).spelling = (property name).toList := by
  by_cases bare : isBare name = true
  · rw [nameToken, property, if_pos bare, if_pos bare, Token.spelling]
  · rw [nameToken, property, if_neg bare, if_neg bare, Token.spelling, String.toList_ofList]

theorem spread_of_literal? {operator : Operator} {name : String} {operand : Operand}
    {literal : String} (scalar : literal? operand = some literal) :
    Spells (term (property name) operator literal) (spread operator name operand) := by
  obtain ⟨value, same, spelling⟩ : ∃ value : Literal,
      spread operator name operand = .leaf ⟨operator, name, value⟩ ∧
        value.token.spelling = literal.toList := by
    cases operand with
    | text value =>
      obtain rfl := Option.some.inj scalar
      exact ⟨.text value, rfl, String.toList_ofList.symm⟩
    | number value =>
      obtain rfl := Option.some.inj scalar
      exact ⟨.number value, rfl, rfl⟩
    | boolean value =>
      obtain rfl := Option.some.inj scalar
      exact ⟨.boolean value, rfl, rfl⟩
    | list elements => exact absurd scalar (Option.some_ne_none literal).symm
  rw [same]
  have operatorSpelling : (Token.word operator.token.toList).spelling = operator.token.toList := rfl
  refine ⟨.leaf _, ?_⟩
  simp [term, Query.tokens, Leaf.tokens, spelling_nameToken, spelling, operatorSpelling]

theorem spells_join {connective : Connective} {texts : List String} {queries : List Query}
    (spells : List.Forall₂ Spells texts queries) (nonempty : texts ≠ []) :
    (String.intercalate (" " ++ connective.keyword ++ " ") texts).toList ++ [' '] =
      spaced ((separator (some connective)).intercalate (queries.map Query.tokens)) := by
  induction spells with
  | nil => contradiction
  | @cons text query texts queries first others inductionHypothesis =>
    cases others with
    | nil =>
      rw [String.intercalate_singleton, List.map_cons, List.map_nil, List.intercalate_singleton,
        first.spelled]
    | @cons second other texts queries others =>
      have remaining := inductionHypothesis (List.cons_ne_nil _ _)
      rw [List.map_cons] at remaining
      rw [String.intercalate_cons_cons, List.map_cons, List.map_cons, List.intercalate_cons_cons,
        spaced_append, spaced_append, ← first.spelled, ← remaining, separator,
        spaced_word_toList]
      simp

theorem toList_group (connective : Connective) (texts : List String) :
    (group connective texts).toList ++ [' '] =
      spaced [.opening] ++
        ((String.intercalate (" " ++ connective.keyword ++ " ") texts).toList ++ [' ']) ++
        spaced [.closing] := by
  simp [group, Token.spelling]

theorem shown_add_two (connective : Connective) (more : Nat) :
    shown connective (more + 2) = some connective := by
  rw [shown, if_neg (by omega)]

theorem proper_of_spells {texts : List String} {queries : List Query}
    (spells : List.Forall₂ Spells texts queries) : ∀ query ∈ queries, query.Proper := by
  induction spells with
  | nil => exact fun _ member => nomatch member
  | cons first _ inductionHypothesis =>
    exact List.forall_mem_cons.2 ⟨first.proper, inductionHypothesis⟩

theorem spells_group {texts : List String} {queries : List Query} (connective : Connective)
    (spells : List.Forall₂ Spells texts queries) (nonempty : texts ≠ []) :
    Spells (group connective texts) (.group (shown connective queries.length) queries) := by
  have spelled := toList_group connective texts
  rw [spells_join spells nonempty, ← spaced_append, ← spaced_append] at spelled
  have proper := proper_of_spells spells
  cases spells with
  | nil => contradiction
  | @cons text query texts queries first others =>
    -- A single member comes without a separator, and so without a connective.
    cases others with
    | nil => exact ⟨.sole first.proper, spelled⟩
    | @cons _ second _ queries _ others =>
      have visible : shown connective (query :: second :: queries).length = some connective :=
        shown_add_two connective queries.length
      rw [visible]
      refine ⟨.group connective proper, ?_⟩
      rw [Query.tokens, Query.memberTokens_eq]
      exact spelled

/-! ## Texts of filters -/

theorem terms_spells {leaf : Comparison} {name : String} (elements : List Operand) :
    ∀ {texts : List String}, terms leaf (property name) elements = .ok texts →
      List.Forall₂ Spells texts (elements.map (spread leaf.operator name)) := by
  induction elements with
  | nil =>
    intro texts compiled
    obtain rfl := Except.ok.inj compiled
    exact .nil
  | cons element rest inductionHypothesis =>
    intro texts compiled
    rw [terms] at compiled
    cases scalar : literal? element with
    | none =>
      rw [scalar] at compiled
      exact nomatch compiled
    | some literal =>
      rw [scalar] at compiled
      obtain ⟨otherTexts, others, rfl⟩ := Outcome.map_eq_ok compiled
      exact .cons (spread_of_literal? scalar) (inductionHypothesis others)

theorem spells_members {α : Type} {connective : Connective} {members : List α} {f : α → Query}
    {texts : List String} (nonempty : ¬ members.isEmpty = true)
    (spells : List.Forall₂ Spells texts (members.map f)) :
    Spells (group connective texts) (.group (shown connective members.length) (members.map f)) := by
  have some : texts ≠ [] := by
    intro empty
    have length := spells.length_eq
    rw [empty, List.length_map] at length
    exact nonempty (List.isEmpty_iff_length_eq_zero.2 length.symm)
  have grouped := spells_group connective spells some
  rw [List.length_map] at grouped
  exact grouped

theorem comparison_spells {leaf : Comparison} {text : String}
    (compiled : comparison leaf = .ok text) : Spells text (normal (.comparison leaf)) := by
  rw [comparison] at compiled
  split at compiled
  · exact nomatch compiled
  rw [normal]
  cases scalar : literal? leaf.operand with
  | some literal =>
    simp only [scalar] at compiled
    obtain rfl := Except.ok.inj compiled
    exact spread_of_literal? scalar
  | none =>
    simp only [scalar] at compiled
    split at compiled
    · exact nomatch compiled
    rename_i nonempty
    -- What has no literal is a list.
    obtain ⟨elements, same⟩ : ∃ elements, leaf.operand = .list elements := by
      cases operand : leaf.operand with
      | list elements => exact ⟨elements, rfl⟩
      | text value | number value | boolean value =>
        rw [operand] at scalar
        exact absurd scalar (Option.some_ne_none _)
    rw [same] at compiled nonempty
    obtain ⟨texts, terms, rfl⟩ := Outcome.map_eq_ok compiled
    rw [same, spread, spreadAll_eq]
    exact spells_members nonempty (terms_spells elements terms)

theorem compileAll_spells {members : List Filter}
    (membersSpell : ∀ member ∈ members, ∀ text, compile member = .ok text →
      Spells text (normal member)) :
    ∀ {texts : List String}, compileAll members = .ok texts →
      List.Forall₂ Spells texts (members.map normal) := by
  induction members with
  | nil =>
    intro texts compiled
    obtain rfl := Except.ok.inj compiled
    exact .nil
  | cons member rest inductionHypothesis =>
    intro texts compiled
    obtain ⟨memberSpells, restSpell⟩ := List.forall_mem_cons.1 membersSpell
    rw [compileAll] at compiled
    obtain ⟨first, compiledFirst, compiled⟩ := Outcome.bind_eq_ok compiled
    obtain ⟨others, compiledOthers, compiled⟩ := Outcome.bind_eq_ok compiled
    obtain rfl := Except.ok.inj compiled
    exact .cons (memberSpells first compiledFirst) (inductionHypothesis restSpell compiledOthers)

theorem spells_negation {text : String} {query : Query} (spells : Spells text query) :
    Spells ("NOT ( " ++ text ++ " )") (.negation query) := by
  refine ⟨.negation spells.proper, ?_⟩
  have text : ("NOT ( " ++ text ++ " )").toList ++ [' '] =
      spaced [.word negationWord, .opening] ++ (text.toList ++ [' ']) ++ spaced [.closing] := by
    simp [Token.spelling, negationWord]
  rw [text, spells.spelled, Query.tokens, ← spaced_append, ← spaced_append]
  simp

theorem compile_spells (tree : Filter) : ∀ text, compile tree = .ok text →
    Spells text (normal tree) := by
  induction tree with
  | comparison leaf =>
    intro text compiled
    exact comparison_spells compiled
  | group connective members membersSpell =>
    intro text compiled
    rw [compile] at compiled
    split at compiled
    · exact nomatch compiled
    rename_i nonempty
    obtain ⟨texts, compiledAll, rfl⟩ := Outcome.map_eq_ok compiled
    rw [normal, normalAll_eq]
    exact spells_members nonempty (compileAll_spells membersSpell compiledAll)
  | negation inner innerSpells =>
    intro text compiled
    rw [compile] at compiled
    obtain ⟨innerText, compiledInner, rfl⟩ := Outcome.map_eq_ok compiled
    rw [normal]
    exact spells_negation (innerSpells innerText compiledInner)

/-! ## Truth -/

def joined : Connective → List Bool → Bool
  | .and, values => values.all id
  | .or, values => values.any id

mutual

/-- A comparison holds, given which scalar comparisons hold. With a list, some element's comparison
has to hold. -/
def operandHolds (truth : Leaf → Bool) (operator : Operator) (property : String) : Operand → Bool
  | .text value => truth ⟨operator, property, .text value⟩
  | .number value => truth ⟨operator, property, .number value⟩
  | .boolean value => truth ⟨operator, property, .boolean value⟩
  | .list elements => joined .or (elementValues truth operator property elements)

def elementValues (truth : Leaf → Bool) (operator : Operator) (property : String) :
    List Operand → List Bool
  | [] => []
  | element :: rest =>
      operandHolds truth operator property element :: elementValues truth operator property rest

end

mutual

/-- A filter holds. Its properties mean what is left of them without blanks at the ends. -/
def holds (truth : Leaf → Bool) : Filter → Bool
  | .comparison leaf =>
      operandHolds truth leaf.operator (Text.trim leaf.property) leaf.operand
  | .group connective members => joined connective (values truth members)
  | .negation inner => !holds truth inner

def values (truth : Leaf → Bool) : List Filter → List Bool
  | [] => []
  | member :: rest => holds truth member :: values truth rest

end

namespace Query

mutual

/-- A query holds. Without a connective it is the one member that counts. -/
def holds (truth : Leaf → Bool) : Query → Bool
  | .leaf comparison => truth comparison
  | .group connective members => joined (connective.getD .and) (values truth members)
  | .negation inner => !inner.holds truth

def values (truth : Leaf → Bool) : List Query → List Bool
  | [] => []
  | member :: rest => member.holds truth :: values truth rest

end

end Query

theorem elementValues_eq (truth : Leaf → Bool) (operator : Operator) (property : String)
    (elements : List Operand) : elementValues truth operator property elements =
      elements.map (operandHolds truth operator property) := by
  induction elements with
  | nil => rfl
  | cons element rest inductionHypothesis =>
    rw [elementValues, inductionHypothesis, List.map_cons]

theorem values_eq (truth : Leaf → Bool) (members : List Filter) :
    values truth members = members.map (holds truth) := by
  induction members with
  | nil => rfl
  | cons member rest inductionHypothesis => rw [values, inductionHypothesis, List.map_cons]

theorem Query.values_eq (truth : Leaf → Bool) (members : List Query) :
    Query.values truth members = members.map (Query.holds truth) := by
  induction members with
  | nil => rfl
  | cons member rest inductionHypothesis => rw [Query.values, inductionHypothesis, List.map_cons]

theorem joined_shown (connective : Connective) (values : List Bool) :
    joined ((shown connective values.length).getD .and) values = joined connective values := by
  by_cases one : values.length = 1
  · obtain ⟨value, rfl⟩ := List.length_eq_one_iff.1 one
    cases connective <;> simp [shown, joined]
  · rw [shown, if_neg one, Option.getD_some]

theorem holds_group {α : Type} {truth : Leaf → Bool} {f : α → Query} {g : α → Bool}
    (connective : Connective) {members : List α}
    (same : ∀ member ∈ members, (f member).holds truth = g member) :
    (Query.group (shown connective members.length) (members.map f)).holds truth =
      joined connective (members.map g) := by
  have values : (members.map f).map (Query.holds truth) = members.map g := by
    rw [List.map_map]
    exact List.map_congr_left same
  have length : members.length = (members.map g).length :=
    (List.length_map g).symm
  rw [Query.holds, Query.values_eq, values, length, joined_shown]

theorem holds_spread (truth : Leaf → Bool) (operator : Operator) (property : String)
    (operand : Operand) : (spread operator property operand).holds truth =
      operandHolds truth operator property operand := by
  induction operand with
  | text value => rw [spread, Query.holds, operandHolds]
  | number value => rw [spread, Query.holds, operandHolds]
  | boolean value => rw [spread, Query.holds, operandHolds]
  | list elements elementsHold =>
    rw [spread, spreadAll_eq, holds_group .or elementsHold, operandHolds, elementValues_eq]

theorem holds_normal (truth : Leaf → Bool) (tree : Filter) :
    (normal tree).holds truth = holds truth tree := by
  induction tree with
  | comparison leaf => rw [normal, holds_spread, holds]
  | group connective members membersHold =>
    rw [normal, normalAll_eq, holds_group connective membersHold, holds, values_eq]
  | negation inner innerHolds => rw [normal, Query.holds, innerHolds, holds]

theorem read?_of_compile {tree : Filter} {text : String} (compiled : compile tree = .ok text) :
    read? text = some (normal tree) :=
  have spells := compile_spells tree text compiled
  read?_of_spaced spells.proper spells.spelled

theorem text_unique {query : Query} {left right : String} (leftSpells : Spells left query)
    (rightSpells : Spells right query) : left = right := by
  apply String.toList_inj.1
  have same := leftSpells.spelled.trans rightSpells.spelled.symm
  exact List.append_cancel_right same

/-- A filter that has a text is read back from it up to what its text does not show. Two filters
have the same text just if the difference between them is none that a text shows, and what is read
back holds in the same circumstances as the filter. -/
theorem compile_faithful :
    (∀ (tree : Filter) (text : String), compile tree = .ok text →
      read? text = some (normal tree)) ∧
    (∀ (left right : Filter) (leftText rightText : String), compile left = .ok leftText →
      compile right = .ok rightText → (leftText = rightText ↔ normal left = normal right)) ∧
    (∀ (truth : Leaf → Bool) (tree : Filter) (text : String), compile tree = .ok text →
      ∃ query, read? text = some query ∧ query.holds truth = holds truth tree) := by
  refine ⟨?_, ?_, ?_⟩
  · intro tree text compiled
    exact read?_of_compile compiled
  · intro left right leftText rightText leftCompiled rightCompiled
    constructor
    · intro same
      have read := read?_of_compile leftCompiled
      rw [same, read?_of_compile rightCompiled] at read
      exact (Option.some.inj read).symm
    · intro same
      have leftSpells := compile_spells left leftText leftCompiled
      rw [same] at leftSpells
      exact text_unique leftSpells (compile_spells right rightText rightCompiled)
  · intro truth tree text compiled
    exact ⟨normal tree, read?_of_compile compiled, holds_normal truth tree⟩

/-- A text that looks like the rest of a query stays a text. -/
theorem compile_faithful_quotes :
    compile (.group .and [Filter.equal " NOT " (.text "x' OR ( a = 'y"),
        Filter.compare .less "size" (.list [.number (.integer (-3))])]) =
      .ok "( \"NOT\" = 'x'' OR ( a = ''y' AND ( size < -3 ) )" ∧
    read? "( \"NOT\" = 'x'' OR ( a = ''y' AND ( size < -3 ) )" =
      some (.group (some .and) [.leaf ⟨.equals, "NOT", .text "x' OR ( a = 'y"⟩,
        .group none [.leaf ⟨.less, "size", .number (.integer (-3))⟩]]) := by
  have compiled : compile (.group .and [Filter.equal " NOT " (.text "x' OR ( a = 'y"),
        Filter.compare .less "size" (.list [.number (.integer (-3))])]) =
      .ok "( \"NOT\" = 'x'' OR ( a = ''y' AND ( size < -3 ) )" := by
    decide
  exact ⟨compiled, (compile_faithful.1 _ _ compiled).trans rfl⟩

end Metacard.Cql
