import Metacard.Proofs.Filter.Induction
import Metacard.Proofs.Search.Request
/-!
# Which filters have no text

What keeps a filter from having a text is wrong with one of its nodes by itself: a group is empty, a
property is blank, or a list is empty or has a list in it. Of several such nodes the first one is
reported, in the order in which a reader of the tree comes to them.
-/

set_option autoImplicit false

namespace Metacard

namespace Filter

mutual

/-- The nodes of a filter from left to right, each before those below it. -/
def nodes : Filter → List Filter
  | .comparison leaf => [.comparison leaf]
  | .group connective members => .group connective members :: nodesAll members
  | .negation inner => .negation inner :: nodes inner

def nodesAll : List Filter → List Filter
  | [] => []
  | member :: rest => nodes member ++ nodesAll rest

end

end Filter

namespace Cql

/-- Something is wrong with a node, whatever is below it, and the message says what. A property is
looked at before its list. -/
inductive Offends : Filter → String → Prop
  | andEmpty : Offends (.group .and []) "AND combinator has no children"
  | orEmpty : Offends (.group .or []) "OR combinator has no children"
  | propertyBlank {leaf : Comparison} (blank : ∀ c ∈ leaf.property.toList, Text.isBlank c = true) :
      Offends (.comparison leaf) "comparison has no property"
  | listEmpty {leaf : Comparison} (named : ∃ c ∈ leaf.property.toList, Text.isBlank c = false)
      (isEmpty : leaf.operand = .list []) :
      Offends (.comparison leaf) ("empty value list for '" ++ leaf.property ++ "'")
  | listNested {leaf : Comparison} {elements inner : List Operand}
      (named : ∃ c ∈ leaf.property.toList, Text.isBlank c = false)
      (isList : leaf.operand = .list elements) (nested : .list inner ∈ elements) :
      Offends (.comparison leaf) ("nested value list for '" ++ leaf.property ++ "'")

def Sound (node : Filter) : Prop :=
  ∀ message, ¬ Offends node message

/-- The first of some nodes with which anything is wrong has this message. -/
inductive FirstFault : List Filter → String → Prop
  | here {node : Filter} {rest : List Filter} {message : String} (offends : Offends node message) :
      FirstFault (node :: rest) message
  | later {node : Filter} {rest : List Filter} {message : String} (sound : Sound node)
      (first : FirstFault rest message) : FirstFault (node :: rest) message

/-- The failure is that of a filter that has no text, with this message. -/
structure Refuses (failure : Failure) (message : String) : Prop where
  kind : failure.kind = "invalid_predicate"
  message : failure.message = "Invalid predicate: " ++ message

/-- No group is empty, no property is blank, and every list has elements, none of them a list. -/
structure WellFormed (tree : Filter) : Prop where
  groups : ∀ connective members, .group connective members ∈ tree.nodes → members ≠ []
  properties : ∀ leaf, .comparison leaf ∈ tree.nodes →
    ∃ c ∈ leaf.property.toList, Text.isBlank c = false
  lists : ∀ leaf elements, .comparison leaf ∈ tree.nodes → leaf.operand = .list elements →
    elements ≠ [] ∧ ∀ inner, .list inner ∉ elements

theorem not_named_of_blank {property : String}
    (blank : ∀ c ∈ property.toList, Text.isBlank c = true) :
    ¬ ∃ c ∈ property.toList, Text.isBlank c = false := by
  rintro ⟨c, member, notBlank⟩
  simp [blank c member] at notBlank

theorem Offends.unique {node : Filter} {message other : String} (offends : Offends node message)
    (offendsOther : Offends node other) : message = other := by
  cases offends with
  | andEmpty =>
    cases offendsOther
    rfl
  | orEmpty =>
    cases offendsOther
    rfl
  | propertyBlank blank =>
    cases offendsOther with
    | propertyBlank => rfl
    | listEmpty named _ => exact absurd named (not_named_of_blank blank)
    | listNested named _ _ => exact absurd named (not_named_of_blank blank)
  | listEmpty named isEmpty =>
    cases offendsOther with
    | propertyBlank blank => exact absurd named (not_named_of_blank blank)
    | listEmpty => rfl
    | listNested _ isList nested =>
      rw [isEmpty] at isList
      cases isList
      exact nomatch nested
  | listNested named isList nested =>
    cases offendsOther with
    | propertyBlank blank => exact absurd named (not_named_of_blank blank)
    | listEmpty _ isEmpty =>
      rw [isEmpty] at isList
      cases isList
      exact nomatch nested
    | listNested => rfl

theorem FirstFault.unique {nodes : List Filter} {message other : String}
    (first : FirstFault nodes message) (firstOther : FirstFault nodes other) : message = other := by
  induction first with
  | here offends =>
    cases firstOther with
    | here offendsOther => exact offends.unique offendsOther
    | later sound _ => exact absurd offends (sound _)
  | later sound _ inductionHypothesis =>
    cases firstOther with
    | here offendsOther => exact absurd offendsOther (sound _)
    | later _ restOther => exact inductionHypothesis restOther

theorem FirstFault.not_sound {nodes : List Filter} {message : String}
    (first : FirstFault nodes message) : ¬ ∀ node ∈ nodes, Sound node := by
  intro sound
  induction first with
  | here offends => exact sound _ List.mem_cons_self _ offends
  | later _ _ inductionHypothesis =>
    exact inductionHypothesis fun node member => sound node (List.mem_cons_of_mem _ member)

theorem sound_negation (inner : Filter) : Sound (.negation inner) := by
  intro message offends
  cases offends

theorem sound_group {connective : Connective} {members : List Filter} (nonempty : members ≠ []) :
    Sound (.group connective members) := by
  intro message offends
  cases offends <;> exact nonempty rfl

theorem offends_groupEmpty (connective : Connective) :
    Offends (.group connective []) (FilterFault.groupEmpty connective).message := by
  cases connective with
  | and => exact .andEmpty
  | or => exact .orEmpty

theorem wellFormed_iff (tree : Filter) : WellFormed tree ↔ ∀ node ∈ tree.nodes, Sound node := by
  constructor
  · intro wellFormed node member message offends
    cases offends with
    | andEmpty => exact wellFormed.groups .and [] member rfl
    | orEmpty => exact wellFormed.groups .or [] member rfl
    | propertyBlank blank =>
      exact not_named_of_blank blank (wellFormed.properties _ member)
    | listEmpty _ isEmpty => exact (wellFormed.lists _ [] member isEmpty).1 rfl
    | listNested _ isList nested => exact (wellFormed.lists _ _ member isList).2 _ nested
  · intro sound
    have named : ∀ leaf, .comparison leaf ∈ tree.nodes →
        ∃ c ∈ leaf.property.toList, Text.isBlank c = false := by
      intro leaf member
      by_contra notNamed
      simp only [not_exists, not_and, Bool.not_eq_false] at notNamed
      exact sound _ member _ (.propertyBlank notNamed)
    refine ⟨?_, named, ?_⟩
    · rintro connective members member rfl
      exact sound _ member _ (offends_groupEmpty connective)
    · intro leaf elements member isList
      refine ⟨?_, fun inner nested => ?_⟩
      · rintro rfl
        exact sound _ member _ (.listEmpty (named leaf member) isList)
      · exact sound _ member _ (.listNested (named leaf member) isList nested)

/-! ## Faults that are reported -/

/-- The outcome succeeds if nothing is wrong with the nodes, and else it tells of the first. -/
def Reports {α : Type} (nodes : List Filter) : Except FilterFault α → Prop
  | .ok _ => ∀ node ∈ nodes, Sound node
  | .error fault => FirstFault nodes fault.message

section

variable {α β : Type} {nodes others : List Filter} {outcome : Except FilterFault α}

theorem Reports.map (reports : Reports nodes outcome) (f : α → β) :
    Reports nodes (outcome.map f) := by
  cases outcome <;> exact reports

theorem Reports.cons {node : Filter} (sound : Sound node) (reports : Reports nodes outcome) :
    Reports (node :: nodes) outcome := by
  cases outcome with
  | error fault => exact .later sound reports
  | ok value => exact List.forall_mem_cons.2 ⟨sound, reports⟩

theorem FirstFault.append {message : String} (first : FirstFault nodes message) :
    FirstFault (nodes ++ others) message := by
  induction first with
  | here offends => exact .here offends
  | later sound _ inductionHypothesis => exact .later sound inductionHypothesis

theorem Reports.appendSound (sound : ∀ node ∈ nodes, Sound node)
    (reports : Reports others outcome) : Reports (nodes ++ others) outcome := by
  induction nodes with
  | nil => exact reports
  | cons node rest inductionHypothesis =>
    obtain ⟨first, restSound⟩ := List.forall_mem_cons.1 sound
    exact (inductionHypothesis restSound).cons first

theorem Reports.bind {next : α → Except FilterFault β} (reports : Reports nodes outcome)
    (reportsNext : ∀ value, Reports others (next value)) :
    Reports (nodes ++ others) (outcome >>= next) := by
  cases outcome with
  | error fault => exact FirstFault.append reports
  | ok value => exact .appendSound reports (reportsNext value)

end

theorem literal?_eq_none_iff (operand : Operand) :
    literal? operand = none ↔ ∃ elements, operand = .list elements := by
  cases operand <;> simp [literal?]

theorem terms_cases (leaf : Comparison) (name : String) (elements : List Operand) :
    (∃ texts, terms leaf name elements = .ok texts ∧ ∀ inner, .list inner ∉ elements) ∨
      ∃ inner, .list inner ∈ elements ∧
        terms leaf name elements = .error (.listNested leaf.property) := by
  induction elements with
  | nil => exact .inl ⟨[], rfl, fun _ member => nomatch member⟩
  | cons element rest inductionHypothesis =>
    cases isLiteral : literal? element with
    | none =>
      obtain ⟨inner, rfl⟩ := (literal?_eq_none_iff element).1 isLiteral
      exact .inr ⟨inner, List.mem_cons_self, by rw [terms, isLiteral]⟩
    | some literal =>
      have notList : ∀ inner, element ≠ .list inner := by
        rintro inner rfl
        simp [literal?] at isLiteral
      rcases inductionHypothesis with ⟨texts, made, flat⟩ | ⟨inner, nested, failed⟩
      · refine .inl ⟨term name leaf.operator literal :: texts, ?_, fun inner member => ?_⟩
        · rw [terms, isLiteral]
          simp [made, Except.map]
        · rcases List.mem_cons.1 member with same | member
          · exact notList inner same.symm
          · exact flat inner member
      · refine .inr ⟨inner, List.mem_cons_of_mem _ nested, ?_⟩
        rw [terms, isLiteral]
        simp [failed, Except.map]

theorem reports_comparison (leaf : Comparison) :
    Reports [.comparison leaf] (comparison leaf) := by
  have blank := Text.isEmpty_trim_iff leaf.property
  by_cases isBlank : (Text.trim leaf.property).isEmpty = true
  · rw [comparison, if_pos isBlank]
    exact .here (.propertyBlank (blank.1 isBlank))
  · have named : ∃ c ∈ leaf.property.toList, Text.isBlank c = false := by
      rw [blank] at isBlank
      simpa using isBlank
    rw [comparison, if_neg isBlank]
    cases isLiteral : literal? leaf.operand with
    | some literal =>
      refine List.forall_mem_singleton.2 fun message offends => ?_
      cases offends with
      | propertyBlank isBlank => exact not_named_of_blank isBlank named
      | listEmpty _ isEmpty => simp [isEmpty, literal?] at isLiteral
      | listNested _ isList _ => simp [isList, literal?] at isLiteral
    | none =>
      obtain ⟨elements, isList⟩ := (literal?_eq_none_iff _).1 isLiteral
      cases elements with
      | nil =>
        simp only [isList, Operand.elements]
        exact .here (.listEmpty named isList)
      | cons element rest =>
        simp only [isList, Operand.elements, List.isEmpty_cons, Bool.false_eq_true, if_false]
        rcases terms_cases leaf (property (Text.trim leaf.property)) (element :: rest) with
          ⟨texts, made, flat⟩ | ⟨inner, nested, failed⟩
        · rw [made]
          refine List.forall_mem_singleton.2 fun message offends => ?_
          cases offends with
          | propertyBlank isBlank => exact not_named_of_blank isBlank named
          | listEmpty _ isEmpty => cases isList.symm.trans isEmpty
          | listNested _ isOther nested =>
            obtain rfl := Operand.list.inj (isList.symm.trans isOther)
            exact flat _ nested
        · rw [failed]
          exact .here (.listNested named isList nested)

theorem reports_compileAll {members : List Filter}
    (reports : ∀ member ∈ members, Reports member.nodes (compile member)) :
    Reports (Filter.nodesAll members) (compileAll members) := by
  induction members with
  | nil => exact fun _ member => nomatch member
  | cons member rest inductionHypothesis =>
    obtain ⟨first, restReports⟩ := List.forall_mem_cons.1 reports
    rw [Filter.nodesAll, compileAll]
    exact first.bind fun text => (inductionHypothesis restReports).map (text :: ·)

theorem reports_compile (tree : Filter) : Reports tree.nodes (compile tree) := by
  induction tree with
  | comparison leaf =>
    rw [Filter.nodes, compile]
    exact reports_comparison leaf
  | group connective members inductionHypothesis =>
    rw [Filter.nodes, compile]
    cases members with
    | nil => exact .here (offends_groupEmpty connective)
    | cons member rest =>
      rw [if_neg (by simp)]
      exact ((reports_compileAll inductionHypothesis).map _).cons
        (sound_group (List.cons_ne_nil member rest))
  | negation inner inductionHypothesis =>
    rw [Filter.nodes, compile]
    exact (inductionHypothesis.map _).cons (sound_negation inner)

/-- A filter has a text just if it is well-formed, and else it is refused with the message about the
first of its nodes with which anything is wrong. -/
theorem compile_reports_first_fault (tree : Filter) :
    ((∃ text, compile tree = .ok text) ↔ WellFormed tree) ∧
      ∀ message, (∃ fault, compile tree = .error fault ∧ Refuses (.filter fault) message) ↔
        FirstFault tree.nodes message := by
  have reports := reports_compile tree
  rw [wellFormed_iff]
  cases compiled : compile tree with
  | ok text =>
    rw [compiled] at reports
    refine ⟨⟨fun _ => reports, fun _ => ⟨text, rfl⟩⟩, fun message => ⟨nofun, fun first => ?_⟩⟩
    exact absurd reports first.not_sound
  | error found =>
    rw [compiled] at reports
    refine ⟨⟨nofun, fun sound => absurd sound reports.not_sound⟩, fun message => ⟨?_, ?_⟩⟩
    · rintro ⟨fault, same, refuses⟩
      obtain rfl := Except.error.inj same
      have isMessage : found.message = message := String.append_right_inj _ |>.1 refuses.message
      exact isMessage ▸ reports
    · intro first
      obtain rfl := reports.unique first
      exact ⟨found, rfl, rfl, rfl⟩

/-- With an empty group behind a blank property it is the property that is reported. -/
example : compile (.any [.equal "id" (.text "x"), .all [.equal " " (.list []), .all []]]) =
    .error .propertyBlank := by decide

end Cql

end Metacard
