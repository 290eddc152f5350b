import Mathlib.Data.List.TakeWhile
import Metacard.Proofs.Outcome
import Metacard.Search.Request
/-!
# Which requests are assembled

A request is assembled just if the paging of its settings is within bounds and its criterion has a
query text. Settings out of bounds are reported whatever the criterion is.
-/

set_option autoImplicit false

namespace Metacard

namespace Text

theorem trimChars_eq_nil_iff (chars : List Char) :
    trimChars chars = [] ↔ ∀ c ∈ chars, isBlank c = true := by
  rw [trimChars, List.reverse_eq_nil_iff, List.dropWhile_eq_nil_iff]
  constructor
  · intro restBlank
    apply List.dropWhile_eq_nil_iff.1
    cases rest : chars.dropWhile isBlank with
    | nil => rfl
    | cons c _ =>
      have nonempty : chars.dropWhile isBlank ≠ [] := by simp [rest]
      have notBlank := List.head_dropWhile_not isBlank nonempty
      have blank := restBlank _ (List.mem_reverse.2 (List.head_mem nonempty))
      simp [notBlank] at blank
  · intro allBlank
    simp [List.dropWhile_eq_nil_iff.2 allBlank]

theorem isEmpty_trim_iff (text : String) :
    (trim text).isEmpty = true ↔ ∀ c ∈ text.toList, isBlank c = true := by
  rw [trim, String.isEmpty_iff, ← String.toList_eq_nil_iff, String.toList_ofList,
    trimChars_eq_nil_iff]

end Text

namespace Settings

/-- Paging begins with the first record or a later one, and no page has less than no records. -/
structure InBounds (settings : Settings) : Prop where
  start : ∀ start ∈ settings.start, 1 ≤ start
  count : ∀ count ∈ settings.count, 0 ≤ count

theorem validateCount_cases (settings : Settings) :
    (validate.validateCount settings = .ok () ∧ ∀ count ∈ settings.count, 0 ≤ count) ∨
      ∃ count ∈ settings.count, count < 0 ∧
        validate.validateCount settings = .error (.countNegative count) := by
  rw [validate.validateCount]
  cases settings.count with
  | none => simp
  | some count =>
    by_cases negative : count < 0
    · simp [negative]
    · have notNegative : 0 ≤ count := by omega
      simp [negative, notNegative]

theorem validate_cases (settings : Settings) :
    (settings.validate = .ok () ∧ settings.InBounds) ∨
      ∃ fault, settings.validate = .error fault ∧ ¬ settings.InBounds := by
  have counts : (∀ start ∈ settings.start, 1 ≤ start) →
      (validate.validateCount settings = .ok () ∧ settings.InBounds) ∨
        ∃ fault, validate.validateCount settings = .error fault ∧ ¬ settings.InBounds := by
    intro starts
    rcases validateCount_cases settings with ⟨valid, counts⟩ | ⟨count, isCount, negative, fault⟩
    · exact .inl ⟨valid, starts, counts⟩
    · refine .inr ⟨_, fault, fun inBounds => ?_⟩
      have notNegative := inBounds.count count isCount
      omega
  rw [validate]
  cases isStart : settings.start with
  | none =>
    apply counts
    simp [isStart]
  | some start =>
    by_cases early : start < 1
    · refine .inr ⟨.startBelowOne start, if_pos early, fun inBounds => ?_⟩
      have notEarly := inBounds.start start isStart
      omega
    · have notEarly : 1 ≤ start := by omega
      simp only [if_neg early]
      apply counts
      simp [isStart, notEarly]

end Settings

namespace Criterion

/-- The text under which a criterion is sent: that of its tree, in parentheses, or the given one if
it is not blank. -/
def HasText (text : String) : Criterion → Prop
  | .tree filter => ∃ compiled, Cql.compile filter = .ok compiled ∧ text = "(" ++ compiled ++ ")"
  | .cql given => (∃ c ∈ given.toList, Text.isBlank c = false) ∧ text = given

theorem text_cases (criterion : Criterion) :
    (∃ text, criterion.text = .ok text ∧ ∀ other, criterion.HasText other ↔ other = text) ∨
      ∃ fault, criterion.text = .error fault ∧ ∀ text, ¬ criterion.HasText text := by
  cases criterion with
  | tree filter =>
    cases compiled : Cql.compile filter with
    | ok text =>
      refine .inl ⟨"(" ++ text ++ ")", ?_, fun other => ?_⟩
      · simp [Criterion.text, compiled, Except.map]
      · simp [HasText, compiled]
    | error fault =>
      refine .inr ⟨fault, ?_, fun text => ?_⟩
      · simp [Criterion.text, compiled, Except.map]
      · simp [HasText, compiled]
  | cql given =>
    have blank := Text.isEmpty_trim_iff given
    by_cases empty : (Text.trim given).isEmpty = true
    · refine .inr ⟨.cqlBlank, if_pos empty, ?_⟩
      rintro text ⟨⟨c, member, notBlank⟩, -⟩
      simp [blank.1 empty c member] at notBlank
    · refine .inl ⟨given, if_neg empty, fun other => ?_⟩
      rw [blank] at empty
      simp only [not_forall, Bool.not_eq_true] at empty
      obtain ⟨c, member, notBlank⟩ := empty
      exact and_iff_right ⟨c, member, notBlank⟩

end Criterion

namespace Request

theorem assemble_cases (criterion : Criterion) (settings : Settings) :
    (∃ text, assemble criterion settings = .ok ⟨text, settings⟩ ∧ settings.InBounds ∧
        ∀ other, criterion.HasText other ↔ other = text) ∨
      (∃ fault, assemble criterion settings = .error (.settings fault) ∧ ¬ settings.InBounds) ∨
      ∃ fault, assemble criterion settings = .error (.filter fault) ∧ settings.InBounds ∧
        ∀ text, ¬ criterion.HasText text := by
  rw [assemble]
  rcases settings.validate_cases with ⟨valid, inBounds⟩ | ⟨fault, invalid, outOfBounds⟩
  · rw [valid]
    rcases criterion.text_cases with ⟨text, succeeds, unique⟩ | ⟨fault, fails, noText⟩
    · rw [succeeds]
      exact .inl ⟨text, rfl, inBounds, unique⟩
    · rw [fails]
      exact .inr (.inr ⟨fault, rfl, inBounds, noText⟩)
  · rw [invalid]
    exact .inr (.inl ⟨fault, rfl, outOfBounds⟩)

theorem assemble_eq_ok_iff {criterion : Criterion} {settings : Settings} {request : Request} :
    assemble criterion settings = .ok request ↔
      settings.InBounds ∧ criterion.HasText request.cql ∧ request.settings = settings := by
  obtain ⟨cql, sent⟩ := request
  rcases assemble_cases criterion settings with
    ⟨text, succeeds, inBounds, unique⟩ | ⟨fault, fails, outOfBounds⟩ | ⟨fault, fails, -, noText⟩
  · simp [succeeds, inBounds, unique, eq_comm]
  · simp [fails, outOfBounds]
  · simp [fails, noText]

theorem assemble_eq_settings_iff {criterion : Criterion} {settings : Settings} :
    (∃ fault, assemble criterion settings = .error (.settings fault)) ↔ ¬ settings.InBounds := by
  rcases assemble_cases criterion settings with
    ⟨text, succeeds, inBounds, -⟩ | ⟨fault, fails, outOfBounds⟩ | ⟨fault, fails, inBounds, -⟩
  · simp [succeeds, inBounds]
  · simp [fails, outOfBounds]
  · simp [fails, inBounds]

end Request

namespace Cql

def Compiles (tree : Filter) : Prop :=
  ∃ text, compile tree = .ok text

theorem compiles_of_literal? {leaf : Comparison} {literal : String}
    (notBlank : (Text.trim leaf.property).isEmpty = false)
    (isLiteral : literal? leaf.operand = some literal) : Compiles (.comparison leaf) := by
  refine ⟨term (property (Text.trim leaf.property)) leaf.operator literal, ?_⟩
  simp [compile, comparison, notBlank, isLiteral]

theorem compileAll_of_compiles {members : List Filter}
    (compiles : ∀ member ∈ members, Compiles member) :
    ∃ texts, compileAll members = .ok texts := by
  induction members with
  | nil => exact ⟨[], rfl⟩
  | cons member rest inductionHypothesis =>
    obtain ⟨⟨text, compiled⟩, restCompiles⟩ := List.forall_mem_cons.1 compiles
    obtain ⟨texts, restCompiled⟩ := inductionHypothesis restCompiles
    refine ⟨text :: texts, ?_⟩
    rw [compileAll, compiled, restCompiled]
    rfl

theorem compiles_group (connective : Connective) {members : List Filter}
    (nonempty : members ≠ []) (compiles : ∀ member ∈ members, Compiles member) :
    Compiles (.group connective members) := by
  obtain ⟨texts, compiled⟩ := compileAll_of_compiles compiles
  refine ⟨group connective texts, ?_⟩
  simp [compile, nonempty, compiled, Except.map]

theorem compiles_and {left right : Filter} (leftCompiles : Compiles left)
    (rightCompiles : Compiles right) : Compiles (.and left right) := by
  apply compiles_group .and (List.cons_ne_nil _ _)
  simp [leftCompiles, rightCompiles]

theorem compiles_equal_text {name : String} (notBlank : (Text.trim name).isEmpty = false)
    (value : String) : Compiles (.equal name (.text value)) :=
  compiles_of_literal? notBlank rfl

theorem compiles_matchAll : Compiles .matchAll :=
  compiles_of_literal? (by decide) rfl

theorem compiles_anyTag : Compiles .anyTag :=
  compiles_of_literal? (by decide) rfl

end Cql

theorem Criterion.exists_hasText_tree_iff (tree : Filter) :
    (∃ text, (Criterion.tree tree).HasText text) ↔ Cql.Compiles tree := by
  constructor
  · rintro ⟨_, text, compiled, -⟩
    exact ⟨text, compiled⟩
  · rintro ⟨text, compiled⟩
    exact ⟨_, text, compiled, rfl⟩

end Metacard
