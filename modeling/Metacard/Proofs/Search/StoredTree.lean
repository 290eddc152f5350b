import Metacard.Proofs.Filter.Tree
import Metacard.Proofs.Json.RoundTrip
import Metacard.Proofs.Search.Response
/-!
# Filters stored on records

A record may store a filter as its JSON form, or as the text of this form. Both are read as the
filter. As a text it may have no more arrays and objects inside each other than are read, and these
are more than the filter has levels: a group takes two, a negation one, and a comparison one besides
those of its operand.
-/

set_option autoImplicit false

namespace Metacard

namespace Operand

mutual

def nesting : Operand → Nat
  | .list elements => nestingOfElements elements + 1
  | .text _ | .number _ | .boolean _ => 0

def nestingOfElements : List Operand → Nat
  | [] => 0
  | element :: rest => max element.nesting (nestingOfElements rest)

end

theorem depthOfItems_toItems {elements : List Operand}
    (each : ∀ element ∈ elements, element.toJson.depth = element.nesting) :
    Json.depthOfItems (toItems elements) = nestingOfElements elements := by
  induction elements with
  | nil => rfl
  | cons element rest inductionHypothesis =>
    obtain ⟨first, others⟩ := List.forall_mem_cons.1 each
    rw [toItems, Json.depthOfItems, nestingOfElements, first, inductionHypothesis others]

theorem depth_toJson (operand : Operand) : operand.toJson.depth = operand.nesting := by
  induction operand with
  | text | number | boolean => rfl
  | list elements inductionHypothesis =>
    rw [toJson, Json.depth, nesting, depthOfItems_toItems inductionHypothesis]

theorem isOrdered_toJson (operand : Operand) : operand.toJson.IsOrdered := by
  induction operand with
  | text => exact .text
  | number => exact .number
  | boolean => exact .boolean
  | list elements inductionHypothesis =>
    rw [toJson, toItems_eq]
    exact .array (List.forall_mem_map.2 inductionHypothesis)

end Operand

namespace Filter

mutual

/-- How many arrays and objects stand inside each other in the JSON form. -/
def nesting : Filter → Nat
  | .comparison leaf => leaf.operand.nesting + 1
  | .group _ members => nestingOfMembers members + 2
  | .negation inner => inner.nesting + 1

def nestingOfMembers : List Filter → Nat
  | [] => 0
  | member :: rest => max member.nesting (nestingOfMembers rest)

end

theorem depthOfItems_toItems {members : List Filter}
    (each : ∀ member ∈ members, member.toJson.depth = member.nesting) :
    Json.depthOfItems (toItems members) = nestingOfMembers members := by
  induction members with
  | nil => rfl
  | cons member rest inductionHypothesis =>
    obtain ⟨first, others⟩ := List.forall_mem_cons.1 each
    rw [toItems, Json.depthOfItems, nestingOfMembers, first, inductionHypothesis others]

theorem depth_toJson (tree : Filter) : tree.toJson.depth = tree.nesting := by
  induction tree with
  | comparison leaf =>
    simp [toJson, Comparison.toJson, Json.depth, Json.depthOfMembers, nesting,
      Operand.depth_toJson]
  | group connective members inductionHypothesis =>
    simp [toJson, Json.depth, Json.depthOfMembers, nesting,
      depthOfItems_toItems inductionHypothesis]
  | negation inner inductionHypothesis =>
    simp [toJson, Json.depth, Json.depthOfMembers, nesting, inductionHypothesis]

theorem isOrdered_toJson (tree : Filter) : tree.toJson.IsOrdered := by
  induction tree with
  | comparison leaf =>
    apply Json.IsOrdered.object
    · exact ascending_of_keys (by decide : ["property", "type", "value"].Pairwise (· < ·))
    · simp [leaf.operand.isOrdered_toJson, Json.IsOrdered.text]
  | group connective members inductionHypothesis =>
    have each : (Json.array (toItems members)).IsOrdered := by
      rw [toItems_eq]
      exact .array (List.forall_mem_map.2 inductionHypothesis)
    apply Json.IsOrdered.object
    · exact ascending_of_keys (by decide : ["filters", "type"].Pairwise (· < ·))
    · simp [each, Json.IsOrdered.text]
  | negation inner inductionHypothesis =>
    apply Json.IsOrdered.object
    · exact ascending_of_keys (by decide : ["filter", "type"].Pairwise (· < ·))
    · simp [inductionHypothesis, Json.IsOrdered.text]

theorem ofStored_toJson (tree : Filter) : ofStored tree.toJson = .ok tree := by
  have read : (ofJson tree.toJson).mapError Failure.filter = .ok tree := by
    rw [ofJson_toJson]
    rfl
  cases tree with
  | comparison | group | negation => exact read

theorem ofStored_render {tree : Filter}
    (readBack : ∀ number ∈ tree.toJson.numbers, number.ReadsBack) :
    ofStored (.text tree.toJson.render) =
      if tree.toJson.depth ≤ Json.greatestDepth then .ok tree
      else .error (.serialization .jsonMalformed) := by
  rw [ofStored, Json.parse?_render tree.isOrdered_toJson readBack]
  split_ifs
  · simp only [ofJson_toJson]
    rfl
  · rfl

theorem ofStored_of_isText {text : String} {value : Json}
    (isText : Json.IsText Json.greatestDepth text value) :
    ofStored (.text text) = (ofJson value).mapError .filter := by
  rw [ofStored, Json.parse?_eq_some_iff.2 isText]

theorem ofStored_text_eq_serialization_iff {text : String} :
    (∃ fault, ofStored (.text text) = .error (.serialization fault)) ↔
      ¬ ∃ value, Json.IsText Json.greatestDepth text value := by
  constructor
  · rintro ⟨fault, failed⟩ ⟨value, isText⟩
    rw [ofStored_of_isText isText] at failed
    cases read : ofJson value with
    | error | ok => rw [read] at failed; exact nomatch failed
  · intro noText
    rw [ofStored, Json.parse?_eq_none_iff.2 noText]
    exact ⟨_, rfl⟩

end Filter

/-- A filter stored on a record is read back: from its JSON form always, and from the text of this
form, its numbers being read back, just if no more arrays and objects stand inside each other than
are read. Any other text is read as the filter of the JSON value that it is a text of, and fails as
a text just if there is no such value. -/
theorem Record.stored_filter_read_back (record : Record) :
    (∀ tree : Filter, tree.toJson.depth = tree.nesting ∧
      (record.get? "filterTree" = some tree.toJson → record.filterTree? = some (.ok tree)) ∧
      (record.get? "filterTree" = some (.text tree.toJson.render) →
        (∀ number ∈ tree.toJson.numbers, number.ReadsBack) →
          (record.filterTree? = some (.ok tree) ↔ tree.toJson.depth ≤ Json.greatestDepth))) ∧
      ∀ text, record.get? "filterTree" = some (.text text) →
        ((∃ fault, record.filterTree? = some (.error (.serialization fault))) ↔
          ¬ ∃ value, Json.IsText Json.greatestDepth text value) ∧
        ∀ value, Json.IsText Json.greatestDepth text value →
          record.filterTree? = some ((Filter.ofJson value).mapError .filter) := by
  rw [filterTree?_eq]
  refine ⟨fun tree => ⟨tree.depth_toJson, ?_, ?_⟩, ?_⟩
  · intro stored
    rw [stored, Option.map_some, tree.ofStored_toJson]
  · intro stored readBack
    rw [stored, Option.map_some, Filter.ofStored_render readBack]
    split_ifs with fits <;> simp [fits]
  · intro text stored
    rw [stored, Option.map_some]
    simp only [Option.some.injEq]
    exact ⟨Filter.ofStored_text_eq_serialization_iff, fun _ => Filter.ofStored_of_isText⟩

def nestedFilter : Filter :=
  .group .or [.negation (.compare .less "size" (.list [.number (.integer (-3)),
    .number (.double ⟨false, ⟨0x4004000000000000, by decide⟩⟩)])), .like "title" "a \"b\" %"]

def Record.storing (stored : Json) : Record :=
  ⟨.ofList [("filterTree", stored)], .null, [], ⟨[]⟩⟩

theorem Record.stored_filter_read_back_nested :
    (∀ number ∈ nestedFilter.toJson.numbers, number.ReadsBack) ∧ nestedFilter.nesting = 5 ∧
      (storing nestedFilter.toJson).filterTree? = some (.ok nestedFilter) ∧
      (storing (.text nestedFilter.toJson.render)).filterTree? = some (.ok nestedFilter) ∧
      (storing (.text " [ ]")).filterTree? = some (.error (.filter (.notAnObject (.array [])))) ∧
      ∃ fault, (storing (.text "[ ")).filterTree? = some (.error (.serialization fault)) :=
  have readBack : ∀ number ∈ nestedFilter.toJson.numbers, number.ReadsBack :=
    List.forall_mem_cons.2 ⟨Number.readsBack_integer (by decide) (by decide),
      List.forall_mem_singleton.2 (by decide +kernel)⟩
  have asForm := (stored_filter_read_back (storing nestedFilter.toJson)).1 nestedFilter
  have asText :=
    (stored_filter_read_back (storing (.text nestedFilter.toJson.render))).1 nestedFilter
  have other := (stored_filter_read_back (storing (.text " [ ]"))).2 " [ ]" (by decide +kernel)
  have noText := (stored_filter_read_back (storing (.text "[ "))).2 "[ " (by decide +kernel)
  ⟨readBack, by decide, asForm.2.1 (by decide +kernel),
    (asText.2.2 (by decide +kernel) readBack).2 (by decide),
    other.2 (.array []) (Json.parse?_eq_some_iff.1 (by decide +kernel)),
    noText.1.2 (Json.parse?_eq_none_iff.1 (by decide +kernel))⟩

end Metacard
