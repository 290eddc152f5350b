import Metacard.Filter.Tree
import Metacard.Proofs.Filter.Induction
import Metacard.Proofs.Outcome
/-!
# Filters read back

The JSON form of a filter, read again, is the filter: every tag that is written leads to the branch
that reads it, and nothing of the tree is left out, whether the tree has a query text or not.
-/

set_option autoImplicit false

namespace Metacard

/-- No tag of an operator is taken for a connective or for a negation. -/
theorem Operator.ofTag?_token (operator : Operator) :
    Connective.ofTag? operator.token = none ∧
      Text.equalIgnoringCase operator.token "NOT" = false ∧
      Operator.ofTag? operator.token = some operator := by
  cases operator <;> decide

theorem Connective.ofTag?_keyword (connective : Connective) :
    Connective.ofTag? connective.keyword = some connective := by
  cases connective <;> decide

namespace Operand

theorem ofItems_eq (items : List Json) : ofItems items = items.mapM ofJson := by
  induction items with
  | nil => rfl
  | cons item rest inductionHypothesis =>
    rw [ofItems, List.mapM_cons, inductionHypothesis]
    rfl

theorem toItems_eq (elements : List Operand) : toItems elements = elements.map toJson := by
  induction elements with
  | nil => rfl
  | cons element rest inductionHypothesis => rw [toItems, List.map_cons, inductionHypothesis]

theorem ofItems_toItems {elements : List Operand}
    (readBack : ∀ element ∈ elements, ofJson element.toJson = .ok element) :
    ofItems (toItems elements) = .ok elements := by
  have read := Outcome.mapM_map_eq_ok (h := id) readBack
  rwa [List.map_id, ← ofItems_eq, ← toItems_eq] at read

theorem ofJson_toJson (operand : Operand) : ofJson operand.toJson = .ok operand := by
  induction operand with
  | text value => rfl
  | number value => rfl
  | boolean value => rfl
  | list elements readBack =>
    rw [toJson, ofJson, ofItems_toItems readBack]
    rfl

end Operand

namespace Filter

theorem ofItems_eq (items : List Json) : ofItems items = items.mapM ofJson := by
  induction items with
  | nil => rfl
  | cons item rest inductionHypothesis =>
    rw [ofItems, List.mapM_cons, inductionHypothesis]
    rfl

theorem toItems_eq (members : List Filter) : toItems members = members.map toJson := by
  induction members with
  | nil => rfl
  | cons member rest inductionHypothesis => rw [toItems, List.map_cons, inductionHypothesis]

theorem ofItems_toItems {members : List Filter}
    (readBack : ∀ member ∈ members, ofJson member.toJson = .ok member) :
    ofItems (toItems members) = .ok members := by
  have read := Outcome.mapM_map_eq_ok (h := id) readBack
  rwa [List.map_id, ← ofItems_eq, ← toItems_eq] at read

theorem ofJson_comparison (leaf : Comparison) : ofJson leaf.toJson = .ok (.comparison leaf) := by
  obtain ⟨notConnective, notNegation, operator⟩ := leaf.operator.ofTag?_token
  have tag : ([("property", .text leaf.property), ("type", .text leaf.operator.token),
      ("value", leaf.operand.toJson)].lookup "type").bind Json.text? =
        some leaf.operator.token := by simp [List.lookup_cons, Json.text?]
  have read : Comparison.ofMembers leaf.operator.token [("property", .text leaf.property),
      ("type", .text leaf.operator.token), ("value", leaf.operand.toJson)] = .ok leaf := by
    simp [Comparison.ofMembers, operator, List.lookup_cons, Json.text?, Operand.ofJson_toJson,
      Except.map]
  rw [Comparison.toJson, ofJson, tag]
  simp only [notConnective, notNegation, read]
  rfl

theorem ofJson_group (connective : Connective) {members : List Filter}
    (readBack : ofItems (toItems members) = .ok members) :
    ofJson (group connective members).toJson = .ok (.group connective members) := by
  have tag : ([("filters", .array (toItems members)),
      ("type", .text connective.keyword)].lookup "type").bind Json.text? =
        some connective.keyword := by simp [List.lookup_cons, Json.text?]
  rw [toJson, ofJson, tag]
  simp only [connective.ofTag?_keyword, membersOf?, readBack]
  rfl

theorem ofJson_negation {inner : Filter} (readBack : ofJson inner.toJson = .ok inner) :
    ofJson (negation inner).toJson = .ok (.negation inner) := by
  have notConnective : Connective.ofTag? "NOT" = none := by decide
  have tag : ([("filter", inner.toJson), ("type", .text "NOT")].lookup "type").bind Json.text? =
      some "NOT" := by simp [List.lookup_cons, Json.text?]
  rw [toJson, ofJson, tag]
  simp only [notConnective, Text.equalIgnoringCase_refl, innerOf?, readBack]
  rfl

theorem ofJson_toJson (tree : Filter) : ofJson tree.toJson = .ok tree := by
  induction tree with
  | comparison leaf => exact ofJson_comparison leaf
  | group connective members readBack => exact ofJson_group connective (ofItems_toItems readBack)
  | negation inner readBack => exact ofJson_negation readBack

/-- Every filter is read back from its JSON form as it is, so that no two filters have one form. -/
theorem json_form_faithful (tree : Filter) :
    ofJson tree.toJson = .ok tree ∧
      ∀ other : Filter, other.toJson = tree.toJson ↔ other = tree := by
  refine ⟨ofJson_toJson tree, fun other => ⟨?_, congrArg toJson⟩⟩
  intro sameForm
  have readOther := ofJson_toJson other
  rw [sameForm, ofJson_toJson tree] at readOther
  exact (Except.ok.inj readOther).symm

end Filter

end Metacard
