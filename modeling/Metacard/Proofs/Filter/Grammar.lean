import Metacard.Failure
import Metacard.Proofs.Filter.Tags
import Metacard.Proofs.Json.Induction
import Metacard.Proofs.Outcome
import Metacard.Proofs.Table
/-!
# Which JSON values are filters

A JSON value is read as a filter just if it is an object with a tag and with the members that the
tag asks for, of which those that are filters themselves are read in the same way.
-/

set_option autoImplicit false

namespace Metacard

namespace Operand

/-- Scalars other than null, and arrays of such values at any depth. -/
inductive Acceptable : Json → Prop where
  | text (value : String) : Acceptable (.text value)
  | number (value : Number) : Acceptable (.number value)
  | boolean (value : Bool) : Acceptable (.boolean value)
  | array {items : List Json} (each : ∀ item ∈ items, Acceptable item) : Acceptable (.array items)

theorem toJson_of_ofJson {value : Json} {operand : Operand} (read : ofJson value = .ok operand) :
    operand.toJson = value := by
  induction value generalizing operand with
  | null => simp [ofJson] at read
  | boolean value => exact Except.ok.inj read ▸ rfl
  | number value => exact Except.ok.inj read ▸ rfl
  | text value => exact Except.ok.inj read ▸ rfl
  | array items each =>
    obtain ⟨elements, isElements, rfl⟩ := Outcome.map_eq_ok read
    rw [ofItems_eq] at isElements
    rw [toJson, toItems_eq, Outcome.map_eq_map_of_mapM isElements, List.map_id]
    exact fun item isItem element _ found => each item isItem found
  | object members _ => simp [ofJson] at read

theorem ofJson_eq_ok_iff {value : Json} {operand : Operand} :
    ofJson value = .ok operand ↔ value = operand.toJson :=
  ⟨fun read => (toJson_of_ofJson read).symm, fun written => written ▸ ofJson_toJson operand⟩

theorem exists_ofJson_eq_ok_iff {value : Json} :
    (∃ operand, ofJson value = .ok operand) ↔ Acceptable value := by
  constructor
  · rintro ⟨operand, read⟩
    obtain rfl := toJson_of_ofJson read
    induction operand with
    | text value => exact .text value
    | number value => exact .number value
    | boolean value => exact .boolean value
    | list elements each =>
      rw [toJson, toItems_eq]
      refine .array (List.forall_mem_map.2 fun element member => ?_)
      exact each element member (ofJson_toJson element)
  · intro accepted
    induction accepted with
    | text value => exact ⟨.text value, rfl⟩
    | number value => exact ⟨.number value, rfl⟩
    | boolean value => exact ⟨.boolean value, rfl⟩
    | array _ each =>
      obtain ⟨elements, read⟩ := Outcome.exists_mapM_eq_ok_iff.2 each
      refine ⟨.list elements, ?_⟩
      rw [ofJson, ofItems_eq, read]
      rfl

end Operand

namespace Filter

theorem membersOf?_eq (members : List (String × Json)) :
    membersOf? members = ((members.lookup "filters").bind Json.items?).map (·.mapM ofJson) := by
  induction members with
  | nil => rfl
  | cons entry rest inductionHypothesis =>
    obtain ⟨key, value⟩ := entry
    by_cases same : key = "filters"
    · cases value <;> simp [membersOf?, same, Json.items?, ofItems_eq]
    · have differs : "filters" ≠ key := Ne.symm same
      cases value <;>
        simp [membersOf?, List.lookup_cons, same, beq_false_of_ne differs, inductionHypothesis]

theorem innerOf?_eq (members : List (String × Json)) :
    innerOf? members = (members.lookup "filter").map ofJson := by
  induction members with
  | nil => rfl
  | cons entry rest inductionHypothesis =>
    obtain ⟨key, value⟩ := entry
    by_cases same : key = "filter"
    · simp [innerOf?, same]
    · have differs : "filter" ≠ key := Ne.symm same
      simp [innerOf?, List.lookup_cons, same, beq_false_of_ne differs, inductionHypothesis]

def tag? (members : List (String × Json)) : Option Tag :=
  ((members.lookup "type").bind Json.text?).bind Tag.ofText?

def Tag.Reads (members : List (String × Json)) (tree : Filter) : Tag → Prop
  | .connective kind => ∃ items trees, members.lookup "filters" = some (.array items) ∧
      items.mapM ofJson = .ok trees ∧ .group kind trees = tree
  | .negation => ∃ inner found, members.lookup "filter" = some inner ∧
      ofJson inner = .ok found ∧ .negation found = tree
  | .operator kind => ∃ property operand, members.lookup "property" = some (.text property) ∧
      members.lookup "value" = some operand.toJson ∧ .comparison ⟨kind, property, operand⟩ = tree

theorem ofMembers_eq_ok_iff {text : String} {members : List (String × Json)} {leaf : Comparison} :
    Comparison.ofMembers text members = .ok leaf ↔ ∃ kind property operand,
      Operator.ofTag? text = some kind ∧ members.lookup "property" = some (.text property) ∧
        members.lookup "value" = some (Operand.toJson operand) ∧
          ⟨kind, property, operand⟩ = leaf := by
  rw [Comparison.ofMembers]
  cases Operator.ofTag? text with
  | none => simp
  | some kind =>
    cases members.lookup "property" with
    | none => simp
    | some found =>
      cases found with
      | text property =>
        cases members.lookup "value" with
        | none => simp [Json.text?]
        | some value =>
          simp [Json.text?, Outcome.map_eq_ok_iff, Operand.ofJson_eq_ok_iff]
      | _ => simp [Json.text?]

theorem ofJson_object_eq_ok_iff {members : List (String × Json)} {tree : Filter} :
    ofJson (.object members) = .ok tree ↔
      ∃ tag, tag? members = some tag ∧ tag.Reads members tree := by
  rw [ofJson]
  cases isText : (members.lookup "type").bind Json.text? with
  | none => simp [tag?, isText]
  | some text =>
    simp only [tag?, isText, Option.bind_some, Tag.ofText?]
    cases Connective.ofTag? text with
    | some kind =>
      simp only [membersOf?_eq, Option.some.injEq, exists_eq_left', Tag.Reads]
      cases members.lookup "filters" with
      | none => simp
      | some value => cases value <;> simp [Json.items?, Outcome.map_eq_ok_iff]
    | none =>
      simp only
      split
      · simp only [innerOf?_eq, Option.some.injEq, exists_eq_left', Tag.Reads]
        cases members.lookup "filter" <;> simp [Outcome.map_eq_ok_iff]
      · simp [Outcome.map_eq_ok_iff, ofMembers_eq_ok_iff, Tag.Reads, and_assoc]

/-! ## The grammar -/

/-- An object with a tag and the members that the tag asks for; other members may be anything. -/
inductive Acceptable : Json → Prop where
  | group {members : List (String × Json)} {text : String} {kind : Connective} {items : List Json}
      (hasTag : members.lookup "type" = some (.text text))
      (written : (Tag.connective kind).IsWritten text)
      (hasMembers : members.lookup "filters" = some (.array items))
      (each : ∀ item ∈ items, Acceptable item) : Acceptable (.object members)
  | negation {members : List (String × Json)} {text : String} {inner : Json}
      (hasTag : members.lookup "type" = some (.text text)) (written : Tag.negation.IsWritten text)
      (hasInner : members.lookup "filter" = some inner) (accepted : Acceptable inner) :
      Acceptable (.object members)
  | comparison {members : List (String × Json)} {text property : String} {kind : Operator}
      {value : Json} (hasTag : members.lookup "type" = some (.text text))
      (written : (Tag.operator kind).IsWritten text)
      (hasProperty : members.lookup "property" = some (.text property))
      (hasValue : members.lookup "value" = some value) (accepted : Operand.Acceptable value) :
      Acceptable (.object members)

/-- A property of all JSON values is shown for objects whose `filter` has it, and whose `filters`
all have it, and for values that are no objects. -/
@[elab_as_elim]
theorem formInduction {motive : Json → Prop}
    (object : ∀ members, (∀ inner, members.lookup "filter" = some inner → motive inner) →
      (∀ items, members.lookup "filters" = some (.array items) → ∀ item ∈ items, motive item) →
      motive (.object members))
    (other : ∀ value, (∀ members, value ≠ .object members) → motive value) (value : Json) :
    motive value := by
  -- What is shown of an array of forms is that each of its items has the property.
  suffices both : motive value ∧ ∀ items, value = .array items → ∀ item ∈ items, motive item from
    both.1
  induction value with
  | array items each =>
    refine ⟨other _ nofun, fun _ same item member => ?_⟩
    obtain rfl := Json.array.inj same
    exact (each item member).1
  | object members each =>
    refine ⟨object members (fun inner found => ?_) (fun items found => ?_), nofun⟩
    · exact (each _ (mem_of_lookup_eq_some found)).1
    · exact (each _ (mem_of_lookup_eq_some found)).2 items rfl
  | _ => exact ⟨other _ nofun, nofun⟩

theorem tag?_eq_some_iff {members : List (String × Json)} {tag : Tag} :
    tag? members = some tag ↔
      ∃ text, members.lookup "type" = some (.text text) ∧ tag.IsWritten text := by
  rw [tag?]
  cases members.lookup "type" with
  | none => simp
  | some value => cases value <;> simp [Json.text?, Tag.ofText?_eq_some_iff]

theorem acceptable_of_ofJson {value : Json} {tree : Filter} (read : ofJson value = .ok tree) :
    Acceptable value := by
  induction value using formInduction generalizing tree with
  | object members inner each =>
    obtain ⟨tag, isTag, reads⟩ := ofJson_object_eq_ok_iff.1 read
    obtain ⟨text, hasTag, written⟩ := tag?_eq_some_iff.1 isTag
    cases tag with
    | connective kind =>
      obtain ⟨items, trees, hasMembers, isTrees, rfl⟩ := reads
      refine .group hasTag written hasMembers fun item member => ?_
      obtain ⟨found, isFound⟩ := Outcome.exists_mapM_eq_ok_iff.1 ⟨trees, isTrees⟩ item member
      exact each items hasMembers item member isFound
    | negation =>
      obtain ⟨form, found, hasInner, isFound, rfl⟩ := reads
      exact .negation hasTag written hasInner (inner form hasInner isFound)
    | operator kind =>
      obtain ⟨property, operand, hasProperty, hasValue, rfl⟩ := reads
      exact .comparison hasTag written hasProperty hasValue
        (Operand.exists_ofJson_eq_ok_iff.1 ⟨operand, operand.ofJson_toJson⟩)
  | other value noObject => cases value <;> simp_all [ofJson]

theorem exists_ofJson_eq_ok_iff {value : Json} :
    (∃ tree, ofJson value = .ok tree) ↔ Acceptable value := by
  refine ⟨fun ⟨tree, read⟩ => acceptable_of_ofJson read, fun accepted => ?_⟩
  induction accepted with
  | group hasTag written hasMembers _ each =>
    obtain ⟨trees, isTrees⟩ := Outcome.exists_mapM_eq_ok_iff.2 each
    exact ⟨_, ofJson_object_eq_ok_iff.2
      ⟨_, tag?_eq_some_iff.2 ⟨_, hasTag, written⟩, _, trees, hasMembers, isTrees, rfl⟩⟩
  | negation hasTag written hasInner _ inner =>
    obtain ⟨found, isFound⟩ := inner
    exact ⟨_, ofJson_object_eq_ok_iff.2
      ⟨_, tag?_eq_some_iff.2 ⟨_, hasTag, written⟩, _, found, hasInner, isFound, rfl⟩⟩
  | comparison hasTag written hasProperty hasValue accepted =>
    obtain ⟨operand, isOperand⟩ := Operand.exists_ofJson_eq_ok_iff.2 accepted
    obtain rfl := Operand.ofJson_eq_ok_iff.1 isOperand
    exact ⟨_, ofJson_object_eq_ok_iff.2
      ⟨_, tag?_eq_some_iff.2 ⟨_, hasTag, written⟩, _, operand, hasProperty, hasValue, rfl⟩⟩

end Filter

end Metacard
