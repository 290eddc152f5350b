import Mathlib.Data.List.Nodup
import Metacard.Proofs.Schema.Names
import Metacard.Schema.Registry
/-!
# What one publication does

A call on a registry either fails and leaves the snapshot and what subscribers compare as they are,
or it puts a new snapshot under the next version and tells the subscribers once.
-/

set_option autoImplicit false

namespace Metacard

namespace Schema

theorem build_cases (attributes : List Attribute) :
    (∃ names, build attributes = .ok ⟨mergeAttributes attributes, names⟩ ∧
        names.Knows ((mergeAttributes attributes).map Attribute.id)) ∨
      ∃ first second, FirstCollision ((mergeAttributes attributes).map Attribute.id) first second ∧
        build attributes = .error (.nameCollision (safeName second) first second) := by
  rcases NameMap.ofIds_cases ((mergeAttributes attributes).map Attribute.id) with
    ⟨names, made, knows⟩ | ⟨first, second, collision, failed⟩
  · refine .inl ⟨names, ?_, knows⟩
    rw [build, made]
    rfl
  · refine .inr ⟨first, second, collision, ?_⟩
    rw [build, failed]
    rfl

/-- A schema with the builtin attributes ahead, with different ids and different safe names, and
with the way back from these. -/
structure WellFormed (schema : Schema) : Prop where
  builtin : ∃ others, schema.attributes.map Attribute.id =
    Attribute.builtin.map Attribute.id ++ others
  distinct : (schema.attributes.map Attribute.id).Nodup
  apart : ((schema.attributes.map Attribute.id).map safeName).Nodup
  back : ∀ id ∈ schema.attributes.map Attribute.id, schema.names.toRaw (safeName id) = id

theorem foldl_mergeAttribute_ids (attributes : List Attribute) :
    ∀ {merged : List Attribute}, (merged.map Attribute.id).Nodup →
      ((attributes.foldl (fun merged attr => mergeAttribute attr merged) merged).map
          Attribute.id).Nodup ∧
        ∃ others, (attributes.foldl (fun merged attr => mergeAttribute attr merged) merged).map
          Attribute.id = merged.map Attribute.id ++ others := by
  induction attributes with
  | nil =>
    intro merged distinct
    exact ⟨distinct, [], (List.append_nil _).symm⟩
  | cons attr rest inductionHypothesis =>
    intro merged distinct
    obtain ⟨restDistinct, others, ids⟩ :=
      inductionHypothesis (nodup_mergeAttribute attr distinct)
    refine ⟨restDistinct, ?_⟩
    rw [List.foldl_cons, ids, map_id_mergeAttribute]
    by_cases present : attr.id ∈ merged.map Attribute.id
    · rw [if_pos present]
      exact ⟨others, rfl⟩
    · rw [if_neg present, List.append_assoc]
      exact ⟨[attr.id] ++ others, rfl⟩

/-- The schema came of the builtin attributes and whatever else was reported. -/
def IsBuilt (schema : Schema) : Prop :=
  ∃ attributes, build (Attribute.builtin ++ attributes) = .ok schema

theorem isBuilt_builtin : builtin.IsBuilt := by
  refine ⟨[], ?_⟩
  rw [List.append_nil, build_builtin]

theorem IsBuilt.knows {schema : Schema} (isBuilt : schema.IsBuilt) :
    schema.names.Knows (schema.attributes.map Attribute.id) := by
  obtain ⟨attributes, built⟩ := isBuilt
  rcases build_cases (Attribute.builtin ++ attributes) with
    ⟨names, other, knows⟩ | ⟨first, second, _, failed⟩
  · rw [built] at other
    obtain rfl := Except.ok.inj other
    exact knows
  · rw [built] at failed
    exact nomatch failed

theorem wellFormed_build {attributes : List Attribute} {schema : Schema}
    (built : build (Attribute.builtin ++ attributes) = .ok schema) : schema.WellFormed := by
  rcases build_cases (Attribute.builtin ++ attributes) with
    ⟨names, other, knows⟩ | ⟨first, second, _, failed⟩
  · rw [built] at other
    obtain rfl := Except.ok.inj other
    have builtin : mergeAttributes Attribute.builtin = Attribute.builtin := by decide
    have builtinDistinct : (Attribute.builtin.map Attribute.id).Nodup := by decide
    obtain ⟨distinct, others, ids⟩ := foldl_mergeAttribute_ids attributes builtinDistinct
    have merged : mergeAttributes (Attribute.builtin ++ attributes) =
        attributes.foldl (fun merged attr => mergeAttribute attr merged) Attribute.builtin := by
      rw [mergeAttributes] at builtin
      rw [mergeAttributes, List.foldl_append, builtin]
    rw [← merged] at distinct ids
    refine ⟨⟨others, ids⟩, distinct, ?_, fun id member => knows.toRaw_safeName member⟩
    exact (List.nodup_map_iff_inj_on distinct).2 knows.apart
  · rw [built] at failed
    exact nomatch failed

theorem IsBuilt.wellFormed {schema : Schema} (isBuilt : schema.IsBuilt) : schema.WellFormed := by
  obtain ⟨attributes, built⟩ := isBuilt
  exact wellFormed_build built

theorem wellFormed_builtin : builtin.WellFormed :=
  isBuilt_builtin.wellFormed

end Schema

namespace Registry

/-- What readers and subscribers see of two registries is the same. -/
structure Same (before after : Registry) : Prop where
  current : after.current = before.current
  changes : after.changes = before.changes

theorem Same.of_eq {before after : Registry} (unchanged : after = before) : Same before after where
  current := congrArg Registry.current unchanged
  changes := congrArg Registry.changes unchanged

/-- A schema stands under the next version, and subscribers are told of it. -/
structure Advanced (before after : Registry) (schema : Schema) : Prop where
  current : after.current = ⟨before.version + 1, schema⟩
  changes : after.changes = before.changes + 1

theorem Same.trans {first second third : Registry} (left : Same first second)
    (right : Same second third) : Same first third :=
  ⟨right.current.trans left.current, right.changes.trans left.changes⟩

theorem Same.version {before after : Registry} (same : Same before after) :
    after.version = before.version :=
  congrArg Snapshot.version same.current

theorem Advanced.around {first second third fourth : Registry} {schema : Schema}
    (before : Same first second) (advanced : Advanced second third schema)
    (after : Same third fourth) : Advanced first fourth schema where
  current := by rw [after.current, advanced.current, before.version]
  changes := by rw [after.changes, advanced.changes, before.changes]

theorem same_note (registry : Registry) (observation : Observation) :
    Same registry (registry.note observation) :=
  ⟨rfl, rfl⟩

theorem same_noteMissing (missing : List (String × Failure)) :
    ∀ registry : Registry, Same registry (registry.noteMissing missing) := by
  induction missing with
  | nil =>
    intro registry
    exact ⟨rfl, rfl⟩
  | cons entry rest inductionHypothesis =>
    intro registry
    exact (same_note registry _).trans (inductionHypothesis _)

theorem advanced_advance (registry : Registry) (schema : Schema) :
    Advanced registry (registry.advance schema) schema :=
  ⟨rfl, rfl⟩

/-! ## Publications -/

theorem publish_error {attributes : List Attribute} {failure : Failure}
    (failed : Schema.build (Attribute.builtin ++ attributes) = .error failure)
    (registry : Registry) : publish attributes registry = (.error failure, registry) := by
  simp only [publish, failed]

theorem publish_ok {attributes : List Attribute} {schema : Schema}
    (built : Schema.build (Attribute.builtin ++ attributes) = .ok schema) (registry : Registry) :
    publish attributes registry =
      (.ok ⟨registry.version + 1, schema⟩, registry.advance schema) := by
  simp only [publish, built]
  rfl

def reportOf (found : Gathered) (version : Nat) (schema : Schema) : RefreshReport where
  version := version
  attributeCount := schema.attributes.length
  enumeratedCount := found.enumeratedCount
  failures := found.failures

theorem settle_failed (failure : Failure) (registry : Registry) :
    (settle (.error failure) registry).1 = .error failure ∧
      Same registry (settle (.error failure) registry).2 :=
  ⟨rfl, same_note registry _⟩

theorem settle_error {found : Gathered} {failure : Failure}
    (failed : Schema.build (Attribute.builtin ++ found.attributes) = .error failure)
    (registry : Registry) :
    (settle (.ok found) registry).1 = .error failure ∧
      Same registry (settle (.ok found) registry).2 := by
  have published := publish_error failed (registry.noteMissing found.missing)
  have noted := same_noteMissing found.missing registry
  simp only [settle, published]
  exact ⟨trivial, noted.trans (same_note _ _)⟩

theorem settle_ok {found : Gathered} {schema : Schema}
    (built : Schema.build (Attribute.builtin ++ found.attributes) = .ok schema)
    (registry : Registry) :
    (settle (.ok found) registry).1 = .ok (reportOf found (registry.version + 1) schema) ∧
      Advanced registry (settle (.ok found) registry).2 schema := by
  have noted := same_noteMissing found.missing registry
  have published := publish_ok built (registry.noteMissing found.missing)
  simp only [settle, published]
  refine ⟨?_, Advanced.around noted (advanced_advance _ schema) (same_note _ _)⟩
  rw [noted.version]
  rfl

end Registry

end Metacard
