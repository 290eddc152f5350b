import Metacard.Proofs.Table
import Metacard.Schema.Registry
/-!
# What is left of repeated records

Attributes are reported in groups, and enumerations of their values come from several sources. Of
several records with one id the last one stays, and of several enumerations for one id the last one.
The records take the places of builtin attributes with their ids; all others come after these.
-/

set_option autoImplicit false

namespace Metacard

def lastRecord? (attributes : List Attribute) (id : String) : Option Attribute :=
  attributes.reverse.find? fun attr => attr.id = id

theorem id_of_lastRecord? {attributes : List Attribute} {id : String} {attr : Attribute}
    (found : lastRecord? attributes id = some attr) : attr.id = id := by
  rw [lastRecord?] at found
  simpa using List.find?_some found

theorem lastRecord?_eq_none_iff {attributes : List Attribute} {id : String} :
    lastRecord? attributes id = none ↔ id ∉ attributes.map Attribute.id := by
  simp [lastRecord?]

def replace (attr existing : Attribute) : Attribute :=
  if existing.id = attr.id then attr else existing

theorem map_replace_of_fresh {attr : Attribute} {attributes : List Attribute}
    (fresh : attr.id ∉ attributes.map Attribute.id) :
    attributes.map (replace attr) = attributes := by
  have kept : ∀ existing ∈ attributes, replace attr existing = id existing := by
    intro existing member
    apply if_neg
    intro same
    exact fresh (List.mem_map.2 ⟨existing, member, same⟩)
  rw [List.map_congr_left kept, List.map_id]

theorem mergeAttribute_eq {attr : Attribute} {attributes : List Attribute}
    (distinct : (attributes.map Attribute.id).Nodup) :
    mergeAttribute attr attributes =
      if attr.id ∈ attributes.map Attribute.id then attributes.map (replace attr)
      else attributes ++ [attr] := by
  induction attributes with
  | nil => rfl
  | cons existing rest inductionHypothesis =>
    obtain ⟨fresh, restDistinct⟩ := List.nodup_cons.1 distinct
    by_cases same : existing.id = attr.id
    · rw [same] at fresh
      rw [mergeAttribute, if_pos same, List.map_cons, List.map_cons, replace, if_pos same,
        map_replace_of_fresh fresh, same, if_pos List.mem_cons_self]
    · have kept : replace attr existing = existing := if_neg same
      rw [mergeAttribute, if_neg same, inductionHypothesis restDistinct, List.map_cons,
        List.map_cons, kept]
      by_cases present : attr.id ∈ rest.map Attribute.id
      · rw [if_pos present, if_pos (List.mem_cons_of_mem _ present)]
      · have absent : attr.id ∉ existing.id :: rest.map Attribute.id := by
          intro member
          rcases List.mem_cons.1 member with equal | member
          · exact same equal.symm
          · exact present member
        rw [if_neg present, if_neg absent, List.cons_append]

/-- The record with the id of an attribute, or the attribute itself. -/
def latest (records : List Attribute) (existing : Attribute) : Attribute :=
  (records.find? fun record => record.id = existing.id).getD existing

def withoutIds (ids : List String) (attributes : List Attribute) : List Attribute :=
  attributes.filter fun attr => attr.id ∉ ids

theorem find?_id_of_fresh {id : String} {attributes : List Attribute}
    (fresh : id ∉ attributes.map Attribute.id) :
    attributes.find? (fun attr => attr.id = id) = none := by
  apply List.find?_eq_none.2
  intro attr member same
  exact fresh (List.mem_map.2 ⟨attr, member, of_decide_eq_true same⟩)

theorem latest_of_fresh {existing : Attribute} {records : List Attribute}
    (fresh : existing.id ∉ records.map Attribute.id) : latest records existing = existing := by
  rw [latest, find?_id_of_fresh fresh, Option.getD_none]

theorem withoutIds_cons_of_mem {ids : List String} {attr : Attribute}
    {attributes : List Attribute} (present : attr.id ∈ ids) :
    withoutIds ids (attr :: attributes) = withoutIds ids attributes :=
  List.filter_cons_of_neg (by simpa using present)

theorem withoutIds_cons_of_not_mem {ids : List String} {attr : Attribute}
    {attributes : List Attribute} (absent : attr.id ∉ ids) :
    withoutIds ids (attr :: attributes) = attr :: withoutIds ids attributes :=
  List.filter_cons_of_pos (by simpa using absent)

theorem withoutIds_append_of_fresh {ids : List String} {id : String}
    {attributes : List Attribute} (fresh : id ∉ attributes.map Attribute.id) :
    withoutIds (ids ++ [id]) attributes = withoutIds ids attributes := by
  apply List.filter_congr
  intro attr member
  have differs : attr.id ≠ id := fun same => fresh (List.mem_map.2 ⟨attr, member, same⟩)
  simp [differs]

theorem latest_cons (record : Attribute) (rest : List Attribute) (existing : Attribute)
    (fresh : record.id ∉ rest.map Attribute.id) :
    latest (record :: rest) existing = latest rest (replace record existing) := by
  by_cases same : existing.id = record.id
  · rw [replace, if_pos same, latest_of_fresh fresh, latest,
      List.find?_cons_of_pos (by simp [same]), Option.getD_some]
  · rw [latest, latest, replace, if_neg same,
      List.find?_cons_of_neg (by simpa using fun equal => same equal.symm)]

/-- Records with different ids take the places of the attributes with their ids, and the others come
after these. -/
theorem foldl_mergeAttribute {records : List Attribute} :
    ∀ {attributes : List Attribute}, (attributes.map Attribute.id).Nodup →
      (records.map Attribute.id).Nodup →
      records.foldl (fun merged record => mergeAttribute record merged) attributes =
        attributes.map (latest records) ++ withoutIds (attributes.map Attribute.id) records := by
  induction records with
  | nil =>
    intro attributes _ _
    have kept : latest [] = id := rfl
    rw [kept, List.map_id, withoutIds, List.filter_nil, List.append_nil, List.foldl_nil]
  | cons record rest inductionHypothesis =>
    intro attributes distinct recordsDistinct
    obtain ⟨fresh, restDistinct⟩ := List.nodup_cons.1 recordsDistinct
    have later : latest (record :: rest) = latest rest ∘ replace record :=
      funext fun existing => latest_cons record rest existing fresh
    -- The ids of the others differ from the id of this record, so it stays where it is put.
    rw [List.foldl_cons, inductionHypothesis (nodup_mergeAttribute record distinct) restDistinct,
      map_id_mergeAttribute, mergeAttribute_eq distinct, later, ← List.map_map]
    by_cases present : record.id ∈ attributes.map Attribute.id
    · rw [if_pos present, if_pos present, withoutIds_cons_of_mem present]
    · rw [if_neg present, if_neg present, map_replace_of_fresh present,
        withoutIds_cons_of_not_mem present, withoutIds_append_of_fresh fresh, List.map_append,
        List.map_singleton, latest_of_fresh fresh, List.append_assoc, List.singleton_append]

/-! ## Records of all groups -/

namespace Gathered

/-- The attributes of all groups, group by group in ascending order of name, and in each in
ascending order of key. -/
def walk (groups : AttributeGroups) : List Attribute :=
  groups.values.flatMap Table.values

theorem lookup_map_id (attributes : List Attribute) (id : String) :
    (attributes.map fun attr => (attr.id, attr)).lookup id =
      attributes.find? fun attr => attr.id = id := by
  induction attributes with
  | nil => rfl
  | cons attr rest inductionHypothesis =>
    rw [List.map_cons, List.lookup_cons]
    by_cases same : id = attr.id
    · rw [same, beq_self_eq_true, List.find?_cons_of_pos (by simp)]
    · rw [beq_false_of_ne same, inductionHypothesis,
        List.find?_cons_of_neg (by simpa using fun equal => same equal.symm)]

theorem find?_mergeGroups (groups : AttributeGroups) (id : String) :
    (Table.ofList ((groups.values.flatMap Table.values).map fun attr => (attr.id, attr))).find? id =
      lastRecord? (walk groups) id := by
  rw [Table.find?_ofList, ← List.map_reverse, lookup_map_id, lastRecord?, walk]

theorem mem_mergeGroups_iff {groups : AttributeGroups} {attr : Attribute} :
    attr ∈ mergeGroups groups ↔ lastRecord? (walk groups) attr.id = some attr := by
  rw [mergeGroups, Table.mem_values_iff]
  constructor
  · rintro ⟨id, found⟩
    rw [find?_mergeGroups] at found
    rw [id_of_lastRecord? found, found]
  · intro found
    exact ⟨attr.id, (find?_mergeGroups groups attr.id).trans found⟩

theorem ascending_mergeGroups (groups : AttributeGroups) :
    (mergeGroups groups).Pairwise fun left right => left.id < right.id := by
  rw [mergeGroups, Table.values, List.pairwise_map]
  apply (Table.ascending _).imp_of_mem
  intro left right leftMember rightMember less
  have leftFound :=
    (find?_mergeGroups groups left.1).symm.trans (Table.mem_entries_iff.1 leftMember)
  have rightFound :=
    (find?_mergeGroups groups right.1).symm.trans (Table.mem_entries_iff.1 rightMember)
  rw [id_of_lastRecord? leftFound, id_of_lastRecord? rightFound]
  exact less

def valuesIn? (outcome : String × Except Failure Enumerations) (id : String) :
    Option (List String) :=
  match outcome.2 with
  | .ok found => found.find? id
  | .error _ => none

/-- The values enumerated for an id by the last of some outcomes that enumerates any for it. -/
def lastValues? (outcomes : List (String × Except Failure Enumerations)) (id : String) :
    Option (List String) :=
  outcomes.reverse.findSome? fun outcome => valuesIn? outcome id

theorem find?_absorb (all : Enumerations) (outcome : String × Except Failure Enumerations)
    (id : String) : (absorb all outcome).find? id = (valuesIn? outcome id).or (all.find? id) := by
  rw [absorb, valuesIn?]
  cases outcome.2 with
  | error failure => rfl
  | ok found =>
    have inserted := Table.find?_insertAll all found.entries id
    rw [lookup_reverse found.ascending] at inserted
    exact inserted

theorem find?_foldl_absorb (outcomes : List (String × Except Failure Enumerations)) (id : String) :
    ∀ all : Enumerations, (outcomes.foldl absorb all).find? id =
      (lastValues? outcomes id).or (all.find? id) := by
  induction outcomes with
  | nil =>
    intro all
    rfl
  | cons outcome rest inductionHypothesis =>
    intro all
    have last : lastValues? (outcome :: rest) id =
        (lastValues? rest id).or (valuesIn? outcome id) := by
      rw [lastValues?, List.reverse_cons, List.findSome?_append, List.findSome?_singleton,
        lastValues?]
    rw [List.foldl_cons, inductionHypothesis, find?_absorb, last, Option.or_assoc]

theorem find?_enumerations (outcomes : List (String × Except Failure Enumerations)) (id : String) :
    (enumerations outcomes).find? id = lastValues? outcomes id := by
  rw [enumerations, find?_foldl_absorb, Table.find?_empty, Option.or_none]

end Gathered

end Metacard
