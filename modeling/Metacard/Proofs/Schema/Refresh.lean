import Metacard.Proofs.Schema.Merge
import Metacard.Proofs.Schema.Publish
/-!
# What a refresh publishes

For each id that is reported the last record counts, with the values of the last enumeration that
has any for the id. These records take the places of the builtin attributes with their ids, and the
others follow in ascending order of id. A refresh that finds two ids with one safe name among the
builtin and the reported ones publishes nothing.
-/

set_option autoImplicit false

namespace Metacard

namespace Gathered

def builtinIds : List String :=
  Attribute.builtin.map Attribute.id

/-- The source was asked for the enumerations of some groups, one after the other, each time in the
state in which it was left before. -/
inductive Asked {σ : Type} (source : MetadataSource σ) :
    List String → σ → List (String × Except Failure Enumerations) → σ → Prop
  | nil (state : σ) : Asked source [] state [] state
  | cons {group : String} {rest : List String} {state next last : σ}
      {outcome : Except Failure Enumerations} {others : List (String × Except Failure Enumerations)}
      (answers : source.groupEnumerations group state = (outcome, next))
      (asked : Asked source rest next others last) :
      Asked source (group :: rest) state ((group, outcome) :: others) last

/-- The source was asked for the enumerations for all groups, and then for those of each group in
ascending order. -/
inductive Enumerated {σ : Type} (source : MetadataSource σ) (groups : AttributeGroups) (state : σ) :
    List (String × Except Failure Enumerations) → σ → Prop
  | intro {config : Except Failure Enumerations} {next last : σ}
      {others : List (String × Except Failure Enumerations)}
      (answers : source.enumerationConfig state = (config, next))
      (asked : Asked source groups.keys next others last) :
      Enumerated source groups state ((configGroup, config) :: others) last

def withValues (values : Option (List String)) (attr : Attribute) : Attribute :=
  match values with
  | some values => { attr with enumeration := values }
  | none => attr

/-- The record of an id: the last one that is reported, with the values enumerated last. -/
def record? (groups : AttributeGroups) (outcomes : List (String × Except Failure Enumerations))
    (id : String) : Option Attribute :=
  (lastRecord? (walk groups) id).map (withValues (lastValues? outcomes id))

/-- These are the records of all ids, in ascending order of id. -/
structure IsMerge (groups : AttributeGroups)
    (outcomes : List (String × Except Failure Enumerations)) (records : List Attribute) : Prop where
  ascending : records.Pairwise fun left right => left.id < right.id
  mem_iff : ∀ attr, attr ∈ records ↔ record? groups outcomes attr.id = some attr

def IsId (groups : AttributeGroups) (id : String) : Prop :=
  id ∈ builtinIds ∨ id ∈ (walk groups).map Attribute.id

def Clash (groups : AttributeGroups) (first second : String) : Prop :=
  IsId groups first ∧ IsId groups second ∧ first ≠ second ∧ safeName first = safeName second

def failuresOf (outcomes : List (String × Except Failure Enumerations)) : List Failure :=
  outcomes.filterMap fun outcome =>
    match outcome.2 with
    | .ok _ => none
    | .error failure => some (.partialMetadata outcome.1 failure.message)

/-- Builtin attributes with records in their places, and the other records after them. -/
def published (groups : AttributeGroups) (outcomes : List (String × Except Failure Enumerations))
    (records : List Attribute) : List Attribute :=
  (Attribute.builtin.map fun attr => (record? groups outcomes attr.id).getD attr) ++
    withoutIds builtinIds records

/-! ## Gathered records -/

theorem id_withValues (values : Option (List String)) (attr : Attribute) :
    (withValues values attr).id = attr.id := by
  cases values <;> rfl

theorem id_of_record? {groups : AttributeGroups}
    {outcomes : List (String × Except Failure Enumerations)} {id : String} {attr : Attribute}
    (found : record? groups outcomes id = some attr) : attr.id = id := by
  obtain ⟨record, last, rfl⟩ := Option.map_eq_some_iff.1 found
  rw [id_withValues, id_of_lastRecord? last]

theorem enumerate_eq (outcomes : List (String × Except Failure Enumerations)) (attr : Attribute) :
    enumerate (enumerations outcomes) attr = withValues (lastValues? outcomes attr.id) attr := by
  rw [enumerate, find?_enumerations]
  cases lastValues? outcomes attr.id <;> rfl

theorem isMerge_ofOutcomes (groups : AttributeGroups)
    (outcomes : List (String × Except Failure Enumerations)) :
    IsMerge groups outcomes (ofOutcomes groups outcomes).attributes where
  ascending := by
    rw [ofOutcomes, List.pairwise_map]
    apply (ascending_mergeGroups groups).imp
    intro left right less
    rw [enumerate_eq, enumerate_eq, id_withValues, id_withValues]
    exact less
  mem_iff := by
    intro attr
    rw [ofOutcomes, record?, Option.map_eq_some_iff]
    constructor
    · intro member
      obtain ⟨record, isRecord, rfl⟩ := List.mem_map.1 member
      rw [enumerate_eq, id_withValues]
      exact ⟨record, mem_mergeGroups_iff.1 isRecord, rfl⟩
    · rintro ⟨record, last, same⟩
      have sameId := id_of_lastRecord? last
      apply List.mem_map.2
      refine ⟨record, mem_mergeGroups_iff.2 (sameId ▸ last), ?_⟩
      rw [enumerate_eq, sameId, same]

theorem failures_ofOutcomes (groups : AttributeGroups)
    (outcomes : List (String × Except Failure Enumerations)) :
    (ofOutcomes groups outcomes).failures = failuresOf outcomes := by
  rw [failures, ofOutcomes, missingOf, List.map_filterMap, failuresOf]
  congr 1
  funext outcome
  cases outcome.2 <;> rfl

section

variable {σ : Type} {source : MetadataSource σ} {state last : σ}
  {outcomes : List (String × Except Failure Enumerations)}

theorem asked_iff {groups : List String} :
    Asked source groups state outcomes last ↔
      fetchGroups source groups state = (outcomes, last) := by
  constructor
  · intro asked
    induction asked with
    | nil state => rfl
    | cons answers _ inductionHypothesis => simp only [fetchGroups, answers, inductionHypothesis]
  · intro fetched
    induction groups generalizing state outcomes with
    | nil =>
      cases fetched
      exact .nil last
    | cons group rest inductionHypothesis =>
      cases fetched
      exact .cons rfl (inductionHypothesis rfl)

theorem Asked.names {groups : List String} (asked : Asked source groups state outcomes last) :
    outcomes.map Prod.fst = groups := by
  induction asked with
  | nil state => rfl
  | cons _ _ inductionHypothesis => rw [List.map_cons, inductionHypothesis]

theorem enumerated_iff {groups : AttributeGroups} {config : Except Failure Enumerations}
    {others : List (String × Except Failure Enumerations)} :
    Enumerated source groups state ((configGroup, config) :: others) last ↔
      (source.enumerationConfig state).1 = config ∧
        fetchGroups source groups.keys (source.enumerationConfig state).2 = (others, last) := by
  constructor
  · rintro ⟨answers, asked⟩
    rw [answers]
    exact ⟨rfl, asked_iff.1 asked⟩
  · rintro ⟨rfl, fetched⟩
    exact .intro rfl (asked_iff.2 fetched)

theorem Enumerated.names {groups : AttributeGroups}
    (enumerated : Enumerated source groups state outcomes last) :
    outcomes.map Prod.fst = configGroup :: groups.keys := by
  obtain ⟨_, asked⟩ := enumerated
  rw [List.map_cons, asked.names]

theorem Enumerated.unique {groups : AttributeGroups} {other : σ}
    {others : List (String × Except Failure Enumerations)}
    (enumerated : Enumerated source groups state outcomes last)
    (enumeratedOther : Enumerated source groups state others other) :
    outcomes = others ∧ last = other := by
  obtain ⟨answers, asked⟩ := enumerated
  obtain ⟨configured, fetched⟩ := enumerated_iff.1 (.intro answers asked)
  obtain ⟨answersOther, askedOther⟩ := enumeratedOther
  obtain ⟨configuredOther, fetchedOther⟩ := enumerated_iff.1 (.intro answersOther askedOther)
  obtain ⟨rfl, rfl⟩ := Prod.mk.inj (fetched.symm.trans fetchedOther)
  exact ⟨by rw [← configured, configuredOther], rfl⟩

theorem exists_enumerated (source : MetadataSource σ) (groups : AttributeGroups) (state : σ) :
    ∃ outcomes last, Enumerated source groups state outcomes last :=
  ⟨_, _, enumerated_iff.2 ⟨rfl, rfl⟩⟩

end

namespace IsMerge

variable {groups : AttributeGroups} {outcomes : List (String × Except Failure Enumerations)}
  {records : List Attribute}

theorem nodup (merge : IsMerge groups outcomes records) : (records.map Attribute.id).Nodup := by
  apply List.pairwise_map.2
  apply merge.ascending.imp
  intro left right less same
  rw [same] at less
  exact String.lt_irrefl right.id less

theorem find? (merge : IsMerge groups outcomes records) (id : String) :
    records.find? (fun attr => attr.id = id) = record? groups outcomes id := by
  cases found : records.find? (fun attr => attr.id = id) with
  | some attr =>
    have same : attr.id = id := by simpa using List.find?_some found
    rw [← same, (merge.mem_iff attr).1 (List.mem_of_find?_eq_some found)]
  | none =>
    cases record : record? groups outcomes id with
    | none => rfl
    | some attr =>
      have same := id_of_record? record
      have member := (merge.mem_iff attr).2 (same.symm ▸ record)
      have differs := List.find?_eq_none.1 found attr member
      rw [same] at differs
      exact absurd rfl (of_decide_eq_false (Bool.eq_false_iff.2 differs))

theorem mergeAttributes_eq (merge : IsMerge groups outcomes records) :
    mergeAttributes (Attribute.builtin ++ records) = published groups outcomes records := by
  have builtin : mergeAttributes Attribute.builtin = Attribute.builtin := by decide
  have distinct : (Attribute.builtin.map Attribute.id).Nodup := by decide
  have places : latest records =
      fun attr => (record? groups outcomes attr.id).getD attr := by
    funext attr
    rw [latest, merge.find?]
  rw [mergeAttributes] at builtin
  rw [mergeAttributes, List.foldl_append, builtin, foldl_mergeAttribute distinct merge.nodup,
    places, published, builtinIds]

theorem mem_map_id_iff (merge : IsMerge groups outcomes records) (id : String) :
    id ∈ records.map Attribute.id ↔ id ∈ (walk groups).map Attribute.id := by
  have absent : lastRecord? (walk groups) id = none ↔ id ∉ (walk groups).map Attribute.id :=
    lastRecord?_eq_none_iff
  constructor
  · intro member
    obtain ⟨attr, isRecord, rfl⟩ := List.mem_map.1 member
    obtain ⟨record, last, _⟩ := Option.map_eq_some_iff.1 ((merge.mem_iff attr).1 isRecord)
    apply Classical.byContradiction
    intro missing
    rw [absent.2 missing] at last
    exact Option.some_ne_none record last.symm
  · intro reported
    cases last : lastRecord? (walk groups) id with
    | none => exact absurd reported (absent.1 last)
    | some record =>
      obtain ⟨attr, found⟩ : ∃ attr, record? groups outcomes id = some attr :=
        ⟨_, by rw [record?, last, Option.map_some]⟩
      have same := id_of_record? found
      have member := (merge.mem_iff attr).2 (same.symm ▸ found)
      exact List.mem_map.2 ⟨attr, member, same⟩

theorem mem_ids_iff (merge : IsMerge groups outcomes records) (id : String) :
    id ∈ (published groups outcomes records).map Attribute.id ↔ IsId groups id := by
  have places : (Attribute.builtin.map fun attr =>
      (record? groups outcomes attr.id).getD attr).map Attribute.id = builtinIds := by
    rw [List.map_map, builtinIds]
    apply List.map_congr_left
    intro attr _
    cases record : record? groups outcomes attr.id with
    | none => simp [record]
    | some other => simp [record, id_of_record? record]
  rw [published, List.map_append, List.mem_append, places, IsId, ← merge.mem_map_id_iff]
  by_cases builtin : id ∈ builtinIds
  · simp [builtin]
  · simp only [builtin, false_or, withoutIds, List.mem_map, List.mem_filter]
    constructor
    · rintro ⟨attr, ⟨member, _⟩, same⟩
      exact ⟨attr, member, same⟩
    · rintro ⟨attr, member, same⟩
      exact ⟨attr, ⟨member, by simpa [same] using builtin⟩, same⟩

end IsMerge

end Gathered

namespace Registry

open Gathered

variable {σ : Type}

theorem fetch_failed {source : MetadataSource σ} {state next : σ} {failure : Failure}
    (failed : source.attributeGroups state = (.error failure, next)) :
    (Gathered.fetch source state).1 = .error failure := by
  simp only [fetch, failed]

theorem fetch_ok {source : MetadataSource σ} {state next last : σ} {groups : AttributeGroups}
    {outcomes : List (String × Except Failure Enumerations)}
    (reported : source.attributeGroups state = (.ok groups, next))
    (enumerated : Enumerated source groups next outcomes last) :
    Gathered.fetch source state = (.ok (.ofOutcomes groups outcomes), last) := by
  obtain ⟨answers, asked⟩ := enumerated
  simp only [fetch, reported, answers, asked_iff.1 asked]

theorem refresh_eq (source : MetadataSource σ) (registry : Registry) (state : σ) :
    (refresh source (registry, state)).1 =
        (settle (Gathered.fetch source state).1 registry).1 ∧
      (refresh source (registry, state)).2.1 =
        (settle (Gathered.fetch source state).1 registry).2 :=
  ⟨rfl, rfl⟩

theorem build_of_isMerge {groups : AttributeGroups}
    {outcomes : List (String × Except Failure Enumerations)} {records : List Attribute}
    (merge : IsMerge groups outcomes records) :
    (∃ schema, Schema.build (Attribute.builtin ++ records) = .ok schema ∧
        schema.attributes = published groups outcomes records ∧
        ∀ left right, ¬ Clash groups left right) ∨
      ∃ first second, Clash groups first second ∧
        Schema.build (Attribute.builtin ++ records) =
          .error (.nameCollision (safeName second) first second) := by
  have cases := Schema.build_cases (Attribute.builtin ++ records)
  rw [merge.mergeAttributes_eq] at cases
  rcases cases with ⟨names, built, knows⟩ | ⟨first, second, collision, failed⟩
  · refine .inl ⟨_, built, rfl, ?_⟩
    rintro left right ⟨isLeft, isRight, differ, same⟩
    have leftMember := (merge.mem_ids_iff left).2 isLeft
    have rightMember := (merge.mem_ids_iff right).2 isRight
    exact differ (knows.apart left leftMember right rightMember same)
  · have isFirst := (merge.mem_ids_iff first).1 collision.mem_first
    have isSecond := (merge.mem_ids_iff second).1 collision.mem_second
    exact .inr ⟨first, second, ⟨isFirst, isSecond, collision.differ, collision.same⟩, failed⟩

/-- A refresh publishes the merge of what is reported and enumerated. Without attributes, or with
two ids that have one safe name, it fails and publishes nothing. -/
theorem refresh_publishes (source : MetadataSource σ) (registry : Registry) (state : σ) :
    (∀ failure next, source.attributeGroups state = (.error failure, next) →
      (refresh source (registry, state)).1 = .error failure ∧
        Same registry (refresh source (registry, state)).2.1) ∧
    ∀ groups next, source.attributeGroups state = (.ok groups, next) →
      ∃ outcomes last, Enumerated source groups next outcomes last ∧
      (refresh source (registry, state)).2.2 = last ∧
      outcomes.map Prod.fst = configGroup :: groups.keys ∧
      ((∃ left right, Clash groups left right) →
        ∃ first second, Clash groups first second ∧
          (refresh source (registry, state)).1 =
            .error (.nameCollision (safeName second) first second) ∧
          Same registry (refresh source (registry, state)).2.1) ∧
      ((∀ left right, ¬ Clash groups left right) →
        ∃ records schema, IsMerge groups outcomes records ∧
          schema.attributes = published groups outcomes records ∧
          Advanced registry (refresh source (registry, state)).2.1 schema ∧
          (refresh source (registry, state)).1 = .ok {
            version := registry.version + 1
            attributeCount := schema.attributes.length
            enumeratedCount := (records.filter fun record => !record.enumeration.isEmpty).length
            failures := failuresOf outcomes }) := by
  obtain ⟨outcomeEq, registryEq⟩ := refresh_eq source registry state
  rw [outcomeEq, registryEq]
  refine ⟨?_, ?_⟩
  · intro failure next failed
    rw [fetch_failed failed]
    exact settle_failed failure registry
  · intro groups next reported
    obtain ⟨outcomes, last, enumerated⟩ := exists_enumerated source groups next
    have fetched := fetch_ok reported enumerated
    have left : (refresh source (registry, state)).2.2 = last := congrArg Prod.snd fetched
    rw [fetched]
    have merge := isMerge_ofOutcomes groups outcomes
    refine ⟨outcomes, last, enumerated, left, enumerated.names, ?_, ?_⟩
    · rintro ⟨left, right, clash⟩
      rcases build_of_isMerge merge with ⟨schema, _, _, apart⟩ | ⟨first, second, collision, failed⟩
      · exact absurd clash (apart left right)
      · obtain ⟨outcome, same⟩ := settle_error failed registry
        exact ⟨first, second, collision, outcome, same⟩
    · intro apart
      rcases build_of_isMerge merge with ⟨schema, built, attributes, _⟩ | ⟨first, second, clash, _⟩
      · obtain ⟨outcome, advanced⟩ := settle_ok built registry
        refine ⟨_, schema, merge, attributes, advanced, ?_⟩
        rw [outcome, reportOf, failures_ofOutcomes]
        rfl
      · exact absurd clash (apart first second)

def tiringGroups : AttributeGroups :=
  .ofList [("a", .ofList [("x", .plain "x" .string)]), ("b", .ofList [("y", .plain "y" .string)])]

/-- A source that keeps for what it was asked, and has no enumerations after the second time. -/
def tiring : MetadataSource (List String) where
  attributeGroups asked := (.ok tiringGroups, asked)
  enumerationConfig asked := (.ok (.ofList [("x", ["1"]), ("y", ["0"])]), asked ++ [configGroup])
  groupEnumerations group asked :=
    (if asked.length < 2 then .ok (.ofList [("x", [group])])
      else .error (.request (.enumerationsUnavailable group)), asked ++ [group])
  localCatalogId asked := (.ok "local", asked)

theorem refresh_publishes_tiring :
    ∃ outcomes records, Enumerated tiring tiringGroups [] outcomes [configGroup, "a", "b"] ∧
      IsMerge tiringGroups outcomes records ∧
      failuresOf outcomes = [.partialMetadata "b"
        "Catalog backend request failed: enumerations for 'b' unavailable"] ∧
      (refresh tiring (.new, [])).2.1.current.schema.attributes =
        published tiringGroups outcomes records ∧
      (published tiringGroups outcomes records).map Attribute.enumeration =
        [[], [], [], [], [], [], ["a"], ["0"]] := by
  obtain ⟨outcomes, last, enumerated, left, -, clashes, publishes⟩ :=
    (refresh_publishes tiring .new []).2 tiringGroups [] rfl
  have lastEq : (refresh tiring (.new, [])).2.2 = [configGroup, "a", "b"] := by rfl
  obtain rfl := left.symm.trans lastEq
  obtain ⟨report, reported⟩ : ∃ report, (refresh tiring (.new, [])).1 = .ok report := ⟨_, rfl⟩
  have apart : ∀ left right, ¬ Clash tiringGroups left right := by
    intro left right clash
    obtain ⟨_, _, _, failed, _⟩ := clashes ⟨left, right, clash⟩
    exact nomatch reported.symm.trans failed
  obtain ⟨records, schema, merge, attributes, advanced, told⟩ := publishes apart
  have current : (refresh tiring (.new, [])).2.1.current.schema.attributes =
      published tiringGroups outcomes records := by
    rw [advanced.current, attributes]
  refine ⟨outcomes, records, enumerated, merge, ?_, current, ?_⟩
  · exact (congrArg RefreshReport.failures (Except.ok.inj told)).symm
  · rw [← current]
    decide

end Registry

end Metacard
