import Mathlib.Algebra.BigOperators.Group.Finset.Basic
import Mathlib.Data.List.Induction
import Metacard.Proofs.Client.InMemory
import Metacard.Proofs.Json.Text
/-!
# Facets count values

The facet of an attribute has one bucket for each value that the stored metacards have for the
attribute, with the number of times that they have it. The most frequent values come first, and
equally frequent ones in the order of their texts. It does not matter which page is asked for.
-/

set_option autoImplicit false

namespace Metacard

/-- Where the items come in some order, those of one rank keep it when the greatest ranks are put
first. -/
theorem pairwise_mergeSort_rank {α : Type} {R : α → α → Prop} (rank : α → Nat) {items : List α}
    (ordered : items.Pairwise R) :
    (items.mergeSort fun left right => decide (rank right ≤ rank left)).Pairwise
      fun left right => rank right < rank left ∨ (rank right = rank left ∧ R left right) := by
  have trans : ∀ a b c : α, decide (rank b ≤ rank a) = true → decide (rank c ≤ rank b) = true →
      decide (rank c ≤ rank a) = true := by
    simp only [decide_eq_true_eq]
    omega
  have total : ∀ a b : α, (decide (rank b ≤ rank a) || decide (rank a ≤ rank b)) = true := by
    simp only [Bool.or_eq_true, decide_eq_true_eq]
    omega
  have descending := List.pairwise_mergeSort trans total items
  -- The items of one rank are in order as they are, so that sorting leaves them as they are.
  have kept (level : Nat) :
      (items.mergeSort fun left right => decide (rank right ≤ rank left)).filter
        (fun item => rank item = level) = items.filter fun item => rank item = level := by
    have sameRank : (items.filter fun item => rank item = level).Pairwise
        fun left right => decide (rank right ≤ rank left) = true := by
      apply List.pairwise_of_forall_mem_list
      simp only [List.mem_filter, decide_eq_true_eq]
      omega
    have sublist := (List.sublist_mergeSort trans total sameRank List.filter_sublist).filter
      fun item => rank item = level
    simp only [List.filter_filter, Bool.and_self] at sublist
    exact (sublist.eq_of_length ((List.mergeSort_perm items _).filter _).length_eq.symm).symm
  rw [List.pairwise_iff_forall_sublist] at descending ⊢
  intro left right sublist
  have notAbove := of_decide_eq_true (descending sublist)
  rcases Nat.lt_or_eq_of_le notAbove with below | same
  · exact .inl below
  · have ofRank := sublist.filter fun item => rank item = rank left
    rw [kept, List.filter_cons_of_pos (by simp), List.filter_cons_of_pos (by simp [same]),
      List.filter_nil] at ofRank
    have inOrder := List.pairwise_iff_forall_sublist.1 (ordered.filter _) ofRank
    exact .inr ⟨same, inOrder⟩

namespace Store

/-- How often a metacard has a value for an attribute: each item of a list is had, and any other
value itself; null is no value. -/
def timesIn (property : String) (value : Json) (card : Table Json) : Nat :=
  match card.find? property with
  | none | some .null => 0
  | some (.array items) => items.count value
  | some single => if single = value then 1 else 0

def valuesIn (property : String) (card : Table Json) : Nat :=
  match card.find? property with
  | none | some .null => 0
  | some (.array items) => items.length
  | some _ => 1

/-- The buckets count the values of an attribute: there is a bucket for just the values that
metacards have. -/
structure IsFacet (property : String) (cards : List (Table Json)) (buckets : List FacetBucket) :
    Prop where
  distinct : (buckets.map FacetBucket.value).Nodup
  mem_iff : ∀ value count, ⟨value, count⟩ ∈ buckets ↔
    0 < count ∧ count = (cards.map (timesIn property value)).sum
  total : (buckets.map FacetBucket.count).sum = (cards.map (valuesIn property)).sum
  ordered : buckets.Pairwise fun left right => right.count < left.count ∨
    (right.count = left.count ∧ left.value.render < right.value.render)

theorem count_facetValues (property : String) (value : Json) (card : Table Json) :
    (facetValues property card).count value = timesIn property value card := by
  rw [facetValues, timesIn]
  cases card.find? property with
  | none => rfl
  | some found => cases found <;> simp [List.count_singleton]

theorem length_facetValues (property : String) (card : Table Json) :
    (facetValues property card).length = valuesIn property card := by
  rw [facetValues, valuesIn]
  cases card.find? property with
  | none => rfl
  | some found => cases found <;> rfl

/-! ## Counting -/

/-- Under the text of each value that there is stands the value with its number. -/
def Tallies (counts : Table (Json × Nat)) (values : List Json) : Prop :=
  ∀ key counted, counts.find? key = some counted ↔
    counted.1.render = key ∧ counted.1 ∈ values ∧ counted.2 = values.count counted.1

theorem tallies_empty : Tallies .empty [] := by
  intro key counted
  simp

theorem Tallies.getD_find? {counts : Table (Json × Nat)} {values : List Json}
    (tallies : Tallies counts values) (value : Json) :
    (counts.find? value.render).getD (value, 0) = (value, values.count value) := by
  cases found : counts.find? value.render with
  | some counted =>
    obtain ⟨sameText, -, isCount⟩ := (tallies value.render counted).1 found
    have same := Json.render_injective sameText
    exact Prod.ext same (isCount.trans (congrArg values.count same))
  | none =>
    have absent : value ∉ values := by
      intro member
      have present := (tallies value.render (value, values.count value)).2 ⟨rfl, member, rfl⟩
      rw [found] at present
      cases present
    rw [Option.getD_none, List.count_eq_zero.2 absent]

theorem Tallies.countValue {counts : Table (Json × Nat)} {values : List Json}
    (tallies : Tallies counts values) (value : Json) :
    Tallies (countValue counts value) (values ++ [value]) := by
  intro key counted
  rw [Store.countValue, tallies.getD_find?]
  by_cases isKey : key = value.render
  · subst isKey
    rw [Table.find?_insert_self]
    constructor
    · intro same
      obtain rfl := Option.some.inj same
      simp
    · rintro ⟨sameText, -, isCount⟩
      have same := Json.render_injective sameText
      rw [same] at isCount
      rw [Option.some.injEq, eq_comm]
      exact Prod.ext same (isCount.trans (by simp))
  · rw [Table.find?_insert_of_ne _ _ isKey, tallies]
    constructor
    · rintro ⟨rfl, member, isCount⟩
      have differs : counted.1 ≠ value := fun same => isKey (congrArg Json.render same)
      have notLast : [value].count counted.1 = 0 := by simp [differs.symm]
      exact ⟨rfl, List.mem_append_left _ member, by rw [List.count_append, notLast, isCount]; rfl⟩
    · rintro ⟨rfl, member, isCount⟩
      have differs : counted.1 ≠ value := fun same => isKey (congrArg Json.render same)
      have notLast : [value].count counted.1 = 0 := by simp [differs.symm]
      rw [List.count_append, notLast, Nat.add_zero] at isCount
      exact ⟨rfl, by simpa [differs] using member, isCount⟩

theorem tallies_foldl (values : List Json) :
    Tallies (values.foldl Store.countValue .empty) values := by
  induction values using List.reverseRecOn with
  | nil => exact tallies_empty
  | append_singleton earlier value inductionHypothesis =>
    rw [List.foldl_append]
    exact inductionHypothesis.countValue value

section

variable {counts : Table (Json × Nat)} {values : List Json} (tallies : Tallies counts values)

include tallies

theorem Tallies.mem_values_iff (counted : Json × Nat) :
    counted ∈ counts.values ↔ counted.1 ∈ values ∧ counted.2 = values.count counted.1 := by
  rw [Table.mem_values_iff]
  constructor
  · rintro ⟨key, found⟩
    exact ((tallies key counted).1 found).2
  · intro isCounted
    exact ⟨counted.1.render, (tallies _ counted).2 ⟨rfl, isCounted⟩⟩

theorem Tallies.ascending :
    counts.values.Pairwise fun left right => left.1.render < right.1.render := by
  rw [Table.values, List.pairwise_map]
  apply counts.ascending.imp_of_mem
  intro left right isLeft isRight less
  have leftText := ((tallies left.1 left.2).1 (Table.mem_entries_iff.1 isLeft)).1
  have rightText := ((tallies right.1 right.2).1 (Table.mem_entries_iff.1 isRight)).1
  rw [leftText, rightText]
  exact less

theorem Tallies.distinct : (counts.values.map Prod.fst).Nodup := by
  rw [List.Nodup, List.pairwise_map]
  apply tallies.ascending.imp
  intro left right less same
  rw [same] at less
  exact String.lt_irrefl _ less

theorem Tallies.total : (counts.values.map Prod.snd).sum = values.length := by
  have counted : counts.values.map Prod.snd = (counts.values.map Prod.fst).map values.count := by
    rw [List.map_map]
    apply List.map_congr_left
    intro counted member
    exact ((tallies.mem_values_iff counted).1 member).2
  have members : (counts.values.map Prod.fst).toFinset = values.toFinset := by
    ext value
    simp [tallies.mem_values_iff]
  rw [counted, ← List.sum_toFinset _ tallies.distinct, members, List.sum_toFinset_count_eq_length]

end

def facetOf (property : String) (cards : List (Table Json)) : List FacetBucket :=
  (facetBuckets cards property).map fun bucket => ⟨bucket.1, bucket.2⟩

theorem isFacet_facetOf (property : String) (cards : List (Table Json)) :
    IsFacet property cards (facetOf property cards) := by
  have tallies := tallies_foldl (cards.flatMap (facetValues property))
  have sorted : (facetBuckets cards property).Perm
      ((cards.flatMap (facetValues property)).foldl countValue .empty).values :=
    List.mergeSort_perm _ _
  have times (value : Json) : (cards.flatMap (facetValues property)).count value =
      (cards.map (timesIn property value)).sum := by
    rw [List.count_flatMap]
    exact congrArg List.sum
      (List.map_congr_left fun card _ => count_facetValues property value card)
  refine ⟨?_, fun value count => ?_, ?_, ?_⟩
  · rw [facetOf, List.map_map]
    exact (sorted.map Prod.fst).nodup_iff.2 tallies.distinct
  · have member : (⟨value, count⟩ : FacetBucket) ∈ facetOf property cards ↔
        (value, count) ∈ facetBuckets cards property := by
      rw [facetOf, List.mem_map]
      constructor
      · rintro ⟨bucket, isBucket, same⟩
        obtain ⟨rfl, rfl⟩ := FacetBucket.mk.inj same
        exact isBucket
      · intro isBucket
        exact ⟨(value, count), isBucket, rfl⟩
    rw [member, sorted.mem_iff, tallies.mem_values_iff, times, ← List.count_pos_iff, times]
    exact and_congr_left fun isCount => by rw [← isCount]
  · have values : (cards.flatMap (facetValues property)).length =
        (cards.map (valuesIn property)).sum := by
      rw [List.length_flatMap]
      exact congrArg List.sum (List.map_congr_left fun card _ => length_facetValues property card)
    rw [facetOf, List.map_map, ← values, ← tallies.total]
    exact (sorted.map Prod.snd).sum_eq
  · rw [facetOf, List.pairwise_map]
    exact pairwise_mergeSort_rank Prod.snd tallies.ascending

theorem facet?_answer (store : Store) (settings : Settings) (number : Nat) (property : String) :
    (store.answer settings number).facet? property =
      if property ∈ settings.facets then some (facetOf property store.cards.values) else none := by
  rw [QueryResult.facet?, answer]
  by_cases asked : property ∈ settings.facets
  · have nonempty : settings.facets.isEmpty = false := by
      rw [List.isEmpty_eq_false_iff_exists_mem]
      exact ⟨property, asked⟩
    simp only [nonempty, Bool.false_eq_true, if_false, Option.bind_some, if_pos asked, facetTable,
      Table.find?_ofList, ← List.map_reverse]
    exact List.lookup_graph (facetOf · store.cards.values) (List.mem_reverse.2 asked)
  · rw [if_neg asked]
    split
    · rfl
    · rw [Option.bind_some, facetTable, Table.find?_ofList, ← List.map_reverse,
        List.lookup_eq_none_iff]
      intro entry member
      obtain ⟨facet, isAsked, rfl⟩ := List.mem_map.1 member
      rw [bne_iff_ne]
      rintro rfl
      exact asked (List.mem_reverse.1 isAsked)

end Store

namespace Client

/-- Whatever a catalog in memory stores, the facet of an attribute counts the values of all stored
metacards, and every query that asks for this facet gets the same buckets, whatever its page. -/
theorem facet_counts_values (metadata : MetadataSource Store) (config : Config)
    {client : Client Store} (unprepared : client.catalog.prepared = []) (property : String) :
    ∃ buckets, Store.IsFacet property client.catalog.cards.values buckets ∧
      (∃ after, facet (.inMemory metadata config) property client = (.ok buckets, after)) ∧
      ∀ criterion settings request,
        Request.assemble criterion (effectiveSettings config settings) = .ok request →
          ∃ result after,
            query (.inMemory metadata config) criterion settings client = (.ok result, after) ∧
            result.facet? property = if property ∈ settings.facets then some buckets else none := by
  refine ⟨Store.facetOf property client.catalog.cards.values, Store.isFacet_facetOf property _,
    ?_, ?_⟩
  · let settings := (Settings.unset.withCount 0).withFacet property
    have assembled : Request.assemble (.tree .matchAll) (effectiveSettings config settings) =
        .ok ⟨"(anyText ILIKE '%')", settings⟩ := by rfl
    have asked : property ∈ settings.facets := List.mem_singleton.2 rfl
    refine ⟨_, Prod.ext ?_ rfl⟩
    show (run (.inMemory metadata config) "facet" (.tree .matchAll) settings client).1.map
      (fun result => (result.facet? property).getD []) = _
    rw [run_inMemory assembled unprepared, Except.map, Store.facet?_answer, if_pos asked,
      Option.getD_some]
  · intro criterion settings request assembled
    obtain ⟨number, after, asked, -, -⟩ := exists_query_inMemory metadata assembled unprepared
    refine ⟨_, after, asked, ?_⟩
    rw [Store.facet?_answer, (Request.assemble_eq_ok_iff.1 assembled).2.2, effectiveSettings_eq]

/-- A client of a catalog with a text, a list, null and nothing for the same attribute. -/
def assorted : Client Store :=
  .new ((((Store.empty.insert (.ofList [("id", .text "a"), ("format", .text "PDF")])).2.insert
    (.ofList [("id", .text "b"), ("format",
      .array [.null, .text "PNG", .text "PDF", .null])])).2.insert
    (.ofList [("id", .text "c"), ("format", .null)])).2.insert (.ofList [("id", .text "d")])).2

/-- The items of the list are counted one by one, null among them, and a query for the facet alone
and for one metacard gets the same buckets. -/
theorem facet_counts_values_assorted :
    let config := { Config.standard with defaultCount := some 1 }
    let settings := (Settings.unset.withFacet "format").withFacet "format"
    assorted.catalog.prepared = [] ∧
      Request.assemble (.tree .matchAll) (effectiveSettings config settings) =
        .ok ⟨"(anyText ILIKE '%')", settings.withCount 1⟩ ∧
      ∃ buckets : List FacetBucket,
        (⟨.text "PDF", 2⟩ ∈ buckets ∧ ⟨.text "PNG", 1⟩ ∈ buckets ∧ ⟨.null, 2⟩ ∈ buckets ∧
          (buckets.map FacetBucket.count).sum = 5) ∧
        (∃ after, facet (.inMemory Store.metadata config) "format" assorted =
          (.ok buckets, after)) ∧
        ∃ result after,
          query (.inMemory Store.metadata config) (.tree .matchAll) settings assorted =
            (.ok result, after) ∧
          result.facet? "format" = some buckets := by
  intro config settings
  have assembled : Request.assemble (.tree .matchAll) (effectiveSettings config settings) =
      .ok ⟨"(anyText ILIKE '%')", settings.withCount 1⟩ := by rfl
  have unprepared : assorted.catalog.prepared = [] := rfl
  obtain ⟨buckets, isFacet, counted, paged⟩ :=
    facet_counts_values Store.metadata config unprepared "format"
  obtain ⟨result, after, asked, found⟩ := paged _ settings _ assembled
  refine ⟨unprepared, assembled, buckets, ⟨?_, ?_, ?_, ?_⟩, counted, result, after, asked, found⟩
  · exact (isFacet.mem_iff _ _).2 (by decide)
  · exact (isFacet.mem_iff _ _).2 (by decide)
  · exact (isFacet.mem_iff _ _).2 (by decide)
  · exact isFacet.total.trans (by decide)

end Client

end Metacard
