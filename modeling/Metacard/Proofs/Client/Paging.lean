import Metacard.Proofs.Client.InMemory
/-!
# Pages of a catalog

A query of the catalog in memory gives the page that its settings ask for: the metacards from the
first place on, as many as the page holds, out of the listing of all metacards in ascending order of
id. Pages of one size, asked for one after the other, come to the listing itself.
-/

set_option autoImplicit false

namespace Metacard

/-- The metacards of a catalog with the ids under which they are stored, in ascending order of
id. -/
structure Store.Lists (store : Store) (listing : List (String × Table Json)) : Prop where
  ascending : Ascending listing
  stored : ∀ id card, (id, card) ∈ listing ↔ store.find? id = some card

def Record.sent? (record : Record) : Option Json :=
  record.metacard.member? "properties"

/-- The settings for the page of this size with this number; pages are numbered from 0. -/
def Settings.ofPage (settings : Settings) (size number : Nat) : Settings :=
  { settings with count := some size, start := some (1 + number * size) }

def Client.pages {σ : Type} (deployment : Deployment σ) (criterion : Criterion)
    (settings : Settings) (size : Nat) : List Nat → Call (Client σ) (List QueryResult)
  | [], client => (.ok [], client)
  | number :: rest, client =>
      match query deployment criterion (settings.ofPage size number) client with
      | (.ok result, next) =>
          let (results, last) := pages deployment criterion settings size rest next
          (results.map (result :: ·), last)
      | (.error failure, next) => (.error failure, next)

namespace Store

theorem Lists.eq_entries {store : Store} {listing : List (String × Table Json)}
    (lists : store.Lists listing) : store.cards.entries = listing := by
  have same : store.cards = ⟨listing, lists.ascending⟩ := by
    apply Table.ext_find?
    intro id
    apply Option.ext
    intro card
    refine Iff.trans ?_ Table.mem_entries_iff
    exact (lists.stored id card).symm
  exact congrArg Table.entries same

theorem lists_entries (store : Store) : store.Lists store.cards.entries where
  ascending := store.cards.ascending
  stored := fun _ _ => Table.mem_entries_iff

theorem page_map {α β : Type} (f : α → β) (settings : Settings) (listing : List α) :
    page settings (listing.map f) = (page settings listing).map f := by
  rw [page, page]
  cases settings.count with
  | none => simp only [List.map_drop]
  | some count => simp only [List.map_drop, List.map_take]

/-- On a page stands what the listing has from the first place of the page on, as far as the page
goes. -/
theorem getElem?_page {α : Type} (settings : Settings) (listing : List α) (place : Nat) :
    (page settings listing)[place]? =
      if ∀ count ∈ settings.count, (place : Int) < count then
        listing[(settings.start.getD 1 - 1).toNat + place]?
      else none := by
  rw [page]
  cases settings.count with
  | none => simp
  | some count => simp [List.getElem?_take]

theorem page_ofPage {α : Type} (settings : Settings) (size number : Nat) (listing : List α) :
    page (settings.ofPage size number) listing = (listing.drop (number * size)).take size := by
  have skipped : ((1 + (number : Int) * size) - 1).toNat = number * size := by
    rw [Int.add_comm, Int.add_sub_cancel]
    exact Int.toNat_natCast (number * size)
  simp only [page, Settings.ofPage, Option.getD_some, skipped, Int.toNat_natCast]

theorem flatMap_range_pages {α : Type} (listing : List α) (size number : Nat) :
    (List.range number).flatMap (fun i => (listing.drop (i * size)).take size) =
      listing.take (number * size) := by
  induction number with
  | zero => simp
  | succ number inductionHypothesis =>
    rw [List.range_succ, List.flatMap_append, inductionHypothesis, List.flatMap_singleton,
      Nat.succ_mul, List.take_add]

def shown (result : QueryResult) : List (Option Json) :=
  result.records.map Record.sent?

def shownOf (listing : List (String × Table Json)) : List (Option Json) :=
  listing.map fun entry => some (.ofTable entry.2)

theorem length_shownOf (listing : List (String × Table Json)) :
    (shownOf listing).length = listing.length :=
  List.length_map _

theorem shown_answer (store : Store) (settings : Settings) (number : Nat) :
    shown (store.answer settings number) = page settings (shownOf store.cards.entries) := by
  rw [shown, answer, Table.values, page_map, shownOf, page_map, List.map_map, List.map_map]
  rfl

end Store

namespace Client

/-! ## Pages one after the other -/

theorem assemble_ofPage {criterion : Criterion} {text : String} (hasText : criterion.HasText text)
    (config : Config) (settings : Settings) (size number : Nat) :
    Request.assemble criterion (effectiveSettings config (settings.ofPage size number)) =
      .ok ⟨text, settings.ofPage size number⟩ := by
  have inBounds : (settings.ofPage size number).InBounds := by
    constructor
    · have product : 0 ≤ (number : Int) * size := Int.natCast_nonneg (number * size)
      simp only [Settings.ofPage, Option.mem_some_iff, forall_eq']
      omega
    · simp [Settings.ofPage]
  exact Request.assemble_eq_ok_iff.2 ⟨inBounds, hasText, rfl⟩

theorem pages_inMemory (metadata : MetadataSource Store) (config : Config) {criterion : Criterion}
    {text : String} (hasText : criterion.HasText text) (settings : Settings) (size : Nat)
    {listing : List (String × Table Json)} (numbers : List Nat) :
    ∀ {client : Client Store}, client.catalog.prepared = [] →
      client.catalog.cards.entries = listing →
        ∃ results after,
          pages (.inMemory metadata config) criterion settings size numbers client =
            (.ok results, after) ∧
          results.map Store.shown = numbers.map fun number =>
            ((Store.shownOf listing).drop (number * size)).take size := by
  -- On the pages still to be asked for, from whatever client asks for them.
  induction numbers with
  | nil =>
    intro client _ _
    exact ⟨[], client, rfl, rfl⟩
  | cons number rest inductionHypothesis =>
    intro client unprepared entries
    obtain ⟨place, next, asked, cards, stillUnprepared⟩ := exists_query_inMemory metadata
      (assemble_ofPage hasText config settings size number) unprepared
    obtain ⟨results, last, others, found⟩ := inductionHypothesis stillUnprepared (cards ▸ entries)
    refine ⟨client.catalog.answer (settings.ofPage size number) place :: results, last, ?_, ?_⟩
    · rw [pages, asked]
      simp only [others]
      rfl
    · rw [List.map_cons, List.map_cons, found, Store.shown_answer, Store.page_ofPage, entries]

/-- A query of the catalog in memory tells how many metacards there are, and gives those that stand
on the page that is asked for, place by place and as they are stored. Pages of one size come to the
listing of all metacards: so many of them as it takes hold every metacard once, and all later ones
are empty. -/
theorem pages_of_listing (metadata : MetadataSource Store) (config : Config)
    {client : Client Store} (unprepared : client.catalog.prepared = [])
    {listing : List (String × Table Json)} (lists : client.catalog.Lists listing)
    {criterion : Criterion} {settings : Settings} {request : Request}
    (assembled : Request.assemble criterion (effectiveSettings config settings) = .ok request) :
    (∃ result after,
      query (.inMemory metadata config) criterion settings client = (.ok result, after) ∧
      result.status.hits = listing.length ∧
      result.status.count = result.records.length ∧
      ∀ place : Nat, (Store.shown result)[place]? =
        if ∀ count ∈ settings.count.or config.defaultCount, (place : Int) < count then
          (Store.shownOf listing)[(settings.start.getD 1 - 1).toNat + place]?
        else none) ∧
    ∀ size number, ∃ results after,
      pages (.inMemory metadata config) criterion settings size (List.range number) client =
        (.ok results, after) ∧
      results.length = number ∧
      results.flatMap Store.shown = (Store.shownOf listing).take (number * size) ∧
      (listing.length ≤ number * size → results.flatMap Store.shown = Store.shownOf listing) ∧
      ∀ place result, results[place]? = some result → listing.length ≤ place * size →
        result.records = [] := by
  have entries := lists.eq_entries
  obtain ⟨-, hasText, sent⟩ := Request.assemble_eq_ok_iff.1 assembled
  rw [effectiveSettings_eq] at sent
  refine ⟨?_, fun size number => ?_⟩
  · obtain ⟨_, after, asked, -, -⟩ := exists_query_inMemory metadata assembled unprepared
    refine ⟨_, after, asked, ?_, ?_, fun place => ?_⟩
    · simp [Store.answer, Table.values, entries]
    · simp [Store.answer]
    · rw [Store.shown_answer, entries, Store.getElem?_page, sent]
  · obtain ⟨results, after, asked, found⟩ :=
      pages_inMemory metadata config hasText settings size (List.range number) unprepared entries
    have length : results.length = number := by
      simpa using congrArg List.length found
    have joined : results.flatMap Store.shown = (Store.shownOf listing).take (number * size) := by
      rw [List.flatMap_def, found, ← List.flatMap_def, Store.flatMap_range_pages]
    refine ⟨results, after, asked, length, joined, fun enough => ?_, ?_⟩
    · rw [← Store.length_shownOf] at enough
      rw [joined, List.take_of_length_le enough]
    · intro place result isResult late
      obtain ⟨isPlace, -⟩ := List.getElem?_eq_some_iff.1 isResult
      rw [length] at isPlace
      rw [← Store.length_shownOf] at late
      have shown : Store.shown result =
          ((Store.shownOf listing).drop (place * size)).take size := by
        simpa [isResult, List.getElem?_range isPlace] using congrArg (·[place]?) found
      rw [List.drop_of_length_le late, List.take_nil] at shown
      exact List.map_eq_nil_iff.1 shown

def threefold : Client Store :=
  .new (((Store.empty.insert (.ofList [("id", .text "m3")])).2.insert
    (.ofList [("id", .text "m1")])).2.insert (.ofList [("id", .text "m2")])).2

/-- With two metacards on a page by default, a query from the third place on gives the last metacard
alone, and two pages come to all three. -/
theorem pages_of_listing_threefold :
    let config := { Config.standard with defaultCount := some 2 }
    let deployment : Deployment Store := .inMemory Store.metadata config
    let settings := Settings.unset.withStart 3
    let card (id : String) : Option Json := some (.object [("id", .text id)])
    threefold.catalog.prepared = [] ∧
      threefold.catalog.Lists threefold.catalog.cards.entries ∧
      Request.assemble (.tree .matchAll) (effectiveSettings config settings) =
        .ok ⟨"(anyText ILIKE '%')", settings.withCount 2⟩ ∧
      (∃ result after, query deployment (.tree .matchAll) settings threefold =
          (.ok result, after) ∧
        result.status.hits = 3 ∧
        (Store.shown result)[0]? = some (card "m3") ∧ (Store.shown result)[1]? = none) ∧
      ∃ results after, pages deployment (.tree .matchAll) settings 2 [0, 1] threefold =
          (.ok results, after) ∧
        results.flatMap Store.shown = [card "m1", card "m2", card "m3"] := by
  intro config deployment settings card
  have unprepared : threefold.catalog.prepared = [] := rfl
  have lists := Store.lists_entries threefold.catalog
  have assembled : Request.assemble (.tree .matchAll) (effectiveSettings config settings) =
      .ok ⟨"(anyText ILIKE '%')", settings.withCount 2⟩ := by rfl
  obtain ⟨⟨result, after, asked, hits, -, places⟩, paged⟩ :=
    pages_of_listing Store.metadata config unprepared lists assembled
  obtain ⟨results, last, askedPages, -, -, whole, -⟩ := paged 2 2
  exact ⟨unprepared, lists, assembled,
    ⟨result, after, asked, hits, (places 0).trans (by decide), (places 1).trans (by decide)⟩,
    results, last, askedPages, whole (by decide)⟩

end Client

end Metacard
