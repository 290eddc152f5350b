import Metacard.Proofs.Catalog.Update
import Metacard.Proofs.Client.Create
import Metacard.Proofs.Client.Save
/-!
# Metacards under their own ids

A metacard comes to stand under the text that it has as its `id`, or gets the one under which it
comes to stand. From then on an update alone can part the two, as it can put any value under any
attribute. As long as none does, what a query shows can be had, saved and deleted by the id that it
shows.
-/

set_option autoImplicit false

namespace Metacard

namespace Store

/-- Every metacard has the id under which it is stored. -/
def Keyed (store : Store) : Prop :=
  ∀ id card, store.find? id = some card → card.find? "id" = some (.text id)

/-- What can be asked of a catalog in memory that changes its metacards. -/
inductive Change where
  | insert (properties : Table Json)
  | withMetacard (properties : Json)
  | create (request : Json)
  | update (updates : List MetacardUpdate)
  | delete (ids : List String)

def Change.apply : Change → Store → Store
  | .insert properties, store => (store.insert properties).2
  | .withMetacard properties, store => store.withMetacard properties
  | .create request, store => (Store.create request store).2
  | .update updates, store => (Store.update updates store).2
  | .delete ids, store => (Store.delete ids store).2

def afterAll (store : Store) (changes : List Change) : Store :=
  changes.foldl (fun store change => change.apply store) store

/-- The value that an attribute has after some changes, if they give it one. -/
def finalValue? (property : String) (changes : List AttributeUpdate) : Option Json :=
  (changes.map fun change => (change.property, change.value)).reverse.lookup property

/-- Whatever becomes of the `id` of a stored metacard in the end is what it was. -/
def Change.KeepsIds (store : Store) : Change → Prop
  | .update updates => ∀ id card, store.find? id = some card → ∀ value,
      finalValue? "id" (Edit.changesTo id (store.reached (Edit.ofUpdates updates))) = some value →
        value = .text id
  | .insert _ | .withMetacard _ | .create _ | .delete _ => True

theorem keyed_of_empty {store : Store} (fresh : store.cards = .empty) : store.Keyed := by
  intro id card found
  rw [find?, fresh, Table.find?_empty] at found
  cases found

theorem keyed_insert {store : Store} (keyed : store.Keyed) (properties : Table Json) :
    (store.insert properties).2.Keyed := by
  intro id card found
  rw [insert_eq, find?] at found
  by_cases same : id = (store.identified properties).1
  · subst same
    rw [Table.find?_insert_self] at found
    obtain rfl := Option.some.inj found
    exact find?_id_identified store properties
  · rw [Table.find?_insert_of_ne _ _ same] at found
    exact keyed id card found

theorem keyed_withMetacard {store : Store} (keyed : store.Keyed) (properties : Json) :
    (store.withMetacard properties).Keyed := by
  rw [withMetacard]
  cases properties.table? with
  | none => exact keyed
  | some table => exact keyed_insert keyed table

theorem keyed_insertAll (cards : List Json) :
    ∀ {store : Store}, store.Keyed → (insertAll cards store).2.Keyed := by
  induction cards with
  | nil =>
    intro store keyed
    exact keyed
  | cons card rest inductionHypothesis =>
    intro store keyed
    exact inductionHypothesis (keyed_insert keyed (requestedProperties card))

theorem keyed_create {store : Store} (keyed : store.Keyed) (request : Json) :
    (create request store).2.Keyed := by
  rw [create]
  cases (request.member? "metacards").bind Json.items? with
  | none => exact keyed
  | some cards => exact keyed_insertAll cards keyed

theorem find?_delete (ids : List String) (store : Store) (id : String) :
    (delete ids store).2.find? id = if id ∈ ids then none else store.find? id :=
  Table.find?_foldl_erase ids store.cards id

theorem keyed_delete {store : Store} (keyed : store.Keyed) (ids : List String) :
    (delete ids store).2.Keyed := by
  intro id card found
  rw [find?_delete] at found
  split at found
  · exact nomatch found
  · exact keyed id card found

theorem find?_changed (card : Table Json) (changes : List AttributeUpdate) (property : String) :
    (changed card changes).find? property =
      (finalValue? property changes).or (card.find? property) :=
  Table.find?_insertAll card _ property

theorem keyed_update_iff {store : Store} (keyed : store.Keyed) (updates : List MetacardUpdate) :
    (update updates store).2.Keyed ↔ Change.KeepsIds store (.update updates) := by
  constructor
  · intro keyedAfter id card stored value final
    have after := find?_update updates store id
    rw [stored, Option.map_some] at after
    have hasId := keyedAfter id _ after
    rw [find?_changed, final, Option.some_or] at hasId
    exact Option.some.inj hasId
  · intro keeps id cardAfter after
    rw [find?_update] at after
    obtain ⟨card, stored, rfl⟩ := Option.map_eq_some_iff.1 after
    rw [find?_changed]
    cases final : finalValue? "id"
        (Edit.changesTo id (store.reached (Edit.ofUpdates updates))) with
    | none => exact keyed id card stored
    | some value => rw [Option.some_or, keeps id card stored value final]

theorem keyed_apply_iff {store : Store} (keyed : store.Keyed) (change : Change) :
    (change.apply store).Keyed ↔ change.KeepsIds store := by
  cases change with
  | insert properties => exact iff_of_true (keyed_insert keyed properties) trivial
  | withMetacard properties => exact iff_of_true (keyed_withMetacard keyed properties) trivial
  | create request => exact iff_of_true (keyed_create keyed request) trivial
  | update updates => exact keyed_update_iff keyed updates
  | delete ids => exact iff_of_true (keyed_delete keyed ids) trivial

theorem keepsIds_of_untouched {updates : List MetacardUpdate}
    (untouched : ∀ update ∈ updates, ∀ change ∈ update.attributes, change.property ≠ "id")
    (store : Store) : Change.KeepsIds store (.update updates) := by
  intro id card _ value final
  have given := List.mem_reverse.1 (mem_of_lookup_eq_some final)
  obtain ⟨change, isChange, equal⟩ := List.mem_map.1 given
  obtain ⟨edit, isEdit, isItsChange⟩ := List.mem_flatMap.1 isChange
  have named := (List.takeWhile_sublist _).subset (List.mem_of_mem_filter isEdit)
  obtain ⟨update, isUpdate, isIts⟩ := List.mem_flatMap.1 named
  obtain ⟨_, _, rfl⟩ := List.mem_map.1 isIts
  exact absurd (congrArg Prod.fst equal) (untouched update isUpdate change isItsChange)

/-! ## Changes one after the other -/

theorem afterAll_take_succ {changes : List Change} {place : Nat} {change : Change}
    (isChange : changes[place]? = some change) (store : Store) :
    store.afterAll (changes.take (place + 1)) =
      change.apply (store.afterAll (changes.take place)) := by
  rw [afterAll, List.take_add_one, isChange, List.foldl_append]
  rfl

theorem afterAll_take_of_ended {changes : List Change} {place : Nat}
    (ended : changes[place]? = none) (store : Store) :
    store.afterAll (changes.take (place + 1)) = store.afterAll (changes.take place) := by
  rw [List.take_add_one, ended, Option.toList_none, List.append_nil]

theorem keyed_afterAll_iff {store : Store} (keyed : store.Keyed) (changes : List Change) :
    (∀ place : Nat, (store.afterAll (changes.take place)).Keyed) ↔
      ∀ (place : Nat) (change : Change), changes[place]? = some change →
        change.KeepsIds (store.afterAll (changes.take place)) := by
  constructor
  · intro always place change isChange
    rw [← keyed_apply_iff (always place), ← afterAll_take_succ isChange]
    exact always (place + 1)
  · intro keep place
    induction place with
    | zero => exact keyed
    | succ place inductionHypothesis =>
      cases isChange : changes[place]? with
      | none =>
        rw [afterAll_take_of_ended isChange]
        exact inductionHypothesis
      | some change =>
        rw [afterAll_take_succ isChange, keyed_apply_iff inductionHypothesis]
        exact keep place change isChange

theorem id?_recordOf (card : Table Json) :
    (recordOf card).id? = (card.find? "id").bind Json.text? := by
  have alone : ∀ other ∈ card.keys, safeName other = safeName "id" → other = "id" := by
    intro other _ renamed
    exact eq_of_safeName_eq renamed (by decide)
  have found : (card.rekey safeName).find? "id" = card.find? "id" :=
    Table.find?_rekey_of_alone alone
  rw [Record.id?, Record.get?, attributes_recordOf]
  exact congrArg (fun value => value.bind Json.text?) found

theorem mem_of_mem_page {α : Type} {settings : Settings} {listing : List α} {item : α}
    (member : item ∈ page settings listing) : item ∈ listing := by
  cases count : settings.count with
  | none =>
    rw [page, count] at member
    exact List.mem_of_mem_drop member
  | some count =>
    rw [page, count] at member
    exact List.mem_of_mem_drop (List.mem_of_mem_take member)

theorem Keyed.of_mem_answer {store : Store} (keyed : store.Keyed) {settings : Settings}
    {number : Nat} {record : Record} (member : record ∈ (store.answer settings number).records) :
    ∃ id card, store.find? id = some card ∧ record = recordOf card ∧ record.id? = some id := by
  obtain ⟨card, onPage, rfl⟩ := List.mem_map.1 member
  obtain ⟨id, stored⟩ := Table.mem_values_iff.1 (mem_of_mem_page onPage)
  refine ⟨id, card, stored, rfl, ?_⟩
  rw [id?_recordOf, keyed id card stored]
  rfl

end Store

namespace Client

/-- Beginning without metacards, all metacards are under their own ids all along just if no change
gives one another `id`. Clients make such changes and no others. Where metacards are under their own
ids, each record that is found can be had, saved and deleted by its id. -/
theorem keyed_iff_ids_kept {start : Store} (fresh : start.cards = .empty)
    (changes : List Store.Change) :
    ((∀ place : Nat, (start.afterAll (changes.take place)).Keyed) ↔
      ∀ (place : Nat) (change : Store.Change), changes[place]? = some change →
        change.KeepsIds (start.afterAll (changes.take place))) ∧
    ∀ (metadata : MetadataSource Store) (config : Config) (client : Client Store),
      (∀ attributes, (create (.inMemory metadata config) attributes client).2.catalog =
        Store.Change.apply (.create (createRequest client.names attributes)) client.catalog) ∧
      (∀ now id attributes, (save (.inMemory metadata config) now id attributes client).2.catalog =
        Store.Change.apply (.update [saveUpdate client.names id attributes]) client.catalog) ∧
      (∀ id, (delete (.inMemory metadata config) id client).2.catalog =
        Store.Change.apply (.delete [id]) client.catalog) ∧
      (client.catalog.Keyed → client.catalog.prepared = [] → ∀ criterion settings result,
        (query (.inMemory metadata config) criterion settings client).1 = .ok result →
          ∀ record ∈ result.records, ∃ id card, record.id? = some id ∧
            client.catalog.find? id = some card ∧
            record.metacard = .object [("properties", .ofTable card)] ∧
            (∀ now attributes, ∃ saved,
              (save (.inMemory metadata config) now id attributes client).1 = .ok saved) ∧
            ∃ after, delete (.inMemory metadata config) id client = (.ok id, after) ∧
              after.catalog.find? id = none) := by
  refine ⟨Store.keyed_afterAll_iff (Store.keyed_of_empty fresh) changes, ?_⟩
  intro metadata config client
  refine ⟨fun attributes => catalog_create _ attributes client,
    fun now id attributes => catalog_save _ now id attributes client,
    fun id => catalog_delete _ id client, ?_⟩
  intro keyed unprepared criterion settings result found record member
  obtain ⟨_, _, rfl⟩ := eq_answer_of_query found unprepared
  obtain ⟨id, card, stored, rfl, hasId⟩ := keyed.of_mem_answer member
  refine ⟨id, card, hasId, stored, rfl, fun now attributes => ?_,
    (delete (.inMemory metadata config) id client).2, rfl, ?_⟩
  · obtain ⟨_, saved, -⟩ := save_inMemory metadata config now stored attributes
    exact ⟨_, congrArg Prod.fst saved⟩
  · rw [catalog_delete]
    exact (Store.find?_delete [id] client.catalog id).trans (if_pos List.mem_cons_self)

/-- A metacard is stored with an id and one without, the first one gets a new title, and the second
one is removed again. -/
def tidy : List Store.Change :=
  [.insert (.ofList [("id", .text "m1")]),
    .create (.object [("metacards", .array [.object [("attributes",
      .object [("title", .text "Quay")])]])]),
    .update [⟨["m1", "mem-1"], [⟨"title", [.text "Pier"]⟩]⟩],
    .delete ["mem-1"]]

theorem keyed_iff_ids_kept_tidy :
    Store.empty.cards = .empty ∧
      (∀ (place : Nat) (change : Store.Change), tidy[place]? = some change →
        change.KeepsIds (Store.empty.afterAll (tidy.take place))) ∧
      ((Store.empty.afterAll (tidy.take 3)).find? "mem-1").isSome = true ∧
      ∀ place : Nat, (Store.empty.afterAll (tidy.take place)).Keyed := by
  have keep : ∀ (place : Nat) (change : Store.Change), tidy[place]? = some change →
      change.KeepsIds (Store.empty.afterAll (tidy.take place)) := by
    intro place change isChange
    have member := List.mem_of_getElem? isChange
    simp only [tidy, List.mem_cons, List.not_mem_nil, or_false] at member
    rcases member with rfl | rfl | rfl | rfl
    · trivial
    · trivial
    · exact Store.keepsIds_of_untouched (by simp) _
    · trivial
  exact ⟨rfl, keep, by decide, (keyed_iff_ids_kept rfl tidy).1.2 keep⟩

def lone : Client Store :=
  .new (Store.empty.insert (.ofList [("id", .text "m1")])).2

/-- A metacard that is saved with another `id` is found by that, and can neither be had nor saved
nor deleted by it. -/
theorem saved_id_not_key :
    let deployment : Deployment Store := .inMemory Store.metadata .standard
    let given : Table Json := .ofList [("id", .text "m2")]
    ∃ saved after result, save deployment "" "m1" given lone = (.ok saved, after) ∧
      ¬ after.catalog.Keyed ∧
      (query deployment (.tree .matchAll) .unset after).1 = .ok result ∧
      result.records.map Record.id? = [some "m2"] ∧
      after.catalog.find? "m2" = none ∧
      (save deployment "" "m2" .empty after).1 = .error (.request (.cardUnknown "m2")) ∧
      (delete deployment "m2" after).2.catalog.cards = after.catalog.cards := by
  intro deployment given
  have assembled : Request.assemble (.tree .matchAll)
      (effectiveSettings .standard .unset) =
        .ok ⟨"(anyText ILIKE '%')", .unset⟩ := by rfl
  refine ⟨_, _, _, rfl, ?_, query_inMemory assembled rfl, by decide, by decide, rfl, by decide⟩
  intro keyed
  exact absurd (keyed "m1" (.ofList [("id", .text "m2")]) (by rfl)) (by decide)

end Client

end Metacard
