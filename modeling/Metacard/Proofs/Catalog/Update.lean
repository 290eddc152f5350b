import Mathlib.Data.List.TakeWhile
import Metacard.Catalog.Store
import Metacard.Proofs.Table
/-!
# How far an update gets

Updates name metacards one after the other, each with the changes that it is to get. They are made
up to the first metacard that is not stored, and what was changed by then stays changed. So an
update that fails is not taken back; it leaves alone only what it had not come to.
-/

set_option autoImplicit false

namespace Metacard

structure Edit where
  id : String
  changes : List AttributeUpdate

namespace Edit

def ofUpdates (updates : List MetacardUpdate) : List Edit :=
  updates.flatMap fun update => update.ids.map fun id => ⟨id, update.attributes⟩

def changesTo (id : String) (edits : List Edit) : List AttributeUpdate :=
  (edits.filter fun edit => edit.id = id).flatMap Edit.changes

theorem changesTo_cons (id : String) (edit : Edit) (rest : List Edit) :
    changesTo id (edit :: rest) =
      (if edit.id = id then edit.changes else []) ++ changesTo id rest := by
  by_cases same : edit.id = id <;> simp [changesTo, same]

theorem changesTo_of_not_named {id : String} {edits : List Edit}
    (notNamed : ∀ edit ∈ edits, edit.id ≠ id) : changesTo id edits = [] := by
  have none : edits.filter (fun edit => edit.id = id) = [] := by
    simpa using notNamed
  rw [changesTo, none, List.flatMap_nil]

end Edit

namespace Store

/-! ## One loop in place of two -/

/-- The catalog after an edit of a metacard, if that is stored. -/
def edited (store : Store) (edit : Edit) : Store :=
  match store.cards.find? edit.id with
  | some card => { store with cards := store.cards.insert edit.id (changed card edit.changes) }
  | none => store

/-- Makes edits one after the other, up to the first of a metacard that is not stored. -/
def carryOut : List Edit → Call Store Unit
  | [], store => (.ok (), store)
  | edit :: rest, store =>
      if store.cards.contains edit.id then carryOut rest (store.edited edit)
      else (.error (.request (.cardUnknown edit.id)), store)

theorem updateCards_eq (changes : List AttributeUpdate) (ids : List String) (store : Store) :
    updateCards changes ids store = carryOut (ids.map fun id => ⟨id, changes⟩) store := by
  induction ids generalizing store with
  | nil => rfl
  | cons id rest inductionHypothesis =>
    rw [List.map_cons, updateCards, carryOut, edited, Table.contains]
    cases store.cards.find? id with
    | none => rfl
    | some card => exact inductionHypothesis _

theorem carryOut_append (first second : List Edit) (store : Store) :
    carryOut (first ++ second) store =
      match carryOut first store with
      | (.ok (), next) => carryOut second next
      | (.error failure, next) => (.error failure, next) := by
  induction first generalizing store with
  | nil => rfl
  | cons edit rest inductionHypothesis =>
    rw [List.cons_append, carryOut, carryOut]
    by_cases stored : store.cards.contains edit.id = true
    · rw [if_pos stored, if_pos stored]
      exact inductionHypothesis _
    · rw [if_neg stored, if_neg stored]

theorem update_eq_carryOut (updates : List MetacardUpdate) (store : Store) :
    update updates store = carryOut (Edit.ofUpdates updates) store := by
  induction updates generalizing store with
  | nil => rfl
  | cons first rest inductionHypothesis =>
    rw [update, updateCards_eq, Edit.ofUpdates, List.flatMap_cons, carryOut_append]
    rcases carryOut (first.ids.map fun id => ⟨id, first.attributes⟩) store with ⟨_ | _, next⟩
    · rfl
    · exact inductionHypothesis next

theorem changed_append (card : Table Json) (first second : List AttributeUpdate) :
    changed card (first ++ second) = changed (changed card first) second := by
  rw [changed, List.map_append, Table.insertAll, List.foldl_append]
  rfl

theorem find?_edited (store : Store) (edit : Edit) (id : String) :
    (store.edited edit).find? id =
      (store.find? id).map fun card =>
        changed card (if edit.id = id then edit.changes else []) := by
  rw [edited, find?, find?]
  by_cases same : edit.id = id
  · subst same
    cases found : store.cards.find? edit.id with
    | none => simp [found]
    | some card => simp
  · have differs : id ≠ edit.id := fun equal => same equal.symm
    cases store.cards.find? edit.id with
    | none => simp [same, changed, Table.insertAll]
    | some card => simp [same, changed, Table.insertAll, Table.find?_insert_of_ne _ _ differs]

theorem contains_edited (store : Store) (edit : Edit) (id : String) :
    (store.edited edit).cards.contains id = store.cards.contains id := by
  have found := find?_edited store edit id
  rw [find?, find?] at found
  rw [Table.contains, found, Option.isSome_map, Table.contains]

theorem find?_foldl_edited (edits : List Edit) (store : Store) (id : String) :
    (edits.foldl edited store).find? id =
      (store.find? id).map fun card => changed card (Edit.changesTo id edits) := by
  induction edits generalizing store with
  | nil => simp [Edit.changesTo, changed, Table.insertAll]
  | cons edit rest inductionHypothesis =>
    rw [List.foldl_cons, inductionHypothesis, find?_edited, Option.map_map, Edit.changesTo_cons]
    simp only [Function.comp_def, changed_append]

theorem foldl_edited_eq (edits : List Edit) (store : Store) :
    edits.foldl edited store = { store with cards := (edits.foldl edited store).cards } := by
  induction edits generalizing store with
  | nil => rfl
  | cons edit rest inductionHypothesis =>
    rw [List.foldl_cons, inductionHypothesis, edited]
    cases store.cards.find? edit.id <;> rfl

/-! ## How far edits get -/

/-- The edits before the first of a metacard that is not stored. -/
def reached (store : Store) (edits : List Edit) : List Edit :=
  edits.takeWhile fun edit => store.cards.contains edit.id

def unreached (store : Store) (edits : List Edit) : List Edit :=
  edits.dropWhile fun edit => store.cards.contains edit.id

/-- What is said of edits by those that were not reached. -/
def outcomeOf : List Edit → Except Failure Unit
  | [] => .ok ()
  | missing :: _ => .error (.request (.cardUnknown missing.id))

theorem carryOut_eq (edits : List Edit) (store : Store) :
    carryOut edits store =
      (outcomeOf (store.unreached edits), (store.reached edits).foldl edited store) := by
  induction edits generalizing store with
  | nil => rfl
  | cons edit rest inductionHypothesis =>
    rw [carryOut, unreached, reached, List.dropWhile_cons, List.takeWhile_cons]
    by_cases stored : store.cards.contains edit.id = true
    · rw [if_pos stored, if_pos stored, if_pos stored, inductionHypothesis, unreached, reached]
      -- An edit takes no metacard away, so that the rest gets as far as it would have got before.
      simp only [contains_edited]
      rfl
    · rw [if_neg stored, if_neg stored, if_neg stored]
      rfl

theorem update_eq (updates : List MetacardUpdate) (store : Store) :
    update updates store =
      (outcomeOf (store.unreached (Edit.ofUpdates updates)),
        (store.reached (Edit.ofUpdates updates)).foldl edited store) := by
  rw [update_eq_carryOut, carryOut_eq]

theorem find?_update (updates : List MetacardUpdate) (store : Store) (id : String) :
    (update updates store).2.find? id = (store.find? id).map fun card =>
      changed card (Edit.changesTo id (store.reached (Edit.ofUpdates updates))) := by
  rw [update_eq, find?_foldl_edited]

theorem stored_of_mem_reached {store : Store} {edits : List Edit} {edit : Edit}
    (member : edit ∈ store.reached edits) : ∃ card, store.find? edit.id = some card := by
  rw [reached] at member
  have stored := List.mem_takeWhile_imp member
  exact Option.isSome_iff_exists.1 stored

theorem missing_of_unreached {store : Store} {edits : List Edit} {missing : Edit}
    {rest : List Edit} (left : store.unreached edits = missing :: rest) :
    store.find? missing.id = none := by
  have first := List.head?_dropWhile_not (fun edit : Edit => store.cards.contains edit.id) edits
  rw [unreached] at left
  rw [left] at first
  simpa [Table.contains, find?] using first

/-- Updates that fail have come to a first metacard that is not stored. All that were named before
it have the changes that were made to them by then; all others are as they were, and none has come
or gone. -/
theorem update_stops_at_missing {updates : List MetacardUpdate} {store after : Store}
    {failure : Failure} (fails : update updates store = (.error failure, after)) :
    ∃ done missing rest, Edit.ofUpdates updates = done ++ missing :: rest ∧
      (∀ edit ∈ done, ∃ card, store.find? edit.id = some card) ∧
      store.find? missing.id = none ∧
      failure = .request (.cardUnknown missing.id) ∧
      (∀ id, after.find? id =
        (store.find? id).map fun card => changed card (Edit.changesTo id done)) ∧
      (∀ id, (∀ edit ∈ done, edit.id ≠ id) → after.find? id = store.find? id) ∧
      after = { store with cards := after.cards } := by
  have parts : store.reached (Edit.ofUpdates updates) ++ store.unreached (Edit.ofUpdates updates) =
      Edit.ofUpdates updates := List.takeWhile_append_dropWhile
  rw [update_eq] at fails
  obtain ⟨outcome, rfl⟩ := Prod.mk.inj fails
  cases left : store.unreached (Edit.ofUpdates updates) with
  | nil =>
    rw [left] at outcome
    exact nomatch outcome
  | cons missing rest =>
    rw [left] at outcome parts
    have changes := find?_foldl_edited (store.reached (Edit.ofUpdates updates)) store
    refine ⟨store.reached (Edit.ofUpdates updates), missing, rest, parts.symm,
      fun _ => stored_of_mem_reached, missing_of_unreached left, (Except.error.inj outcome).symm,
      changes, ?_, foldl_edited_eq _ store⟩
    intro id notNamed
    rw [changes, Edit.changesTo_of_not_named notNamed]
    exact Option.map_id'

def harbour : Store :=
  ((empty.insert (.ofList [("id", .text "m1")])).2.insert
    (.ofList [("id", .text "m2"), ("title", .text "Harbour")])).2

/-- Updates of both metacards, of the second one again, and of one that is not stored, so that they
do not come to the first one a second time. -/
def renamings : List MetacardUpdate :=
  [⟨["m1", "m2"], [⟨"title", [.text "Quay"]⟩]⟩,
    ⟨["m2", "m3", "m1"], [⟨"title", [.text "Pier", .text "Mole"]⟩]⟩]

theorem update_stops_at_missing_renamings :
    ∃ after, update renamings harbour = (.error (.request (.cardUnknown "m3")), after) ∧
      after.find? "m1" = some (.ofList [("id", .text "m1"), ("title", .text "Quay")]) ∧
      ∃ done missing rest, Edit.ofUpdates renamings = done ++ missing :: rest ∧
        harbour.find? missing.id = none ∧
        ∀ id, (∀ edit ∈ done, edit.id ≠ id) → after.find? id = harbour.find? id := by
  have fails : update renamings harbour =
      (.error (.request (.cardUnknown "m3")), (update renamings harbour).2) := by rfl
  obtain ⟨done, missing, rest, edits, -, isMissing, -, -, unnamed, -⟩ :=
    update_stops_at_missing fails
  exact ⟨_, fails, by decide, done, missing, rest, edits, isMissing, unnamed⟩

/-- What an update has changed before it fails is not taken back. -/
theorem failed_update_changes :
    ¬ ∀ (updates : List MetacardUpdate) (store after : Store) (failure : Failure),
      update updates store = (.error failure, after) →
        ∀ id, after.find? id = store.find? id := by
  intro unchanged
  have fails : update renamings harbour =
      (.error (.request (.cardUnknown "m3")), (update renamings harbour).2) := by rfl
  have same := unchanged renamings harbour _ _ fails "m1"
  exact absurd same (by decide)

end Store

end Metacard
