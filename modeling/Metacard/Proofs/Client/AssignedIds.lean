import Metacard.Proofs.Client.Keys
/-!
# Ids that are assigned

A metacard that comes without an id gets one with the next number. The numbers never come twice, but
an id that looks like an assigned one can also be chosen by whoever stores a metacard, before its
number comes. Then the metacard that gets it takes the place of the one for which it was chosen. As
long as nobody chooses such an id, or the metacard is deleted in time, the assigned one is free.
-/

set_option autoImplicit false

namespace Metacard

namespace Store

def ownId? (properties : Table Json) : Option String :=
  (properties.find? "id").bind Json.text?

def storeAll (cards : List (Table Json)) (store : Store) : Store :=
  cards.foldl (fun store card => (store.insert card).2) store

def Change.stored : Change → List (Table Json)
  | .insert properties => [properties]
  | .withMetacard properties => properties.table?.toList
  | .create request =>
      (((request.member? "metacards").bind Json.items?).getD []).map requestedProperties
  | .update _ | .delete _ => []

def Change.removed : Change → List String
  | .delete ids => ids
  | .insert _ | .withMetacard _ | .create _ | .update _ => []

/-- Some change stored a metacard that came with the id, and no later one removed it. -/
def Chosen (changes : List Change) (id : String) : Prop :=
  ∃ before change after, changes = before ++ change :: after ∧
    id ∈ change.stored.filterMap ownId? ∧ ∀ later ∈ after, id ∉ later.removed

def unnamed (changes : List Change) : Nat :=
  (changes.flatMap Change.stored).countP fun card => (ownId? card).isNone

theorem not_chosen_nil (id : String) : ¬ Chosen [] id := by
  rintro ⟨before, change, after, split, -, -⟩
  exact absurd split.symm (List.append_ne_nil_of_right_ne_nil before (List.cons_ne_nil _ _))

theorem chosen_append_singleton {changes : List Change} {change : Change} {id : String} :
    Chosen (changes ++ [change]) id ↔
      id ∈ change.stored.filterMap ownId? ∨ id ∉ change.removed ∧ Chosen changes id := by
  constructor
  · rintro ⟨before, choosing, after, split, chooses, kept⟩
    rcases List.eq_nil_or_concat' after with rfl | ⟨others, last, rfl⟩
    · obtain ⟨-, isLast⟩ := List.append_inj' split rfl
      obtain rfl := List.singleton_inj.1 isLast
      exact .inl chooses
    · rw [← List.cons_append, ← List.append_assoc] at split
      obtain ⟨rfl, isLast⟩ := List.append_inj' split rfl
      obtain rfl := List.singleton_inj.1 isLast
      exact .inr ⟨kept change (List.mem_append_right _ List.mem_cons_self), before, choosing,
        others, rfl, chooses, fun later isLater => kept later (List.mem_append_left _ isLater)⟩
  · rintro (chooses | ⟨notRemoved, before, choosing, after, rfl, chooses, kept⟩)
    · exact ⟨changes, change, [], rfl, chooses, nofun⟩
    · refine ⟨before, choosing, after ++ [change], by simp, chooses, fun later isLater => ?_⟩
      rcases List.mem_append.1 isLater with isLater | isLast
      · exact kept later isLater
      · exact List.mem_singleton.1 isLast ▸ notRemoved

theorem madeUpId_injective : Function.Injective madeUpId := by
  intro first second same
  have texts := (String.append_right_inj "mem-").1 same
  rw [Nat.toString_eq_ofList_toDigits, Nat.toString_eq_ofList_toDigits] at texts
  have digits := congrArg (Nat.ofDigitChars 10 · 0) (String.ofList_injective texts)
  simpa only [Nat.ofDigitChars_ten_toDigits] using digits

theorem insert_of_named {properties : Table Json} {id : String}
    (named : ownId? properties = some id) (store : Store) :
    store.insert properties = (id, { store with cards := store.cards.insert id properties }) := by
  rw [ownId?] at named
  rw [insert, named]

theorem insert_of_unnamed {properties : Table Json} (unnamed : ownId? properties = none)
    (store : Store) :
    store.insert properties = (madeUpId store.nextId, { store with
      cards := store.cards.insert (madeUpId store.nextId)
        (properties.insert "id" (.text (madeUpId store.nextId)))
      nextId := store.nextId + 1 }) := by
  rw [ownId?] at unnamed
  rw [insert, unnamed]

theorem nextId_storeAll (cards : List (Table Json)) (store : Store) :
    (storeAll cards store).nextId =
      store.nextId + cards.countP fun card => (ownId? card).isNone := by
  induction cards generalizing store with
  | nil => rfl
  | cons card rest inductionHypothesis =>
    rw [storeAll, List.foldl_cons, ← storeAll, inductionHypothesis, List.countP_cons]
    cases own : ownId? card with
    | none => simp [insert_of_unnamed own, Nat.add_assoc, Nat.add_comm 1]
    | some id => simp [insert_of_named own]

theorem isSome_find?_storeAll {cards : List (Table Json)} {store : Store} {number : Nat}
    (ahead : (storeAll cards store).nextId ≤ number) :
    ((storeAll cards store).find? (madeUpId number)).isSome ↔
      madeUpId number ∈ cards.filterMap ownId? ∨ (store.find? (madeUpId number)).isSome := by
  induction cards generalizing store with
  | nil => simp [storeAll]
  | cons card rest inductionHypothesis =>
    rw [storeAll, List.foldl_cons, ← storeAll] at ahead ⊢
    rw [inductionHypothesis ahead, List.filterMap_cons]
    -- A metacard without an id gets one whose number is behind.
    cases own : ownId? card with
    | none =>
      rw [insert_of_unnamed own] at ahead ⊢
      rw [nextId_storeAll] at ahead
      have later : store.nextId < number := Nat.le_trans (Nat.le_add_right _ _) ahead
      have differs : madeUpId store.nextId ≠ madeUpId number :=
        madeUpId_injective.ne (Nat.ne_of_lt later)
      simp only [find?, Table.isSome_find?_insert, differs, false_or]
    | some id =>
      rw [insert_of_named own]
      simp only [find?, Table.isSome_find?_insert, List.mem_cons, eq_comm (a := id)]
      tauto

theorem insertAll_eq_storeAll (cards : List Json) (store : Store) :
    (insertAll cards store).2 = storeAll (cards.map requestedProperties) store := by
  induction cards generalizing store with
  | nil => rfl
  | cons card rest inductionHypothesis => exact inductionHypothesis _

theorem create_eq_storeAll (request : Json) (store : Store) :
    (create request store).2 = storeAll (Change.create request).stored store := by
  rw [create, Change.stored]
  cases (request.member? "metacards").bind Json.items? with
  | none => rfl
  | some cards => exact insertAll_eq_storeAll cards store

theorem withMetacard_eq_storeAll (properties : Json) (store : Store) :
    store.withMetacard properties = storeAll (Change.withMetacard properties).stored store := by
  rw [withMetacard, Change.stored]
  cases properties.table? <;> rfl

theorem nextId_apply (change : Change) (store : Store) :
    (change.apply store).nextId =
      store.nextId + change.stored.countP fun card => (ownId? card).isNone := by
  cases change with
  | insert properties => exact nextId_storeAll [properties] store
  | withMetacard properties =>
    rw [Change.apply, withMetacard_eq_storeAll, nextId_storeAll]
  | create request => rw [Change.apply, create_eq_storeAll, nextId_storeAll]
  | update updates =>
    rw [Change.apply, update_eq, foldl_edited_eq]
    rfl
  | delete ids => rfl

theorem isSome_find?_apply {change : Change} {store : Store} {number : Nat}
    (ahead : (change.apply store).nextId ≤ number) :
    ((change.apply store).find? (madeUpId number)).isSome ↔
      madeUpId number ∈ change.stored.filterMap ownId? ∨
        madeUpId number ∉ change.removed ∧ (store.find? (madeUpId number)).isSome := by
  have nothingRemoved : ∀ cards : List (Table Json), (storeAll cards store).nextId ≤ number →
      (((storeAll cards store).find? (madeUpId number)).isSome ↔
        madeUpId number ∈ cards.filterMap ownId? ∨
          madeUpId number ∉ ([] : List String) ∧ (store.find? (madeUpId number)).isSome) := by
    intro cards ahead
    rw [isSome_find?_storeAll ahead]
    simp
  cases change with
  | insert properties => exact nothingRemoved [properties] ahead
  | withMetacard properties =>
    rw [Change.apply, withMetacard_eq_storeAll] at ahead ⊢
    exact nothingRemoved _ ahead
  | create request =>
    rw [Change.apply, create_eq_storeAll] at ahead ⊢
    exact nothingRemoved _ ahead
  | update updates => simp [Change.apply, Change.stored, Change.removed, find?_update]
  | delete ids =>
    rw [Change.apply, find?_delete]
    by_cases isRemoved : madeUpId number ∈ ids <;> simp [Change.stored, Change.removed, isRemoved]

/-! ## Changes one after the other -/

theorem afterAll_append (store : Store) (first second : List Change) :
    store.afterAll (first ++ second) = (store.afterAll first).afterAll second :=
  List.foldl_append

theorem nextId_afterAll (store : Store) (changes : List Change) :
    (store.afterAll changes).nextId = store.nextId + unnamed changes := by
  induction changes generalizing store with
  | nil => rfl
  | cons change rest inductionHypothesis =>
    rw [afterAll, List.foldl_cons, ← afterAll, inductionHypothesis, nextId_apply, unnamed, unnamed,
      List.flatMap_cons, List.countP_append, Nat.add_assoc]

/-- Of the ids that are not assigned yet just those are in use that were chosen. The number is ahead
of all changes, so that none of them assigns the id. -/
theorem isSome_find?_afterAll {start : Store} (fresh : start.cards = .empty) (changes : List Change)
    {number : Nat} (ahead : (start.afterAll changes).nextId ≤ number) :
    ((start.afterAll changes).find? (madeUpId number)).isSome ↔
      Chosen changes (madeUpId number) := by
  induction changes using List.reverseRecOn with
  | nil =>
    have none : start.find? (madeUpId number) = none := by
      rw [find?, fresh, Table.find?_empty]
    simp [afterAll, none, not_chosen_nil]
  | append_singleton changes change inductionHypothesis =>
    rw [afterAll_append, afterAll, List.foldl_cons, List.foldl_nil] at ahead ⊢
    have aheadBefore : (start.afterAll changes).nextId ≤ number := by
      rw [nextId_apply] at ahead
      omega
    rw [isSome_find?_apply ahead, inductionHypothesis aheadBefore, chosen_append_singleton]

theorem afterAll_map_insert (cards : List (Table Json)) (store : Store) :
    store.afterAll (cards.map Change.insert) = storeAll cards store := by
  rw [afterAll, List.foldl_map]
  rfl

/-- A metacard that comes without an id gets that with the next number, as each such metacard takes
one. Nothing stands under the id just if it was not chosen before, or what it was chosen for was
deleted; just then there is one metacard more. All metacards under other ids are as they were. The
metacards of a request are created as if they were inserted one after the other. -/
theorem assigned_id_free_iff {start : Store} (fresh : start.cards = .empty) (changes : List Change)
    {properties : Table Json} (without : ownId? properties = none) :
    ∃ id next, (start.afterAll changes).insert properties = (id, next) ∧
      id = madeUpId (start.nextId + unnamed changes) ∧
      ((start.afterAll changes).find? id = none ↔ ¬ Chosen changes id) ∧
      (next.size = (start.afterAll changes).size + 1 ↔ ¬ Chosen changes id) ∧
      next.find? id = some (properties.insert "id" (.text id)) ∧
      (∀ other, other ≠ id → next.find? other = (start.afterAll changes).find? other) ∧
      ∀ (request : Json) (cards : List Json),
        (request.member? "metacards").bind Json.items? = some cards →
          (create request (start.afterAll changes)).2 =
            start.afterAll (changes ++ (cards.map requestedProperties).map Change.insert) := by
  have inUse := isSome_find?_afterAll fresh changes (Nat.le_refl _)
  refine ⟨_, _, insert_of_unnamed without _, congrArg madeUpId (nextId_afterAll start changes),
    ?_, ?_, Table.find?_insert_self _ _ _,
    fun other differs => Table.find?_insert_of_ne _ _ differs, ?_⟩
  · rw [← inUse, Option.not_isSome_iff_eq_none]
  · rw [← inUse, size, size, Table.size_insert, find?]
    split
    · rename_i isUsed
      simp [isUsed]
    · rename_i isFree
      simp [isFree]
  · intro request cards requested
    rw [create_eq_storeAll, afterAll_append, afterAll_map_insert, Change.stored, requested,
      Option.getD_some]

/-- A metacard comes with the id `mem-2`, one comes without an id, and the first is deleted. -/
def vacated : List Change :=
  [.insert (.ofList [("id", .text "mem-2")]),
    .create (.object [("metacards", .array [.object [("attributes",
      .object [("title", .text "Quay")])]])]),
    .delete ["mem-2"]]

theorem assigned_id_free_iff_vacated :
    empty.cards = .empty ∧ ownId? (.ofList [("title", .text "Pier")]) = none ∧
      ∃ next, (empty.afterAll vacated).insert (.ofList [("title", .text "Pier")]) =
          ("mem-2", next) ∧
        ¬ Chosen vacated "mem-2" ∧ next.size = 2 ∧
        next.find? "mem-1" = some (.ofList [("id", .text "mem-1"), ("title", .text "Quay")]) := by
  have without : ownId? (.ofList [("title", .text "Pier")]) = none := by decide
  obtain ⟨id, next, inserted, rfl, isFree, grows, -, others, -⟩ :=
    assigned_id_free_iff (show empty.cards = .empty from rfl) vacated without
  have assigned : madeUpId (empty.nextId + unnamed vacated) = "mem-2" := by decide
  rw [assigned] at inserted isFree grows others
  have notChosen := isFree.1 (by decide)
  refine ⟨rfl, without, next, inserted, notChosen, ?_, ?_⟩
  · rw [grows.2 notChosen]
    decide
  · rw [others "mem-1" (by decide)]
    decide

/-- A metacard that was stored under an id with the next number is lost to one without an id. -/
theorem assigned_id_in_use :
    ¬ ∀ (changes : List Change) (properties : Table Json), ownId? properties = none →
      ∀ id next, (empty.afterAll changes).insert properties = (id, next) →
        (empty.afterAll changes).find? id = none ∧
          next.size = (empty.afterAll changes).size + 1 ∧
          ∀ other card, (empty.afterAll changes).find? other = some card →
            next.find? other = some card := by
  intro isFree
  have kept := (isFree [.insert (.ofList [("id", .text "mem-1"), ("title", .text "Old")])]
    (.ofList [("title", .text "New")]) (by decide) _ _ rfl).2.2 "mem-1" _ rfl
  exact absurd kept (by decide)

end Store

end Metacard
