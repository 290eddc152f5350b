import Mathlib.Data.List.Forall2
/-!
# Outcomes taken apart

What is known of the parts of a computation that may fail when its outcome is known.
-/

set_option autoImplicit false

namespace Metacard.Outcome

universe u v w

variable {ε : Type u} {α β γ : Type v}

theorem map_map (f : α → β) (g : β → γ) (outcome : Except ε α) :
    (outcome.map f).map g = outcome.map (g ∘ f) := by
  cases outcome <;> rfl

theorem map_eq_ok_iff {f : α → β} {outcome : Except ε α} {result : β} :
    outcome.map f = .ok result ↔ ∃ value, outcome = .ok value ∧ f value = result := by
  cases outcome <;> simp [Except.map]

theorem map_eq_ok {f : α → β} {outcome : Except ε α} {result : β}
    (succeeds : outcome.map f = .ok result) : ∃ value, outcome = .ok value ∧ f value = result :=
  map_eq_ok_iff.1 succeeds

theorem map_eq_error {f : α → β} {outcome : Except ε α} {fault : ε}
    (fails : outcome.map f = .error fault) : outcome = .error fault := by
  cases outcome with
  | error found => exact congrArg Except.error (Except.error.inj fails)
  | ok value => exact nomatch fails

theorem toOption_eq_some {outcome : Except ε α} {value : α}
    (isSome : outcome.toOption = some value) : outcome = .ok value := by
  cases outcome with
  | error fault => exact nomatch isSome
  | ok found => exact congrArg Except.ok (Option.some.inj isSome)

theorem toOption_eq_some_iff {outcome : Except ε α} {value : α} :
    outcome.toOption = some value ↔ outcome = .ok value :=
  ⟨toOption_eq_some, fun succeeds => succeeds ▸ rfl⟩

theorem bind_eq_ok_iff {f : α → Except ε β} {outcome : Except ε α} {result : β} :
    outcome >>= f = .ok result ↔ ∃ value, outcome = .ok value ∧ f value = .ok result := by
  cases outcome <;> simp [bind, Except.bind]

theorem bind_eq_ok {f : α → Except ε β} {outcome : Except ε α} {result : β}
    (succeeds : outcome >>= f = .ok result) :
    ∃ value, outcome = .ok value ∧ f value = .ok result :=
  bind_eq_ok_iff.1 succeeds

theorem forall₂_eq_map_iff {f : β → α} {items : List α} {sources : List β} :
    List.Forall₂ (fun item source => item = f source) items sources ↔
      items = sources.map f := by
  rw [← List.forall₂_map_right_iff, List.forall₂_eq_eq_eq]

theorem exists_mem_of_forall₂ {R : α → β → Prop} {items : List α} {results : List β}
    (each : List.Forall₂ R items results) {item : α} (isItem : item ∈ items) :
    ∃ result ∈ results, R item result := by
  induction each with
  | nil => exact nomatch isItem
  | cons first _ inductionHypothesis =>
    rcases List.mem_cons.1 isItem with rfl | isOther
    · exact ⟨_, List.mem_cons_self, first⟩
    · obtain ⟨result, isResult, related⟩ := inductionHypothesis isOther
      exact ⟨result, List.mem_cons_of_mem _ isResult, related⟩

section

variable {ι : Type w} {f : ι → Except ε α} {items : List ι}

theorem mapM_eq_ok_iff {results : List α} : items.mapM f = .ok results ↔
    List.Forall₂ (fun item result => f item = .ok result) items results := by
  induction items generalizing results with
  | nil => simp [pure, Except.pure, eq_comm]
  | cons item rest inductionHypothesis =>
    rw [List.mapM_cons, List.forall₂_cons_left_iff]
    constructor
    · intro succeeds
      obtain ⟨first, isFirst, succeeds⟩ := bind_eq_ok succeeds
      obtain ⟨others, isOthers, succeeds⟩ := bind_eq_ok succeeds
      exact ⟨first, others, isFirst, inductionHypothesis.1 isOthers, (Except.ok.inj succeeds).symm⟩
    · rintro ⟨first, others, isFirst, isOthers, rfl⟩
      rw [isFirst, inductionHypothesis.2 isOthers]
      rfl

theorem exists_mapM_eq_ok_iff : (∃ results, items.mapM f = .ok results) ↔
    ∀ item ∈ items, ∃ result, f item = .ok result := by
  simp only [mapM_eq_ok_iff]
  induction items with
  | nil => simp
  | cons item rest inductionHypothesis =>
    simp only [List.forall₂_cons_left_iff, List.forall_mem_cons, ← inductionHypothesis]
    constructor
    · rintro ⟨_, first, others, isFirst, isOthers, rfl⟩
      exact ⟨⟨first, isFirst⟩, others, isOthers⟩
    · rintro ⟨⟨first, isFirst⟩, others, isOthers⟩
      exact ⟨first :: others, first, others, isFirst, isOthers, rfl⟩

theorem mapM_map_eq_ok {κ : Type w} {g : κ → ι} {h : κ → α} {sources : List κ}
    (each : ∀ source ∈ sources, f (g source) = .ok (h source)) :
    (sources.map g).mapM f = .ok (sources.map h) := by
  rw [mapM_eq_ok_iff, List.forall₂_map_left_iff, List.forall₂_map_right_iff, List.forall₂_same]
  exact each

theorem mapM_eq_ok_congr {g : ι → Except ε α} {results : List α}
    (same : ∀ item ∈ items, ∀ result ∈ results, f item = .ok result ↔ g item = .ok result) :
    items.mapM f = .ok results ↔ items.mapM g = .ok results := by
  rw [mapM_eq_ok_iff, mapM_eq_ok_iff, List.forall₂_iff_zip, List.forall₂_iff_zip]
  refine and_congr_right fun _ => ?_
  constructor <;>
  · intro each item result member
    obtain ⟨isItem, isResult⟩ := List.of_mem_zip member
    simpa only [same item isItem result isResult] using each member

theorem map_eq_map_of_mapM {δ : Type w} {g : α → δ} {h : ι → δ} {results : List α}
    (succeeds : items.mapM f = .ok results)
    (each : ∀ item ∈ items, ∀ result ∈ results, f item = .ok result → g result = h item) :
    results.map g = items.map h := by
  induction mapM_eq_ok_iff.1 succeeds with
  | nil => rfl
  | cons first others inductionHypothesis =>
    rw [List.map_cons, List.map_cons, each _ List.mem_cons_self _ List.mem_cons_self first]
    congr 1
    refine inductionHypothesis (mapM_eq_ok_iff.2 others) fun item isItem result isResult => ?_
    exact each item (List.mem_cons_of_mem _ isItem) result (List.mem_cons_of_mem _ isResult)

end

theorem mapM_eq_some_iff {ι : Type w} {f : ι → Option α} {items : List ι} {results : List α} :
    items.mapM f = some results ↔
      List.Forall₂ (fun item result => f item = some result) items results := by
  induction items generalizing results with
  | nil => simp [eq_comm]
  | cons item rest inductionHypothesis =>
    rw [List.mapM_cons, List.forall₂_cons_left_iff]
    constructor
    · intro succeeds
      obtain ⟨first, isFirst, succeeds⟩ := Option.bind_eq_some_iff.1 succeeds
      obtain ⟨others, isOthers, succeeds⟩ := Option.bind_eq_some_iff.1 succeeds
      exact ⟨first, others, isFirst, inductionHypothesis.1 isOthers,
        (Option.some.inj succeeds).symm⟩
    · rintro ⟨first, others, isFirst, isOthers, rfl⟩
      rw [isFirst, inductionHypothesis.2 isOthers]
      rfl

end Metacard.Outcome
