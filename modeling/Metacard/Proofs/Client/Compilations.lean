import Metacard.Proofs.Client.Accounting
/-!
# What is counted as a compilation

Every lookup of a tree is counted once, as a compilation that succeeds or as one that fails. What is
counted is the assembly of the whole request, which also fails when the settings are out of bounds.
The tree is not compiled at all then, and counts as one that does not compile.
-/

set_option autoImplicit false

namespace Metacard

variable {σ : Type}

instance (tree : Filter) : Decidable (Cql.Compiles tree) :=
  decidable_of_iff ((Cql.compile tree).isOk = true) <| by
    rw [Cql.Compiles]
    cases Cql.compile tree <;> simp [Except.isOk, Except.toBool]

instance (settings : Settings) : Decidable settings.InBounds :=
  decidable_of_iff (settings.validate.isOk = true) <| by
    rcases settings.validate_cases with ⟨valid, inBounds⟩ | ⟨fault, invalid, outOfBounds⟩
    · simp [valid, inBounds, Except.isOk, Except.toBool]
    · simp [invalid, outOfBounds, Except.isOk, Except.toBool]

def Criterion.tree? : Criterion → Option Filter
  | .tree filter => some filter
  | .cql _ => none

namespace Errand

def tree? : Errand → Option Filter
  | .look lookup => lookup.criterion?.bind Criterion.tree?
  | .create _ | .save _ _ _ | .delete _ | .sources | .refresh => none

def InBounds (config : Config) : Errand → Prop
  | .look lookup => (lookup.settings config).InBounds
  | .create _ | .save _ _ _ | .delete _ | .sources | .refresh => True

instance (config : Config) : DecidablePred (InBounds config) := fun errand =>
  match errand with
  | .look lookup => inferInstanceAs (Decidable (lookup.settings config).InBounds)
  | .create _ | .save _ _ _ | .delete _ | .sources | .refresh => .isTrue trivial

def Compiles (errand : Errand) : Prop :=
  ∃ tree ∈ errand.tree?, Cql.Compiles tree

instance : DecidablePred Compiles := fun errand =>
  inferInstanceAs (Decidable (∃ tree ∈ errand.tree?, Cql.Compiles tree))

def IsRejected (errand : Errand) : Prop :=
  ∃ tree ∈ errand.tree?, ¬ Cql.Compiles tree

instance : DecidablePred IsRejected := fun errand =>
  inferInstanceAs (Decidable (∃ tree ∈ errand.tree?, ¬ Cql.Compiles tree))

def compilations (config : Config) : Errand → List Bool
  | .look lookup => lookup.compilations config
  | .create _ | .save _ _ _ | .delete _ | .sources | .refresh => []

end Errand

theorem Request.isOk_assemble_tree (tree : Filter) (settings : Settings) :
    (assemble (.tree tree) settings).isOk = decide (Cql.Compiles tree ∧ settings.InBounds) := by
  have hasText := Criterion.exists_hasText_tree_iff tree
  rcases assemble_cases (.tree tree) settings with
    ⟨text, succeeds, inBounds, unique⟩ | ⟨fault, fails, outOfBounds⟩ | ⟨fault, fails, -, noText⟩
  · have compiles := hasText.1 ⟨text, (unique text).2 rfl⟩
    simp [succeeds, inBounds, compiles, Except.isOk, Except.toBool]
  · simp [fails, outOfBounds, Except.isOk, Except.toBool]
  · have rejected : ¬ Cql.Compiles tree := fun compiles =>
      have ⟨text, isText⟩ := hasText.2 compiles
      noText text isText
    simp [fails, rejected, Except.isOk, Except.toBool]

theorem Errand.compilations_eq (config : Config) (errand : Errand) :
    errand.compilations config =
      errand.tree?.toList.map fun tree => decide (Cql.Compiles tree ∧ errand.InBounds config) := by
  cases errand with
  | look lookup =>
    rw [compilations, Lookup.compilations, tree?]
    cases lookup.criterion? with
    | none => rfl
    | some criterion =>
      cases criterion with
      | cql text => rfl
      | tree tree =>
        exact congrArg (fun isOk => [isOk])
          (Request.isOk_assemble_tree tree (lookup.settings config))
  | create | save | delete | sources | refresh => rfl

theorem Errand.count_compilations_true (config : Config) (errand : Errand) :
    (errand.compilations config).count true =
      if errand.Compiles ∧ errand.InBounds config then 1 else 0 := by
  rw [compilations_eq]
  rcases Option.eq_none_or_eq_some errand.tree? with none | ⟨tree, sought⟩
  · simp [Compiles, none]
  · by_cases compiles : Cql.Compiles tree <;>
      simp [Compiles, sought, compiles, List.count_singleton]

theorem Errand.count_compilations_false (config : Config) (errand : Errand) :
    (errand.compilations config).count false =
      if errand.IsRejected ∨ errand.Compiles ∧ ¬ errand.InBounds config then 1 else 0 := by
  rw [compilations_eq]
  rcases Option.eq_none_or_eq_some errand.tree? with none | ⟨tree, sought⟩
  · simp [Compiles, IsRejected, none]
  · by_cases compiles : Cql.Compiles tree <;>
      simp [Compiles, IsRejected, sought, compiles, List.count_singleton]

theorem Made.count_compilation (deployment : Deployment σ) (succeeded : Bool) (call : Made σ) :
    (call.notes deployment).count (.compilation succeeded) =
      (call.errand.compilations deployment.config).count succeeded := by
  have noEnding : (Observation.endings call.errand.label?
      (Failure.kindOf? call.outcome)).count (.compilation succeeded) = 0 := by
    cases call.errand.label? <;> cases Failure.kindOf? call.outcome <;>
      simp [Observation.endings, Observation.ending]
  rw [notes, List.count_append, noEnding, Nat.add_zero]
  cases call.errand with
  | look lookup =>
    have noHits : ((lookup.result? deployment call.client).toList.map fun result =>
        Observation.hits result.status.hits).count (.compilation succeeded) = 0 :=
      List.count_eq_zero.2 (by simp)
    rw [Errand.ahead, Lookup.ahead, List.count_append, noHits, Nat.add_zero]
    exact List.count_map_of_injective _ _ (fun _ _ same => Observation.compilation.inj same) _
  | create | save | delete | sources | refresh => rfl

/-! ## Whole sessions -/

theorem countP_or_of_disjoint {α : Type} {p q : α → Prop} [DecidablePred p] [DecidablePred q]
    (disjoint : ∀ item, p item → ¬ q item) (items : List α) :
    (items.countP fun item => p item ∨ q item) =
      (items.countP fun item => p item) + items.countP fun item => q item := by
  rw [List.countP_eq_countP_filter_add items _ fun item => p item, List.countP_filter,
    List.countP_filter]
  congr 1 <;> apply List.countP_congr <;> intro item _ <;>
    simp only [Bool.and_eq_true, Bool.not_eq_true', decide_eq_true_eq, decide_eq_false_iff_not]
  · exact ⟨And.right, fun isFirst => ⟨.inl isFirst, isFirst⟩⟩
  · exact ⟨fun other => other.1.resolve_left other.2, fun isSecond =>
      ⟨.inr isSecond, fun isFirst => disjoint item isFirst isSecond⟩⟩

namespace Errand

section

variable (deployment : Deployment σ) (catalog : σ) (errands : List Errand)

/-- How many compilations a session counts that succeed, or that fail. -/
def compilationTotal (succeeded : Bool) : Nat :=
  (performAll deployment errands (.new catalog)).2.recorder.total (.compilation succeeded)

theorem map_errand_performAll : ∀ client : Client σ,
    (performAll deployment errands client).1.map Made.errand = errands := by
  induction errands with
  | nil => exact fun _ => rfl
  | cons errand rest inductionHypothesis =>
    intro client
    exact congrArg (errand :: ·) (inductionHypothesis _)

theorem compilationTotal_eq {succeeded : Bool} {p : Errand → Prop} [DecidablePred p]
    (each : ∀ errand : Errand,
      (errand.compilations deployment.config).count succeeded = if p errand then 1 else 0) :
    compilationTotal deployment catalog errands succeeded =
      errands.countP fun errand => p errand := by
  have ofCalls := total_performAll deployment catalog errands (by trivial) (by exact id)
    fun call => (Made.count_compilation deployment succeeded call).trans (each call.errand)
  rw [compilationTotal, ofCalls]
  conv_rhs => rw [← map_errand_performAll deployment errands (.new catalog), List.countP_map]
  rfl

end

theorem not_compiles_of_isRejected {errand : Errand} (rejected : errand.IsRejected) :
    ¬ errand.Compiles := by
  obtain ⟨tree, sought, rejected⟩ := rejected
  rintro ⟨other, otherSought, compiles⟩
  obtain rfl := Option.some.inj (sought.symm.trans otherSought)
  exact rejected compiles

/-- In every session a tree counts as compiled if it compiles and the settings are in bounds, and
otherwise as one that does not compile. So the two counts are those of the trees that compile and of
those that do not just if the settings are in bounds whenever a tree that compiles is looked for. -/
theorem compilations_counted (deployment : Deployment σ) (catalog : σ) (errands : List Errand) :
    compilationTotal deployment catalog errands true =
        errands.countP (fun errand => errand.Compiles ∧ errand.InBounds deployment.config) ∧
      compilationTotal deployment catalog errands false =
        errands.countP (fun errand => errand.IsRejected) +
          errands.countP (fun errand => errand.Compiles ∧ ¬ errand.InBounds deployment.config) ∧
      ((compilationTotal deployment catalog errands true =
            errands.countP (fun errand => errand.Compiles) ∧
          compilationTotal deployment catalog errands false =
            errands.countP fun errand => errand.IsRejected) ↔
        ∀ errand ∈ errands, errand.Compiles → errand.InBounds deployment.config) := by
  have compiled := compilationTotal_eq deployment catalog errands
    (count_compilations_true deployment.config)
  have failed := compilationTotal_eq deployment catalog errands
    (count_compilations_false deployment.config)
  rw [countP_or_of_disjoint fun errand rejected compiles =>
    not_compiles_of_isRejected rejected compiles.1] at failed
  refine ⟨compiled, failed, ?_⟩
  rw [compiled, failed]
  constructor
  · rintro ⟨-, noOther⟩ errand member compiles
    have none := List.countP_eq_zero.1 (Nat.add_eq_left.1 noOther) errand member
    simpa [compiles] using none
  · intro inBounds
    refine ⟨List.countP_congr fun errand member => ?_, Nat.add_eq_left.2 ?_⟩
    · simpa using inBounds errand member
    · exact List.countP_eq_zero.2 fun errand member => by simpa using inBounds errand member

/-- A tree that compiles, looked for with settings out of bounds, counts as one that does not. -/
theorem compiled_tree_counted_as_failed :
    ¬ ∀ errands : List Errand,
      compilationTotal (.inMemory Store.metadata .standard) .empty errands true =
          errands.countP (fun errand => errand.Compiles) ∧
        compilationTotal (.inMemory Store.metadata .standard) .empty errands false =
          errands.countP fun errand => errand.IsRejected := by
  intro counted
  have failed := (counted [.look (.query (.tree .matchAll) (Settings.unset.withStart 0))]).2
  exact absurd failed (by decide)

end Errand

end Metacard
