import Mathlib.Algebra.BigOperators.Group.List.Basic
import Mathlib.Algebra.Ring.Nat
import Mathlib.Data.List.Induction
import Metacard.Meter
/-!
# What observations add up to

The measure of a series comes of the observations of that series alone, in their order: a count says
how often the observation was made, a gauge stands where it was last set, and a histogram has a
sample for each observation.
-/

set_option autoImplicit false

namespace Metacard

namespace Observation

/-- The observation is only counted: it says nothing but its series. -/
def IsCounted : Observation → Prop
  | .operation _ _ | .compilation _ | .failure _ _ | .refresh _ | .enumerationFailure _ => True
  | .latency _ _ | .hits _ | .schemaVersion _ | .schemaAttributes _ => False

theorem eq_of_series_eq {observation other : Observation} (isCounted : observation.IsCounted)
    (same : other.series = observation.series) : other = observation := by
  cases observation with
  | operation name status => cases other <;> simp_all [series]
  | compilation succeeded =>
    cases other with
    | compilation otherSucceeded =>
      cases succeeded <;> cases otherSucceeded <;> simp_all [series, outcome]
    | _ => simp [series] at same
  | failure name kind => cases other <;> simp_all [series]
  | refresh status => cases other <;> simp_all [series]
  | enumerationFailure group => cases other <;> simp_all [series]
  | latency | hits | schemaVersion | schemaAttributes => exact isCounted.elim

def hits? : Observation → Option Nat
  | .hits found => some found
  | _ => none

def version? : Observation → Option Nat
  | .schemaVersion version => some version
  | _ => none

def size? : Observation → Option Nat
  | .schemaAttributes size => some size
  | _ => none

def latency? (operation : String) : Observation → Option (Option Nat)
  | .latency name time => if name = operation then some time else none
  | _ => none

end Observation

namespace Meter

def measure? (meter : Meter) (series : Series) : Option Measure :=
  meter.measures.lookup series

/-- What a counter stands at, which is 0 until the first observation. -/
def total (meter : Meter) (observation : Observation) : Nat :=
  match meter.measure? observation.series with
  | some (.counter count) => count
  | _ => 0

def hitSeries : Series where
  metric := "catalog_query_hits"
  labels := []

def hitSamples (meter : Meter) : List Magnitude :=
  match meter.measure? hitSeries with
  | some (.histogram samples) => samples.map .ofNat
  | _ => []

def latencySeries (operation : String) : Series where
  metric := "catalog_query_operation_seconds"
  labels := [("operation", operation)]

def latencySamples (meter : Meter) (operation : String) : List (Option Nat) :=
  match meter.measure? (latencySeries operation) with
  | some (.latencies samples) => samples
  | _ => []

def absorb (measure : Option Measure) (observation : Observation) : Option Measure :=
  some (observation.addTo measure)

theorem lookup_addTo (observation : Observation) (series : Series)
    (measures : List (Series × Measure)) :
    (addTo observation measures).lookup series =
      if observation.series = series then absorb (measures.lookup series) observation
      else measures.lookup series := by
  induction measures with
  | nil =>
    by_cases same : observation.series = series
    · simp [addTo, same, absorb]
    · have differs : series ≠ observation.series := fun equal => same equal.symm
      simp [addTo, same, List.lookup_cons, beq_false_of_ne differs]
  | cons entry rest inductionHypothesis =>
    rw [addTo]
    by_cases isEntry : entry.1 = observation.series
    · rw [if_pos isEntry, List.lookup_cons, List.lookup_cons, isEntry]
      by_cases same : observation.series = series
      · simp [same, absorb]
      · have differs : series ≠ observation.series := fun equal => same equal.symm
        simp [same, beq_false_of_ne differs]
    · rw [if_neg isEntry, List.lookup_cons, List.lookup_cons, inductionHypothesis]
      by_cases found : series = entry.1
      · have differs : observation.series ≠ series := fun equal =>
          isEntry (found.symm.trans equal.symm)
        simp [found ▸ differs, found]
      · simp [beq_false_of_ne found]

theorem measure?_eq (meter : Meter) (series : Series) :
    meter.measure? series =
      (meter.observations.filter fun observation => observation.series = series).foldl absorb
        none := by
  have folded : ∀ (observations : List Observation) (measures : List (Series × Measure)),
      (observations.foldl (fun measures observation => addTo observation measures)
          measures).lookup series =
        (observations.filter fun observation => observation.series = series).foldl absorb
          (measures.lookup series) := by
    intro observations
    induction observations with
    | nil =>
      intro measures
      rfl
    | cons observation rest inductionHypothesis =>
      intro measures
      rw [List.foldl_cons, inductionHypothesis, lookup_addTo]
      by_cases same : observation.series = series <;> simp [same]
  exact folded meter.observations []

theorem measure?_note (meter : Meter) (observation : Observation) (series : Series) :
    (meter.note observation).measure? series =
      if observation.series = series then absorb (meter.measure? series) observation
      else meter.measure? series := by
  rw [measure?, measures, note, List.foldl_append]
  exact lookup_addTo observation series meter.measures

/-- The level that a gauge was last set to, if it ever was. -/
def level? (meter : Meter) (series : Series) : Option Nat :=
  match meter.measure? series with
  | some (.gauge level) => some level
  | _ => none

def versionSeries : Series where
  metric := "catalog_query_schema_version"
  labels := []

def sizeSeries : Series where
  metric := "catalog_query_schema_attributes"
  labels := []

/-- The observations of a series are levels, each of which takes the place of the one before. -/
structure Levels (series : Series) (read? : Observation → Option Nat) : Prop where
  own : ∀ observation, observation.series = series →
    ∃ level, read? observation = some level ∧
      ∀ measure, absorb measure observation = some (.gauge level)
  foreign : ∀ observation, observation.series ≠ series → read? observation = none

theorem Levels.level?_eq {series : Series} {read? : Observation → Option Nat}
    (levels : Levels series read?) (meter : Meter) :
    meter.level? series = (meter.observations.filterMap read?).getLast? := by
  obtain ⟨observations⟩ := meter
  induction observations using List.reverseRecOn with
  | nil => rfl
  | append_singleton earlier observation inductionHypothesis =>
    have noted := measure?_note ⟨earlier⟩ observation series
    rw [note] at noted
    rw [level?, noted, List.filterMap_append, List.getLast?_append, ← inductionHypothesis]
    by_cases same : observation.series = series
    · obtain ⟨level, isRead, isSet⟩ := levels.own observation same
      rw [if_pos same, isSet, List.filterMap_cons_some isRead]
      rfl
    · rw [if_neg same, List.filterMap_cons_none (levels.foreign observation same)]
      rfl

theorem levels_version : Levels versionSeries Observation.version? where
  own := by
    rintro (_ | _) <;>
      simp [versionSeries, Observation.series, Observation.version?, absorb, Observation.addTo]
  foreign := by
    rintro (_ | _) <;> simp [versionSeries, Observation.series, Observation.version?]

theorem levels_size : Levels sizeSeries Observation.size? where
  own := by
    rintro (_ | _) <;>
      simp [sizeSeries, Observation.series, Observation.size?, absorb, Observation.addTo]
  foreign := by
    rintro (_ | _) <;> simp [sizeSeries, Observation.series, Observation.size?]

theorem foldl_absorb_replicate {observation : Observation} (isCounted : observation.IsCounted)
    (times : Nat) : ∀ count : Nat,
      (List.replicate times observation).foldl absorb (some (.counter count)) =
        some (.counter (count + times)) := by
  induction times with
  | zero =>
    intro count
    rfl
  | succ times inductionHypothesis =>
    intro count
    have added : absorb (some (.counter count)) observation = some (.counter (count + 1)) := by
      cases observation <;> first | rfl | exact isCounted.elim
    rw [List.replicate_succ, List.foldl_cons, added, inductionHypothesis]
    congr 2
    omega

theorem total_eq_count {observation : Observation} (isCounted : observation.IsCounted)
    (meter : Meter) : meter.total observation = meter.count observation := by
  have sameSeries : (meter.observations.filter fun other => other.series = observation.series) =
      List.replicate (meter.count observation) observation := by
    rw [count, ← List.filter_beq]
    apply List.filter_congr
    intro other _
    have iff : other.series = observation.series ↔ other = observation :=
      ⟨Observation.eq_of_series_eq isCounted, congrArg Observation.series⟩
    by_cases same : other = observation <;> simp [iff, same]
  rw [total, measure?_eq, sameSeries]
  cases meter.count observation with
  | zero => rfl
  | succ times =>
    have first : absorb none observation = some (.counter 1) := by
      cases observation <;> first | rfl | exact isCounted.elim
    rw [List.replicate_succ, List.foldl_cons, first, foldl_absorb_replicate isCounted]
    exact Nat.add_comm 1 times

theorem sum_map_ite_eq_countP {α : Type} (p : α → Prop) [DecidablePred p] (items : List α) :
    (items.map fun item => if p item then 1 else 0).sum = items.countP fun item => p item := by
  induction items with
  | nil => rfl
  | cons item rest inductionHypothesis =>
    simp only [List.map_cons, List.sum_cons, inductionHypothesis, List.countP_cons,
      decide_eq_true_eq]
    exact Nat.add_comm _ _

theorem count_flatMap_eq_countP {α : Type} {f : α → List Observation} {observation : Observation}
    {p : α → Prop} [DecidablePred p]
    (each : ∀ item, (f item).count observation = if p item then 1 else 0) (items : List α) :
    (items.flatMap f).count observation = items.countP fun item => p item := by
  rw [List.count_flatMap, ← sum_map_ite_eq_countP]
  exact congrArg List.sum (List.map_congr_left fun item _ => each item)

/-! ## Samples -/

/-- The observations of a series have samples: each is read off one observation, which is made again
of it, and the measure collects them. -/
structure Samples {α : Type} (series : Series) (make : α → Observation)
    (read? : Observation → Option α) (collect : List α → Measure) : Prop where
  own : ∀ observation, observation.series = series →
    ∃ sample, read? observation = some sample ∧ make sample = observation
  foreign : ∀ observation, observation.series ≠ series → read? observation = none
  first : ∀ sample, absorb none (make sample) = some (collect [sample])
  next : ∀ earlier sample,
    absorb (some (collect earlier)) (make sample) = some (collect (earlier ++ [sample]))

section

variable {α : Type} {series : Series} {make : α → Observation} {read? : Observation → Option α}
  {collect : List α → Measure} (sampled : Samples series make read? collect)

include sampled

theorem Samples.filter_eq (observations : List Observation) :
    (observations.filter fun observation => observation.series = series) =
      (observations.filterMap read?).map make := by
  induction observations with
  | nil => rfl
  | cons observation rest inductionHypothesis =>
    by_cases same : observation.series = series
    · obtain ⟨sample, isRead, isMade⟩ := sampled.own observation same
      rw [List.filter_cons_of_pos (by simpa using same), List.filterMap_cons_some isRead,
        List.map_cons, isMade, inductionHypothesis]
    · rw [List.filter_cons_of_neg (by simpa using same),
        List.filterMap_cons_none (sampled.foreign observation same), inductionHypothesis]

theorem Samples.foldl_absorb (samples : List α) : ∀ earlier : List α,
    (samples.map make).foldl absorb (some (collect earlier)) =
      some (collect (earlier ++ samples)) := by
  induction samples with
  | nil =>
    intro earlier
    rw [List.append_nil]
    rfl
  | cons sample rest inductionHypothesis =>
    intro earlier
    rw [List.map_cons, List.foldl_cons, sampled.next, inductionHypothesis, ← List.append_cons]

theorem Samples.measure?_eq (meter : Meter) :
    meter.measure? series =
      match meter.observations.filterMap read? with
      | [] => none
      | sample :: rest => some (collect (sample :: rest)) := by
  rw [Meter.measure?_eq, sampled.filter_eq]
  cases meter.observations.filterMap read? with
  | nil => rfl
  | cons sample rest =>
    rw [List.map_cons, List.foldl_cons, sampled.first, sampled.foldl_absorb,
      List.singleton_append]

end

theorem samples_hits : Samples hitSeries .hits Observation.hits? .histogram where
  own := by rintro (_ | _) <;> simp [hitSeries, Observation.series, Observation.hits?]
  foreign := by rintro (_ | _) <;> simp [hitSeries, Observation.series, Observation.hits?]
  first := fun _ => rfl
  next := fun _ _ => rfl

theorem samples_latency (operation : String) :
    Samples (latencySeries operation) (.latency operation) (Observation.latency? operation)
      .latencies where
  own := by
    rintro (_ | _) <;>
      simp +contextual [latencySeries, Observation.series, Observation.latency?]
  foreign := by
    rintro (_ | _) <;> simp [latencySeries, Observation.series, Observation.latency?]
  first := fun _ => rfl
  next := fun _ _ => rfl

theorem hitSamples_eq (meter : Meter) :
    meter.hitSamples = (meter.observations.filterMap Observation.hits?).map .ofNat := by
  rw [hitSamples, samples_hits.measure?_eq]
  cases meter.observations.filterMap Observation.hits? <;> rfl

theorem latencySamples_eq (meter : Meter) (operation : String) :
    meter.latencySamples operation =
      meter.observations.filterMap (Observation.latency? operation) := by
  rw [latencySamples, (samples_latency operation).measure?_eq]
  cases meter.observations.filterMap (Observation.latency? operation) <;> rfl

end Meter

end Metacard
