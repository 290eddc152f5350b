import Metacard.Proofs.Meter
import Metacard.Proofs.Schema.Refresh
import Metacard.Proofs.Schema.Run
/-!
# Measurements follow a registry

As soon as a schema was published, the gauges show the version and the size of the current one,
whatever fails later. Every refresh is counted once by how it ended, and once for each enumeration
that it could not have, whether or not it comes to publish something.
-/

set_option autoImplicit false

namespace Metacard

namespace Registry

variable {σ : Type}

inductive Task (σ : Type) where
  | publish (attributes : List Attribute)
  | refresh (source : MetadataSource σ)

/-- A task that was carried out, with the state in which it found the sources. -/
structure Done (σ : Type) where
  task : Task σ
  state : σ
  reply : Reply

def Task.perform (task : Task σ) (registry : Registry) (state : σ) : Reply × Registry × σ :=
  match task with
  | .publish attributes =>
      let (outcome, next) := Registry.publish attributes registry
      (.snapshot outcome, next, state)
  | .refresh source =>
      let (outcome, next) := Registry.refresh source (registry, state)
      (.report outcome, next)

def performAll : List (Task σ) → Registry × σ → List (Done σ) × Registry × σ
  | [], last => ([], last)
  | task :: rest, (registry, state) =>
      let (reply, next) := task.perform registry state
      let (done, last) := performAll rest next
      (⟨task, state, reply⟩ :: done, last)

def Reply.IsFailedRefresh : Reply → Prop
  | .report (.error _) => True
  | .report (.ok _) | .snapshot _ => False

def Reply.IsReported (isComplete : Bool) : Reply → Prop
  | .report (.ok told) => told.isComplete = isComplete
  | .report (.error _) => False
  | .snapshot _ => False

instance (reply : Reply) : Decidable reply.IsFailedRefresh :=
  match reply with
  | .report (.error _) => inferInstanceAs (Decidable True)
  | .report (.ok _) | .snapshot _ => inferInstanceAs (Decidable False)

instance (isComplete : Bool) (reply : Reply) : Decidable (reply.IsReported isComplete) :=
  match reply with
  | .report (.ok told) => inferInstanceAs (Decidable (told.isComplete = isComplete))
  | .report (.error _) | .snapshot _ => inferInstanceAs (Decidable False)

instance (reply : Reply) : Decidable reply.Fails :=
  match reply with
  | .snapshot (.error _) | .report (.error _) => inferInstanceAs (Decidable True)
  | .snapshot (.ok _) | .report (.ok _) => inferInstanceAs (Decidable False)

namespace Done

/-- It is a refresh that obtained the groups. The source was then asked for the enumerations for all
groups and for those of each, and they came out in these ways. -/
def Obtains (done : Done σ) (groups : AttributeGroups) (config : Except Failure Enumerations)
    (byGroup : List (String × Except Failure Enumerations)) : Prop :=
  ∃ source next last, done.task = .refresh source ∧
    source.attributeGroups done.state = (.ok groups, next) ∧
    Gathered.Enumerated source groups next ((Gathered.configGroup, config) :: byGroup) last

/-- It is a refresh that obtained the groups, and not the enumerations for all of them. -/
def LacksConfig (done : Done σ) : Prop :=
  ∃ groups failure byGroup, done.Obtains groups (.error failure) byGroup

def Lacks (group : String) (done : Done σ) : Prop :=
  ∃ groups config byGroup failure, done.Obtains groups config byGroup ∧
    (group, .error failure) ∈ byGroup

end Done

structure Fetched where
  groups : AttributeGroups
  config : Except Failure Enumerations
  byGroup : List (String × Except Failure Enumerations)

namespace Done

def fetched? (done : Done σ) : Option Fetched :=
  match done.task with
  | .publish _ => none
  | .refresh source =>
      match source.attributeGroups done.state with
      | (.error _, _) => none
      | (.ok groups, next) =>
          let (config, next) := source.enumerationConfig next
          some ⟨groups, config, (Gathered.fetchGroups source groups.keys next).1⟩

theorem obtains_iff {done : Done σ} {groups : AttributeGroups}
    {config : Except Failure Enumerations}
    {byGroup : List (String × Except Failure Enumerations)} :
    done.Obtains groups config byGroup ↔ done.fetched? = some ⟨groups, config, byGroup⟩ := by
  obtain ⟨task, state, reply⟩ := done
  constructor
  · rintro ⟨source, next, last, rfl, reported, enumerated⟩
    obtain ⟨configured, fetched⟩ := Gathered.enumerated_iff.1 enumerated
    simp [fetched?, reported, configured, fetched]
  · intro fetched
    cases task with
    | publish attributes => exact nomatch fetched
    | refresh source =>
      cases reported : source.attributeGroups state with
      | mk outcome next =>
        cases outcome with
        | error failure => simp [fetched?, reported] at fetched
        | ok found =>
          simp only [fetched?, reported, Option.some.injEq, Fetched.mk.injEq] at fetched
          obtain ⟨rfl, configured, rfl⟩ := fetched
          exact ⟨source, next, _, rfl, reported, Gathered.enumerated_iff.2 ⟨configured, rfl⟩⟩

theorem lacksConfig_iff {done : Done σ} :
    done.LacksConfig ↔ ∃ found ∈ done.fetched?, found.config.isOk = false := by
  constructor
  · rintro ⟨groups, failure, byGroup, obtains⟩
    exact ⟨_, obtains_iff.1 obtains, rfl⟩
  · rintro ⟨⟨groups, config, byGroup⟩, fetched, failed⟩
    cases config with
    | ok found => exact nomatch failed
    | error failure => exact ⟨groups, failure, byGroup, obtains_iff.2 fetched⟩

theorem lacks_iff {group : String} {done : Done σ} :
    done.Lacks group ↔
      ∃ found ∈ done.fetched?, ∃ entry ∈ found.byGroup, entry.1 = group ∧ entry.2.isOk = false := by
  constructor
  · rintro ⟨groups, config, byGroup, failure, obtains, member⟩
    exact ⟨_, obtains_iff.1 obtains, _, member, rfl, rfl⟩
  · rintro ⟨⟨groups, config, byGroup⟩, fetched, ⟨_, outcome⟩, member, rfl, failed⟩
    cases outcome with
    | ok found => exact nomatch failed
    | error failure => exact ⟨groups, config, byGroup, failure, obtains_iff.2 fetched, member⟩

instance : DecidablePred (LacksConfig : Done σ → Prop) := fun _ =>
  decidable_of_iff _ lacksConfig_iff.symm

instance (group : String) : DecidablePred (Lacks group : Done σ → Prop) := fun _ =>
  decidable_of_iff _ lacks_iff.symm

end Done

/-! ## What one task notes -/

def Task.pending (task : Task σ) (state : σ) : Pending :=
  match task with
  | .publish attributes => .publish attributes
  | .refresh source => .refresh (Gathered.fetch source state).1

theorem Task.perform_eq (task : Task σ) (registry : Registry) (state : σ) :
    (task.perform registry state).1 = ((task.pending state).finish registry).1 ∧
      (task.perform registry state).2.1 = ((task.pending state).finish registry).2 := by
  cases task <;> exact ⟨rfl, rfl⟩

def Pending.missing : Pending → List String
  | .refresh (.ok found) => found.missing.map Prod.fst
  | .refresh (.error _) | .publish _ => []

def Reply.notes : Reply → List Observation
  | .snapshot (.ok told) =>
      [.schemaVersion told.version, .schemaAttributes told.schema.attributes.length]
  | .snapshot (.error _) => []
  | .report (.ok told) =>
      [.schemaVersion told.version, .schemaAttributes told.attributeCount,
        .refresh (if told.isComplete then "success" else "partial")]
  | .report (.error _) => [.refresh "error"]

theorem observations_noteMissing (missing : List (String × Failure)) :
    ∀ registry : Registry, (registry.noteMissing missing).meter.observations =
      registry.meter.observations ++ (missing.map Prod.fst).map .enumerationFailure := by
  induction missing with
  | nil => exact fun registry => (List.append_nil _).symm
  | cons entry rest inductionHypothesis =>
    intro registry
    refine (inductionHypothesis _).trans ?_
    simp [note, Meter.note]

theorem observations_finish (call : Pending) (registry : Registry) :
    (call.finish registry).2.meter.observations = registry.meter.observations ++
      (call.missing.map .enumerationFailure ++ (call.finish registry).1.notes) := by
  cases call with
  | publish attributes =>
    cases built : Schema.build (Attribute.builtin ++ attributes) with
    | error failure =>
      simp [Pending.finish, Pending.missing, publish_error built, Reply.notes]
    | ok schema =>
      simp [Pending.finish, Pending.missing, publish_ok built, Reply.notes, advance, Meter.note]
  | refresh gathered =>
    cases gathered with
    | error failure => rfl
    | ok found =>
      have noted := observations_noteMissing found.missing registry
      cases built : Schema.build (Attribute.builtin ++ found.attributes) with
      | error failure =>
        simp [Pending.finish, Pending.missing, settle, publish_error built, Reply.notes, note,
          Meter.note, noted]
      | ok schema =>
        simp [Pending.finish, Pending.missing, settle, publish_ok built, Reply.notes, note,
          Meter.note, noted, advance, RefreshReport.isComplete, Gathered.failures]

/-- The version and the size that a call tells of, if it succeeds. -/
def Reply.told? : Reply → Option (Nat × Nat)
  | .snapshot (.ok told) => some (told.version, told.schema.attributes.length)
  | .report (.ok told) => some (told.version, told.attributeCount)
  | .snapshot (.error _) | .report (.error _) => none

theorem Reply.told?_of_fails {reply : Reply} (fails : reply.Fails) : reply.told? = none := by
  match reply with
  | .snapshot (.error _) | .report (.error _) => rfl

theorem Reply.told?_of_tells {reply : Reply} {snapshot : Snapshot} (tells : reply.Tells snapshot) :
    reply.told? = some (snapshot.version, snapshot.schema.attributes.length) := by
  match reply with
  | .snapshot (.ok told) => rw [told?, show told = snapshot from tells]
  | .report (.ok told) => rw [told?, tells.1, tells.2]

theorem Reply.not_fails_of_tells {reply : Reply} {snapshot : Snapshot}
    (tells : reply.Tells snapshot) : ¬ reply.Fails := by
  match reply with
  | .snapshot (.ok _) | .report (.ok _) => exact id
  | .snapshot (.error _) | .report (.error _) => exact tells.elim

theorem level?_finish {series : Series} {read? : Observation → Option Nat}
    (levels : Meter.Levels series read?) (part : Nat × Nat → Nat)
    (missing : ∀ label, read? (.enumerationFailure label) = none)
    (notes : ∀ reply : Reply, reply.notes.filterMap read? = (reply.told?.map part).toList)
    (call : Pending) (registry : Registry) :
    (call.finish registry).2.meter.level? series =
      ((call.finish registry).1.told?.map part).or (registry.meter.level? series) := by
  have nothing : (call.missing.map Observation.enumerationFailure).filterMap read? = [] := by
    simp [missing]
  rw [levels.level?_eq, levels.level?_eq, observations_finish, List.filterMap_append,
    List.filterMap_append, nothing, List.nil_append, notes, List.getLast?_append]
  cases (call.finish registry).1.told? <;> rfl

/-- The gauges show the current schema, or nothing as long as none was published. -/
structure Gauged (registry : Registry) : Prop where
  version : registry.meter.level? Meter.versionSeries =
    if registry.changes = 0 then none else some registry.version
  size : registry.meter.level? Meter.sizeSeries =
    if registry.changes = 0 then none else some registry.current.schema.attributes.length

theorem gauged_new : new.Gauged :=
  ⟨rfl, rfl⟩

theorem Gauged.finish {registry : Registry} (gauged : registry.Gauged) (call : Pending) :
    (call.finish registry).2.Gauged := by
  have version := level?_finish Meter.levels_version Prod.fst (fun _ => rfl)
    (by rintro (⟨_ | _⟩ | ⟨_ | _⟩) <;> rfl) call registry
  have size := level?_finish Meter.levels_size Prod.snd (fun _ => rfl)
    (by rintro (⟨_ | _⟩ | ⟨_ | _⟩) <;> rfl) call registry
  rcases finish_cases call registry with ⟨fails, same⟩ | ⟨schema, _, advanced, tells⟩
  · rw [Reply.told?_of_fails fails, Option.map_none, Option.none_or] at version size
    constructor
    · rw [version, gauged.version, same.changes, same.version]
    · rw [size, gauged.size, same.changes, same.current]
  · have told := Reply.told?_of_tells tells
    rw [told, Option.map_some, Option.some_or] at version size
    have changed : (call.finish registry).2.changes ≠ 0 := by
      rw [advanced.changes]
      exact Nat.succ_ne_zero _
    have nextVersion : (call.finish registry).2.version = registry.version + 1 :=
      congrArg Snapshot.version advanced.current
    constructor
    · rw [version, if_neg changed, nextVersion]
    · rw [size, if_neg changed, advanced.current]

def Done.missing (done : Done σ) : List String :=
  (done.task.pending done.state).missing

def Done.notes (done : Done σ) : List Observation :=
  done.missing.map .enumerationFailure ++ done.reply.notes

theorem Done.count_refresh_notes (done : Done σ) (status : String) :
    done.notes.count (.refresh status) = done.reply.notes.count (.refresh status) := by
  have foreign : (done.missing.map Observation.enumerationFailure).count (.refresh status) = 0 :=
    List.count_eq_zero.2 (by simp)
  rw [notes, List.count_append, foreign, Nat.zero_add]

theorem Done.count_error (done : Done σ) :
    done.notes.count (.refresh "error") = if done.reply.IsFailedRefresh then 1 else 0 := by
  rw [count_refresh_notes]
  match done.reply with
  | .snapshot (.ok _) | .snapshot (.error _) | .report (.error _) =>
    simp [Reply.notes, Reply.IsFailedRefresh]
  | .report (.ok told) =>
    cases complete : told.isComplete <;> simp [Reply.notes, Reply.IsFailedRefresh, complete]

theorem Done.count_refresh (done : Done σ) (isComplete : Bool) :
    done.notes.count (.refresh (if isComplete then "success" else "partial")) =
      if done.reply.IsReported isComplete then 1 else 0 := by
  rw [count_refresh_notes]
  match done.reply with
  | .snapshot (.ok _) | .snapshot (.error _) | .report (.error _) =>
    cases isComplete <;> simp [Reply.notes, Reply.IsReported]
  | .report (.ok told) =>
    cases isComplete <;> cases complete : told.isComplete <;>
      simp [Reply.notes, Reply.IsReported, complete]

theorem count_missingOf (outcomes : List (String × Except Failure Enumerations)) (label : String) :
    ((Gathered.missingOf outcomes).map Prod.fst).count label =
      outcomes.countP fun outcome => outcome.1 = label ∧ outcome.2.isOk = false := by
  induction outcomes with
  | nil => rfl
  | cons outcome rest inductionHypothesis =>
    obtain ⟨group, outcome⟩ := outcome
    rw [List.countP_cons, ← inductionHypothesis]
    cases outcome with
    | ok found => simp [Gathered.missingOf, Except.isOk, Except.toBool]
    | error failure =>
      simp [Gathered.missingOf, Except.isOk, Except.toBool, List.count_cons]

theorem countP_of_nodup {α : Type} {entries : List (String × α)} (key : String) (p : α → Prop)
    [DecidablePred p] (distinct : (entries.map Prod.fst).Nodup) :
    (entries.countP fun entry => entry.1 = key ∧ p entry.2) =
      if ∃ entry ∈ entries, entry.1 = key ∧ p entry.2 then 1 else 0 := by
  induction entries with
  | nil => rfl
  | cons entry rest inductionHypothesis =>
    rw [List.map_cons, List.nodup_cons] at distinct
    rw [List.countP_cons, inductionHypothesis distinct.2]
    by_cases counted : entry.1 = key ∧ p entry.2
    · have others : ¬ ∃ other ∈ rest, other.1 = key ∧ p other.2 := by
        rintro ⟨other, member, same, _⟩
        exact distinct.1 (List.mem_map.2 ⟨other, member, same.trans counted.1.symm⟩)
      simp [if_neg others, counted]
    · simp only [List.exists_mem_cons_iff, or_iff_right counted, decide_eq_true_eq, if_neg counted,
        Nat.add_zero]

theorem Done.missing_of_none {done : Done σ} (fetched : done.fetched? = none) :
    done.missing = [] := by
  obtain ⟨task, state, reply⟩ := done
  cases task with
  | publish attributes => rfl
  | refresh source =>
    cases reported : source.attributeGroups state with
    | mk outcome next =>
      cases outcome with
      | error failure => simp only [missing, Task.pending, Pending.missing, fetch_failed reported]
      | ok groups => simp [fetched?, reported] at fetched

theorem Done.missing_of_obtains {done : Done σ} {groups : AttributeGroups}
    {config : Except Failure Enumerations}
    {byGroup : List (String × Except Failure Enumerations)}
    (obtains : done.Obtains groups config byGroup) : done.missing =
      (Gathered.missingOf ((Gathered.configGroup, config) :: byGroup)).map Prod.fst := by
  obtain ⟨source, next, last, isRefresh, reported, enumerated⟩ := obtains
  rw [missing, isRefresh, Task.pending, fetch_ok reported enumerated]
  rfl

theorem Done.names_of_obtains {done : Done σ} {groups : AttributeGroups}
    {config : Except Failure Enumerations}
    {byGroup : List (String × Except Failure Enumerations)}
    (obtains : done.Obtains groups config byGroup) : byGroup.map Prod.fst = groups.keys := by
  obtain ⟨source, next, last, -, -, enumerated⟩ := obtains
  exact (List.cons.inj enumerated.names).2

/-- The enumerations that a refresh could not have are those of the groups that it lacks, and
those for all groups. -/
theorem Done.count_missing (done : Done σ) (label : String) :
    done.missing.count label = (if done.Lacks label then 1 else 0) +
      if label = Gathered.configGroup ∧ done.LacksConfig then 1 else 0 := by
  cases fetched : done.fetched? with
  | none => simp [missing_of_none fetched, lacks_iff, lacksConfig_iff, fetched]
  | some found =>
    have obtains := obtains_iff.2 fetched
    have lacks : done.Lacks label ↔
        ∃ entry ∈ found.byGroup, entry.1 = label ∧ entry.2.isOk = false := by
      simp [lacks_iff, fetched]
    have lacksConfig : done.LacksConfig ↔ found.config.isOk = false := by
      simp [lacksConfig_iff, fetched]
    have counted := countP_of_nodup label
      (fun outcome : Except Failure Enumerations => outcome.isOk = false)
      (names_of_obtains obtains ▸ found.groups.nodup_keys)
    rw [missing_of_obtains obtains, count_missingOf, List.countP_cons, counted]
    simp only [lacks, lacksConfig, decide_eq_true_eq, eq_comm (a := label)]

theorem Done.count_enumerationFailure (done : Done σ) (label : String) :
    done.notes.count (.enumerationFailure label) = (if done.Lacks label then 1 else 0) +
      if label = Gathered.configGroup ∧ done.LacksConfig then 1 else 0 := by
  have foreign : done.reply.notes.count (.enumerationFailure label) = 0 := by
    apply List.count_eq_zero.2
    match done.reply with
    | .snapshot (.ok _) | .snapshot (.error _) | .report (.ok _) | .report (.error _) =>
      simp [Reply.notes]
  rw [notes, List.count_append, foreign, Nat.add_zero, ← count_missing]
  exact List.count_map_of_injective _ _ (fun _ _ => Observation.enumerationFailure.inj) _

/-! ## Whole runs -/

/-- The gauges show the version and the size of the current schema as soon as one was published, and
each counter stands at the number of refreshes that it is about. -/
structure Measured (done : List (Done σ)) (last : Registry) : Prop where
  unset : (∀ call ∈ done, call.reply.Fails) →
    last.meter.level? Meter.versionSeries = none ∧ last.meter.level? Meter.sizeSeries = none
  version : (∃ call ∈ done, ¬ call.reply.Fails) →
    last.meter.level? Meter.versionSeries = some last.version
  size : (∃ call ∈ done, ¬ call.reply.Fails) →
    last.meter.level? Meter.sizeSeries = some last.current.schema.attributes.length
  errors : last.meter.total (.refresh "error") =
    done.countP fun call => call.reply.IsFailedRefresh
  complete : last.meter.total (.refresh "success") =
    done.countP fun call => call.reply.IsReported true
  incomplete : last.meter.total (.refresh "partial") =
    done.countP fun call => call.reply.IsReported false
  ofGroup : ∀ group, group ≠ Gathered.configGroup →
    last.meter.total (.enumerationFailure group) = done.countP fun call => call.Lacks group
  ofConfig : (∀ call ∈ done, ∀ groups config byGroup, call.Obtains groups config byGroup →
      Gathered.configGroup ∉ groups.keys) →
    last.meter.total (.enumerationFailure Gathered.configGroup) =
      done.countP fun call => call.LacksConfig

theorem observations_performAll (tasks : List (Task σ)) :
    ∀ (registry : Registry) (state : σ),
      (performAll tasks (registry, state)).2.1.meter.observations =
        registry.meter.observations ++
          (performAll tasks (registry, state)).1.flatMap Done.notes := by
  induction tasks with
  | nil => exact fun registry state => (List.append_nil _).symm
  | cons task rest inductionHypothesis =>
    intro registry state
    obtain ⟨reply, next⟩ := task.perform_eq registry state
    have noted := observations_finish (task.pending state) registry
    rw [← reply, ← next] at noted
    have after := inductionHypothesis (task.perform registry state).2.1
      (task.perform registry state).2.2
    rw [noted, List.append_assoc] at after
    exact after

theorem Gauged.performAll (tasks : List (Task σ)) :
    ∀ {registry : Registry} (state : σ), registry.Gauged →
      (performAll tasks (registry, state)).2.1.Gauged := by
  induction tasks with
  | nil => exact fun state gauged => gauged
  | cons task rest inductionHypothesis =>
    intro registry state gauged
    have next := gauged.finish (task.pending state)
    rw [← (task.perform_eq registry state).2] at next
    exact inductionHypothesis _ next

theorem Task.changes_perform (task : Task σ) (registry : Registry) (state : σ) :
    (task.perform registry state).2.1.changes =
      registry.changes + if (task.perform registry state).1.Fails then 0 else 1 := by
  obtain ⟨reply, next⟩ := task.perform_eq registry state
  rw [reply, next]
  rcases finish_cases (task.pending state) registry with
    ⟨fails, same⟩ | ⟨schema, _, advanced, tells⟩
  · rw [if_pos fails, same.changes, Nat.add_zero]
  · rw [if_neg (Reply.not_fails_of_tells tells), advanced.changes]

theorem changes_performAll (tasks : List (Task σ)) :
    ∀ (registry : Registry) (state : σ),
      (performAll tasks (registry, state)).2.1.changes = registry.changes +
        (performAll tasks (registry, state)).1.countP fun call => ¬ call.reply.Fails := by
  induction tasks with
  | nil => exact fun registry state => rfl
  | cons task rest inductionHypothesis =>
    intro registry state
    have after := inductionHypothesis (task.perform registry state).2.1
      (task.perform registry state).2.2
    rw [task.changes_perform, Nat.add_right_comm, Nat.add_assoc] at after
    rw [performAll, List.countP_cons]
    by_cases fails : (task.perform registry state).1.Fails
    · simpa [fails] using after
    · simpa [fails] using after

section

variable (tasks : List (Task σ)) (state : σ)

theorem total_performAll {observation : Observation} (isCounted : observation.IsCounted) :
    (performAll tasks (new, state)).2.1.meter.total observation =
      ((performAll tasks (new, state)).1.flatMap Done.notes).count observation := by
  rw [Meter.total_eq_count isCounted, Meter.count, observations_performAll]
  rfl

/-- A group that has the name of the group of all enumerations is counted with it. -/
theorem total_enumerationFailure (label : String) :
    (performAll tasks (new, state)).2.1.meter.total (.enumerationFailure label) =
      ((performAll tasks (new, state)).1.countP fun call => call.Lacks label) +
        (performAll tasks (new, state)).1.countP fun call =>
          label = Gathered.configGroup ∧ call.LacksConfig := by
  rw [total_performAll tasks state (by trivial), List.count_flatMap,
    ← Meter.sum_map_ite_eq_countP, ← Meter.sum_map_ite_eq_countP, ← List.sum_map_add]
  exact congrArg List.sum (List.map_congr_left fun call _ => call.count_enumerationFailure label)

/-- Whatever a registry is asked for, and whatever the sources answer, the measures follow it. -/
theorem measured_performAll :
    Measured (performAll tasks (new, state)).1 (performAll tasks (new, state)).2.1 := by
  have gauged := gauged_new.performAll tasks state
  have changes := changes_performAll tasks new state
  have changed : (∃ call ∈ (performAll tasks (new, state)).1, ¬ call.reply.Fails) →
      (performAll tasks (new, state)).2.1.changes ≠ 0 := by
    rintro ⟨call, member, succeeds⟩
    have counted : 0 < (performAll tasks (new, state)).1.countP fun call => ¬ call.reply.Fails :=
      List.countP_pos_iff.2 ⟨call, member, decide_eq_true succeeds⟩
    omega
  exact {
    unset := by
      intro fail
      have none : ((performAll tasks (new, state)).1.countP fun call => ¬ call.reply.Fails) = 0 :=
        List.countP_eq_zero.2 fun call member => by simpa using fail call member
      have unchanged : (performAll tasks (new, state)).2.1.changes = 0 := by
        rw [changes, none]
        rfl
      exact ⟨by rw [gauged.version, if_pos unchanged], by rw [gauged.size, if_pos unchanged]⟩
    version := fun published => by rw [gauged.version, if_neg (changed published)]
    size := fun published => by rw [gauged.size, if_neg (changed published)]
    errors := by
      rw [total_performAll tasks state (by trivial)]
      exact Meter.count_flatMap_eq_countP (fun call => call.count_error) _
    complete := by
      rw [total_performAll tasks state (by trivial)]
      exact Meter.count_flatMap_eq_countP (fun call => call.count_refresh true) _
    incomplete := by
      rw [total_performAll tasks state (by trivial)]
      exact Meter.count_flatMap_eq_countP (fun call => call.count_refresh false) _
    ofGroup := by
      intro group differs
      rw [total_enumerationFailure]
      simp [differs]
    ofConfig := by
      intro unnamed
      have unlacked : ((performAll tasks (new, state)).1.countP fun call =>
          call.Lacks Gathered.configGroup) = 0 := by
        apply List.countP_eq_zero.2
        intro call member lacks
        obtain ⟨groups, config, byGroup, failure, obtains, isEntry⟩ := of_decide_eq_true lacks
        have named : Gathered.configGroup ∈ groups.keys :=
          Done.names_of_obtains obtains ▸ List.mem_map.2 ⟨_, isEntry, rfl⟩
        exact unnamed call member groups config byGroup obtains named
      rw [total_enumerationFailure, unlacked, Nat.zero_add]
      simp }

/-- The first refresh lacks one group and the third task both; the second one fails. -/
def tiringTasks : List (Task (List String)) :=
  [.refresh tiring, .publish [.plain "metacard_tags" .string], .refresh tiring]

theorem measured_performAll_tiring :
    let last := (performAll tiringTasks (new, [])).2.1
    last.meter.level? Meter.versionSeries = some 2 ∧
      last.meter.level? Meter.sizeSeries = some 8 ∧
      last.meter.total (.refresh "error") = 0 ∧
      last.meter.total (.refresh "partial") = 2 ∧
      last.meter.total (.enumerationFailure "a") = 1 ∧
      last.meter.total (.enumerationFailure "b") = 2 ∧
      last.meter.total (.enumerationFailure Gathered.configGroup) = 0 := by
  have measured := measured_performAll tiringTasks []
  have succeeds : ∃ call ∈ (performAll tiringTasks (new, [])).1, ¬ call.reply.Fails := by decide
  refine ⟨(measured.version succeeds).trans (by decide), (measured.size succeeds).trans (by decide),
    measured.errors.trans (by decide), measured.incomplete.trans (by decide),
    (measured.ofGroup "a" (by decide)).trans (by decide),
    (measured.ofGroup "b" (by decide)).trans (by decide),
    (measured.ofConfig ?_).trans (by decide)⟩
  have unnamed : ∀ call ∈ (performAll tiringTasks (new, [])).1, ∀ found ∈ call.fetched?,
      Gathered.configGroup ∉ found.groups.keys := by decide
  exact fun call member groups config byGroup obtains =>
    unnamed call member _ (Done.obtains_iff.1 obtains)

end

end Registry

end Metacard
