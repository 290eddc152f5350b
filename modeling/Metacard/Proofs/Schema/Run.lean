import Metacard.Proofs.Schema.Publish
/-!
# Runs of a registry

Calls on a registry overlap: a call begins with what it reads for itself, such as all that a refresh
fetches, and takes effect later at once, whatever other calls have come between. Subscribers come
and mark what they have seen at any time.

In every such run the published versions are 1, 2, 3 and so on, a failing call changes nothing that
anyone sees, and every snapshot is well-formed.
-/

set_option autoImplicit false

namespace Metacard

namespace Registry

/-- A call that has begun, with all it needs to take effect. -/
inductive Pending where
  | publish (attributes : List Attribute)
  | refresh (gathered : Except Failure Gathered)

inductive Reply where
  | snapshot (outcome : Except Failure Snapshot)
  | report (outcome : Except Failure RefreshReport)

def Pending.finish (call : Pending) (registry : Registry) : Reply × Registry :=
  match call with
  | .publish attributes =>
      let (outcome, next) := Registry.publish attributes registry
      (.snapshot outcome, next)
  | .refresh gathered =>
      let (outcome, next) := settle gathered registry
      (.report outcome, next)

def Reply.Fails : Reply → Prop
  | .snapshot (.error _) | .report (.error _) => True
  | .snapshot (.ok _) | .report (.ok _) => False

def Reply.Tells (snapshot : Snapshot) : Reply → Prop
  | .snapshot (.ok told) => told = snapshot
  | .report (.ok told) =>
      told.version = snapshot.version ∧
        told.attributeCount = snapshot.schema.attributes.length
  | .snapshot (.error _) | .report (.error _) => False

structure Finished where
  before : Registry
  after : Registry
  reply : Reply

def Finished.published? (call : Finished) : Option Snapshot :=
  if call.after.changes = call.before.changes then none else some call.after.current

/-- A subscriber, and the version that it has last marked as seen. -/
structure Watcher where
  subscriber : Subscriber
  marked : Nat

def watch (registry : Registry) : Watcher where
  subscriber := registry.subscribe
  marked := registry.version

inductive Action where
  | begin (call : Pending)
  | finish (index : Nat)
  | subscribe
  | mark (index : Nat)

structure Run where
  registry : Registry
  pending : List Pending
  watchers : List Watcher
  /-- The calls that have taken effect, the first one first. -/
  finished : List Finished

namespace Run

def start : Run where
  registry := new
  pending := []
  watchers := []
  finished := []

def record (run : Run) (reply : Reply) (next : Registry) : Run :=
  { run with
    registry := next
    finished := run.finished ++ [⟨run.registry, next, reply⟩] }

def finish (run : Run) (call : Pending) : Run :=
  let (reply, next) := call.finish run.registry
  run.record reply next

def step (run : Run) : Action → Run
  | .begin call => { run with pending := run.pending ++ [call] }
  | .finish index =>
      match run.pending[index]? with
      | some call => { run.finish call with pending := run.pending.eraseIdx index }
      | none => run
  | .subscribe => { run with watchers := run.watchers ++ [run.registry.watch] }
  | .mark index => { run with watchers := run.watchers.set index run.registry.watch }

def after (actions : List Action) : Run :=
  actions.foldl step start

def published (run : Run) : List Snapshot :=
  run.finished.filterMap Finished.published?

def snapshots (run : Run) : List Snapshot :=
  new.current :: run.published

end Run

/-- A call that succeeds publishes the snapshot that it tells of; one that fails leaves everything
as it was. -/
structure Finished.Fair (call : Finished) : Prop where
  succeeds : ∀ snapshot, call.published? = some snapshot → call.reply.Tells snapshot
  fails : call.published? = none → call.reply.Fails ∧ Same call.before call.after

/-- A call leaves the registry as it is, or publishes a schema with the builtin attributes. -/
theorem finish_cases (call : Pending) (registry : Registry) :
    ((call.finish registry).1.Fails ∧ Same registry (call.finish registry).2) ∨
      ∃ schema : Schema, schema.IsBuilt ∧ Advanced registry (call.finish registry).2 schema ∧
        (call.finish registry).1.Tells ⟨registry.version + 1, schema⟩ := by
  cases call with
  | publish attributes =>
    cases built : Schema.build (Attribute.builtin ++ attributes) with
    | error failure =>
      have published := publish_error built registry
      simp only [Pending.finish, published]
      exact .inl ⟨trivial, rfl, rfl⟩
    | ok schema =>
      have published := publish_ok built registry
      simp only [Pending.finish, published]
      refine .inr ⟨schema, ⟨attributes, built⟩, advanced_advance registry schema, ?_⟩
      rw [Reply.Tells]
  | refresh gathered =>
    cases gathered with
    | error failure => exact .inl ⟨trivial, (settle_failed failure registry).2⟩
    | ok found =>
      cases built : Schema.build (Attribute.builtin ++ found.attributes) with
      | error failure =>
        obtain ⟨outcome, same⟩ := settle_error built registry
        simp only [Pending.finish, outcome]
        exact .inl ⟨trivial, same⟩
      | ok schema =>
        obtain ⟨outcome, advanced⟩ := settle_ok built registry
        simp only [Pending.finish, outcome]
        exact .inr ⟨schema, ⟨found.attributes, built⟩, advanced, rfl, rfl⟩

theorem finish_refresh {σ : Type} (source : MetadataSource σ) (registry : Registry) (state : σ) :
    (Pending.refresh (Gathered.fetch source state).1).finish registry =
      (.report (refresh source (registry, state)).1, (refresh source (registry, state)).2.1) :=
  rfl

theorem published?_of_same {before after : Registry} (same : Same before after) (reply : Reply) :
    Finished.published? ⟨before, after, reply⟩ = none :=
  if_pos same.changes

theorem published?_of_advanced {before after : Registry} {schema : Schema}
    (advanced : Advanced before after schema) (reply : Reply) :
    Finished.published? ⟨before, after, reply⟩ = some ⟨before.version + 1, schema⟩ := by
  have changed : after.changes ≠ before.changes := by
    rw [advanced.changes]
    exact Nat.succ_ne_self before.changes
  rw [Finished.published?, if_neg changed, advanced.current]

/-! ## The invariant -/

structure Run.Safe (run : Run) : Prop where
  versions : run.published.map Snapshot.version = List.range' 1 run.published.length
  current : run.snapshots.getLast? = some run.registry.current
  version : run.registry.version = run.published.length
  changes : run.registry.changes = run.registry.version
  fair : ∀ call ∈ run.finished, call.Fair
  seen : ∀ watcher ∈ run.watchers,
    watcher.subscriber.seen = watcher.marked ∧ watcher.marked ≤ run.registry.version
  wellFormed : ∀ snapshot ∈ run.snapshots, snapshot.schema.WellFormed

namespace Run

theorem safe_start : start.Safe where
  versions := rfl
  current := rfl
  version := rfl
  changes := rfl
  fair := fun _ member => nomatch member
  seen := fun _ member => nomatch member
  wellFormed := by
    intro snapshot member
    rw [List.eq_of_mem_singleton member]
    exact Schema.wellFormed_builtin

theorem Safe.withPending {run : Run} (safe : run.Safe) (pending : List Pending) :
    Safe { run with pending := pending } :=
  ⟨safe.versions, safe.current, safe.version, safe.changes, safe.fair, safe.seen, safe.wellFormed⟩

theorem Safe.withWatchers {run : Run} (safe : run.Safe) {watchers : List Watcher}
    (old : ∀ watcher ∈ watchers, watcher ∈ run.watchers ∨ watcher = run.registry.watch) :
    Safe { run with watchers := watchers } where
  versions := safe.versions
  current := safe.current
  version := safe.version
  changes := safe.changes
  fair := safe.fair
  wellFormed := safe.wellFormed
  seen := by
    intro watcher member
    rcases old watcher member with isOld | rfl
    · exact safe.seen watcher isOld
    · exact ⟨safe.changes, Nat.le_refl _⟩

theorem published_record_of_same {run : Run} {next : Registry} (same : Same run.registry next)
    (reply : Reply) : (run.record reply next).published = run.published := by
  rw [published, record, List.filterMap_append, List.filterMap_cons_none
    (published?_of_same same reply), List.filterMap_nil, List.append_nil, published]

theorem published_record_of_advanced {run : Run} {next : Registry} {schema : Schema}
    (advanced : Advanced run.registry next schema) (reply : Reply) :
    (run.record reply next).published =
      run.published ++ [⟨run.registry.version + 1, schema⟩] := by
  rw [published, record, List.filterMap_append, List.filterMap_cons_some
    (published?_of_advanced advanced reply), List.filterMap_nil, published]

theorem Safe.failed {run : Run} (safe : run.Safe) {next : Registry}
    (same : Same run.registry next) {reply : Reply} (fails : reply.Fails) :
    (run.record reply next).Safe := by
  have published := published_record_of_same same reply
  have snapshots : (run.record reply next).snapshots = run.snapshots := by
    rw [Run.snapshots, published, Run.snapshots]
  have version := same.version
  refine ⟨?_, ?_, ?_, ?_, ?_, ?_, ?_⟩
  · rw [published]
    exact safe.versions
  · rw [snapshots, safe.current]
    exact congrArg some same.current.symm
  · rw [published, ← safe.version]
    exact version
  · exact same.changes.trans (safe.changes.trans version.symm)
  · intro call member
    rcases List.mem_append.1 member with member | member
    · exact safe.fair call member
    · rw [List.eq_of_mem_singleton member]
      refine ⟨?_, fun _ => ⟨fails, same⟩⟩
      intro snapshot isPublished
      rw [published?_of_same same reply] at isPublished
      exact nomatch isPublished
  · intro watcher member
    obtain ⟨seen, marked⟩ := safe.seen watcher member
    exact ⟨seen, Nat.le_trans marked (Nat.le_of_eq version.symm)⟩
  · rw [snapshots]
    exact safe.wellFormed

theorem Safe.succeeded {run : Run} (safe : run.Safe) {next : Registry} {schema : Schema}
    (wellFormed : schema.WellFormed) (advanced : Advanced run.registry next schema) {reply : Reply}
    (tells : reply.Tells ⟨run.registry.version + 1, schema⟩) : (run.record reply next).Safe := by
  have published := published_record_of_advanced advanced reply
  have snapshots : (run.record reply next).snapshots =
      run.snapshots ++ [⟨run.registry.version + 1, schema⟩] := by
    rw [Run.snapshots, published, Run.snapshots, List.cons_append]
  have version : next.version = run.registry.version + 1 :=
    congrArg Snapshot.version advanced.current
  refine ⟨?_, ?_, ?_, ?_, ?_, ?_, ?_⟩
  · rw [published, List.map_append, safe.versions, List.map_singleton, List.length_append,
      List.length_singleton, List.range'_1_concat, safe.version, Nat.add_comm 1]
  · rw [snapshots, List.getLast?_concat]
    exact congrArg some advanced.current.symm
  · rw [published, List.length_append, List.length_singleton, ← safe.version]
    exact version
  · exact advanced.changes.trans ((congrArg (· + 1) safe.changes).trans version.symm)
  · intro call member
    rcases List.mem_append.1 member with member | member
    · exact safe.fair call member
    · rw [List.eq_of_mem_singleton member]
      have isPublished := published?_of_advanced advanced reply
      refine ⟨?_, ?_⟩
      · intro snapshot found
        rw [isPublished] at found
        obtain rfl := Option.some.inj found
        exact tells
      · intro none
        rw [isPublished] at none
        exact nomatch none
  · intro watcher member
    obtain ⟨seen, marked⟩ := safe.seen watcher member
    exact ⟨seen, Nat.le_trans marked (version ▸ Nat.le_succ _)⟩
  · rw [snapshots]
    intro snapshot member
    rcases List.mem_append.1 member with member | member
    · exact safe.wellFormed snapshot member
    · rw [List.eq_of_mem_singleton member]
      exact wellFormed

theorem Safe.finish {run : Run} (safe : run.Safe) (call : Pending) : (run.finish call).Safe := by
  rcases finish_cases call run.registry with ⟨fails, same⟩ | ⟨schema, isBuilt, advanced, tells⟩
  · exact safe.failed same fails
  · exact safe.succeeded isBuilt.wellFormed advanced tells

theorem safe_step {run : Run} (safe : run.Safe) (action : Action) : (run.step action).Safe := by
  cases action with
  | begin call => exact safe.withPending _
  | finish index =>
    rw [step]
    cases run.pending[index]? with
    | none => exact safe
    | some call => exact (safe.finish call).withPending _
  | subscribe =>
    apply safe.withWatchers
    intro watcher member
    rcases List.mem_append.1 member with member | member
    · exact .inl member
    · exact .inr (List.eq_of_mem_singleton member)
  | mark index =>
    apply safe.withWatchers
    intro watcher member
    exact List.mem_or_eq_of_mem_set member

theorem safe_foldl (actions : List Action) :
    ∀ {run : Run}, run.Safe → (actions.foldl step run).Safe := by
  -- On the actions still to come, whatever safe run they go on from.
  induction actions with
  | nil =>
    intro run safe
    exact safe
  | cons action rest inductionHypothesis =>
    intro run safe
    exact inductionHypothesis (safe_step safe action)

theorem safe_after (actions : List Action) : (after actions).Safe :=
  safe_foldl actions safe_start

end Run

def Reachable (registry : Registry) : Prop :=
  ∃ actions, (Run.after actions).registry = registry

theorem reachable_new : new.Reachable :=
  ⟨[], rfl⟩

theorem Reachable.finish {registry : Registry} (reachable : registry.Reachable) (call : Pending) :
    (call.finish registry).2.Reachable := by
  obtain ⟨actions, rfl⟩ := reachable
  refine ⟨actions ++ [.begin call, .finish (Run.after actions).pending.length], ?_⟩
  have last : ((Run.after actions).pending ++ [call])[(Run.after actions).pending.length]? =
      some call := List.getElem?_concat_length
  rw [Run.after, List.foldl_append, ← Run.after, List.foldl_cons, List.foldl_cons, List.foldl_nil,
    Run.step, Run.step]
  simp only [last]
  rfl

theorem Run.isBuilt_step {run : Run} (isBuilt : run.registry.current.schema.IsBuilt)
    (action : Action) : (run.step action).registry.current.schema.IsBuilt := by
  cases action with
  | begin call => exact isBuilt
  | subscribe => exact isBuilt
  | mark index => exact isBuilt
  | finish index =>
    rw [step]
    cases run.pending[index]? with
    | none => exact isBuilt
    | some call =>
      have after : (call.finish run.registry).2.current.schema.IsBuilt := by
        rcases finish_cases call run.registry with ⟨_, same⟩ | ⟨schema, schemaBuilt, advanced, _⟩
        · rwa [same.current]
        · rwa [advanced.current]
      exact after

theorem Run.isBuilt_foldl (actions : List Action) :
    ∀ {run : Run}, run.registry.current.schema.IsBuilt →
      (actions.foldl step run).registry.current.schema.IsBuilt := by
  induction actions with
  | nil =>
    intro run isBuilt
    exact isBuilt
  | cons action rest inductionHypothesis =>
    intro run isBuilt
    exact inductionHypothesis (Run.isBuilt_step isBuilt action)

theorem Reachable.isBuilt {registry : Registry} (reachable : registry.Reachable) :
    registry.current.schema.IsBuilt := by
  obtain ⟨actions, rfl⟩ := reachable
  exact Run.isBuilt_foldl actions Schema.isBuilt_builtin

theorem hasUnseen_of_same {before after : Registry} (same : Same before after)
    (subscriber : Subscriber) : subscriber.hasUnseen after = subscriber.hasUnseen before := by
  rw [Subscriber.hasUnseen, Subscriber.hasUnseen, same.changes]

theorem Reply.not_tells_of_fails {reply : Reply} (fails : reply.Fails) (snapshot : Snapshot) :
    ¬ reply.Tells snapshot := by
  match reply with
  | .snapshot (.error _) => exact id
  | .report (.error _) => exact id

/-- In every run, whatever calls overlap in it, the published snapshots have the versions 1, 2, 3
and so on; a call that succeeds tells of the snapshot that it has published, and one that fails
leaves the snapshot as it was and no subscriber with something new; a subscriber has something new
just if the version has grown since it marked what it saw; and every snapshot that was ever current
is well-formed. -/
theorem run_safe (actions : List Action) :
    (Run.after actions).published.map Snapshot.version =
        List.range' 1 (Run.after actions).published.length ∧
    (Run.after actions).snapshots.getLast? = some (Run.after actions).registry.current ∧
    (∀ call ∈ (Run.after actions).finished, ¬ call.reply.Fails →
      ∃ snapshot, call.published? = some snapshot ∧ call.reply.Tells snapshot) ∧
    (∀ call ∈ (Run.after actions).finished, call.reply.Fails →
      call.published? = none ∧ call.after.current = call.before.current ∧
        ∀ subscriber : Subscriber,
          subscriber.hasUnseen call.after = subscriber.hasUnseen call.before) ∧
    (∀ watcher ∈ (Run.after actions).watchers,
      watcher.subscriber.hasUnseen (Run.after actions).registry = true ↔
        watcher.marked < (Run.after actions).registry.version) ∧
    ∀ snapshot ∈ (Run.after actions).snapshots, snapshot.schema.WellFormed := by
  have safe := Run.safe_after actions
  refine ⟨safe.versions, safe.current, ?_, ?_, ?_, safe.wellFormed⟩
  · intro call member succeeds
    have fair := safe.fair call member
    cases published : call.published? with
    | none => exact absurd (fair.fails published).1 succeeds
    | some snapshot => exact ⟨snapshot, rfl, fair.succeeds snapshot published⟩
  · intro call member fails
    have fair := safe.fair call member
    cases published : call.published? with
    | none =>
      have same := (fair.fails published).2
      exact ⟨rfl, same.current, hasUnseen_of_same same⟩
    | some snapshot =>
      exact absurd (fair.succeeds snapshot published) (Reply.not_tells_of_fails fails snapshot)
  · intro watcher member
    obtain ⟨seen, marked⟩ := safe.seen watcher member
    have changes := safe.changes
    rw [Subscriber.hasUnseen, decide_eq_true_eq]
    omega

end Registry

end Metacard
