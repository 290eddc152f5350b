import Metacard.Catalog.Basic
import Metacard.Meter
import Metacard.Schema.Basic
/-!
# Versions of a schema

A registry holds the current snapshot of the schema, and every snapshot that is published gets the
next version. A refresh gathers the attributes and enumerations of a catalog and publishes them.
Without the attributes it fails; enumerations that cannot be had are only reported.

This is `SchemaRegistry`, with its `SchemaSnapshot` and its `RefreshReport`.
-/

set_option autoImplicit false

namespace Metacard

/-- A schema with its version; version 0 is the schema of the builtin attributes. -/
structure Snapshot where
  version : Nat
  schema : Schema
  deriving DecidableEq

structure Registry where
  current : Snapshot
  /-- How often the snapshot was replaced. Subscribers are told of this, not of versions. -/
  changes : Nat
  meter : Meter
  deriving DecidableEq

/-- One who is told of new snapshots: the changes up to the one last marked as seen. -/
structure Subscriber where
  seen : Nat
  deriving DecidableEq, Repr

structure RefreshReport where
  version : Nat
  attributeCount : Nat
  /-- The number of gathered attributes with an enumeration that is not empty. -/
  enumeratedCount : Nat
  /-- The enumerations that could not be had. -/
  failures : List Failure
  deriving DecidableEq

structure Gathered where
  attributes : List Attribute
  /-- The groups whose enumerations could not be had, with the causes. -/
  missing : List (String × Failure)
  deriving DecidableEq

def RefreshReport.isComplete (report : RefreshReport) : Bool :=
  report.failures.isEmpty

namespace Registry

def new : Registry where
  current := ⟨0, .builtin⟩
  changes := 0
  meter := .empty

instance : Inhabited Registry := ⟨new⟩

def version (registry : Registry) : Nat :=
  registry.current.version

/-- A subscriber who has seen the current snapshot: a new one, or one who marks it as seen. -/
def subscribe (registry : Registry) : Subscriber where
  seen := registry.changes

def note (registry : Registry) (observation : Observation) : Registry :=
  { registry with meter := registry.meter.note observation }

def advance (registry : Registry) (schema : Schema) : Registry where
  current := ⟨registry.version + 1, schema⟩
  changes := registry.changes + 1
  meter := (registry.meter.note (.schemaVersion (registry.version + 1))).note
    (.schemaAttributes schema.attributes.length)

def publish (attributes : List Attribute) : Call Registry Snapshot := fun registry =>
  match Schema.build (Attribute.builtin ++ attributes) with
  | .error failure => (.error failure, registry)
  | .ok schema => (.ok (registry.advance schema).current, registry.advance schema)

end Registry

namespace Subscriber

def hasUnseen (subscriber : Subscriber) (registry : Registry) : Bool :=
  subscriber.seen ≠ registry.changes

end Subscriber

namespace Gathered

/-- The group under which the enumerations for all groups are reported. -/
def configGroup : String := "<config>"

def fetchGroups {σ : Type} (source : MetadataSource σ) :
    List String → σ → List (String × Except Failure Enumerations) × σ
  | [], state => ([], state)
  | group :: rest, state =>
      let (outcome, next) := source.groupEnumerations group state
      let (others, last) := fetchGroups source rest next
      ((group, outcome) :: others, last)

/-- Puts the enumerations of an outcome, if there are any, in place of earlier ones. -/
def absorb (all : Enumerations) (outcome : String × Except Failure Enumerations) : Enumerations :=
  match outcome.2 with
  | .ok found => all.insertAll found.entries
  | .error _ => all

/-- The enumerations that could be had; a later one for the same attribute replaces an earlier. -/
def enumerations (outcomes : List (String × Except Failure Enumerations)) : Enumerations :=
  outcomes.foldl absorb .empty

def missingOf (outcomes : List (String × Except Failure Enumerations)) : List (String × Failure) :=
  outcomes.filterMap fun outcome =>
    match outcome.2 with
    | .ok _ => none
    | .error failure => some (outcome.1, failure)

/-- The attributes of all groups in ascending order of id; of several with one id the last one
stays. -/
def mergeGroups (groups : AttributeGroups) : List Attribute :=
  (Table.ofList ((groups.values.flatMap Table.values).map fun attr => (attr.id, attr))).values

def enumerate (enumerations : Enumerations) (attr : Attribute) : Attribute :=
  match enumerations.find? attr.id with
  | some values => { attr with enumeration := values }
  | none => attr

def ofOutcomes (groups : AttributeGroups)
    (outcomes : List (String × Except Failure Enumerations)) : Gathered where
  attributes := (mergeGroups groups).map (enumerate (enumerations outcomes))
  missing := missingOf outcomes

/-- Asks for the attributes, then for the enumerations: those for all groups, and those of each. -/
def fetch {σ : Type} (source : MetadataSource σ) : Call σ Gathered := fun state =>
  match source.attributeGroups state with
  | (.error failure, next) => (.error failure, next)
  | (.ok groups, next) =>
      let (config, next) := source.enumerationConfig next
      let (outcomes, next) := fetchGroups source groups.keys next
      (.ok (.ofOutcomes groups ((configGroup, config) :: outcomes)), next)

def enumeratedCount (gathered : Gathered) : Nat :=
  (gathered.attributes.filter fun attr => !attr.enumeration.isEmpty).length

def failures (gathered : Gathered) : List Failure :=
  gathered.missing.map fun entry => .partialMetadata entry.1 entry.2.message

end Gathered

namespace Registry

def noteMissing (registry : Registry) (missing : List (String × Failure)) : Registry :=
  missing.foldl (fun noted entry => noted.note (.enumerationFailure entry.1)) registry

/-- The second half of a refresh: publishes what was gathered, or gives up as the first half did. -/
def settle (gathered : Except Failure Gathered) : Call Registry RefreshReport := fun registry =>
  match gathered with
  | .error failure => (.error failure, registry.note (.refresh "error"))
  | .ok found =>
      match (registry.noteMissing found.missing).publish found.attributes with
      | (.error failure, next) => (.error failure, next.note (.refresh "error"))
      | (.ok snapshot, next) =>
          (.ok {
            version := snapshot.version
            attributeCount := snapshot.schema.attributes.length
            enumeratedCount := found.enumeratedCount
            failures := found.failures },
            next.note (.refresh (if found.missing.isEmpty then "success" else "partial")))

def refresh {σ : Type} (source : MetadataSource σ) : Call (Registry × σ) RefreshReport :=
  fun state =>
    let (gathered, next) := Gathered.fetch source state.2
    let (report, registry) := settle gathered state.1
    (report, registry, next)

end Registry

end Metacard
