import Metacard.Catalog.Store
/-!
# Rehearsed catalogs

A catalog in memory whose next calls can be told to fail, whose next create can be told what to
reply, and whose metadata can be fixed beforehand. What was told is used up in its order, and the
call does not reach the catalog behind.
-/

set_option autoImplicit false

namespace Metacard

inductive Operation where
  | query
  | create
  | update
  | delete
  | sourceIds
  | sourceInfo
  deriving DecidableEq, Repr

namespace Operation

def names : List (String × Operation) :=
  [("query", .query), ("create", .create), ("update", .update), ("delete", .delete),
    ("source_ids", .sourceIds), ("source_info", .sourceInfo)]

def ofName? (name : String) : Option Operation :=
  names.lookup name

end Operation

/-- Metadata whose every part is fixed, as an answer or as a failure. -/
structure FixedMetadata where
  groups : Except Failure AttributeGroups
  config : Except Failure Enumerations
  enumerations : Table (Except Failure Enumerations)
  localId : Except Failure String

structure Rehearsal where
  store : Store
  failures : List (Operation × Failure)
  createReplies : List Json
  metadata : Option FixedMetadata

namespace FixedMetadata

def enumerationsOf (fixed : FixedMetadata) (group : String) : Except Failure Enumerations :=
  (fixed.enumerations.find? group).getD (.ok .empty)

def source : MetadataSource FixedMetadata where
  attributeGroups fixed := (fixed.groups, fixed)
  enumerationConfig fixed := (fixed.config, fixed)
  groupEnumerations group fixed := (fixed.enumerationsOf group, fixed)
  localCatalogId fixed := (fixed.localId, fixed)

end FixedMetadata

namespace Rehearsal

def ofStore (store : Store) : Rehearsal where
  store := store
  failures := []
  createReplies := []
  metadata := none

def fail (rehearsal : Rehearsal) (operation : Operation) (failure : Failure) : Rehearsal :=
  { rehearsal with failures := rehearsal.failures ++ [(operation, failure)] }

def replyToCreate (rehearsal : Rehearsal) (reply : Json) : Rehearsal :=
  { rehearsal with createReplies := rehearsal.createReplies ++ [reply] }

def takeFailure (operation : Operation) :
    List (Operation × Failure) → Option (Failure × List (Operation × Failure))
  | [] => none
  | entry :: rest =>
      if entry.1 = operation then some (entry.2, rest)
      else (takeFailure operation rest).map fun taken => (taken.1, entry :: taken.2)

/-- A call on the catalog behind, unless the operation was told to fail. -/
def pass {α : Type} (operation : Operation) (call : Call Store α) : Call Rehearsal α :=
  fun rehearsal =>
    match takeFailure operation rehearsal.failures with
    | some (failure, rest) => (.error failure, { rehearsal with failures := rest })
    | none =>
        let (outcome, store) := call rehearsal.store
        (outcome, { rehearsal with store := store })

def create (request : Json) : Call Rehearsal Json := fun rehearsal =>
  match takeFailure .create rehearsal.failures, rehearsal.createReplies with
  | none, reply :: rest => (.ok reply, { rehearsal with createReplies := rest })
  | _, _ => pass .create (Store.create request) rehearsal

def backend : Backend Rehearsal where
  query request := pass .query (Store.query request)
  create := create
  update updates := pass .update (Store.update updates)
  delete ids := pass .delete (Store.delete ids)
  sourceIds := pass .sourceIds Store.sourceIds
  sourceInfo ids := pass .sourceInfo (Store.sourceInfo ids)

/-- Asks the fixed metadata, or the catalog behind if there is none. -/
def ask {α : Type} (fixed : Call FixedMetadata α) (stored : Call Store α) : Call Rehearsal α :=
  fun rehearsal =>
    match rehearsal.metadata with
    | some metadata => ((fixed metadata).1, rehearsal)
    | none => ((stored rehearsal.store).1, rehearsal)

def metadataSource : MetadataSource Rehearsal where
  attributeGroups := ask FixedMetadata.source.attributeGroups Store.metadata.attributeGroups
  enumerationConfig := ask FixedMetadata.source.enumerationConfig Store.metadata.enumerationConfig
  groupEnumerations group :=
    ask (FixedMetadata.source.groupEnumerations group) (Store.metadata.groupEnumerations group)
  localCatalogId := ask FixedMetadata.source.localCatalogId Store.metadata.localCatalogId

end Rehearsal

end Metacard
