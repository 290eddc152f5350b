import Metacard.Failure
/-!
# Safe names

Inside a schema an attribute goes by a safe name, its raw id with every dash and dot replaced by an
underscore. The known raw ids must have different safe names; then the safe name of a known
attribute leads back to its raw id. A name that no known attribute has leads back to itself.

This is `IdentifierMap`, with `to_safe`.
-/

set_option autoImplicit false

namespace Metacard

def safeChar (c : Char) : Char :=
  if c = '-' ∨ c = '.' then '_' else c

def safeName (raw : String) : String :=
  String.ofList (raw.toList.map safeChar)

structure NameMap where
  raws : Table String
  deriving DecidableEq

namespace NameMap

def empty : NameMap where
  raws := .empty

/-- Makes a raw id known, unless another one has its safe name. -/
def add (names : NameMap) (raw : String) : Except Failure NameMap :=
  match names.raws.find? (safeName raw) with
  | some known =>
      if known = raw then .ok names else .error (.nameCollision (safeName raw) known raw)
  | none => .ok ⟨names.raws.insert (safeName raw) raw⟩

def addAll (names : NameMap) : List String → Except Failure NameMap
  | [] => .ok names
  | raw :: rest => do
      let next ← names.add raw
      next.addAll rest

def ofIds (ids : List String) : Except Failure NameMap :=
  empty.addAll ids

def toRaw (names : NameMap) (name : String) : String :=
  (names.raws.find? name).getD name

def isKnown (names : NameMap) (name : String) : Bool :=
  names.raws.contains name

def size (names : NameMap) : Nat :=
  names.raws.size

/-- Properties under safe names. Of several that come under one name the last one stays. -/
def renameToSafe (properties : Table Json) : Table Json :=
  .ofList (properties.entries.map fun entry => (safeName entry.1, entry.2))

/-- Properties under raw ids. Of several that come under one id the last one stays. -/
def renameToRaw (names : NameMap) (attributes : Table Json) : Table Json :=
  .ofList (attributes.entries.map fun entry => (names.toRaw entry.1, entry.2))

end NameMap

end Metacard
