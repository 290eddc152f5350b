import Metacard.Schema.Attribute
/-!
# Field types

A schema has two sides: what is read and what is written. A primitive type with a scalar has that
scalar on both sides. Any other type has a nominal type on each, named after the raw type by a legal
name that no scalar has; the name on the write side ends in `Input`.

This is `FieldType` with its `ScalarType`, and the part of `TypeProjector` that names types.
-/

set_option autoImplicit false

namespace Metacard

inductive Scalar where
  | string
  | float
  | int
  | boolean
  | binary
  | geometry
  | xml
  | date
  | json
  deriving DecidableEq, Repr

inductive Side where
  | read
  | write
  deriving DecidableEq, Repr

inductive BaseType where
  | scalar (value : Scalar)
  | nominal (name : String)
  deriving DecidableEq, Repr

structure FieldType where
  base : BaseType
  list : Bool
  deriving DecidableEq, Repr

namespace Scalar

def all : List Scalar :=
  [.string, .float, .int, .boolean, .binary, .geometry, .xml, .date, .json]

def name : Scalar → String
  | .string => "String"
  | .float => "Float"
  | .int => "Int"
  | .boolean => "Boolean"
  | .binary => "Binary"
  | .geometry => "Geometry"
  | .xml => "XML"
  | .date => "Date"
  | .json => "Json"

def ofPrimitive? : PrimitiveType → Option Scalar
  | .string => some .string
  | .double => some .float
  | .integer => some .int
  | .long => some .int
  | .boolean => some .boolean
  | .binary => some .binary
  | .geometry => some .geometry
  | .xml => some .xml
  | .date => some .date
  | .json => some .json
  | .other _ => none

def tag : Scalar → String
  | .xml => "Xml"
  | scalar => scalar.name

end Scalar

def nominalChar (c : Char) : Char :=
  if Text.isWordChar c || c = '_' then c else '_'

def nominalStem (raw : String) : List Char :=
  let chars := raw.toList.map nominalChar
  let named := if chars.isEmpty then "Unknown".toList else chars
  if (named.head?.map Char.isDigit).getD false then '_' :: named else named

def nominalName (raw : String) (side : Side) : String :=
  let stem := String.ofList (nominalStem raw)
  let free := if (Scalar.all.map Scalar.name).contains stem then stem ++ "Type" else stem
  match side with
  | .read => free
  | .write => free ++ "Input"

namespace BaseType

def ofPrimitive (type : PrimitiveType) (side : Side) : BaseType :=
  match Scalar.ofPrimitive? type with
  | some found => .scalar found
  | none => .nominal (nominalName type.raw side)

def name : BaseType → String
  | .scalar value => value.name
  | .nominal name => name

def nominal? : BaseType → Option String
  | .scalar _ => none
  | .nominal name => some name

def toJson : BaseType → Json
  | .scalar value => .object [("Scalar", .text value.tag)]
  | .nominal name => .object [("Nominal", .text name)]

end BaseType

def FieldType.render (type : FieldType) : String :=
  if type.list then "[" ++ type.base.name ++ "]" else type.base.name

end Metacard
