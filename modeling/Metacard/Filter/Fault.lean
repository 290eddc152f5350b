import Metacard.Filter.Basic
import Metacard.Json.Printer
/-!
# What is wrong with a filter

The causes for which the JSON form of a filter is refused, for which a filter has no text, and for
which a number is no operand.
-/

set_option autoImplicit false

namespace Metacard

inductive NonFinite where
  | nan
  | infinity
  | negativeInfinity
  deriving DecidableEq, Repr

def NonFinite.name : NonFinite → String
  | .nan => "NaN"
  | .infinity => "inf"
  | .negativeInfinity => "-inf"

inductive FilterFault where
  | notAnObject (found : Json)
  | tagMissing
  | membersMissing (tag : String)
  | innerMissing
  | tagUnknown (tag : String)
  | propertyMissing (tag : String)
  | operandMissing (tag property : String)
  | operandUnsupported (found : Json)
  | groupEmpty (connective : Connective)
  | propertyBlank
  | listEmpty (property : String)
  | listNested (property : String)
  | cqlBlank
  | notFinite (value : NonFinite)
  /-- A cause that another party gives in its own words. -/
  | stated (text : String)
  deriving DecidableEq

def FilterFault.message : FilterFault → String
  | .notAnObject found => "expected an object, got " ++ found.render
  | .tagMissing => "missing 'type'"
  | .membersMissing tag => "'" ++ tag ++ "' requires a 'filters' array"
  | .innerMissing => "'NOT' requires a 'filter'"
  | .tagUnknown tag => "unknown predicate type '" ++ tag ++ "'"
  | .propertyMissing tag => "'" ++ tag ++ "' requires a string 'property'"
  | .operandMissing tag property => "'" ++ tag ++ "' on '" ++ property ++ "' has no 'value'"
  | .operandUnsupported found => "unsupported comparison value " ++ found.render
  | .groupEmpty connective => connective.keyword ++ " combinator has no children"
  | .propertyBlank => "comparison has no property"
  | .listEmpty property => "empty value list for '" ++ property ++ "'"
  | .listNested property => "nested value list for '" ++ property ++ "'"
  | .cqlBlank => "empty CQL"
  | .notFinite value => value.name ++ " is not a finite number"
  | .stated text => text

/-- A double as an operand; only finite ones can be written. -/
def Operand.ofDouble : Except NonFinite Binary64 → Except FilterFault Operand
  | .ok value => .ok (.number (.double value))
  | .error value => .error (.notFinite value)

end Metacard
