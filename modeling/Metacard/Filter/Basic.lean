import Metacard.Json.Basic
import Metacard.Text.Ascii
/-!
# Filters

A filter is a tree: comparisons of an attribute with an operand at the leaves, joined by AND and OR
and negated by NOT. A list operand stands for a comparison with any of its elements.

This is `PredicateNode` with its `Comparison` and its `FilterValue`; a `PredicateBuilder` is the
list of nodes that a group is made of.
-/

set_option autoImplicit false

namespace Metacard

inductive Operator where
  | equals
  | notEquals
  /-- Pattern match, `%` being the wildcard. -/
  | like
  /-- Pattern match that ignores case. -/
  | ilike
  | greater
  | greaterOrEqual
  | less
  | lessOrEqual
  deriving DecidableEq, Repr

inductive Connective where
  | and
  | or
  deriving DecidableEq, Repr

inductive Operand where
  | text (value : String)
  | number (value : Number)
  | boolean (value : Bool)
  /-- Any element may match. -/
  | list (elements : List Operand)
  deriving Repr

structure Comparison where
  operator : Operator
  property : String
  operand : Operand
  deriving Repr

inductive Filter where
  | comparison (leaf : Comparison)
  | group (connective : Connective) (members : List Filter)
  | negation (inner : Filter)
  deriving Repr

instance : Inhabited Filter := ⟨.group .and []⟩

def Operator.token : Operator → String
  | .equals => "="
  | .notEquals => "<>"
  | .like => "LIKE"
  | .ilike => "ILIKE"
  | .greater => ">"
  | .greaterOrEqual => ">="
  | .less => "<"
  | .lessOrEqual => "<="

/-- The operator of a tag. Signs are taken literally, words in any case. -/
def Operator.ofTag? (tag : String) : Option Operator :=
  if tag = "=" then some .equals
  else if tag = "<>" ∨ tag = "!=" then some .notEquals
  else if tag = ">" then some .greater
  else if tag = ">=" then some .greaterOrEqual
  else if tag = "<" then some .less
  else if tag = "<=" then some .lessOrEqual
  else if Text.equalIgnoringCase tag "LIKE" then some .like
  else if Text.equalIgnoringCase tag "ILIKE" then some .ilike
  else none

def Connective.keyword : Connective → String
  | .and => "AND"
  | .or => "OR"

def Connective.ofTag? (tag : String) : Option Connective :=
  if Text.equalIgnoringCase tag "AND" then some .and
  else if Text.equalIgnoringCase tag "OR" then some .or
  else none

namespace Operand

mutual

def decEq : (left right : Operand) → Decidable (left = right)
  | .text left, .text right => decidable_of_iff (left = right) (by simp)
  | .number left, .number right => decidable_of_iff (left = right) (by simp)
  | .boolean left, .boolean right => decidable_of_iff (left = right) (by simp)
  | .list left, .list right =>
      have := decEqElements left right
      decidable_of_iff (left = right) (by simp)
  | .text _, .number _ | .text _, .boolean _ | .text _, .list _ | .number _, .text _
  | .number _, .boolean _ | .number _, .list _ | .boolean _, .text _ | .boolean _, .number _
  | .boolean _, .list _ | .list _, .text _ | .list _, .number _ | .list _, .boolean _ =>
      isFalse (by simp)

def decEqElements : (left right : List Operand) → Decidable (left = right)
  | [], [] => isTrue rfl
  | left :: lefts, right :: rights =>
      have := decEq left right
      have := decEqElements lefts rights
      decidable_of_iff (left = right ∧ lefts = rights) (by simp)
  | [], _ :: _ | _ :: _, [] => isFalse (by simp)

end

instance : DecidableEq Operand := decEq

def elements : Operand → List Operand
  | .list elements => elements
  | _ => []

end Operand

instance : DecidableEq Comparison := fun left right =>
  decidable_of_iff
    (left.operator = right.operator ∧ left.property = right.property ∧
      left.operand = right.operand)
    (by cases left; cases right; simp)

namespace Filter

mutual

def decEq : (left right : Filter) → Decidable (left = right)
  | .comparison left, .comparison right => decidable_of_iff (left = right) (by simp)
  | .group leftConnective left, .group rightConnective right =>
      have := decEqMembers left right
      decidable_of_iff (leftConnective = rightConnective ∧ left = right) (by simp)
  | .negation left, .negation right =>
      have := decEq left right
      decidable_of_iff (left = right) (by simp)
  | .comparison _, .group _ _ | .comparison _, .negation _ | .group _ _, .comparison _
  | .group _ _, .negation _ | .negation _, .comparison _ | .negation _, .group _ _ =>
      isFalse (by simp)

def decEqMembers : (left right : List Filter) → Decidable (left = right)
  | [], [] => isTrue rfl
  | left :: lefts, right :: rights =>
      have := decEq left right
      have := decEqMembers lefts rights
      decidable_of_iff (left = right ∧ lefts = rights) (by simp)
  | [], _ :: _ | _ :: _, [] => isFalse (by simp)

end

instance : DecidableEq Filter := decEq

def compare (operator : Operator) (property : String) (operand : Operand) : Filter :=
  .comparison ⟨operator, property, operand⟩

def equal (property : String) (operand : Operand) : Filter :=
  compare .equals property operand

def like (property pattern : String) : Filter :=
  compare .like property (.text pattern)

def ilike (property pattern : String) : Filter :=
  compare .ilike property (.text pattern)

def all (members : List Filter) : Filter :=
  .group .and members

def any (members : List Filter) : Filter :=
  .group .or members

def and (left right : Filter) : Filter :=
  all [left, right]

def or (left right : Filter) : Filter :=
  any [left, right]

/-- Matches every record: the full text is like anything. -/
def matchAll : Filter :=
  ilike "anyText" "%"

def anyTag : Filter :=
  like "metacard-tags" "%"

end Filter

end Metacard
