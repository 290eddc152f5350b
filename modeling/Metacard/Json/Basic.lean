import Metacard.Number.Binary64
import Metacard.Table
/-!
# JSON values

A number that is written as a plain integer of 64 bits stays an integer; every other number is a
double. So `1` and `1.0` are different values. An object is the list of its members; whatever reads
or builds one keeps them in ascending order of key.
-/

set_option autoImplicit false

namespace Metacard

inductive Number where
  | integer (value : Int)
  | double (value : Binary64)
  deriving DecidableEq, Repr

inductive Json where
  | null
  | boolean (value : Bool)
  | number (value : Number)
  | text (value : String)
  | array (items : List Json)
  | object (members : List (String × Json))
  deriving Repr, Inhabited

namespace Json

mutual

def decEq : (left right : Json) → Decidable (left = right)
  | .null, .null => isTrue rfl
  | .boolean left, .boolean right => decidable_of_iff (left = right) (by simp)
  | .number left, .number right => decidable_of_iff (left = right) (by simp)
  | .text left, .text right => decidable_of_iff (left = right) (by simp)
  | .array left, .array right =>
      have := decEqItems left right
      decidable_of_iff (left = right) (by simp)
  | .object left, .object right =>
      have := decEqMembers left right
      decidable_of_iff (left = right) (by simp)
  | .null, .boolean _ | .null, .number _ | .null, .text _ | .null, .array _ | .null, .object _
  | .boolean _, .null | .boolean _, .number _ | .boolean _, .text _ | .boolean _, .array _
  | .boolean _, .object _ | .number _, .null | .number _, .boolean _ | .number _, .text _
  | .number _, .array _ | .number _, .object _ | .text _, .null | .text _, .boolean _
  | .text _, .number _ | .text _, .array _ | .text _, .object _ | .array _, .null
  | .array _, .boolean _ | .array _, .number _ | .array _, .text _ | .array _, .object _
  | .object _, .null | .object _, .boolean _ | .object _, .number _ | .object _, .text _
  | .object _, .array _ => isFalse (by simp)

def decEqItems : (left right : List Json) → Decidable (left = right)
  | [], [] => isTrue rfl
  | left :: lefts, right :: rights =>
      have := decEq left right
      have := decEqItems lefts rights
      decidable_of_iff (left = right ∧ lefts = rights) (by simp)
  | [], _ :: _ | _ :: _, [] => isFalse (by simp)

def decEqMembers : (left right : List (String × Json)) → Decidable (left = right)
  | [], [] => isTrue rfl
  | (leftKey, left) :: lefts, (rightKey, right) :: rights =>
      have := decEq left right
      have := decEqMembers lefts rights
      decidable_of_iff (leftKey = rightKey ∧ left = right ∧ lefts = rights)
        (by simp [and_assoc])
  | [], _ :: _ | _ :: _, [] => isFalse (by simp)

end

instance : DecidableEq Json := decEq

def natural (n : Nat) : Json :=
  .number (.integer n)

/-- The object with some members, in ascending order of key; of several under one key the last one
stays. -/
def record (members : List (String × Json)) : Json :=
  .object (Table.ofList members).entries

def ofTable (table : Table Json) : Json :=
  .object table.entries

def member? : Json → String → Option Json
  | .object members, key => members.lookup key
  | _, _ => none

def text? : Json → Option String
  | .text value => some value
  | _ => none

def items? : Json → Option (List Json)
  | .array items => some items
  | _ => none

def table? : Json → Option (Table Json)
  | .object members => some (.ofList members)
  | _ => none

def isNull : Json → Bool
  | .null => true
  | _ => false

end Json

end Metacard
