import Metacard.Text.Blank
import Metacard.Text.Hexadecimal
import Metacard.Text.Split
/-!
# Tables of code points

A table gives values to ranges of code points. The ranges are apart from each other and stand in
ascending order, so that a code point is looked up by halving.

A table is written as text: ranges parted by blanks, each as its first and its last code point in
hexadecimal, or as one code point alone, and after a colon the value, as in `300-314:E6 315:E8`.
-/

set_option autoImplicit false

namespace Metacard.Text

universe u

structure CodeRow (α : Type u) where
  first : Nat
  last : Nat
  value : α

structure CodeTable (α : Type u) where
  rows : Array (CodeRow α)

namespace CodeTable

variable {α : Type u}

/-- The row of a code point among those from `low` on and before `high`. -/
def search (table : CodeTable α) (code low high : Nat) : Option (CodeRow α) :=
  if low < high then
    let middle := low + (high - low) / 2
    match table.rows[middle]? with
    | none => none
    | some row =>
        if code < row.first then table.search code low middle
        else if row.last < code then table.search code (middle + 1) high
        else some row
  else none
termination_by high - low

def row? (table : CodeTable α) (code : Nat) : Option (CodeRow α) :=
  table.search code 0 table.rows.size

def find? (table : CodeTable α) (code : Nat) : Option α :=
  (table.row? code).map CodeRow.value

def contains (table : CodeTable α) (code : Nat) : Bool :=
  (table.row? code).isSome

def readCode (digits : List Char) : Nat :=
  (natural? 16 digits).getD 0

/-- A row as it is written; `read` reads the value, which is absent without a colon. -/
def readRow (read : Option (List Char) → α) (chars : List Char) : CodeRow α :=
  let (range, value) := splitAtMark ':' chars
  let (first, last) := splitAtMark '-' range
  { first := readCode first
    last := readCode (last.getD first)
    value := read value }

def ofText (read : Option (List Char) → α) (text : String) : CodeTable α where
  rows := (((text.toList.splitOnP isBlank).filter fun entry => !entry.isEmpty).map
    (readRow read)).toArray

def ofLetters (read : Char → Option α) (text : String) : CodeTable (Option α) :=
  ofText (fun value => (value.bind List.head?).bind read) text

def setOfText (text : String) : CodeTable Unit :=
  ofText (fun _ => ()) text

end CodeTable

end Metacard.Text
