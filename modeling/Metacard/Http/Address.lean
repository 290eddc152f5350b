import Metacard.Text.Hexadecimal
import Metacard.Text.Split
/-!
# Addresses of hosts

Addresses of version 4 are numbers of 32 bits, those of version 6 eight pieces of 16 bits. Both are
read in every form that the URL Standard allows and written in one.

In an address of version 4 up to four numbers stand, in decimal, octal or hexadecimal digits; the
last one fills all the bytes that are left. In an address of version 6 one run of pieces of value 0
may be left out, and the last two pieces may be written as four decimal bytes.
-/

set_option autoImplicit false

namespace Metacard.Http.Address

open Metacard.Text

/-! ## Version 4 -/

/-- A number of an address: hexadecimal after `0x`, octal after any other leading zero. -/
def number? : List Char → Option Nat
  | [] => none
  | ['0'] => some 0
  | '0' :: 'x' :: digits => natural? 16 digits
  | '0' :: 'X' :: digits => natural? 16 digits
  | '0' :: digits => natural? 8 digits
  | digits => natural? 10 digits

def parts (chars : List Char) : List (List Char) :=
  let parts := chars.splitOnP (· == '.')
  if parts.getLast? = some [] then parts.dropLast else parts

/-- A domain whose last part is a number is an address, or nothing at all. -/
def endsInNumber (chars : List Char) : Bool :=
  match (parts chars).getLast? with
  | none => false
  | some last => (!last.isEmpty && last.all Char.isDigit) || (number? last).isSome

/-- The address of numbers: the last one fills the bytes that the others leave, of which there are
`left`. -/
def joinNumbers? (left : Nat) : List Nat → Option Nat
  | [] => none
  | [last] => if last < Nat.pow 256 left then some last else none
  | number :: rest => do
      let joined ← joinNumbers? (left - 1) rest
      if number < 256 then some (number * Nat.pow 256 (left - 1) + joined) else none

def read4? (chars : List Char) : Option Nat := do
  let numbers ← (parts chars).mapM number?
  if numbers.length ≤ 4 then joinNumbers? 4 numbers else none

def render4 (address : Nat) : String :=
  String.intercalate "." ([address / 0x1000000, address / 0x10000 % 256, address / 256 % 256,
    address % 256].map toString)

/-! ## Version 6 -/

def byte? (chars : List Char) : Option Nat :=
  match chars with
  | [] => none
  | '0' :: _ :: _ => none
  | _ =>
      match natural? 10 chars with
      | some value => if value < 256 then some value else none
      | none => none

def bytePieces? (chars : List Char) : Option (List Nat) :=
  match (chars.splitOnP (· == '.')).mapM byte? with
  | some [a, b, c, d] => some [a * 256 + b, c * 256 + d]
  | _ => none

def piece? (chars : List Char) : Option Nat :=
  if chars.isEmpty || 4 < chars.length then none else natural? 16 chars

/-- The pieces of parts between colons. Where the address ends, bytes may stand. -/
def pieces? (isEnd : Bool) : List (List Char) → Option (List Nat)
  | [] => some []
  | [last] =>
      if isEnd && last.contains '.' then bytePieces? last
      else (piece? last).map fun piece => [piece]
  | part :: rest => do
      let piece ← piece? part
      let pieces ← pieces? isEnd rest
      some (piece :: pieces)

def section? (isEnd : Bool) (chars : List Char) : Option (List Nat) :=
  if chars.isEmpty then some [] else pieces? isEnd (chars.splitOnP (· == ':'))

def splitAtGap : List Char → Option (List Char × List Char)
  | ':' :: ':' :: rest => some ([], rest)
  | c :: rest => (splitAtGap rest).map fun split => (c :: split.1, split.2)
  | [] => none

/-- Reads an address of version 6. What is left out at a double colon is at least one piece. -/
def read6? (chars : List Char) : Option (List Nat) :=
  match splitAtGap chars with
  | some (before, after) => do
      let before ← section? false before
      let after ← section? true after
      let written := before.length + after.length
      if written < 8 then some (before ++ List.replicate (8 - written) 0 ++ after) else none
  | none => do
      let pieces ← section? true chars
      if pieces.length = 8 then some pieces else none

/-- The first of the longest runs of pieces of value 0: its place and its length. `place` is that of
the first piece, and `best` the longest run before it. -/
def longestGap (place : Nat) (best : Nat × Nat) : List Nat → Nat × Nat
  | [] => best
  | piece :: rest =>
      let length := ((piece :: rest).takeWhile (· == 0)).length
      longestGap (place + 1) (if best.2 < length then (place, length) else best) rest

def renderPieces (pieces : List Nat) : String :=
  String.intercalate ":" (pieces.map hex)

/-- The longest run of more than one piece of value 0 is left out. -/
def render6 (pieces : List Nat) : String :=
  let (place, length) := longestGap 0 (0, 0) pieces
  if length < 2 then renderPieces pieces
  else renderPieces (pieces.take place) ++ "::" ++ renderPieces (pieces.drop (place + length))

end Metacard.Http.Address
