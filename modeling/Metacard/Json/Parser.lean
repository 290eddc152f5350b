import Metacard.Json.Document
import Metacard.Text.Hexadecimal
/-!
# Reading JSON text

The grammar is that of RFC 8259. A text is read into a document, whatever its numbers and escapes
stand for, and the value of the text is that of the document, with at most 127 arrays and objects
inside each other.

An integer that fits 64 bits, signed or unsigned, is read exactly; `-0` is a double. Every other
number is read as a significand of at most 64 bits, rounded to a double and then scaled by a power
of ten, so that a long decimal may be read as a neighbour of the nearest double.
-/

set_option autoImplicit false

namespace Metacard

namespace Magnitude

def greatestPower : Nat := 308

def powerOfTen (exponent : Nat) : Magnitude :=
  .ofNat (Nat.pow 10 exponent)

/-- A significand scaled up; too great a result is refused. -/
def scaleUp? (x : Magnitude) (exponent : Nat) : Option Magnitude :=
  if exponent ≤ greatestPower then x.mul? (powerOfTen exponent)
  else if x.place = 0 then some x
  else none

/-- A significand scaled down, in steps of the greatest power. Two such steps leave nothing of
it. -/
def scaleDown? (x : Magnitude) (exponent : Nat) : Option Magnitude :=
  if exponent ≤ greatestPower then x.div? (powerOfTen exponent)
  else if exponent ≤ 2 * greatestPower then do
    let once ← x.div? (powerOfTen greatestPower)
    once.div? (powerOfTen (exponent - greatestPower))
  else some zero

def ofDecimal? (significand : Nat) (exponent : Int) : Option Magnitude := do
  let x ← ofNat? significand
  if 0 ≤ exponent then x.scaleUp? exponent.toNat else x.scaleDown? (-exponent).toNat

end Magnitude

namespace Json.Reader

def digitValue (c : Char) : Nat :=
  c.toNat - '0'.toNat

/-- Takes digits into a significand while it fits 64 bits. Gives the significand, the number of
digits taken, and the digits left. -/
def takeDigits (significand taken : Nat) : List Char → Nat × Nat × List Char
  | [] => (significand, taken, [])
  | c :: rest =>
      let next := significand * 10 + digitValue c
      if next < 0x10000000000000000 then takeDigits next (taken + 1) rest
      else (significand, taken, c :: rest)

/-- The value of a number from its parts: sign, digits before the point, digits after it, and
exponent. -/
def numberOfParts (negative : Bool) (whole : List Char) (fraction : Option (List Char))
    (exponent : Option Int) : Option Number :=
  let (significand, _, wholeLeft) := takeDigits 0 0 whole
  if wholeLeft.isEmpty && fraction.isNone && exponent.isNone &&
      (if negative then 0 < significand && significand ≤ 0x8000000000000000 else true) then
    some (.integer (if negative then -significand else significand))
  else do
    let (significand, fractionTaken, _) := takeDigits significand 0 (fraction.getD [])
    let scale : Int := wholeLeft.length - fractionTaken + exponent.getD 0
    let magnitude ← Magnitude.ofDecimal? significand scale
    some (.double ⟨negative, magnitude⟩)

def digits? (chars : List Char) : Option (List Char × List Char) :=
  match chars.takeWhile Char.isDigit with
  | [] => none
  | found => some (found, chars.dropWhile Char.isDigit)

def whole? : List Char → Option (List Char × List Char)
  | '0' :: rest => if (rest.head?.map Char.isDigit).getD false then none else some (['0'], rest)
  | chars => digits? chars

def fraction? : List Char → Option (Option (List Char) × List Char)
  | '.' :: rest => do
      let (found, rest) ← digits? rest
      some (some found, rest)
  | chars => some (none, chars)

def exponent? : List Char → Option (Option Int × List Char)
  | c :: rest =>
      if c = 'e' ∨ c = 'E' then do
        let (sign, rest) :=
          match rest with
          | '+' :: rest => ((1 : Int), rest)
          | '-' :: rest => (-1, rest)
          | rest => (1, rest)
        let (found, rest) ← digits? rest
        let value := found.foldl (fun value digit => value * 10 + digitValue digit) 0
        some (some (sign * value), rest)
      else some (none, c :: rest)
  | [] => some (none, [])

/-- A number, without its value if that is no double. -/
def number? (chars : List Char) : Option (Option Number × List Char) := do
  let (negative, rest) :=
    match chars with
    | '-' :: rest => (true, rest)
    | rest => (false, rest)
  let (whole, rest) ← whole? rest
  let (fraction, rest) ← fraction? rest
  let (exponent, rest) ← exponent? rest
  some (numberOfParts negative whole fraction exponent, rest)

def unit? : List Char → Option (Nat × List Char)
  | a :: b :: c :: d :: rest => do
      let a ← Text.hexValue? a
      let b ← Text.hexValue? b
      let c ← Text.hexValue? c
      let d ← Text.hexValue? d
      some (((a * 16 + b) * 16 + c) * 16 + d, rest)
  | _ => none

/-- The character of a numbered escape, after `\u`. Half of a surrogate pair alone is refused. -/
def numberedChar? (chars : List Char) : Option (Char × List Char) := do
  let (high, rest) ← unit? chars
  if 0xD800 ≤ high ∧ high < 0xDC00 then
    match rest with
    | '\\' :: 'u' :: rest => do
        let (low, rest) ← unit? rest
        if 0xDC00 ≤ low ∧ low < 0xE000 then
          some (Char.ofNat (0x10000 + (high - 0xD800) * 0x400 + (low - 0xDC00)), rest)
        else none
    | _ => none
  else if 0xDC00 ≤ high ∧ high < 0xE000 then none
  else some (Char.ofNat high, rest)

def escapedChar? : List Char → Option (Char × List Char)
  | '"' :: rest => some ('"', rest)
  | '\\' :: rest => some ('\\', rest)
  | '/' :: rest => some ('/', rest)
  | 'b' :: rest => some ('\x08', rest)
  | 'f' :: rest => some ('\x0c', rest)
  | 'n' :: rest => some ('\n', rest)
  | 'r' :: rest => some ('\r', rest)
  | 't' :: rest => some ('\t', rest)
  | 'u' :: rest => numberedChar? rest
  | _ => none

/-- The characters of a text up to its closing quote, and what follows it. Every character takes
one step. -/
def chars? : Nat → List Char → Option (List Char × List Char)
  | 0, _ => none
  | steps + 1, chars =>
      match chars with
      | '"' :: rest => some ([], rest)
      | '\\' :: rest => do
          let (c, rest) ← escapedChar? rest
          let (found, rest) ← chars? steps rest
          some (c :: found, rest)
      | c :: rest =>
          if c.toNat < 32 then none
          else do
            let (found, rest) ← chars? steps rest
            some (c :: found, rest)
      | [] => none

def text? (chars : List Char) : Option (String × List Char) := do
  let (found, rest) ← chars? chars.length chars
  some (String.ofList found, rest)

def passEscape? : List Char → Option (List Char)
  | 'u' :: rest => (unit? rest).map Prod.snd
  | chars => (escapedChar? chars).map Prod.snd

/-- What follows the closing quote of a text, whatever its escapes stand for. -/
def passChars? : Nat → List Char → Option (List Char)
  | 0, _ => none
  | steps + 1, chars =>
      match chars with
      | '"' :: rest => some rest
      | '\\' :: rest => do
          let rest ← passEscape? rest
          passChars? steps rest
      | c :: rest => if c.toNat < 32 then none else passChars? steps rest
      | [] => none

/-- A text after its opening quote, without its value if it has none. -/
def anyText? (chars : List Char) : Option (Option String × List Char) :=
  match text? chars with
  | some (found, rest) => some (some found, rest)
  | none => (passChars? chars.length chars).map fun rest => (none, rest)

def isSpace (c : Char) : Bool :=
  c = ' ' || c = '\t' || c = '\n' || c = '\r'

def skip (chars : List Char) : List Char :=
  chars.dropWhile isSpace

mutual

/-- A document, and what follows it. `steps` bounds the values and separators that are read. -/
def document? : Nat → List Char → Option (Document × List Char)
  | 0, _ => none
  | steps + 1, chars =>
      match skip chars with
      | 'n' :: 'u' :: 'l' :: 'l' :: rest => some (.null, rest)
      | 't' :: 'r' :: 'u' :: 'e' :: rest => some (.boolean true, rest)
      | 'f' :: 'a' :: 'l' :: 's' :: 'e' :: rest => some (.boolean false, rest)
      | '"' :: rest => do
          let (found, rest) ← anyText? rest
          some (.text found, rest)
      | '[' :: rest =>
          match skip rest with
          | ']' :: rest => some (.array [], rest)
          | rest => do
              let (items, rest) ← items? steps rest
              some (.array items, rest)
      | '{' :: rest =>
          match skip rest with
          | '}' :: rest => some (.object [], rest)
          | rest => do
              let (members, rest) ← members? steps rest
              some (.object members, rest)
      | rest => do
          let (found, rest) ← number? rest
          some (.number found, rest)

def items? : Nat → List Char → Option (List Document × List Char)
  | 0, _ => none
  | steps + 1, chars => do
      let (item, rest) ← document? steps chars
      match skip rest with
      | ']' :: rest => some ([item], rest)
      | ',' :: rest =>
          let (items, rest) ← items? steps rest
          some (item :: items, rest)
      | _ => none

def members? : Nat → List Char → Option (List (Option String × Document) × List Char)
  | 0, _ => none
  | steps + 1, chars =>
      match skip chars with
      | '"' :: rest => do
          let (key, rest) ← anyText? rest
          match skip rest with
          | ':' :: rest => do
              let (value, rest) ← document? steps rest
              match skip rest with
              | '}' :: rest => some ([(key, value)], rest)
              | ',' :: rest =>
                  let (members, rest) ← members? steps rest
                  some ((key, value) :: members, rest)
              | _ => none
          | _ => none
      | _ => none

end

end Json.Reader

def Document.parse? (text : String) : Option Document := do
  let chars := text.toList
  let (document, rest) ← Json.Reader.document? (2 * chars.length + 1) chars
  if (Json.Reader.skip rest).isEmpty then some document else none

namespace Json

/-- How many arrays and objects may stand inside each other. -/
def greatestDepth : Nat := 127

def parse? (text : String) : Option Json :=
  (Document.parse? text).bind (Document.json? greatestDepth)

end Json

end Metacard
