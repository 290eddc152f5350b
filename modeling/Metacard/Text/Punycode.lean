/-!
# Punycode

A text as ASCII characters alone: its ASCII characters, a hyphen, and then the other characters in
ascending order of code point, each as the number of places passed over since the one before.
Counting goes through all places of the text for one code point before it goes on to the next.

The numbers are written in 36 digits, the lowest one first. Which digit ends a number is fitted to
the numbers before it, so that numbers of like size are short.
-/

set_option autoImplicit false

namespace Metacard.Text.Punycode

def base : Nat := 36

/-- The code point that counting starts at, the first one beyond ASCII. -/
def firstCode : Nat := 0x80

/-- The fit that the first number is written with. -/
def firstBias : Nat := 72

def greatest : Nat := 0xFFFFFFFF

def isBasic (c : Char) : Bool :=
  c.toNat < firstCode

/-- The first 26 digits are letters, the others decimal digits. -/
def digit (value : Nat) : Char :=
  if value < 26 then Char.ofNat (value + 'a'.toNat) else Char.ofNat (value - 26 + '0'.toNat)

def digitValue? (c : Char) : Option Nat :=
  if c.isLower then some (c.toNat - 'a'.toNat)
  else if c.isUpper then some (c.toNat - 'A'.toNat)
  else if c.isDigit then some (c.toNat - '0'.toNat + 26)
  else none

/-- A digit below this value ends a number. `place` is 36 for the lowest digit and 36 more for each
further one. -/
def threshold (bias place : Nat) : Nat :=
  if place ≤ bias then 1 else min (place - bias) 26

theorem threshold_pos (bias place : Nat) : 0 < threshold bias place := by
  unfold threshold
  split <;> omega

/-- The number of digits that a difference of this size would need, and what is left of it. -/
def scaled (difference : Nat) (bias : Nat) : Nat × Nat :=
  if 455 < difference then scaled (difference / 35) (bias + base) else (difference, bias)
termination_by difference
decreasing_by omega

/-- The fit after a difference; `count` is the number of characters by then. -/
def adapted (difference count : Nat) (isFirst : Bool) : Nat :=
  let damped := if isFirst then difference / 700 else difference / 2
  let (rest, bias) := scaled (damped + damped / count) 0
  bias + base * rest / (rest + 38)

/-! ## Writing -/

def number (bias place value : Nat) : List Char :=
  let least := threshold bias place
  if value < least then [digit value]
  else
    digit (least + (value - least) % (base - least)) ::
      number bias (place + base) ((value - least) / (base - least))
termination_by value
decreasing_by
  have positive := threshold_pos bias place
  exact Nat.lt_of_le_of_lt (Nat.div_le_self _ _) (by omega)

structure Encoder where
  /-- The digits so far, the last one first. -/
  written : List Char
  /-- The places passed over since the last character. -/
  passed : Nat
  bias : Nat
  /-- The number of characters that are done. -/
  done : Nat

namespace Encoder

/-- Passes a character by on the way through the text for one code point, or writes it down. -/
def visit (basics code : Nat) (state : Encoder) (c : Char) : Encoder :=
  if c.toNat < code then { state with passed := state.passed + 1 }
  else if c.toNat = code then
    { written := (number state.bias base state.passed).reverse ++ state.written
      passed := 0
      bias := adapted state.passed (state.done + 1) (state.done == basics)
      done := state.done + 1 }
  else state

/-- Goes through the text for each code point in turn; `next` is the code point after the last. -/
def visitAll (chars : List Char) (basics : Nat) : List Nat → Nat → Encoder → Encoder
  | [], _, state => state
  | code :: codes, next, state =>
      let skipped := { state with passed := state.passed + (code - next) * (state.done + 1) }
      let visited := chars.foldl (visit basics code) skipped
      visitAll chars basics codes (code + 1) { visited with passed := visited.passed + 1 }

end Encoder

def encode (chars : List Char) : List Char :=
  let basic := chars.filter isBasic
  let codes := (((chars.filter fun c => !isBasic c).map Char.toNat).mergeSort).eraseDups
  let start : Encoder := ⟨[], 0, firstBias, basic.length⟩
  let state := Encoder.visitAll chars basic.length codes firstCode start
  basic ++ (if basic.isEmpty then [] else ['-']) ++ state.written.reverse

/-! ## Reading -/

/-- Reads a number and adds it to `value`; what follows it is left. -/
def number? (bias : Nat) : List Char → (place weight value : Nat) → Option (Nat × List Char)
  | [], _, _, _ => none
  | c :: rest, place, weight, value => do
      let digit ← digitValue? c
      let least := threshold bias place
      if greatest < value + digit * weight then none
      else if digit < least then some (value + digit * weight, rest)
      else if greatest < weight * (base - least) then none
      else number? bias rest (place + base) (weight * (base - least)) (value + digit * weight)

theorem length_of_number? {bias : Nat} : ∀ {chars : List Char} {place weight value : Nat}
    {found : Nat × List Char}, number? bias chars place weight value = some found →
      found.2.length < chars.length
  | [], _, _, _, _, h => by simp [number?] at h
  | c :: rest, place, weight, value, found, h => by
      rw [number?] at h
      cases digitEquation : digitValue? c with
      | none => simp [digitEquation] at h
      | some digit =>
        simp only [digitEquation, Option.bind_eq_bind, Option.bind_some] at h
        split at h
        · simp at h
        · split at h
          · obtain rfl := Option.some.inj h
            simp
          · split at h
            · simp at h
            · have shorter := length_of_number? h
              simp only [List.length_cons]
              omega

/-- Reads the numbers. `place` is where the count stands and `code` the code point it is at. -/
def insertAll (bias code place : Nat) (text : List Char) (digits : List Char) :
    Option (List Char) :=
  match digits with
  | [] => some text
  | c :: rest =>
      match equation : number? bias (c :: rest) base 1 place with
      | none => none
      | some (counted, left) =>
          have : left.length < (c :: rest).length := length_of_number? equation
          let count := text.length + 1
          let found := code + counted / count
          if found.isValidChar then
            insertAll (adapted (counted - place) count (place == 0)) found (counted % count + 1)
              (text.insertIdx (counted % count) (Char.ofNat found)) left
          else none
termination_by digits.length
decreasing_by exact this

/-- Reads a text. The hyphen after its ASCII characters is the last one of all; there is none if the
text has no ASCII characters. -/
def decode? (chars : List Char) : Option (List Char) :=
  let digits := (chars.reverse.takeWhile (· != '-')).reverse
  let basic := (chars.take (chars.length - digits.length)).dropLast
  if !basic.all isBasic then none
  else if basic.isEmpty then insertAll firstBias firstCode 0 [] chars
  else insertAll firstBias firstCode 0 basic digits

end Metacard.Text.Punycode
