import Metacard.Json.Parser
import Metacard.Json.Printer
import Metacard.Proofs.Number.Shortest
/-!
# Number texts read back

`Number.read?` takes a number text to the number: digits alone are an integer, digits with a point
or an exponent are the double nearest to their value. The text of every number is read as that
number, so different numbers have different texts.
-/

set_option autoImplicit false

namespace Metacard

namespace Number

def ofDigits (negative : Bool) (digits : List Char) : Number :=
  let value : Int := Nat.ofDigitChars 10 digits 0
  .integer (if negative then -value else value)

def ofScientific? (negative : Bool) (digits : List Char) (scale : Int) : Option Number :=
  (Magnitude.ofScaled? (Nat.ofDigitChars 10 digits 0) scale).map fun magnitude =>
    .double ⟨negative, magnitude⟩

def ofParts? (negative : Bool) (whole : List Char) (fraction : Option (List Char))
    (exponent : Option Int) : Option Number :=
  if fraction.isNone && exponent.isNone then some (ofDigits negative whole)
  else
    ofScientific? negative (whole ++ fraction.getD [])
      (exponent.getD 0 - (fraction.getD []).length)

def readUnsigned? (negative : Bool) (chars : List Char) : Option Number := do
  let (whole, rest) ← Json.Reader.digits? chars
  let (fraction, rest) ← Json.Reader.fraction? rest
  let (exponent, rest) ← Json.Reader.exponent? rest
  if rest.isEmpty then ofParts? negative whole fraction exponent else none

/-- The number of a whole text: digits, perhaps with a point and further digits, perhaps with an
exponent, and a minus sign before them if it is negative. -/
def read? : List Char → Option Number
  | '-' :: rest => readUnsigned? true rest
  | chars => readUnsigned? false chars

end Number

namespace Json.Reader

def EndsDigits (rest : List Char) : Prop :=
  ∀ c ∈ rest.head?, c.isDigit = false

theorem digits?_append {digits : List Char} (rest : List Char) (nonempty : digits ≠ [])
    (all : ∀ c ∈ digits, c.isDigit = true) (ends : EndsDigits rest) :
    digits? (digits ++ rest) = some (digits, rest) := by
  have taken : rest.takeWhile Char.isDigit = [] := by
    cases rest with
    | nil => rfl
    | cons c rest => rw [List.takeWhile_cons_of_neg (by simp [ends c rfl])]
  have left : rest.dropWhile Char.isDigit = rest := by
    cases rest with
    | nil => rfl
    | cons c rest => rw [List.dropWhile_cons_of_neg (by simp [ends c rfl])]
  rw [digits?, List.takeWhile_append_of_pos all, List.dropWhile_append_of_pos all, taken, left,
    List.append_nil]
  cases digits with
  | nil => contradiction
  | cons c digits => rfl

theorem digits?_of_all {digits : List Char} (nonempty : digits ≠ [])
    (all : ∀ c ∈ digits, c.isDigit = true) : digits? digits = some (digits, []) := by
  have found := digits?_append [] nonempty all (by simp [EndsDigits])
  rw [List.append_nil] at found
  exact found

theorem foldl_digitValue (digits : List Char) (start : Nat) :
    digits.foldl (fun value digit => value * 10 + digitValue digit) start =
      Nat.ofDigitChars 10 digits start := by
  simp only [Nat.ofDigitChars_eq_foldl, digitValue, Nat.mul_comm 10]

end Json.Reader

namespace Number

open Json.Reader

theorem readUnsigned?_integer (negative : Bool) (n : Nat) :
    readUnsigned? negative (Nat.toDigits 10 n) =
      some (.integer (if negative then -(n : Int) else n)) := by
  have found := digits?_of_all (Nat.toDigits_ne_nil (b := 10) (n := n))
    fun c member => Nat.isDigit_of_mem_toDigits (by decide) (by decide) member
  simp [readUnsigned?, found, fraction?, exponent?, ofParts?, ofDigits]

theorem readUnsigned?_fraction (negative : Bool) {whole fraction : List Char}
    (wholeNonempty : whole ≠ []) (wholeDigits : ∀ c ∈ whole, c.isDigit = true)
    (fractionNonempty : fraction ≠ []) (fractionDigits : ∀ c ∈ fraction, c.isDigit = true) :
    readUnsigned? negative (whole ++ '.' :: fraction) =
      ofScientific? negative (whole ++ fraction) (-fraction.length) := by
  have found := digits?_append ('.' :: fraction) wholeNonempty wholeDigits
    (by simp [EndsDigits])
  have foundFraction := digits?_of_all fractionNonempty fractionDigits
  simp [readUnsigned?, found, fraction?, foundFraction, exponent?, ofParts?]

theorem exponent?_render (exponent : Int) :
    exponent? ('e' :: (if exponent < 0 then '-' else '+') :: Nat.toDigits 10 exponent.natAbs) =
      some (some exponent, []) := by
  have found := digits?_of_all (Nat.toDigits_ne_nil (b := 10) (n := exponent.natAbs))
    fun c member => Nat.isDigit_of_mem_toDigits (by decide) (by decide) member
  by_cases negative : exponent < 0
  · have value : -1 * (exponent.natAbs : Int) = exponent := by omega
    simp only [if_pos negative, exponent?, true_or, if_true, found, foldl_digitValue,
      Option.bind_eq_bind, Option.bind_some, Nat.ofDigitChars_ten_toDigits, value]
  · have value : 1 * (exponent.natAbs : Int) = exponent := by omega
    simp only [if_neg negative, exponent?, true_or, if_true, found, foldl_digitValue,
      Option.bind_eq_bind, Option.bind_some, Nat.ofDigitChars_ten_toDigits, value]

theorem readUnsigned?_exponent (negative : Bool) {whole : List Char} (exponent : Int)
    (nonempty : whole ≠ []) (digits : ∀ c ∈ whole, c.isDigit = true) :
    readUnsigned? negative (whole ++ 'e' :: (if exponent < 0 then '-' else '+') ::
        Nat.toDigits 10 exponent.natAbs) = ofScientific? negative whole exponent := by
  have found := digits?_append
    ('e' :: (if exponent < 0 then '-' else '+') :: Nat.toDigits 10 exponent.natAbs)
    nonempty digits (by simp [EndsDigits])
  have noFraction : fraction? ('e' :: (if exponent < 0 then '-' else '+') ::
      Nat.toDigits 10 exponent.natAbs) = some (none, 'e' :: (if exponent < 0 then '-' else '+') ::
      Nat.toDigits 10 exponent.natAbs) := rfl
  simp only [readUnsigned?, found, noFraction, exponent?_render, Option.bind_eq_bind,
    Option.bind_some]
  simp [ofParts?]

theorem readUnsigned?_fraction_exponent (negative : Bool) {whole fraction : List Char}
    (exponent : Int) (wholeNonempty : whole ≠ []) (wholeDigits : ∀ c ∈ whole, c.isDigit = true)
    (fractionNonempty : fraction ≠ []) (fractionDigits : ∀ c ∈ fraction, c.isDigit = true) :
    readUnsigned? negative (whole ++ '.' :: (fraction ++ 'e' ::
        (if exponent < 0 then '-' else '+') :: Nat.toDigits 10 exponent.natAbs)) =
      ofScientific? negative (whole ++ fraction) (exponent - fraction.length) := by
  have found := digits?_append
    ('.' :: (fraction ++ 'e' :: (if exponent < 0 then '-' else '+') ::
      Nat.toDigits 10 exponent.natAbs)) wholeNonempty wholeDigits (by simp [EndsDigits])
  have foundFraction := digits?_append
    ('e' :: (if exponent < 0 then '-' else '+') :: Nat.toDigits 10 exponent.natAbs)
    fractionNonempty fractionDigits (by simp [EndsDigits])
  simp only [readUnsigned?, found, fraction?, foundFraction, exponent?_render,
    Option.bind_eq_bind, Option.bind_some]
  simp [ofParts?]

end Number

namespace Decimal

structure Denotes (x : Decimal) (magnitude : Magnitude) : Prop where
  nonempty : x.digits ≠ []
  digits : ∀ c ∈ x.digits, c.isDigit = true
  value : Magnitude.ofScaled? (Nat.ofDigitChars 10 x.digits 0)
    (x.exponent + 1 - x.digits.length) = some magnitude

theorem exists_zeros (n : Nat) :
    ∃ zeros, Nat.toDigits 10 n = significantDigits n ++ List.replicate zeros '0' := by
  set reversed := (Nat.toDigits 10 n).reverse with hreversed
  refine ⟨(reversed.takeWhile (· == '0')).length, ?_⟩
  have zeros : List.replicate (reversed.takeWhile (· == '0')).length '0' =
      (reversed.takeWhile (· == '0')).reverse := by
    symm
    rw [List.eq_replicate_iff, List.length_reverse]
    refine ⟨rfl, fun c member => ?_⟩
    have zeros := List.all_takeWhile (l := reversed) (p := (· == '0'))
    exact beq_iff_eq.1 (List.all_eq_true.1 zeros c (List.mem_reverse.1 member))
  rw [significantDigits, zeros, ← hreversed, ← List.reverse_append, List.takeWhile_append_dropWhile,
    hreversed, List.reverse_reverse]

theorem denotes_ofScaled {n : Nat} {scale : Int} {magnitude : Magnitude} (positive : 0 < n)
    (read : Magnitude.ofScaled? n scale = some magnitude) :
    (ofScaled n scale).Denotes magnitude := by
  obtain ⟨zeros, parts⟩ := exists_zeros n
  set digits := significantDigits n with hdigits
  have value : Nat.ofDigitChars 10 digits 0 * 10 ^ zeros = n := by
    rw [Nat.mul_comm, ← Nat.ofDigitChars_replicate_zero, ← Nat.ofDigitChars_append, ← parts,
      Nat.ofDigitChars_ten_toDigits]
  have nonempty : digits ≠ [] := by
    intro none
    rw [none, Nat.ofDigitChars_nil, Nat.zero_mul] at value
    omega
  refine ⟨nonempty, fun c member => ?_, ?_⟩
  · apply Nat.isDigit_of_mem_toDigits (b := 10) (n := n) (by decide) (by decide)
    rw [parts]
    exact List.mem_append_left _ member
  · have length : (Nat.toDigits 10 n).length = digits.length + zeros := by
      rw [parts, List.length_append, List.length_replicate]
    have digitsPositive := List.length_pos_iff.2 nonempty
    have exponent : (ofScaled n scale).exponent + 1 - digits.length = scale + zeros := by
      simp only [ofScaled, length]
      omega
    show Magnitude.ofScaled? (Nat.ofDigitChars 10 digits 0)
      ((ofScaled n scale).exponent + 1 - digits.length) = some magnitude
    rw [exponent, ← Magnitude.ofScaled?_mul_pow, value, read]

theorem denotes_shortest {magnitude : Magnitude} (positive : 0 < magnitude.units) :
    magnitude.shortest.Denotes magnitude := by
  obtain ⟨n, scale, decimal, read⟩ := Magnitude.shortest_readsBack positive
  rw [decimal]
  apply denotes_ofScaled _ read
  rcases Nat.eq_zero_or_pos n with zero | positive
  · rw [zero, Magnitude.ofScaled?_zero] at read
    rw [← Option.some.inj read] at positive
    exact absurd positive (Nat.lt_irrefl 0)
  · exact positive

theorem forall_isDigit_zero : ∀ c ∈ ['0'], c.isDigit = true :=
  List.forall_mem_singleton.2 rfl

theorem forall_isDigit_replicate_zero (count : Nat) :
    ∀ c ∈ List.replicate count '0', c.isDigit = true := by
  intro c member
  rw [(List.mem_replicate.1 member).2]
  rfl

theorem forall_isDigit_append {left right : List Char} (leftDigits : ∀ c ∈ left, c.isDigit = true)
    (rightDigits : ∀ c ∈ right, c.isDigit = true) : ∀ c ∈ left ++ right, c.isDigit = true := by
  intro c member
  rcases List.mem_append.1 member with member | member
  · exact leftDigits c member
  · exact rightDigits c member

open Number in
theorem ofScientific?_of_value {digits : List Char} {scale : Int} {magnitude : Magnitude}
    (negative : Bool)
    (value : Magnitude.ofScaled? (Nat.ofDigitChars 10 digits 0) scale = some magnitude) :
    ofScientific? negative digits scale = some (.double ⟨negative, magnitude⟩) := by
  rw [ofScientific?, value, Option.map_some]

theorem readUnsigned?_positional_small {x : Decimal} {magnitude : Magnitude}
    (denotes : x.Denotes magnitude) (negative : Bool) (small : x.exponent < 0) :
    Number.readUnsigned? negative x.positional = some (.double ⟨negative, magnitude⟩) := by
  set zeros := (-x.exponent).toNat - 1 with hzeros
  have text : x.positional = ['0'] ++ '.' :: (List.replicate zeros '0' ++ x.digits) := by
    rw [positional, if_pos small]
    rfl
  rw [text, Number.readUnsigned?_fraction negative (by decide) forall_isDigit_zero]
  · apply ofScientific?_of_value
    have value : Nat.ofDigitChars 10 (['0'] ++ (List.replicate zeros '0' ++ x.digits)) 0 =
        Nat.ofDigitChars 10 x.digits 0 := by
      rw [Nat.ofDigitChars_append, Nat.ofDigitChars_append, Nat.ofDigitChars_replicate_zero]
      simp [Nat.ofDigitChars_cons]
    have scale : -((List.replicate zeros '0' ++ x.digits).length : Int) =
        x.exponent + 1 - x.digits.length := by
      rw [List.length_append, List.length_replicate]
      omega
    rw [value, scale, denotes.value]
  · simp [denotes.nonempty]
  · exact forall_isDigit_append (forall_isDigit_replicate_zero zeros) denotes.digits

theorem readUnsigned?_positional_whole {x : Decimal} {magnitude : Magnitude}
    (denotes : x.Denotes magnitude) (negative : Bool) (large : ¬ x.exponent < 0) :
    Number.readUnsigned? negative x.positional = some (.double ⟨negative, magnitude⟩) := by
  set places := x.exponent.toNat + 1 with hplaces
  set zeros := places - x.digits.length with hzeros
  by_cases through : x.digits.length ≤ places
  · -- All digits stand before the point, perhaps with zeros after them.
    have text : x.positional = (x.digits ++ List.replicate zeros '0') ++ '.' :: ['0'] := by
      rw [positional, if_neg large]
      simp only [← hplaces, ← hzeros, List.take_of_length_le through,
        List.drop_of_length_le through, List.isEmpty_nil, if_true]
    rw [text, Number.readUnsigned?_fraction negative]
    · apply ofScientific?_of_value
      have value : Nat.ofDigitChars 10 ((x.digits ++ List.replicate zeros '0') ++ ['0']) 0 =
          Nat.ofDigitChars 10 x.digits 0 * 10 ^ (zeros + 1) := by
        rw [List.append_assoc, Nat.ofDigitChars_append,
          show List.replicate zeros '0' ++ ['0'] = List.replicate (zeros + 1) '0' from
            List.replicate_succ'.symm, Nat.ofDigitChars_replicate_zero, Nat.mul_comm]
      have scale : -((['0'] : List Char).length : Int) + (zeros + 1 : Nat) =
          x.exponent + 1 - x.digits.length := by
        rw [List.length_singleton]
        omega
      rw [value, Magnitude.ofScaled?_mul_pow, scale, denotes.value]
    · simp [denotes.nonempty]
    · exact forall_isDigit_append denotes.digits (forall_isDigit_replicate_zero zeros)
    · decide
    · exact forall_isDigit_zero
  · -- The point stands among the digits.
    have some : x.digits.drop places ≠ [] := by
      rw [ne_eq, List.drop_eq_nil_iff]
      exact through
    have text : x.positional = x.digits.take places ++ '.' :: x.digits.drop places := by
      rw [positional, if_neg large]
      simp only [← hplaces]
      rw [Nat.sub_eq_zero_of_le (Nat.le_of_not_le through), List.replicate_zero, List.append_nil,
        if_neg (by simpa using some)]
    rw [text, Number.readUnsigned?_fraction negative]
    · apply ofScientific?_of_value
      have scale : -((x.digits.drop places).length : Int) =
          x.exponent + 1 - x.digits.length := by
        rw [List.length_drop]
        omega
      rw [List.take_append_drop, scale, denotes.value]
    · rw [ne_eq, List.take_eq_nil_iff]
      simp [denotes.nonempty, hplaces]
    · exact fun c member => denotes.digits c (List.mem_of_mem_take member)
    · exact some
    · exact fun c member => denotes.digits c (List.mem_of_mem_drop member)

theorem readUnsigned?_scientific {x : Decimal} {magnitude : Magnitude}
    (denotes : x.Denotes magnitude) (negative : Bool) :
    Number.readUnsigned? negative x.scientific = some (.double ⟨negative, magnitude⟩) := by
  obtain ⟨nonempty, digits, value⟩ := denotes
  rw [scientific]
  match parts : x.digits with
  | [] => exact absurd parts nonempty
  | [first] =>
    rw [parts] at digits value
    show Number.readUnsigned? negative ([first] ++ 'e' :: (if x.exponent < 0 then '-' else '+') ::
      Nat.toDigits 10 x.exponent.natAbs) = _
    rw [Number.readUnsigned?_exponent negative x.exponent (by simp) digits]
    apply ofScientific?_of_value
    rw [← value]
    congr 1
    rw [List.length_singleton]
    omega
  | first :: second :: rest =>
    rw [parts] at digits value
    show Number.readUnsigned? negative ([first] ++ '.' :: ((second :: rest) ++ 'e' ::
      (if x.exponent < 0 then '-' else '+') :: Nat.toDigits 10 x.exponent.natAbs)) = _
    rw [Number.readUnsigned?_fraction_exponent negative x.exponent (by simp)
      (fun c member => digits c (by simp_all)) (by simp)
      (fun c member => digits c (List.mem_cons_of_mem _ member))]
    apply ofScientific?_of_value
    rw [← value]
    congr 1
    simp only [List.length_cons]
    omega

theorem readUnsigned?_render {x : Decimal} {magnitude : Magnitude}
    (denotes : x.Denotes magnitude) (negative : Bool) :
    Number.readUnsigned? negative x.render = some (.double ⟨negative, magnitude⟩) := by
  rw [render]
  split
  · by_cases small : x.exponent < 0
    · exact readUnsigned?_positional_small denotes negative small
    · exact readUnsigned?_positional_whole denotes negative small
  · exact readUnsigned?_scientific denotes negative

end Decimal

namespace Number

theorem read?_of_unsigned {chars : List Char} {value : Number}
    (read : readUnsigned? false chars = some value) : read? chars = some value := by
  match chars with
  | [] => exact read
  | c :: rest =>
    by_cases minus : c = '-'
    · subst minus
      simp [readUnsigned?, Json.Reader.digits?] at read
    · rw [read?]
      · exact read
      · intro other same
        exact minus (List.cons.inj same).1

theorem readUnsigned?_zero (negative : Bool) :
    readUnsigned? negative ['0', '.', '0'] = some (.double ⟨negative, .zero⟩) := by
  show readUnsigned? negative (['0'] ++ '.' :: ['0']) = _
  rw [readUnsigned?_fraction negative (by decide) Decimal.forall_isDigit_zero (by decide)
    Decimal.forall_isDigit_zero]
  apply Decimal.ofScientific?_of_value
  rw [show Nat.ofDigitChars 10 (['0'] ++ ['0']) 0 = 0 from rfl, Magnitude.ofScaled?_zero]

def unsigned : Number → List Char
  | .integer n => Nat.toDigits 10 n.natAbs
  | .double ⟨_, magnitude⟩ =>
      if magnitude.place = 0 then ['0', '.', '0'] else magnitude.shortest.render

def isNegative : Number → Bool
  | .integer (.ofNat _) => false
  | .integer (.negSucc _) => true
  | .double ⟨negative, _⟩ => negative

theorem toList_render (value : Number) :
    value.render.toList = if value.isNegative then '-' :: value.unsigned else value.unsigned := by
  match value with
  | .integer (.ofNat n) => exact Nat.toList_repr
  | .integer (.negSucc n) =>
    show ("-" ++ Nat.repr (n + 1)).toList = _
    rw [String.toList_append, Nat.toList_repr]
    rfl
  | .double ⟨true, _⟩ => exact String.toList_ofList
  | .double ⟨false, _⟩ => exact String.toList_ofList

theorem readUnsigned?_unsigned (value : Number) :
    readUnsigned? value.isNegative value.unsigned = some value := by
  match value with
  | .integer (.ofNat n) => exact readUnsigned?_integer false n
  | .integer (.negSucc n) => exact readUnsigned?_integer true (n + 1)
  | .double ⟨negative, magnitude⟩ =>
    rw [unsigned, isNegative]
    by_cases zero : magnitude.place = 0
    · have same : magnitude = .zero := by
        cases magnitude
        cases zero
        rfl
      rw [if_pos zero, readUnsigned?_zero, same]
    · rw [if_neg zero, Decimal.readUnsigned?_render
        (Decimal.denotes_shortest (Magnitude.units_pos_of_place_ne_zero zero))]

theorem read?_render (value : Number) : read? value.render.toList = some value := by
  rw [toList_render]
  have read := readUnsigned?_unsigned value
  cases sign : value.isNegative with
  | true =>
    rw [sign] at read
    rw [if_pos rfl, read?, read]
  | false =>
    rw [sign] at read
    rw [if_neg Bool.false_ne_true, read?_of_unsigned read]

theorem render_injective : Function.Injective Number.render := by
  intro left right same
  have read := read?_render left
  rw [same, read?_render right] at read
  exact (Option.some.inj read).symm

def isTextChar (c : Char) : Bool :=
  c.isDigit || c = '-' || c = '.' || c = 'e' || c = '+'

theorem isTextChar_of_isDigit {c : Char} (digit : c.isDigit = true) : isTextChar c = true := by
  simp [isTextChar, digit]

end Number

namespace Decimal

theorem isTextChar_of_mem_positional {x : Decimal} (digits : ∀ c ∈ x.digits, c.isDigit = true)
    {c : Char} (member : c ∈ x.positional) : Number.isTextChar c = true := by
  rw [positional] at member
  split at member
  · rcases List.mem_cons.1 member with rfl | member
    · rfl
    rcases List.mem_cons.1 member with rfl | member
    · rfl
    · exact Number.isTextChar_of_isDigit
        (forall_isDigit_append (forall_isDigit_replicate_zero _) digits c member)
  · rcases List.mem_append.1 member with member | member
    · exact Number.isTextChar_of_isDigit (forall_isDigit_append
        (fun c member => digits c (List.mem_of_mem_take member))
        (forall_isDigit_replicate_zero _) c member)
    rcases List.mem_cons.1 member with rfl | member
    · rfl
    split at member
    · rw [List.mem_singleton] at member
      subst member
      rfl
    · exact Number.isTextChar_of_isDigit (digits c (List.mem_of_mem_drop member))

theorem isTextChar_of_mem_scientific {x : Decimal} (digits : ∀ c ∈ x.digits, c.isDigit = true)
    {c : Char} (member : c ∈ x.scientific) : Number.isTextChar c = true := by
  rw [scientific] at member
  rcases List.mem_append.1 member with member | member
  · match parts : x.digits with
    | [] => simp [parts] at member
    | [first] =>
      simp only [parts] at member digits
      exact Number.isTextChar_of_isDigit (digits c member)
    | first :: second :: rest =>
      simp only [parts] at member digits
      rcases List.mem_cons.1 member with rfl | member
      · exact Number.isTextChar_of_isDigit (digits c List.mem_cons_self)
      rcases List.mem_cons.1 member with rfl | member
      · rfl
      · exact Number.isTextChar_of_isDigit (digits c (List.mem_cons_of_mem _ member))
  rcases List.mem_cons.1 member with rfl | member
  · rfl
  rcases List.mem_cons.1 member with sign | member
  · split at sign
    · subst sign
      rfl
    · subst sign
      rfl
  · exact Number.isTextChar_of_isDigit
      (Nat.isDigit_of_mem_toDigits (by decide) (by decide) member)

theorem isTextChar_of_mem_render {x : Decimal} (digits : ∀ c ∈ x.digits, c.isDigit = true)
    {c : Char} (member : c ∈ x.render) : Number.isTextChar c = true := by
  rw [render] at member
  split at member
  · exact isTextChar_of_mem_positional digits member
  · exact isTextChar_of_mem_scientific digits member

end Decimal

namespace Number

theorem isTextChar_of_mem_unsigned {value : Number} {c : Char} (member : c ∈ value.unsigned) :
    isTextChar c = true := by
  match value with
  | .integer n =>
    exact isTextChar_of_isDigit (Nat.isDigit_of_mem_toDigits (by decide) (by decide) member)
  | .double ⟨negative, magnitude⟩ =>
    rw [unsigned] at member
    by_cases zero : magnitude.place = 0
    · rw [if_pos zero] at member
      have text : ['0', '.', '0'].all isTextChar = true := by decide
      exact List.all_eq_true.1 text c member
    · rw [if_neg zero] at member
      exact Decimal.isTextChar_of_mem_render
        (Decimal.denotes_shortest (Magnitude.units_pos_of_place_ne_zero zero)).digits member

theorem isTextChar_of_mem_render (value : Number) {c : Char}
    (member : c ∈ value.render.toList) : isTextChar c = true := by
  rw [toList_render] at member
  split at member
  · rcases List.mem_cons.1 member with rfl | member
    · rfl
    · exact isTextChar_of_mem_unsigned member
  · exact isTextChar_of_mem_unsigned member

theorem toList_render_ne_nil (value : Number) : value.render.toList ≠ [] := by
  intro empty
  have read := read?_render value
  rw [empty] at read
  exact Option.some_ne_none _ read.symm

end Number

end Metacard
