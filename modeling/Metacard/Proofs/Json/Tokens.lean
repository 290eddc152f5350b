import Mathlib.Data.List.Basic
import Metacard.Proofs.Number.Reading
/-!
# Numbers and texts inside JSON texts

The grammar of numbers and of texts between quotes, after RFC 8259. Whatever is read as a number or
as a text is in the grammar, and what is in the grammar is read, if nothing follows that a number
would go on with.
-/

set_option autoImplicit false

namespace Metacard.Json

open Reader

namespace Grammar

def IsDigits (chars : List Char) : Prop :=
  chars ≠ [] ∧ ∀ c ∈ chars, c.isDigit = true

def IsWhole (chars : List Char) : Prop :=
  chars = ['0'] ∨ IsDigits chars ∧ chars.head? ≠ some '0'

inductive IsFraction : List Char → Option (List Char) → Prop where
  | none : IsFraction [] none
  | some {digits : List Char} (isDigits : IsDigits digits) :
      IsFraction ('.' :: digits) (some digits)

def IsExponentMark (c : Char) : Prop :=
  c = 'e' ∨ c = 'E'

inductive IsExponent : List Char → Option Int → Prop where
  | none : IsExponent [] none
  | unsigned {mark : Char} {digits : List Char} (isMark : IsExponentMark mark)
      (isDigits : IsDigits digits) :
      IsExponent (mark :: digits) (some (Nat.ofDigitChars 10 digits 0 : Nat))
  | plus {mark : Char} {digits : List Char} (isMark : IsExponentMark mark)
      (isDigits : IsDigits digits) :
      IsExponent (mark :: '+' :: digits) (some (Nat.ofDigitChars 10 digits 0 : Nat))
  | minus {mark : Char} {digits : List Char} (isMark : IsExponentMark mark)
      (isDigits : IsDigits digits) :
      IsExponent (mark :: '-' :: digits) (some (-(Nat.ofDigitChars 10 digits 0 : Nat)))

/-- The text of a number, which must be in the range of doubles. -/
inductive IsNumeral : List Char → Number → Prop where
  | parts {negative : Bool} {whole fractionChars exponentChars : List Char}
      {fraction : Option (List Char)} {exponent : Option Int} {value : Number}
      (isWhole : IsWhole whole) (isFraction : IsFraction fractionChars fraction)
      (isExponent : IsExponent exponentChars exponent)
      (isValue : numberOfParts negative whole fraction exponent = some value) :
      IsNumeral ((if negative then ['-'] else []) ++ whole ++ fractionChars ++ exponentChars) value

/-- The text of a number, which may be out of the range of doubles and then has no value. -/
inductive IsNumberText : List Char → Option Number → Prop where
  | parts {negative : Bool} {whole fractionChars exponentChars : List Char}
      {fraction : Option (List Char)} {exponent : Option Int} {value : Option Number}
      (isWhole : IsWhole whole) (isFraction : IsFraction fractionChars fraction)
      (isExponent : IsExponent exponentChars exponent)
      (isValue : numberOfParts negative whole fraction exponent = value) :
      IsNumberText ((if negative then ['-'] else []) ++ whole ++ fractionChars ++ exponentChars)
        value

theorem isNumberText_some_iff {chars : List Char} {value : Number} :
    IsNumberText chars (some value) ↔ IsNumeral chars value := by
  constructor
  · rintro ⟨isWhole, isFraction, isExponent, isValue⟩
    exact .parts isWhole isFraction isExponent isValue
  · rintro ⟨isWhole, isFraction, isExponent, isValue⟩
    exact .parts isWhole isFraction isExponent isValue

def EndsNumeral (rest : List Char) : Prop :=
  ∀ c ∈ rest.head?, c.isDigit = false ∧ c ≠ '.' ∧ ¬ IsExponentMark c

theorem EndsNumeral.endsDigits {rest : List Char} (ends : EndsNumeral rest) : EndsDigits rest :=
  fun c isHead => (ends c isHead).1

theorem digits?_eq_some {chars found rest : List Char} (read : digits? chars = some (found, rest)) :
    chars = found ++ rest ∧ IsDigits found := by
  rw [digits?] at read
  split at read
  · exact absurd read (Option.some_ne_none _).symm
  · rename_i isNonempty
    obtain ⟨rfl, rfl⟩ := Prod.mk.inj (Option.some.inj read)
    exact ⟨List.takeWhile_append_dropWhile.symm, isNonempty, List.all_eq_true.1 List.all_takeWhile⟩

theorem isWhole_of_whole? {chars found rest : List Char}
    (read : whole? chars = some (found, rest)) : chars = found ++ rest ∧ IsWhole found := by
  rw [whole?.eq_def] at read
  split at read
  · split at read
    · exact nomatch read
    · obtain ⟨rfl, rfl⟩ := Prod.mk.inj (Option.some.inj read)
      exact ⟨rfl, .inl rfl⟩
  · rename_i notZero
    obtain ⟨rfl, isDigits⟩ := digits?_eq_some read
    refine ⟨rfl, .inr ⟨isDigits, ?_⟩⟩
    intro isZero
    obtain ⟨more, rfl⟩ := List.head?_eq_some_iff.1 isZero
    exact notZero (more ++ rest) rfl

theorem isFraction_of_fraction? {chars rest : List Char} {fraction : Option (List Char)}
    (read : fraction? chars = some (fraction, rest)) :
    ∃ text, chars = text ++ rest ∧ IsFraction text fraction := by
  rw [fraction?.eq_def] at read
  split at read
  · obtain ⟨⟨digits, others⟩, found, made⟩ := Option.bind_eq_some_iff.1 read
    obtain ⟨rfl, rfl⟩ := Prod.mk.inj (Option.some.inj made)
    obtain ⟨rfl, isDigits⟩ := digits?_eq_some found
    exact ⟨'.' :: digits, rfl, .some isDigits⟩
  · obtain ⟨rfl, rfl⟩ := Prod.mk.inj (Option.some.inj read)
    exact ⟨[], rfl, .none⟩

theorem isExponent_of_exponent? {chars rest : List Char} {exponent : Option Int}
    (read : exponent? chars = some (exponent, rest)) :
    ∃ text, chars = text ++ rest ∧ IsExponent text exponent := by
  cases chars with
  | nil =>
    obtain ⟨rfl, rfl⟩ := Prod.mk.inj (Option.some.inj read)
    exact ⟨[], rfl, .none⟩
  | cons mark chars =>
    rw [exponent?.eq_def] at read
    dsimp only at read
    split at read
    · rename_i isMark
      split at read
      all_goals
        obtain ⟨⟨digits, others⟩, found, made⟩ := Option.bind_eq_some_iff.1 read
        obtain ⟨rfl, rfl⟩ := Prod.mk.inj (Option.some.inj made)
        obtain ⟨rfl, isDigits⟩ := digits?_eq_some found
        rw [foldl_digitValue]
      · rw [Int.one_mul]
        exact ⟨mark :: '+' :: digits, rfl, .plus isMark isDigits⟩
      · rw [Int.neg_one_mul]
        exact ⟨mark :: '-' :: digits, rfl, .minus isMark isDigits⟩
      · rw [Int.one_mul]
        exact ⟨mark :: digits, rfl, .unsigned isMark isDigits⟩
    · obtain ⟨rfl, rfl⟩ := Prod.mk.inj (Option.some.inj read)
      exact ⟨[], rfl, .none⟩

theorem exists_isNumberText {chars afterWhole afterFraction rest whole : List Char}
    {fraction : Option (List Char)} {exponent : Option Int}
    (wholeRead : whole? chars = some (whole, afterWhole))
    (fractionRead : fraction? afterWhole = some (fraction, afterFraction))
    (exponentRead : exponent? afterFraction = some (exponent, rest)) (negative : Bool) :
    ∃ text, (if negative then ['-'] else []) ++ chars = text ++ rest ∧
      IsNumberText text (numberOfParts negative whole fraction exponent) := by
  obtain ⟨rfl, isWhole⟩ := isWhole_of_whole? wholeRead
  obtain ⟨fractionChars, rfl, isFraction⟩ := isFraction_of_fraction? fractionRead
  obtain ⟨exponentChars, rfl, isExponent⟩ := isExponent_of_exponent? exponentRead
  refine ⟨_, ?_, .parts isWhole isFraction isExponent rfl⟩
  simp only [List.append_assoc]

theorem isNumberText_of_number? {chars rest : List Char} {value : Option Number}
    (read : number? chars = some (value, rest)) :
    ∃ text, chars = text ++ rest ∧ IsNumberText text value := by
  rw [number?.eq_def] at read
  dsimp only at read
  split at read
  all_goals
    obtain ⟨⟨whole, afterWhole⟩, wholeRead, read⟩ := Option.bind_eq_some_iff.1 read
    obtain ⟨⟨fraction, afterFraction⟩, fractionRead, read⟩ := Option.bind_eq_some_iff.1 read
    obtain ⟨⟨exponent, afterExponent⟩, exponentRead, made⟩ := Option.bind_eq_some_iff.1 read
    obtain ⟨rfl, rfl⟩ := Prod.mk.inj (Option.some.inj made)
  · exact exists_isNumberText wholeRead fractionRead exponentRead true
  · exact exists_isNumberText wholeRead fractionRead exponentRead false

theorem IsDigits.exists_cons {chars : List Char} (isDigits : IsDigits chars) :
    ∃ c rest, chars = c :: rest ∧ c.isDigit = true := by
  obtain ⟨c, rest, rfl⟩ := List.exists_cons_of_ne_nil isDigits.1
  exact ⟨c, rest, rfl, isDigits.2 c List.mem_cons_self⟩

theorem IsWhole.exists_cons {chars : List Char} (isWhole : IsWhole chars) :
    ∃ c rest, chars = c :: rest ∧ c.isDigit = true := by
  rcases isWhole with rfl | ⟨isDigits, -⟩
  · exact ⟨'0', [], rfl, rfl⟩
  · exact isDigits.exists_cons

theorem whole?_append {whole rest : List Char} (isWhole : IsWhole whole)
    (ends : EndsDigits rest) : whole? (whole ++ rest) = some (whole, rest) := by
  rcases isWhole with rfl | ⟨isDigits, noZero⟩
  · have noDigit : (rest.head?.map Char.isDigit).getD false = false := by
      cases rest with
      | nil => rfl
      | cons c rest => exact ends c rfl
    simp only [List.singleton_append, whole?, noDigit]
    rfl
  · obtain ⟨c, more, rfl, -⟩ := isDigits.exists_cons
    have notZero : c ≠ '0' := fun same => noZero (congrArg some same)
    rw [List.cons_append, whole?]
    · exact digits?_append rest isDigits.1 isDigits.2 ends
    · rintro _ same
      exact notZero (List.cons.inj same).1

theorem fraction?_append {text rest : List Char} {fraction : Option (List Char)}
    (isFraction : IsFraction text fraction) (ends : EndsDigits rest)
    (noPoint : ∀ c ∈ rest.head?, c ≠ '.') : fraction? (text ++ rest) = some (fraction, rest) := by
  cases isFraction with
  | none =>
    rw [List.nil_append, fraction?]
    rintro others rfl
    exact noPoint '.' rfl rfl
  | some isDigits =>
    rw [List.cons_append, fraction?, digits?_append rest isDigits.1 isDigits.2 ends]
    rfl

theorem exponent?_append {text rest : List Char} {exponent : Option Int}
    (isExponent : IsExponent text exponent) (ends : EndsNumeral rest) :
    exponent? (text ++ rest) = some (exponent, rest) := by
  cases isExponent with
  | none =>
    cases rest with
    | nil => rfl
    | cons c rest =>
      have noMark : ¬ (c = 'e' ∨ c = 'E') := (ends c rfl).2.2
      rw [List.nil_append, exponent?.eq_def]
      exact if_neg noMark
  | @unsigned mark digits isMark isDigits =>
    have found := digits?_append rest isDigits.1 isDigits.2 ends.endsDigits
    obtain ⟨c, more, rfl, isDigit⟩ := isDigits.exists_cons
    rw [List.cons_append, exponent?.eq_def]
    dsimp only
    rw [if_pos (show mark = 'e' ∨ mark = 'E' from isMark), List.cons_append]
    split
    · rename_i plus
      rw [(List.cons.inj plus).1] at isDigit
      exact nomatch isDigit
    · rename_i minus
      rw [(List.cons.inj minus).1] at isDigit
      exact nomatch isDigit
    · rw [List.cons_append] at found
      simp [found, foldl_digitValue]
  | @plus mark digits isMark isDigits =>
    have found := digits?_append rest isDigits.1 isDigits.2 ends.endsDigits
    rw [List.cons_append, exponent?.eq_def]
    dsimp only
    rw [if_pos (show mark = 'e' ∨ mark = 'E' from isMark), List.cons_append]
    simp [found, foldl_digitValue]
  | @minus mark digits isMark isDigits =>
    have found := digits?_append rest isDigits.1 isDigits.2 ends.endsDigits
    rw [List.cons_append, exponent?.eq_def]
    dsimp only
    rw [if_pos (show mark = 'e' ∨ mark = 'E' from isMark), List.cons_append]
    simp [found, foldl_digitValue]

theorem endsFraction_of_isExponent {text rest : List Char} {exponent : Option Int}
    (isExponent : IsExponent text exponent) (ends : EndsNumeral rest) :
    ∀ c ∈ (text ++ rest).head?, c.isDigit = false ∧ c ≠ '.' := by
  have ofMark {mark : Char} {chars : List Char} (isMark : IsExponentMark mark) :
      ∀ c ∈ (mark :: chars).head?, c.isDigit = false ∧ c ≠ '.' := by
    intro c isHead
    obtain rfl := Option.some.inj isHead
    rcases isMark with rfl | rfl <;> decide
  cases isExponent with
  | none => exact fun c isHead => ⟨(ends c isHead).1, (ends c isHead).2.1⟩
  | unsigned isMark | plus isMark | minus isMark => exact ofMark isMark

theorem number?_append {text rest : List Char} {value : Option Number}
    (isNumber : IsNumberText text value) (ends : EndsNumeral rest) :
    number? (text ++ rest) = some (value, rest) := by
  obtain ⟨isWhole, isFraction, isExponent, isValue⟩ := isNumber
  rename_i negative whole fractionChars exponentChars fraction exponent
  have exponentRead := exponent?_append isExponent ends
  have endsFraction := endsFraction_of_isExponent isExponent ends
  have fractionRead := fraction?_append isFraction (fun c isHead => (endsFraction c isHead).1)
    fun c isHead => (endsFraction c isHead).2
  have endsWhole : EndsDigits (fractionChars ++ (exponentChars ++ rest)) := by
    cases isFraction with
    | none => exact fun c isHead => (endsFraction c isHead).1
    | some isDigits => exact fun c isHead => Option.some.inj isHead ▸ rfl
  have wholeRead := whole?_append isWhole endsWhole
  cases negative with
  | true =>
    simp only [if_true, List.cons_append, List.append_assoc, number?]
    simp [wholeRead, fractionRead, exponentRead, isValue]
  | false =>
    obtain ⟨c, more, rfl, isDigit⟩ := isWhole.exists_cons
    have notMinus : c ≠ '-' := by
      rintro rfl
      exact nomatch isDigit
    simp only [Bool.false_eq_true, if_false, List.nil_append, List.append_assoc]
    rw [number?.eq_def]
    dsimp only
    split
    · rename_i minus
      exact absurd (List.cons.inj minus).1 notMinus
    · simp only [wholeRead, fractionRead, exponentRead, isValue, Option.bind_eq_bind,
        Option.bind_some]

/-! ## Texts -/

def escapeMarks : List (Char × Char) :=
  [('"', '"'), ('\\', '\\'), ('/', '/'), ('b', '\x08'), ('f', '\x0c'), ('n', '\n'), ('r', '\r'),
    ('t', '\t')]

inductive IsUnit : List Char → Nat → Prop where
  | digits {a b c d : Char} {first second third fourth : Nat}
      (isFirst : Text.hexValue? a = some first) (isSecond : Text.hexValue? b = some second)
      (isThird : Text.hexValue? c = some third) (isFourth : Text.hexValue? d = some fourth) :
      IsUnit [a, b, c, d] (((first * 16 + second) * 16 + third) * 16 + fourth)

/-- A character of a text: itself, or an escape for it. -/
inductive IsCharText : List Char → Char → Prop where
  | plain {c : Char} (noQuote : c ≠ '"') (noBackslash : c ≠ '\\') (noControl : 32 ≤ c.toNat) :
      IsCharText [c] c
  | marked {mark c : Char} (isMark : (mark, c) ∈ escapeMarks) : IsCharText ['\\', mark] c
  | unit {digits : List Char} {n : Nat} (isUnit : IsUnit digits n)
      (alone : ¬ (0xD800 ≤ n ∧ n < 0xE000)) : IsCharText ('\\' :: 'u' :: digits) (Char.ofNat n)
  | pair {digits others : List Char} {high low : Nat} (isHigh : IsUnit digits high)
      (highRange : 0xD800 ≤ high ∧ high < 0xDC00) (isLow : IsUnit others low)
      (lowRange : 0xDC00 ≤ low ∧ low < 0xE000) :
      IsCharText ('\\' :: 'u' :: (digits ++ '\\' :: 'u' :: others))
        (Char.ofNat (0x10000 + (high - 0xD800) * 0x400 + (low - 0xDC00)))

inductive IsQuoted : List Char → String → Prop where
  | chars {pieces : List (List Char × Char)} (each : ∀ piece ∈ pieces, IsCharText piece.1 piece.2) :
      IsQuoted ('"' :: (pieces.flatMap Prod.fst ++ ['"'])) (String.ofList (pieces.map Prod.snd))

theorem isUnit_of_unit? {chars rest : List Char} {n : Nat} (read : unit? chars = some (n, rest)) :
    ∃ digits, chars = digits ++ rest ∧ IsUnit digits n := by
  rw [unit?.eq_def] at read
  split at read
  · obtain ⟨first, isFirst, read⟩ := Option.bind_eq_some_iff.1 read
    obtain ⟨second, isSecond, read⟩ := Option.bind_eq_some_iff.1 read
    obtain ⟨third, isThird, read⟩ := Option.bind_eq_some_iff.1 read
    obtain ⟨fourth, isFourth, made⟩ := Option.bind_eq_some_iff.1 read
    obtain ⟨rfl, rfl⟩ := Prod.mk.inj (Option.some.inj made)
    exact ⟨_, rfl, .digits isFirst isSecond isThird isFourth⟩
  · exact nomatch read

theorem unit?_append {digits : List Char} {n : Nat} (isUnit : IsUnit digits n)
    (rest : List Char) : unit? (digits ++ rest) = some (n, rest) := by
  obtain ⟨isFirst, isSecond, isThird, isFourth⟩ := isUnit
  simp [unit?, isFirst, isSecond, isThird, isFourth]

theorem isCharText_of_numberedChar? {chars rest : List Char} {c : Char}
    (read : numberedChar? chars = some (c, rest)) :
    ∃ text, chars = text ++ rest ∧ IsCharText ('\\' :: 'u' :: text) c := by
  obtain ⟨⟨high, others⟩, highRead, made⟩ := Option.bind_eq_some_iff.1 read
  obtain ⟨digits, rfl, isHigh⟩ := isUnit_of_unit? highRead
  dsimp only at made
  split at made
  · rename_i highRange
    split at made
    · obtain ⟨⟨low, others⟩, lowRead, paired⟩ := Option.bind_eq_some_iff.1 made
      obtain ⟨lowDigits, rfl, isLow⟩ := isUnit_of_unit? lowRead
      dsimp only at paired
      split at paired
      · rename_i lowRange
        obtain ⟨rfl, rfl⟩ := Prod.mk.inj (Option.some.inj paired)
        exact ⟨digits ++ '\\' :: 'u' :: lowDigits, by simp, .pair isHigh highRange isLow lowRange⟩
      · exact nomatch paired
    · exact nomatch made
  · rename_i notHigh
    split at made
    · exact nomatch made
    · rename_i notLow
      obtain ⟨rfl, rfl⟩ := Prod.mk.inj (Option.some.inj made)
      exact ⟨digits, rfl, .unit isHigh (by omega)⟩

theorem isCharText_of_escapedChar? {chars rest : List Char} {c : Char}
    (read : escapedChar? chars = some (c, rest)) :
    ∃ text, chars = text ++ rest ∧ IsCharText ('\\' :: text) c := by
  rw [escapedChar?.eq_def] at read
  split at read
  case h_9 =>
    obtain ⟨text, rfl, isCharText⟩ := isCharText_of_numberedChar? read
    exact ⟨'u' :: text, rfl, isCharText⟩
  case h_10 => exact nomatch read
  all_goals
    obtain ⟨rfl, rfl⟩ := Prod.mk.inj (Option.some.inj read)
    exact ⟨[_], rfl, .marked (by decide)⟩

theorem numberedChar?_append_unit {digits : List Char} {n : Nat} (isUnit : IsUnit digits n)
    (alone : ¬ (0xD800 ≤ n ∧ n < 0xE000)) (rest : List Char) :
    numberedChar? (digits ++ rest) = some (Char.ofNat n, rest) := by
  have notHigh : ¬ (0xD800 ≤ n ∧ n < 0xDC00) := by omega
  have notLow : ¬ (0xDC00 ≤ n ∧ n < 0xE000) := by omega
  simp only [numberedChar?, unit?_append isUnit, Option.bind_eq_bind, Option.bind_some, notHigh,
    notLow, if_false]

theorem numberedChar?_append_pair {digits others : List Char} {high low : Nat}
    (isHigh : IsUnit digits high) (highRange : 0xD800 ≤ high ∧ high < 0xDC00)
    (isLow : IsUnit others low) (lowRange : 0xDC00 ≤ low ∧ low < 0xE000) (rest : List Char) :
    numberedChar? (digits ++ '\\' :: 'u' :: others ++ rest) =
      some (Char.ofNat (0x10000 + (high - 0xD800) * 0x400 + (low - 0xDC00)), rest) := by
  simp only [numberedChar?, List.append_assoc, List.cons_append, unit?_append isHigh,
    unit?_append isLow, Option.bind_eq_bind, Option.bind_some, highRange, lowRange, and_self,
    if_true]

theorem escapedChar?_append {text rest : List Char} {c : Char}
    (isCharText : IsCharText ('\\' :: text) c) : escapedChar? (text ++ rest) = some (c, rest) := by
  cases isCharText with
  | plain _ noBackslash => exact absurd rfl noBackslash
  | marked isMark =>
    simp only [escapeMarks, List.mem_cons, List.not_mem_nil, Prod.mk.injEq, or_false] at isMark
    rcases isMark with ⟨rfl, rfl⟩ | ⟨rfl, rfl⟩ | ⟨rfl, rfl⟩ | ⟨rfl, rfl⟩ | ⟨rfl, rfl⟩ | ⟨rfl, rfl⟩ |
      ⟨rfl, rfl⟩ | ⟨rfl, rfl⟩ <;> rfl
  | unit isUnit alone => exact numberedChar?_append_unit isUnit alone rest
  | pair isHigh highRange isLow lowRange =>
    exact numberedChar?_append_pair isHigh highRange isLow lowRange rest

theorem chars?_append {text rest found left : List Char} {c : Char} {steps : Nat}
    (isCharText : IsCharText text c) (read : chars? steps rest = some (found, left)) :
    chars? (steps + 1) (text ++ rest) = some (c :: found, left) := by
  have ofEscape {escape : List Char} (isEscape : IsCharText ('\\' :: escape) c) :
      chars? (steps + 1) ('\\' :: escape ++ rest) = some (c :: found, left) := by
    rw [List.cons_append, chars?]
    simp [escapedChar?_append isEscape, read]
  cases isCharText with
  | plain noQuote noBackslash noControl =>
    rw [List.singleton_append, chars?]
    · simp [Nat.not_lt.2 noControl, read]
    · exact noQuote
    · exact noBackslash
  | marked isMark => exact ofEscape (.marked isMark)
  | unit isUnit alone => exact ofEscape (.unit isUnit alone)
  | pair isHigh highRange isLow lowRange => exact ofEscape (.pair isHigh highRange isLow lowRange)

theorem IsCharText.ne_nil {text : List Char} {c : Char} (isCharText : IsCharText text c) :
    text ≠ [] := by
  cases isCharText <;> exact List.cons_ne_nil _ _

theorem chars?_flatMap {pieces : List (List Char × Char)}
    (each : ∀ piece ∈ pieces, IsCharText piece.1 piece.2) (rest : List Char) :
    ∀ steps, (pieces.flatMap Prod.fst).length < steps →
      chars? steps (pieces.flatMap Prod.fst ++ '"' :: rest) =
        some (pieces.map Prod.snd, rest) := by
  induction pieces with
  | nil =>
    intro steps enough
    obtain ⟨fewer, rfl⟩ := Nat.exists_eq_add_of_lt enough
    rfl
  | cons piece others inductionHypothesis =>
    intro steps enough
    obtain ⟨first, othersEach⟩ := List.forall_mem_cons.1 each
    have nonempty := List.length_pos_iff.2 first.ne_nil
    rw [List.flatMap_cons, List.length_append] at enough
    obtain ⟨fewer, rfl⟩ : ∃ fewer, steps = fewer + 1 := ⟨steps - 1, by omega⟩
    have read := inductionHypothesis othersEach fewer (by omega)
    rw [List.flatMap_cons, List.append_assoc, List.map_cons]
    exact chars?_append first read

/-- The pieces of a text, up to its closing quote. -/
structure ArePieces (pieces : List (List Char × Char)) (chars found rest : List Char) : Prop where
  each : ∀ piece ∈ pieces, IsCharText piece.1 piece.2
  chars : chars = pieces.flatMap Prod.fst ++ '"' :: rest
  found : found = pieces.map Prod.snd

theorem ArePieces.cons {pieces : List (List Char × Char)} {others found rest text : List Char}
    {c : Char} (areMore : ArePieces pieces others found rest) (isCharText : IsCharText text c) :
    ArePieces ((text, c) :: pieces) (text ++ others) (c :: found) rest where
  each := List.forall_mem_cons.2 ⟨isCharText, areMore.each⟩
  chars := by rw [areMore.chars, List.flatMap_cons, List.append_assoc]
  found := by rw [areMore.found, List.map_cons]

theorem exists_pieces_of_chars? (steps : Nat) : ∀ {chars found rest : List Char},
    chars? steps chars = some (found, rest) → ∃ pieces, ArePieces pieces chars found rest := by
  induction steps with
  | zero => exact fun read => absurd read (Option.some_ne_none _).symm
  | succ steps inductionHypothesis =>
    intro chars found rest read
    rw [chars?.eq_def] at read
    dsimp only at read
    split at read
    · obtain ⟨rfl, rfl⟩ := Prod.mk.inj (Option.some.inj read)
      exact ⟨[], List.forall_mem_nil _, rfl, rfl⟩
    · obtain ⟨⟨c, others⟩, escapeRead, read⟩ := Option.bind_eq_some_iff.1 read
      obtain ⟨⟨later, left⟩, laterRead, made⟩ := Option.bind_eq_some_iff.1 read
      obtain ⟨rfl, rfl⟩ := Prod.mk.inj (Option.some.inj made)
      obtain ⟨escape, rfl, isCharText⟩ := isCharText_of_escapedChar? escapeRead
      obtain ⟨pieces, arePieces⟩ := inductionHypothesis laterRead
      exact ⟨_, arePieces.cons isCharText⟩
    · rename_i c others noQuote noBackslash
      split at read
      · exact absurd read (Option.some_ne_none _).symm
      · rename_i noControl
        obtain ⟨⟨later, left⟩, laterRead, made⟩ := Option.bind_eq_some_iff.1 read
        obtain ⟨rfl, rfl⟩ := Prod.mk.inj (Option.some.inj made)
        obtain ⟨pieces, arePieces⟩ := inductionHypothesis laterRead
        exact ⟨_, arePieces.cons (.plain noQuote noBackslash (Nat.not_lt.1 noControl))⟩
    · exact absurd read (Option.some_ne_none _).symm

theorem IsQuoted.exists_cons {chars : List Char} {value : String}
    (isQuoted : IsQuoted chars value) : ∃ inner, chars = '"' :: inner := by
  cases isQuoted
  exact ⟨_, rfl⟩

theorem text?_iff {chars rest : List Char} {value : String} :
    Reader.text? chars = some (value, rest) ↔
      ∃ text, '"' :: chars = text ++ rest ∧ IsQuoted text value := by
  constructor
  · intro read
    obtain ⟨⟨found, left⟩, charsRead, made⟩ := Option.bind_eq_some_iff.1 read
    obtain ⟨rfl, rfl⟩ := Prod.mk.inj (Option.some.inj made)
    obtain ⟨pieces, each, rfl, rfl⟩ := exists_pieces_of_chars? _ charsRead
    exact ⟨_, by simp, .chars each⟩
  · rintro ⟨_, same, ⟨each⟩⟩
    rename_i pieces
    obtain rfl : chars = pieces.flatMap Prod.fst ++ '"' :: rest := by simpa using same
    have enough : (pieces.flatMap Prod.fst).length <
        (pieces.flatMap Prod.fst ++ '"' :: rest).length := by
      rw [List.length_append, List.length_cons]
      omega
    rw [Reader.text?, chars?_flatMap each rest _ enough]
    rfl

/-! ## Texts without a value -/

/-- A character of a text or half of a surrogate pair: itself, or an escape. -/
inductive IsLooseChar : List Char → Prop where
  | plain {c : Char} (noQuote : c ≠ '"') (noBackslash : c ≠ '\\') (noControl : 32 ≤ c.toNat) :
      IsLooseChar [c]
  | marked {mark c : Char} (isMark : (mark, c) ∈ escapeMarks) : IsLooseChar ['\\', mark]
  | unit {digits : List Char} {n : Nat} (isUnit : IsUnit digits n) :
      IsLooseChar ('\\' :: 'u' :: digits)

/-- A text between quotes, whatever its numbered escapes stand for. -/
inductive IsLoose : List Char → Prop where
  | chars {pieces : List (List Char)} (each : ∀ piece ∈ pieces, IsLooseChar piece) :
      IsLoose ('"' :: (pieces.flatten ++ ['"']))

/-- A text between quotes, without a value if half of a surrogate pair stands in it alone. -/
inductive IsAnyText : List Char → Option String → Prop where
  | some {chars : List Char} {value : String} (isQuoted : IsQuoted chars value) :
      IsAnyText chars (some value)
  | none {chars : List Char} (isLoose : IsLoose chars)
      (noValue : ∀ value, ¬ IsQuoted chars value) : IsAnyText chars none

theorem IsCharText.exists_loose {text : List Char} {c : Char} (isCharText : IsCharText text c) :
    ∃ pieces : List (List Char), text = pieces.flatten ∧ ∀ piece ∈ pieces, IsLooseChar piece := by
  cases isCharText with
  | plain noQuote noBackslash noControl =>
    exact ⟨[_], by simp, List.forall_mem_singleton.2 (.plain noQuote noBackslash noControl)⟩
  | marked isMark => exact ⟨[_], by simp, List.forall_mem_singleton.2 (.marked isMark)⟩
  | unit isUnit _ => exact ⟨[_], by simp, List.forall_mem_singleton.2 (.unit isUnit)⟩
  | pair isHigh _ isLow _ =>
    exact ⟨[_, _], by simp,
      List.forall_mem_cons.2 ⟨.unit isHigh, List.forall_mem_singleton.2 (.unit isLow)⟩⟩

theorem IsQuoted.isLoose {chars : List Char} {value : String} (isQuoted : IsQuoted chars value) :
    IsLoose chars := by
  obtain ⟨each⟩ := isQuoted
  rename_i pieces
  suffices loose : ∃ loosePieces : List (List Char), pieces.flatMap Prod.fst =
      loosePieces.flatten ∧ ∀ piece ∈ loosePieces, IsLooseChar piece by
    obtain ⟨loosePieces, same, eachLoose⟩ := loose
    rw [same]
    exact .chars eachLoose
  induction pieces with
  | nil => exact ⟨[], rfl, List.forall_mem_nil _⟩
  | cons piece others inductionHypothesis =>
    obtain ⟨first, othersEach⟩ := List.forall_mem_cons.1 each
    obtain ⟨firstPieces, firstSame, firstLoose⟩ := first.exists_loose
    obtain ⟨otherPieces, othersSame, othersLoose⟩ := inductionHypothesis othersEach
    refine ⟨firstPieces ++ otherPieces, ?_, List.forall_mem_append.2 ⟨firstLoose, othersLoose⟩⟩
    rw [List.flatMap_cons, firstSame, othersSame, List.flatten_append]

theorem passEscape?_append {text rest : List Char} (isLooseChar : IsLooseChar ('\\' :: text)) :
    passEscape? (text ++ rest) = some rest := by
  cases isLooseChar with
  | plain _ noBackslash => exact absurd rfl noBackslash
  | unit isUnit =>
    rw [List.cons_append, passEscape?, unit?_append isUnit]
    rfl
  | marked isMark =>
    have escaped := @escapedChar?_append _ rest _ (.marked isMark)
    rw [passEscape?, escaped]
    · rfl
    · rintro others same
      rw [(List.cons.inj same).1] at isMark
      exact absurd isMark (by simp [escapeMarks])

theorem exists_of_passEscape? {chars rest : List Char} (passed : passEscape? chars = some rest) :
    ∃ text, chars = text ++ rest ∧ IsLooseChar ('\\' :: text) := by
  rw [passEscape?.eq_def] at passed
  split at passed
  · obtain ⟨⟨n, left⟩, unitRead, rfl⟩ := Option.map_eq_some_iff.1 passed
    obtain ⟨digits, rfl, isUnit⟩ := isUnit_of_unit? unitRead
    exact ⟨'u' :: digits, rfl, .unit isUnit⟩
  · rename_i notUnit
    obtain ⟨⟨c, left⟩, escapeRead, rfl⟩ := Option.map_eq_some_iff.1 passed
    obtain ⟨text, rfl, isCharText⟩ := isCharText_of_escapedChar? escapeRead
    refine ⟨text, rfl, ?_⟩
    cases isCharText with
    | plain _ noBackslash => exact absurd rfl noBackslash
    | marked isMark => exact .marked isMark
    | unit isUnit _ => exact .unit isUnit
    | pair => exact absurd rfl (notUnit _)

theorem passChars?_append {text rest left : List Char} {steps : Nat}
    (isLooseChar : IsLooseChar text) (passed : passChars? steps rest = some left) :
    passChars? (steps + 1) (text ++ rest) = some left := by
  have ofEscape {escape : List Char} (isEscape : IsLooseChar ('\\' :: escape)) :
      passChars? (steps + 1) ('\\' :: escape ++ rest) = some left := by
    rw [List.cons_append, passChars?]
    simp [passEscape?_append isEscape, passed]
  cases isLooseChar with
  | plain noQuote noBackslash noControl =>
    rw [List.singleton_append, passChars?]
    · simp [Nat.not_lt.2 noControl, passed]
    · exact noQuote
    · exact noBackslash
  | marked isMark => exact ofEscape (.marked isMark)
  | unit isUnit => exact ofEscape (.unit isUnit)

theorem passChars?_flatten {pieces : List (List Char)}
    (each : ∀ piece ∈ pieces, IsLooseChar piece) (rest : List Char) :
    ∀ steps, pieces.flatten.length < steps →
      passChars? steps (pieces.flatten ++ '"' :: rest) = some rest := by
  induction pieces with
  | nil =>
    intro steps enough
    obtain ⟨fewer, rfl⟩ := Nat.exists_eq_add_of_lt enough
    rfl
  | cons piece others inductionHypothesis =>
    intro steps enough
    obtain ⟨first, othersEach⟩ := List.forall_mem_cons.1 each
    have nonempty : 0 < piece.length := by
      cases first <;> simp
    rw [List.flatten_cons, List.length_append] at enough
    obtain ⟨fewer, rfl⟩ : ∃ fewer, steps = fewer + 1 := ⟨steps - 1, by omega⟩
    rw [List.flatten_cons, List.append_assoc]
    exact passChars?_append first (inductionHypothesis othersEach fewer (by omega))

theorem exists_pieces_of_passChars? (steps : Nat) : ∀ {chars rest : List Char},
    passChars? steps chars = some rest → ∃ pieces : List (List Char),
      (∀ piece ∈ pieces, IsLooseChar piece) ∧ chars = pieces.flatten ++ '"' :: rest := by
  induction steps with
  | zero => exact fun passed => absurd passed (Option.some_ne_none _).symm
  | succ steps inductionHypothesis =>
    intro chars rest passed
    rw [passChars?.eq_def] at passed
    dsimp only at passed
    split at passed
    · obtain rfl := Option.some.inj passed
      exact ⟨[], List.forall_mem_nil _, rfl⟩
    · obtain ⟨left, escapePassed, laterPassed⟩ := Option.bind_eq_some_iff.1 passed
      obtain ⟨escape, rfl, isLooseChar⟩ := exists_of_passEscape? escapePassed
      obtain ⟨pieces, each, rfl⟩ := inductionHypothesis laterPassed
      exact ⟨_ :: pieces, List.forall_mem_cons.2 ⟨isLooseChar, each⟩, by simp⟩
    · rename_i c others noQuote noBackslash
      split at passed
      · exact absurd passed (Option.some_ne_none _).symm
      · rename_i noControl
        obtain ⟨pieces, each, rfl⟩ := inductionHypothesis passed
        exact ⟨[c] :: pieces, List.forall_mem_cons.2
          ⟨.plain noQuote noBackslash (Nat.not_lt.1 noControl), each⟩, by simp⟩
    · exact absurd passed (Option.some_ne_none _).symm

theorem passChars?_iff {chars rest : List Char} :
    passChars? chars.length chars = some rest ↔
      ∃ text, '"' :: chars = text ++ rest ∧ IsLoose text := by
  constructor
  · intro passed
    obtain ⟨pieces, each, same⟩ := exists_pieces_of_passChars? _ passed
    exact ⟨_, by simp [same], .chars each⟩
  · rintro ⟨_, same, ⟨each⟩⟩
    rename_i pieces
    obtain rfl : chars = pieces.flatten ++ '"' :: rest := by simpa using same
    apply passChars?_flatten each rest
    rw [List.length_append, List.length_cons]
    omega

theorem anyText?_iff {chars rest : List Char} {value : Option String} :
    anyText? chars = some (value, rest) ↔
      ∃ text, '"' :: chars = text ++ rest ∧ IsAnyText text value := by
  constructor
  · intro read
    rw [anyText?] at read
    split at read
    · rename_i textRead
      obtain ⟨rfl, rfl⟩ := Prod.mk.inj (Option.some.inj read)
      obtain ⟨text, same, isQuoted⟩ := text?_iff.1 textRead
      exact ⟨text, same, .some isQuoted⟩
    · rename_i notRead
      obtain ⟨left, passed, made⟩ := Option.map_eq_some_iff.1 read
      obtain ⟨rfl, rfl⟩ := Prod.mk.inj made
      obtain ⟨text, same, isLoose⟩ := passChars?_iff.1 passed
      refine ⟨text, same, .none isLoose fun value isQuoted => ?_⟩
      exact Option.some_ne_none _ ((text?_iff.2 ⟨text, same, isQuoted⟩).symm.trans notRead)
  · rintro ⟨text, same, isAnyText⟩
    cases isAnyText with
    | some isQuoted => rw [anyText?, text?_iff.2 ⟨text, same, isQuoted⟩]
    | none isLoose noValue =>
      have passed := passChars?_iff.2 ⟨text, same, isLoose⟩
      cases read : Reader.text? chars with
      | none => simp [anyText?, read, passed]
      | some found =>
        obtain ⟨other, otherSame, isQuoted⟩ := text?_iff.1 read
        have left := passChars?_iff.2 ⟨other, otherSame, isQuoted.isLoose⟩
        rw [passed, Option.some.injEq] at left
        rw [same, left] at otherSame
        rw [List.append_cancel_right otherSame] at noValue
        exact absurd isQuoted (noValue found.1)

theorem IsAnyText.exists_cons {chars : List Char} {value : Option String}
    (isAnyText : IsAnyText chars value) : ∃ inner, chars = '"' :: inner := by
  cases isAnyText with
  | some isQuoted => exact isQuoted.exists_cons
  | none isLoose _ =>
    cases isLoose
    exact ⟨_, rfl⟩

end Grammar

end Metacard.Json
