import Metacard.Proofs.Json.Text
/-!
# JSON texts are read back

The text of a value is read as the value just if it has no more arrays and objects inside each other
than may be read, given that its numbers are read back. An integer of 64 bits is; a double may be
read as a neighbour.
-/

set_option autoImplicit false

namespace Metacard

def Number.ReadsBack (value : Number) : Prop :=
  Json.parse? value.render = some (.number value)

instance (value : Number) : Decidable value.ReadsBack :=
  inferInstanceAs (Decidable (_ = _))

namespace Json.Grammar

open Reader

theorem isNumeral_of_isValue {depth : Nat} {chars : List Char} {value : Number}
    (isValue : IsValue depth chars (.number value)) : IsNumeral chars value := by
  generalize same : Json.number value = read at isValue
  cases isValue with
  | number isNumeral => exact Json.number.inj same ▸ isNumeral
  | null | yes | no | text | emptyArray | array | emptyObject | object => exact nomatch same

theorem eq_nil_of_isBlank {blank : List Char} (isBlank : IsBlank blank)
    (each : ∀ c ∈ blank, Number.isTextChar c = true) : blank = [] := by
  apply List.eq_nil_iff_forall_not_mem.2
  intro c member
  have isSpace := isBlank c member
  have isTextChar := each c member
  simp only [Reader.isSpace, Bool.or_eq_true, decide_eq_true_eq] at isSpace
  rcases isSpace with ((rfl | rfl) | rfl) | rfl <;> exact absurd isTextChar (by decide)

theorem isNumeral_of_readsBack {value : Number} (readsBack : value.ReadsBack) :
    IsNumeral value.render.toList value := by
  obtain ⟨before, chars, after, same, isBefore, isAfter, isValue⟩ := parse?_eq_some_iff.1 readsBack
  have each (c : Char) (member : c ∈ before ++ (chars ++ after)) : Number.isTextChar c = true :=
    value.isTextChar_of_mem_render (same ▸ member)
  have noBefore := eq_nil_of_isBlank isBefore fun c member => each c (List.mem_append_left _ member)
  have noAfter := eq_nil_of_isBlank isAfter fun c member =>
    each c (List.mem_append_right _ (List.mem_append_right _ member))
  rw [same, noBefore, noAfter, List.nil_append, List.append_nil]
  exact isNumeral_of_isValue isValue

theorem takeDigits_of_lt {digits : List Char} {significand : Nat} (taken : Nat)
    (fits : Nat.ofDigitChars 10 digits significand < 0x10000000000000000) :
    takeDigits significand taken digits =
      (Nat.ofDigitChars 10 digits significand, taken + digits.length, []) := by
  induction digits generalizing significand taken with
  | nil => rfl
  | cons c digits inductionHypothesis =>
    have next : Nat.ofDigitChars 10 (c :: digits) significand =
        Nat.ofDigitChars 10 digits (significand * 10 + digitValue c) := by
      rw [← foldl_digitValue, ← foldl_digitValue, List.foldl_cons]
    have grows : significand * 10 + digitValue c ≤
        Nat.ofDigitChars 10 digits (significand * 10 + digitValue c) := by
      rw [Nat.ofDigitChars_eq_ofDigitChars_zero]
      exact Nat.le_add_right_of_le (Nat.le_mul_of_pos_left _ (Nat.pow_pos (by decide)))
    rw [next] at fits ⊢
    rw [takeDigits, if_pos (Nat.lt_of_le_of_lt grows fits), inductionHypothesis _ fits,
      List.length_cons, Nat.add_assoc, Nat.add_comm 1]

theorem head?_toDigits_ne_zero {n : Nat} (positive : 0 < n) :
    (Nat.toDigits 10 n).head? ≠ some '0' := by
  induction n using Nat.strongRecOn with
  | ind n inductionHypothesis =>
    by_cases small : n < 10
    · rw [Nat.toDigits_of_lt_base small]
      exact fun same => Nat.ne_of_gt positive (Nat.digitChar_eq_zero.1 (Option.some.inj same))
    · have fewer := inductionHypothesis (n / 10) (by omega) (by omega)
      rw [Nat.toDigits_of_base_le (by decide) (Nat.not_lt.1 small), List.head?_append]
      obtain ⟨c, rest, isDigits⟩ := List.exists_cons_of_ne_nil
        (Nat.toDigits_ne_nil (b := 10) (n := n / 10))
      rw [isDigits] at fewer ⊢
      exact fewer

theorem isWhole_toDigits (n : Nat) : IsWhole (Nat.toDigits 10 n) := by
  rcases Nat.eq_zero_or_pos n with rfl | positive
  · exact .inl (Nat.toDigits_zero 10)
  · exact .inr ⟨⟨Nat.toDigits_ne_nil,
      fun c member => Nat.isDigit_of_mem_toDigits (by decide) (by decide) member⟩,
      head?_toDigits_ne_zero positive⟩

theorem numberOfParts_integer (negative : Bool) {n : Nat} (fits : n < 0x10000000000000000)
    (signed : negative = true → 0 < n ∧ n ≤ 0x8000000000000000) :
    numberOfParts negative (Nat.toDigits 10 n) none none =
      some (.integer (if negative then -n else n)) := by
  rw [← Nat.ofDigitChars_ten_toDigits (n := n)] at fits
  have taken := takeDigits_of_lt 0 fits
  rw [Nat.ofDigitChars_ten_toDigits] at taken
  cases negative with
  | false => simp [numberOfParts, taken]
  | true => simp [numberOfParts, taken, signed rfl]

theorem isNumeral_integer {n : Int} (low : -0x8000000000000000 ≤ n)
    (high : n < 0x10000000000000000) :
    IsNumeral (Number.integer n).render.toList (.integer n) := by
  cases n with
  | ofNat n =>
    have isValue := numberOfParts_integer false (n := n)
      (Int.ofNat_lt.1 (Int.lt_of_lt_of_le high (by decide))) nofun
    have isNumeral := IsNumeral.parts (isWhole_toDigits n) .none .none isValue
    simp only [Bool.false_eq_true, if_false, List.nil_append, List.append_nil] at isNumeral
    rw [Number.toList_render]
    exact isNumeral
  | negSucc n =>
    have isValue := numberOfParts_integer true (n := n + 1) (by omega) (fun _ => by omega)
    have isNumeral := IsNumeral.parts (isWhole_toDigits (n + 1)) .none .none isValue
    simp only [if_true, List.singleton_append, List.append_nil] at isNumeral
    rw [Number.toList_render]
    exact isNumeral

end Json.Grammar

theorem Number.readsBack_integer {n : Int} (low : -0x8000000000000000 ≤ n)
    (high : n < 0x10000000000000000) : (Number.integer n).ReadsBack :=
  Json.parse?_eq_some_iff.2 ⟨[], _, [], (List.append_nil _).symm, Json.Grammar.isBlank_nil,
    Json.Grammar.isBlank_nil, .number (Json.Grammar.isNumeral_integer low high)⟩

namespace Json

mutual

/-- How many arrays and objects stand inside each other. -/
def depth : Json → Nat
  | .array items => depthOfItems items + 1
  | .object members => depthOfMembers members + 1
  | .null | .boolean _ | .number _ | .text _ => 0

def depthOfItems : List Json → Nat
  | [] => 0
  | item :: rest => max item.depth (depthOfItems rest)

def depthOfMembers : List (String × Json) → Nat
  | [] => 0
  | (_, value) :: rest => max value.depth (depthOfMembers rest)

end

theorem depthOfItems_le_iff {items : List Json} {bound : Nat} :
    depthOfItems items ≤ bound ↔ ∀ item ∈ items, item.depth ≤ bound := by
  induction items with
  | nil => simp [depthOfItems]
  | cons item rest inductionHypothesis =>
    rw [depthOfItems, Nat.max_le, inductionHypothesis, List.forall_mem_cons]

theorem depthOfMembers_le_iff {members : List (String × Json)} {bound : Nat} :
    depthOfMembers members ≤ bound ↔ ∀ entry ∈ members, entry.2.depth ≤ bound := by
  induction members with
  | nil => simp [depthOfMembers]
  | cons entry rest inductionHypothesis =>
    rw [depthOfMembers, Nat.max_le, inductionHypothesis, List.forall_mem_cons]

theorem depth_array_le_iff {items : List Json} {bound : Nat} :
    (array items).depth ≤ bound + 1 ↔ ∀ item ∈ items, item.depth ≤ bound := by
  rw [depth, Nat.add_le_add_iff_right, depthOfItems_le_iff]

theorem depth_object_le_iff {members : List (String × Json)} {bound : Nat} :
    (object members).depth ≤ bound + 1 ↔ ∀ entry ∈ members, entry.2.depth ≤ bound := by
  rw [depth, Nat.add_le_add_iff_right, depthOfMembers_le_iff]

open Grammar in
theorem depth_le_of_isValue {depth : Nat} {chars : List Char} {value : Json}
    (isValue : IsValue depth chars value) : value.depth ≤ depth := by
  induction isValue with
  | null | yes | no | number | text => exact Nat.zero_le _
  | emptyArray => exact depth_array_le_iff.2 (List.forall_mem_nil _)
  | array _ _ _ inductionHypothesis =>
    apply depth_array_le_iff.2
    intro item member
    obtain ⟨part, isPart, rfl⟩ := List.mem_map.1 member
    exact inductionHypothesis part isPart
  | emptyObject => exact depth_object_le_iff.2 (List.forall_mem_nil _)
  | object _ _ _ _ inductionHypothesis =>
    apply depth_object_le_iff.2
    intro entry member
    obtain ⟨part, isPart, rfl⟩ := List.mem_map.1 (Table.mem_of_mem_ofList member)
    exact inductionHypothesis part isPart

/-! ## Values that are read back -/

mutual

def numbers : Json → List Number
  | .number value => [value]
  | .array items => numbersOfItems items
  | .object members => numbersOfMembers members
  | .null | .boolean _ | .text _ => []

def numbersOfItems : List Json → List Number
  | [] => []
  | item :: rest => item.numbers ++ numbersOfItems rest

def numbersOfMembers : List (String × Json) → List Number
  | [] => []
  | (_, value) :: rest => value.numbers ++ numbersOfMembers rest

end

theorem numbersOfItems_eq (items : List Json) : numbersOfItems items = items.flatMap numbers := by
  induction items with
  | nil => rfl
  | cons item rest inductionHypothesis =>
    rw [numbersOfItems, List.flatMap_cons, inductionHypothesis]

theorem numbersOfMembers_eq (members : List (String × Json)) :
    numbersOfMembers members = members.flatMap fun entry => entry.2.numbers := by
  induction members with
  | nil => rfl
  | cons entry rest inductionHypothesis =>
    rw [numbersOfMembers, List.flatMap_cons, inductionHypothesis]

/-- The members of all objects stand in ascending order of key. -/
inductive IsOrdered : Json → Prop where
  | null : IsOrdered .null
  | boolean {value : Bool} : IsOrdered (.boolean value)
  | number {value : Number} : IsOrdered (.number value)
  | text {value : String} : IsOrdered (.text value)
  | array {items : List Json} (each : ∀ item ∈ items, item.IsOrdered) : IsOrdered (.array items)
  | object {members : List (String × Json)} (ascending : Ascending members)
      (each : ∀ entry ∈ members, entry.2.IsOrdered) : IsOrdered (.object members)

theorem record_of_ascending {members : List (String × Json)} (ascending : Ascending members) :
    record members = .object members :=
  congrArg (fun table : Table Json => object table.entries)
    (Table.ofList_entries ⟨members, ascending⟩)

namespace Grammar

def Part.compact {α : Type} (write : α → List Char) (value : α) : Part α :=
  ⟨[], write value, [], value⟩

def Member.compact (entry : String × Json) : Member String Json :=
  ⟨.compact (fun key => (renderText key).toList) entry.1,
    .compact (fun value => value.render.toList) entry.2⟩

theorem isPadded_compact {α : Type} (write : α → List Char) (value : α) :
    (Part.compact write value).IsPadded :=
  ⟨isBlank_nil, isBlank_nil⟩

theorem isValue_array {depth : Nat} {items : List Json}
    (each : ∀ item ∈ items, IsValue depth item.render.toList item) :
    IsValue (depth + 1) (array items).render.toList (.array items) := by
  have text : (array items).render.toList = '[' ::
      (separated Part.text (items.map (.compact fun item => item.render.toList)) ++ [']']) := by
    rw [separated_map]
    simp [render, toList_renderItems, Part.text, Part.compact]
  rw [text]
  by_cases empty : items = []
  · subst empty
    exact .emptyArray isBlank_nil
  · have values : (items.map (.compact fun item => item.render.toList)).map Part.value = items := by
      simp [Function.comp_def, Part.compact]
    have nonempty : items.map (Part.compact fun item => item.render.toList) ≠ [] := by
      simpa using empty
    have isValue := IsValue.array nonempty
      (List.forall_mem_map.2 fun item _ => isPadded_compact _ item) (List.forall_mem_map.2 each)
    rwa [values] at isValue

theorem isValue_object {depth : Nat} {members : List (String × Json)}
    (ascending : Ascending members)
    (each : ∀ entry ∈ members, IsValue depth entry.2.render.toList entry.2) :
    IsValue (depth + 1) (object members).render.toList (.object members) := by
  have text : (object members).render.toList =
      '\x7b' :: (separated Member.text (members.map .compact) ++ ['\x7d']) := by
    rw [separated_map]
    simp only [render, String.toList_append, toList_renderMembers, Member.text, Part.text,
      Member.compact, Part.compact, List.nil_append, List.append_nil]
    rfl
  rw [text]
  by_cases empty : members = []
  · subst empty
    exact .emptyObject isBlank_nil
  · have entries : (members.map Member.compact).map Member.entry = members := by
      simp [Function.comp_def, Member.entry, Member.compact, Part.compact]
    have nonempty : members.map Member.compact ≠ [] := by simpa using empty
    have isValue := IsValue.object nonempty
      (List.forall_mem_map.2 fun entry _ => ⟨isPadded_compact _ _, isQuoted_renderText entry.1⟩)
      (List.forall_mem_map.2 fun entry _ => isPadded_compact _ entry.2)
      (List.forall_mem_map.2 each)
    rwa [entries, record_of_ascending ascending] at isValue

theorem isValue_render {value : Json} (isOrdered : value.IsOrdered)
    (readBack : ∀ number ∈ value.numbers, number.ReadsBack) {depth : Nat}
    (fits : value.depth ≤ depth) : IsValue depth value.render.toList value := by
  induction value generalizing depth with
  | null => exact .null
  | boolean value =>
    cases value with
    | true => exact .yes
    | false => exact .no
  | number value => exact .number (isNumeral_of_readsBack (readBack value List.mem_cons_self))
  | text value => exact .text (isQuoted_renderText value)
  | array items inductionHypothesis =>
    obtain ⟨bound, rfl⟩ := Nat.exists_eq_add_of_lt (Nat.lt_of_succ_le fits)
    cases isOrdered with
    | array ordered =>
    rw [numbers, numbersOfItems_eq] at readBack
    apply isValue_array
    intro item member
    exact inductionHypothesis item member (ordered item member)
      (fun number isNumber => readBack number (List.mem_flatMap_of_mem member isNumber))
      (depth_array_le_iff.1 fits item member)
  | object members inductionHypothesis =>
    obtain ⟨bound, rfl⟩ := Nat.exists_eq_add_of_lt (Nat.lt_of_succ_le fits)
    cases isOrdered with
    | object ascending ordered =>
    rw [numbers, numbersOfMembers_eq] at readBack
    apply isValue_object ascending
    intro entry member
    exact inductionHypothesis entry member (ordered entry member)
      (fun number isNumber => readBack number (List.mem_flatMap_of_mem member isNumber))
      (depth_object_le_iff.1 fits entry member)

end Grammar

open Grammar in
theorem isText_render {value : Json} (isOrdered : value.IsOrdered)
    (readBack : ∀ number ∈ value.numbers, number.ReadsBack) :
    IsText value.depth value.render value :=
  ⟨[], _, [], (List.append_nil _).symm, isBlank_nil, isBlank_nil,
    isValue_render isOrdered readBack (Nat.le_refl _)⟩

/-- A value is read from its text if it has no more arrays and objects inside each other than may be
read; else the text is refused. -/
theorem parse?_render {value : Json} (isOrdered : value.IsOrdered)
    (readBack : ∀ number ∈ value.numbers, number.ReadsBack) :
    parse? value.render = if value.depth ≤ greatestDepth then some value else none := by
  have isText := isText_render isOrdered readBack
  split
  · rename_i fits
    exact parse?_eq_some_iff.2 (isText.mono fits)
  · rename_i tooDeep
    rw [parse?_eq_none_iff]
    rintro ⟨other, isOther⟩
    obtain rfl := isOther.unique isText
    obtain ⟨_, _, _, _, _, _, isValue⟩ := isOther
    exact tooDeep (depth_le_of_isValue isValue)

end Json

end Metacard
