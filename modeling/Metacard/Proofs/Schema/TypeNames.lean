import Metacard.Schema.FieldType
/-!
# Names of types

A name starts with a letter or an underscore, and goes on with letters, digits and underscores, all
of them of the ASCII alphabet. Every field type has such a name, whatever its raw type is called. A
raw type whose own name is one, and not that of a scalar, keeps it.
-/

set_option autoImplicit false

namespace Metacard

def isNameStart (c : Char) : Bool :=
  c.isAlpha || c = '_'

def isNameChar (c : Char) : Bool :=
  isNameStart c || c.isDigit

def isName (name : String) : Bool :=
  match name.toList with
  | [] => false
  | first :: rest => isNameStart first && rest.all isNameChar

theorem isName_iff {name : String} : isName name = true ↔ ∃ first rest,
    name.toList = first :: rest ∧ isNameStart first = true ∧ ∀ c ∈ rest, isNameChar c = true := by
  rw [isName]
  cases name.toList with
  | nil => simp
  | cons first rest => simp [and_assoc]

theorem isNameChar_of_isName {name : String} (legal : isName name = true) :
    ∀ c ∈ name.toList, isNameChar c = true := by
  obtain ⟨first, rest, chars, start, others⟩ := isName_iff.1 legal
  intro c member
  rw [chars] at member
  rcases List.mem_cons.1 member with rfl | member
  · rw [isNameChar, start, Bool.true_or]
  · exact others c member

theorem isName_append {name ending : String} (legal : isName name = true)
    (endingLegal : ∀ c ∈ ending.toList, isNameChar c = true) : isName (name ++ ending) = true := by
  obtain ⟨first, rest, chars, start, others⟩ := isName_iff.1 legal
  refine isName_iff.2 ⟨first, rest ++ ending.toList, ?_, start, ?_⟩
  · rw [String.toList_append, chars, List.cons_append]
  · intro c member
    rcases List.mem_append.1 member with member | member
    · exact others c member
    · exact endingLegal c member

theorem nominalChar_eq (c : Char) : nominalChar c = if isNameChar c then c else '_' := by
  have same : (Text.isWordChar c || decide (c = '_')) = isNameChar c := by
    rw [Text.isWordChar, isNameChar, isNameStart, Bool.or_right_comm]
  rw [nominalChar, same]

theorem isNameChar_nominalChar (c : Char) : isNameChar (nominalChar c) = true := by
  rw [nominalChar_eq]
  split
  · assumption
  · decide

theorem nominalChar_of_isNameChar {c : Char} (legal : isNameChar c = true) : nominalChar c = c := by
  rw [nominalChar_eq, if_pos legal]

theorem eq_of_nominalChar {c : Char} (kept : nominalChar c ≠ '_') : nominalChar c = c := by
  rw [nominalChar_eq] at kept ⊢
  split
  · rfl
  · rename_i replaced
    exact absurd (if_neg replaced) kept

theorem isDigit_of_isAlpha {c : Char} (letter : c.isAlpha = true) : c.isDigit = false := by
  have upperOrLower : (decide (c.val ≥ 'A'.val ∧ c.val ≤ 'Z'.val) ||
      (decide (c.val ≥ 'a'.val) && decide (c.val ≤ 'z'.val))) = true := letter
  simp only [Bool.or_eq_true, Bool.and_eq_true, decide_eq_true_eq, ge_iff_le,
    UInt32.le_iff_toNat_le, Char.reduceVal, UInt32.reduceToNat, Char.toNat_val] at upperOrLower
  refine Bool.eq_false_iff.2 fun digit => ?_
  have between := Char.isDigit_iff_toNat.1 digit
  simp only [Char.reduceToNat] at between
  omega

theorem isNameStart_of_not_isDigit {c : Char} (legal : isNameChar c = true)
    (notDigit : c.isDigit = false) : isNameStart c = true := by
  rwa [isNameChar, notDigit, Bool.or_false] at legal

theorem nominalStem_of_cons {raw : String} {first : Char} {rest : List Char}
    (chars : raw.toList = first :: rest) :
    nominalStem raw =
      if (nominalChar first).isDigit then '_' :: nominalChar first :: rest.map nominalChar
      else nominalChar first :: rest.map nominalChar := by
  rw [nominalStem, chars]
  rfl

theorem isName_nominalStem (raw : String) : isName (String.ofList (nominalStem raw)) = true := by
  apply isName_iff.2
  rw [String.toList_ofList]
  cases chars : raw.toList with
  | nil => exact ⟨'U', "nknown".toList, by rw [nominalStem, chars]; rfl, by decide,
      List.all_eq_true.1 (by decide)⟩
  | cons first rest =>
    have restLegal : ∀ c ∈ rest.map nominalChar, isNameChar c = true := by
      intro c member
      obtain ⟨other, -, rfl⟩ := List.mem_map.1 member
      exact isNameChar_nominalChar other
    rw [nominalStem_of_cons chars]
    cases digit : (nominalChar first).isDigit with
    | true =>
      refine ⟨'_', nominalChar first :: rest.map nominalChar, rfl, by decide, ?_⟩
      intro c member
      rcases List.mem_cons.1 member with rfl | member
      · exact isNameChar_nominalChar first
      · exact restLegal c member
    | false =>
      exact ⟨nominalChar first, rest.map nominalChar, rfl,
        isNameStart_of_not_isDigit (isNameChar_nominalChar first) digit, restLegal⟩

theorem nominalStem_of_isName {name : String} (legal : isName name = true) :
    nominalStem name = name.toList := by
  have chars := isNameChar_of_isName legal
  obtain ⟨first, rest, split, start, -⟩ := isName_iff.1 legal
  have kept : ∀ c ∈ first :: rest, nominalChar c = c := fun c member =>
    nominalChar_of_isNameChar (chars c (split ▸ member))
  have notDigit : first.isDigit = false := by
    rw [isNameStart, Bool.or_eq_true, decide_eq_true_eq] at start
    rcases start with letter | rfl
    · exact isDigit_of_isAlpha letter
    · decide
  rw [nominalStem_of_cons split, kept first List.mem_cons_self, notDigit, split, if_neg (by decide),
    List.map_congr_left fun c member => kept c (List.mem_cons_of_mem _ member), List.map_id']

theorem eq_of_nominalStem {raw name : String} (stem : nominalStem raw = name.toList)
    (plain : '_' ∉ name.toList) (known : name ≠ "Unknown") : raw = name := by
  cases chars : raw.toList with
  | nil =>
    rw [nominalStem, chars] at stem
    exact absurd (String.toList_inj.1 stem.symm) known
  | cons first rest =>
    rw [nominalStem_of_cons chars] at stem
    split at stem
    · exact absurd (stem ▸ List.mem_cons_self) plain
    · have kept : ∀ c ∈ raw.toList, nominalChar c = id c := by
        intro c member
        have mapped : nominalChar c ∈ name.toList := by
          rw [← stem, ← List.map_cons, ← chars]
          exact List.mem_map_of_mem member
        exact eq_of_nominalChar fun underscore => plain (underscore ▸ mapped)
      rw [← List.map_cons, ← chars, List.map_congr_left kept, List.map_id] at stem
      exact String.toList_inj.1 stem

/-! ## Names on both sides -/

namespace Scalar

def names : List String :=
  all.map name

theorem isName_name (scalar : Scalar) : isName scalar.name = true := by
  cases scalar <;> decide

theorem mem_names_iff {name : String} : name ∈ names ↔ ∃ scalar : Scalar, name = scalar.name := by
  constructor
  · intro member
    obtain ⟨scalar, -, rfl⟩ := List.mem_map.1 member
    exact ⟨scalar, rfl⟩
  · rintro ⟨scalar, rfl⟩
    cases scalar <;> decide

end Scalar

theorem nominalName_read (raw : String) :
    nominalName raw .read =
      if String.ofList (nominalStem raw) ∈ Scalar.names then
        String.ofList (nominalStem raw) ++ "Type"
      else String.ofList (nominalStem raw) := by
  by_cases reserved : String.ofList (nominalStem raw) ∈ Scalar.names
  · rw [if_pos reserved]
    exact if_pos (List.contains_iff_mem.2 reserved)
  · rw [if_neg reserved]
    exact if_neg fun contained => reserved (List.contains_iff_mem.1 contained)

theorem nominalName_write (raw : String) :
    nominalName raw .write = nominalName raw .read ++ "Input" := rfl

theorem isName_nominalName (raw : String) (side : Side) : isName (nominalName raw side) = true := by
  have read : isName (nominalName raw .read) = true := by
    rw [nominalName_read]
    split
    · exact isName_append (isName_nominalStem raw) (List.all_eq_true.1 (by decide))
    · exact isName_nominalStem raw
  cases side with
  | read => exact read
  | write => exact isName_append read (List.all_eq_true.1 (by decide))

/-- No scalar's name ends in a way that is put behind a stem. -/
theorem append_not_mem_names {ending : String} (isEnding : ending ∈ ["Type", "Input"])
    (stem : String) : stem ++ ending ∉ Scalar.names := by
  have apart : ∀ ending ∈ ["Type", "Input"], ∀ name ∈ Scalar.names,
      ¬ ending.toList <:+ name.toList := by decide
  intro member
  apply apart ending isEnding _ member
  rw [String.toList_append]
  exact List.suffix_append _ _

theorem nominalName_not_mem_names (raw : String) (side : Side) :
    nominalName raw side ∉ Scalar.names := by
  cases side with
  | read =>
    rw [nominalName_read]
    split
    · exact append_not_mem_names (by decide) _
    · assumption
  | write => exact append_not_mem_names (by decide) _

theorem nominalName_of_isName {name : String} (legal : isName name = true)
    (free : name ∉ Scalar.names) : nominalName name .read = name := by
  rw [nominalName_read, nominalStem_of_isName legal, String.ofList_toList, if_neg free]

structure IsFreeName (name : String) : Prop where
  legal : isName name = true
  free : ∀ scalar : Scalar, name ≠ scalar.name

theorem isFreeName_nominalName (raw : String) (side : Side) :
    IsFreeName (nominalName raw side) where
  legal := isName_nominalName raw side
  free scalar same := nominalName_not_mem_names raw side (Scalar.mem_names_iff.2 ⟨scalar, same⟩)

theorem nominalName_eq_self_iff {name : String} :
    nominalName name .read = name ↔ IsFreeName name := by
  constructor
  · intro same
    rw [← same]
    exact isFreeName_nominalName name .read
  · intro isFree
    apply nominalName_of_isName isFree.legal
    intro member
    obtain ⟨scalar, same⟩ := Scalar.mem_names_iff.1 member
    exact isFree.free scalar same

/-- Whatever a raw type is called, its names on both sides are legal and no scalar's. On the read
side just the legal names that no scalar has are left as they are, so naming again changes nothing;
the name on the write side is the one on the read side with its ending. -/
theorem nominal_names_legal (raw : String) :
    IsFreeName (nominalName raw .read) ∧
    (nominalName raw .read = raw ↔ IsFreeName raw) ∧
    nominalName (nominalName raw .read) .read = nominalName raw .read ∧
    nominalName raw .write = nominalName raw .read ++ "Input" ∧
    IsFreeName (nominalName raw .write) := by
  have read := isFreeName_nominalName raw .read
  have write := isFreeName_nominalName raw .write
  exact ⟨read, nominalName_eq_self_iff, nominalName_eq_self_iff.2 read, nominalName_write raw,
    write⟩

/-- No name at all, a digit in front, and the name of a scalar. -/
example : nominalName "" .read = "Unknown" ∧ nominalName "3d-model" .read = "_3d_model" ∧
    nominalName "XML" .write = "XMLTypeInput" := by
  decide

theorem eq_of_nominalName {raw name : String} (same : nominalName raw .read = name)
    (plain : '_' ∉ name.toList) (known : name ≠ "Unknown")
    (free : ∀ scalar ∈ Scalar.names, name ≠ scalar ++ "Type") : raw = name := by
  rw [nominalName_read] at same
  split at same
  · rename_i reserved
    exact absurd same.symm (free _ reserved)
  · apply eq_of_nominalStem _ plain known
    rw [← same, String.toList_ofList]

theorem isName_ofPrimitive (type : PrimitiveType) (side : Side) :
    isName (BaseType.ofPrimitive type side).name = true := by
  rw [BaseType.ofPrimitive]
  split
  · exact Scalar.isName_name _
  · exact isName_nominalName _ _

theorem ofPrimitive_eq_nominal_iff {type : PrimitiveType} {side : Side} {name : String} :
    BaseType.ofPrimitive type side = .nominal name ↔
      ∃ raw, type = .other raw ∧ name = nominalName raw side := by
  cases type <;> simp [BaseType.ofPrimitive, Scalar.ofPrimitive?, PrimitiveType.raw, eq_comm]

end Metacard
