/-!
# The order of bytes

Texts are in the order of their code points. The bytes that encode them in UTF-8 are in the same
order: a greater character has the greater byte at the first place where the bytes of the two
differ, and no character's bytes begin with all of another's.
-/

set_option autoImplicit false

namespace Metacard.Text

def bytes (text : String) : List UInt8 :=
  text.toUTF8.data.toList

theorem bytes_ofList (chars : List Char) :
    bytes (String.ofList chars) = chars.flatMap String.utf8EncodeChar := by
  rw [bytes, String.toUTF8, String.toByteArray_ofList, List.utf8Encode,
    List.toList_data_toByteArray]

theorem ofNat_cons_lt_iff {left right : Nat} (leftIsByte : left < 256) (rightIsByte : right < 256)
    {leftRest rightRest : List UInt8} :
    UInt8.ofNat left :: leftRest < UInt8.ofNat right :: rightRest ↔
      left < right ∨ left = right ∧ leftRest < rightRest := by
  rw [List.cons_lt_cons_iff, UInt8.lt_iff_toNat_lt, ← UInt8.toNat_inj,
    UInt8.toNat_ofNat_of_lt' leftIsByte, UInt8.toNat_ofNat_of_lt' rightIsByte]

/-- Which of two characters is the greater shows in their bytes, whatever comes after these. -/
theorem encoded_append_lt {left right : Char} (below : left < right)
    (leftRest rightRest : List UInt8) :
    String.utf8EncodeChar left ++ leftRest < String.utf8EncodeChar right ++ rightRest := by
  have less : left.val.toNat < right.val.toNat := below
  have inRange : right.val.toNat < 0x110000 := by
    rcases right.valid with below | ⟨-, below⟩
    · exact Nat.lt_trans below (by decide)
    · exact below
  -- Each digit to base 64 comes of the one before it, which `omega` does not see by itself.
  have twoPlaces (code : Nat) : code / 4096 = code / 64 / 64 := by
    rw [Nat.div_div_eq_div_mul]
  have threePlaces (code : Nat) : code / 262144 = code / 64 / 64 / 64 := by
    rw [Nat.div_div_eq_div_mul, Nat.div_div_eq_div_mul]
  simp only [String.utf8EncodeChar, twoPlaces, threePlaces]
  generalize left.val.toNat = leftCode at *
  generalize right.val.toNat = rightCode at *
  -- The first byte tells the number of bytes, and more of them make a greater character.
  repeat' split
  all_goals
    simp (disch := omega) only [List.cons_append, List.nil_append, ofNat_cons_lt_iff]
    omega

theorem flatMap_encoded_lt {left right : List Char} (below : left < right) :
    left.flatMap String.utf8EncodeChar < right.flatMap String.utf8EncodeChar := by
  induction left generalizing right with
  | nil =>
    cases right with
    | nil => exact absurd below (List.not_lt_nil [])
    | cons first rest =>
      obtain ⟨byte, others, encoded⟩ :=
        List.exists_cons_of_ne_nil (String.utf8EncodeChar_ne_nil (c := first))
      rw [List.flatMap_nil, List.flatMap_cons, encoded]
      exact List.nil_lt_cons byte _
  | cons first rest inductionHypothesis =>
    cases right with
    | nil => exact absurd below (List.not_lt_nil _)
    | cons second others =>
      rw [List.flatMap_cons, List.flatMap_cons]
      rcases List.cons_lt_cons_iff.1 below with less | ⟨rfl, less⟩
      · exact encoded_append_lt less _ _
      · exact List.append_left_lt (inductionHypothesis less)

theorem bytes_lt {left right : String} (below : left < right) : bytes left < bytes right := by
  rw [← String.ofList_toList (s := left), ← String.ofList_toList (s := right), bytes_ofList,
    bytes_ofList]
  exact flatMap_encoded_lt (String.lt_iff.1 below)

theorem bytes_lt_iff {left right : String} : bytes left < bytes right ↔ left < right := by
  refine ⟨fun below => ?_, bytes_lt⟩
  rcases Std.lt_trichotomy left right with less | rfl | greater
  · exact less
  · exact absurd below (List.lt_irrefl _)
  · exact absurd (bytes_lt greater) (List.lt_asymm below)

end Metacard.Text
