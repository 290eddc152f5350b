import Mathlib.Data.List.Basic
import Metacard.Http.Percent
/-!
# Percent-encoding is undone

Whatever characters a set encodes, decoding gives them back, if the percent sign and all characters
outside ASCII are among the encoded ones. So different texts are encoded differently.
-/

set_option autoImplicit false

namespace Metacard.Http

/-- A set of characters to encode that leaves no doubt which percent signs are written for it. -/
structure IsEncodingSet (set : Char → Bool) : Prop where
  percent : set '%' = true
  beyond : ∀ c : Char, 0x7F ≤ c.toNat → set c = true

theorem isEncodingSet_segment (special : Bool) : IsEncodingSet (inSegmentSet special) where
  percent := by simp [inSegmentSet]
  beyond c far := by simp [inSegmentSet, inPathSet, inFragmentSet, isControl, far]

def digitByte (n : Nat) : UInt8 :=
  UInt8.ofNat (hexDigit n).toNat

theorem utf8EncodeChar_hexDigit :
    ∀ n < 16, String.utf8EncodeChar (hexDigit n) = [digitByte n] := by
  decide

theorem decodedByte?_digits (byte : UInt8) :
    decodedByte? (digitByte (byte.toNat / 16)) (digitByte (byte.toNat % 16)) = some byte := by
  have read : ∀ n < 16, Text.hexValue? (Char.ofNat (digitByte n).toNat) = some n := by decide
  have below : byte.toNat < 256 := byte.toNat_lt
  rw [decodedByte?, read _ (by omega), read _ (by omega)]
  simp only [Option.bind_eq_bind, Option.bind_some, Option.some.injEq]
  rw [Nat.div_add_mod, UInt8.ofNat_toNat]

theorem flatMap_encodedByte (byte : UInt8) :
    (encodedByte byte).flatMap String.utf8EncodeChar =
      [0x25, digitByte (byte.toNat / 16), digitByte (byte.toNat % 16)] := by
  have below : byte.toNat < 256 := byte.toNat_lt
  have percent : String.utf8EncodeChar '%' = [0x25] := by decide
  rw [encodedByte, List.flatMap_cons, List.flatMap_cons, List.flatMap_cons, List.flatMap_nil,
    percent, utf8EncodeChar_hexDigit _ (by omega), utf8EncodeChar_hexDigit _ (by omega)]
  rfl

theorem percentDecodeBytes_encodedByte (byte : UInt8) (rest : List UInt8) :
    percentDecodeBytes ((encodedByte byte).flatMap String.utf8EncodeChar ++ rest) =
      byte :: percentDecodeBytes rest := by
  rw [flatMap_encodedByte]
  simp only [List.cons_append, List.nil_append]
  rw [percentDecodeBytes, decodedByte?_digits]

theorem percentDecodeBytes_encodedBytes (bytes rest : List UInt8) :
    percentDecodeBytes ((bytes.flatMap encodedByte).flatMap String.utf8EncodeChar ++ rest) =
      bytes ++ percentDecodeBytes rest := by
  induction bytes with
  | nil => rfl
  | cons byte bytes inductionHypothesis =>
    rw [List.flatMap_cons, List.flatMap_append, List.append_assoc,
      percentDecodeBytes_encodedByte, inductionHypothesis, List.cons_append]

theorem percentDecodeBytes_cons {byte : UInt8} (plain : byte ≠ 0x25) (rest : List UInt8) :
    percentDecodeBytes (byte :: rest) = byte :: percentDecodeBytes rest := by
  rw [percentDecodeBytes]
  exact fun _ _ _ percent _ => plain percent

/-! ## Characters -/

section

variable {set : Char → Bool}

theorem utf8EncodeChar_of_not_encoded (isSet : IsEncodingSet set) {c : Char}
    (kept : set c = false) : ∃ byte, String.utf8EncodeChar c = [byte] ∧ byte ≠ 0x25 := by
  have near : c.val.toNat ≤ 0x7F := by
    rcases Nat.lt_or_ge c.toNat 0x7F with near | far
    · exact Nat.le_of_lt near
    · exact absurd (kept.symm.trans (isSet.beyond c far)) (by decide)
  refine ⟨UInt8.ofNat c.val.toNat, by simp only [String.utf8EncodeChar, if_pos near], ?_⟩
  intro percent
  have value : c.val.toNat = 0x25 := by
    have numbers := congrArg UInt8.toNat percent
    rwa [UInt8.toNat_ofNat_of_lt' (Nat.lt_of_le_of_lt near (by decide))] at numbers
  have isPercent : c = '%' := Char.ext (UInt32.toNat_inj.1 value)
  rw [isPercent, isSet.percent] at kept
  exact absurd kept (by decide)

theorem percent_mem_of_encoded {chars : List Char} {c : Char} (member : c ∈ chars)
    (encoded : set c = true) : '%' ∈ (percentEncode set chars).toList := by
  have someByte : String.utf8EncodeChar c ≠ [] := String.utf8EncodeChar_ne_nil
  obtain ⟨byte, bytes, isBytes⟩ := List.exists_cons_of_ne_nil someByte
  rw [percentEncode, String.toList_ofList]
  refine List.mem_flatMap.2 ⟨c, member, ?_⟩
  rw [if_pos encoded, isBytes]
  exact List.mem_cons_self

theorem of_mem_percentEncode {chars : List Char} {c : Char}
    (member : c ∈ (percentEncode set chars).toList) :
    set c = false ∨ c = '%' ∨ ∃ n < 16, c = hexDigit n := by
  rw [percentEncode, String.toList_ofList] at member
  obtain ⟨other, -, isWritten⟩ := List.mem_flatMap.1 member
  split at isWritten
  · obtain ⟨byte, -, isByte⟩ := List.mem_flatMap.1 isWritten
    have below : byte.toNat < 256 := byte.toNat_lt
    simp only [encodedByte, List.mem_cons, List.not_mem_nil, or_false] at isByte
    rcases isByte with percent | high | low
    · exact .inr (.inl percent)
    · exact .inr (.inr ⟨_, by omega, high⟩)
    · exact .inr (.inr ⟨_, by omega, low⟩)
  · rename_i kept
    rw [List.mem_singleton.1 isWritten]
    exact .inl (Bool.eq_false_iff.2 kept)

theorem percentDecodeBytes_percentEncode (isSet : IsEncodingSet set) (chars : List Char) :
    percentDecodeBytes ((percentEncode set chars).toList.flatMap String.utf8EncodeChar) =
      chars.flatMap String.utf8EncodeChar := by
  rw [percentEncode, String.toList_ofList]
  induction chars with
  | nil => rw [List.flatMap_nil, List.flatMap_nil, percentDecodeBytes]
  | cons c chars inductionHypothesis =>
    rw [List.flatMap_cons, List.flatMap_append, List.flatMap_cons]
    cases encoded : set c with
    | true => rw [if_pos rfl, percentDecodeBytes_encodedBytes, inductionHypothesis]
    | false =>
      obtain ⟨byte, isByte, plain⟩ := utf8EncodeChar_of_not_encoded isSet encoded
      rw [if_neg (by decide), List.flatMap_singleton, isByte, List.singleton_append,
        percentDecodeBytes_cons plain, inductionHypothesis, List.singleton_append]

theorem fromUTF8?_flatMap (chars : List Char) :
    String.fromUTF8? ⟨(chars.flatMap String.utf8EncodeChar).toArray⟩ =
      some (String.ofList chars) := by
  have bytes : ⟨(chars.flatMap String.utf8EncodeChar).toArray⟩ =
      (String.ofList chars).toByteArray := by
    rw [String.toByteArray_ofList, List.utf8Encode]
    exact ByteArray.ext List.data_toByteArray.symm
  rw [bytes, String.fromUTF8?, dif_pos (String.ofList chars).isValidUTF8]
  rfl

theorem percentDecode?_percentEncode (isSet : IsEncodingSet set) (chars : List Char) :
    percentDecode? (percentEncode set chars).toList = some chars := by
  rw [percentDecode?]
  split
  · simp only [percentDecodeBytes_percentEncode isSet, fromUTF8?_flatMap, Option.map_some,
      String.toList_ofList]
  · rename_i noPercent
    have kept : ∀ c ∈ chars, (if set c = true then (String.utf8EncodeChar c).flatMap encodedByte
        else [c]) = [c] := fun c member => if_neg fun encoded =>
      noPercent (List.contains_iff_mem.2 (percent_mem_of_encoded member encoded))
    rw [percentEncode, String.toList_ofList, List.flatMap_congr kept, List.flatMap_singleton']

theorem percentEncode_inj (isSet : IsEncodingSet set) {left right : List Char} :
    percentEncode set left = percentEncode set right ↔ left = right := by
  refine ⟨fun same => Option.some.inj ?_, congrArg _⟩
  rw [← percentDecode?_percentEncode isSet left, same, percentDecode?_percentEncode isSet right]

end

end Metacard.Http
