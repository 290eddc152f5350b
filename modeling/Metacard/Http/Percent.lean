import Metacard.Text.Hexadecimal
/-!
# Percent-encoding

A character that cannot stand for itself is written as the bytes of its UTF-8 form, each as a
percent sign and two digits. Which characters these are depends on the part of a URL.
-/

set_option autoImplicit false

namespace Metacard.Http

def hexDigit (n : Nat) : Char :=
  if n < 10 then Char.ofNat (n + '0'.toNat) else Char.ofNat (n - 10 + 'A'.toNat)

def encodedByte (byte : UInt8) : List Char :=
  ['%', hexDigit (byte.toNat / 16), hexDigit (byte.toNat % 16)]

def isControl (c : Char) : Bool :=
  c.toNat < 0x20 || 0x7F ≤ c.toNat

def inQuerySet (c : Char) : Bool :=
  isControl c || " \"#<>".toList.contains c

def inSpecialQuerySet (c : Char) : Bool :=
  inQuerySet c || c = '\''

def inFragmentSet (c : Char) : Bool :=
  isControl c || " \"<>`".toList.contains c

def inPathSet (c : Char) : Bool :=
  inFragmentSet c || "#?\x7b\x7d".toList.contains c

def inSegmentSet (special : Bool) (c : Char) : Bool :=
  inPathSet c || c = '/' || c = '%' || (special && c = '\\')

def inUserSet (c : Char) : Bool :=
  inPathSet c || "/:;=@[\\]^|".toList.contains c

def percentEncode (set : Char → Bool) (chars : List Char) : String :=
  String.ofList (chars.flatMap fun c =>
    if set c then (String.utf8EncodeChar c).flatMap encodedByte else [c])

def decodedByte? (high low : UInt8) : Option UInt8 := do
  let high ← Text.hexValue? (Char.ofNat high.toNat)
  let low ← Text.hexValue? (Char.ofNat low.toNat)
  some (UInt8.ofNat (16 * high + low))

/-- Bytes with the encoded ones decoded; a percent sign without two digits stands for itself. -/
def percentDecodeBytes : List UInt8 → List UInt8
  | 0x25 :: high :: low :: rest =>
      match decodedByte? high low with
      | some byte => byte :: percentDecodeBytes rest
      | none => 0x25 :: percentDecodeBytes (high :: low :: rest)
  | byte :: rest => byte :: percentDecodeBytes rest
  | [] => []
termination_by bytes => bytes.length

def percentDecode? (chars : List Char) : Option (List Char) :=
  if chars.contains '%' then
    let bytes := percentDecodeBytes (chars.flatMap String.utf8EncodeChar)
    (String.fromUTF8? ⟨bytes.toArray⟩).map String.toList
  else some chars

end Metacard.Http
