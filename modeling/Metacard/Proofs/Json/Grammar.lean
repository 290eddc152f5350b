import Metacard.Proofs.Json.Document
import Metacard.Proofs.Json.Values
import Metacard.Proofs.Table
/-!
# The values of JSON texts

A value has a text of no more than so many arrays and objects inside each other. Of several members
of an object under one key the last one counts. A text is read as a value exactly when it is a text
of the value.
-/

set_option autoImplicit false

namespace Metacard

namespace Json

theorem separated_map {α β : Type} (write : β → List Char) (f : α → β) (items : List α) :
    separated write (items.map f) = separated (fun item => write (f item)) items := by
  cases items with
  | nil => rfl
  | cons item rest => rw [List.map_cons, separated, separated, List.flatMap_map]

namespace Grammar

/-- The text of a value, with no more than so many arrays and objects inside each other. -/
inductive IsValue : Nat → List Char → Json → Prop where
  | null {depth : Nat} : IsValue depth ['n', 'u', 'l', 'l'] .null
  | yes {depth : Nat} : IsValue depth ['t', 'r', 'u', 'e'] (.boolean true)
  | no {depth : Nat} : IsValue depth ['f', 'a', 'l', 's', 'e'] (.boolean false)
  | number {depth : Nat} {chars : List Char} {value : Number} (isNumeral : IsNumeral chars value) :
      IsValue depth chars (.number value)
  | text {depth : Nat} {chars : List Char} {value : String} (isQuoted : IsQuoted chars value) :
      IsValue depth chars (.text value)
  | emptyArray {depth : Nat} {blank : List Char} (isBlank : IsBlank blank) :
      IsValue (depth + 1) ('[' :: (blank ++ [']'])) (.array [])
  | array {depth : Nat} {items : List (Part Json)} (nonempty : items ≠ [])
      (padded : ∀ item ∈ items, item.IsPadded)
      (each : ∀ item ∈ items, IsValue depth item.chars item.value) :
      IsValue (depth + 1) ('[' :: (separated Part.text items ++ [']']))
        (.array (items.map Part.value))
  | emptyObject {depth : Nat} {blank : List Char} (isBlank : IsBlank blank) :
      IsValue (depth + 1) ('\x7b' :: (blank ++ ['\x7d'])) (.object [])
  | object {depth : Nat} {members : List (Member String Json)} (nonempty : members ≠ [])
      (keys : ∀ member ∈ members, member.key.IsPadded ∧ IsQuoted member.key.chars member.key.value)
      (padded : ∀ member ∈ members, member.value.IsPadded)
      (each : ∀ member ∈ members, IsValue depth member.value.chars member.value.value) :
      IsValue (depth + 1) ('\x7b' :: (separated Member.text members ++ ['\x7d']))
        (.record (members.map Member.entry))

theorem IsValue.mono {depth more : Nat} {chars : List Char} {value : Json}
    (isValue : IsValue depth chars value) (fits : depth ≤ more) : IsValue more chars value := by
  induction isValue generalizing more with
  | null => exact .null
  | yes => exact .yes
  | no => exact .no
  | number isNumeral => exact .number isNumeral
  | text isQuoted => exact .text isQuoted
  | emptyArray isBlank =>
    obtain ⟨others, rfl⟩ := Nat.exists_eq_add_of_lt (Nat.lt_of_succ_le fits)
    exact .emptyArray isBlank
  | array nonempty padded _ inductionHypothesis =>
    obtain ⟨others, rfl⟩ := Nat.exists_eq_add_of_lt (Nat.lt_of_succ_le fits)
    exact .array nonempty padded fun item member =>
      inductionHypothesis item member (Nat.le_add_right _ others)
  | emptyObject isBlank =>
    obtain ⟨others, rfl⟩ := Nat.exists_eq_add_of_lt (Nat.lt_of_succ_le fits)
    exact .emptyObject isBlank
  | object nonempty keys padded _ inductionHypothesis =>
    obtain ⟨others, rfl⟩ := Nat.exists_eq_add_of_lt (Nat.lt_of_succ_le fits)
    exact .object nonempty keys padded fun member isMember =>
      inductionHypothesis member isMember (Nat.le_add_right _ others)

/-! ## Values of documents -/

def Part.withValue {α β : Type} (part : Part α) (value : β) : Part β :=
  ⟨part.before, part.chars, part.after, value⟩

def Member.withValues {κ ι α β : Type} (member : Member κ α) (key : ι) (value : β) : Member ι β :=
  ⟨member.key.withValue key, member.value.withValue value⟩

theorem separated_withValue {α β : Type} (value : Part α → β) (items : List (Part α)) :
    separated Part.text (items.map fun item => item.withValue (value item)) =
      separated Part.text items :=
  separated_map Part.text (fun item => item.withValue (value item)) items

theorem separated_withValues {κ ι α β : Type} (key : Member κ α → ι) (value : Member κ α → β)
    (members : List (Member κ α)) :
    separated Member.text
        (members.map fun member => member.withValues (key member) (value member)) =
      separated Member.text members :=
  separated_map Member.text (fun member => member.withValues (key member) (value member)) members

theorem values_withValue {α β : Type} (value : Part α → β) (items : List (Part α)) :
    (items.map fun item => item.withValue (value item)).map Part.value = items.map value := by
  rw [List.map_map]
  rfl

theorem entries_withValues {κ ι α β : Type} (key : Member κ α → ι) (value : Member κ α → β)
    (members : List (Member κ α)) :
    (members.map fun member => member.withValues (key member) (value member)).map Member.entry =
      members.map fun member => (key member, value member) := by
  rw [List.map_map]
  rfl

theorem IsValue.exists_document {depth : Nat} {chars : List Char} {value : Json}
    (isValue : IsValue depth chars value) :
    ∃ document, IsDocument chars document ∧ document.json? depth = some value := by
  induction isValue with
  | null => exact ⟨_, .null, rfl⟩
  | yes => exact ⟨_, .yes, rfl⟩
  | no => exact ⟨_, .no, rfl⟩
  | number isNumeral => exact ⟨_, .number (isNumberText_some_iff.2 isNumeral), rfl⟩
  | text isQuoted => exact ⟨_, .text (.some isQuoted), rfl⟩
  | emptyArray isBlank => exact ⟨_, .emptyArray isBlank, rfl⟩
  | @array depth items nonempty padded _ inductionHypothesis =>
    choose! document isDocument isMade using inductionHypothesis
    have isArray := @IsDocument.array (items.map fun item => item.withValue (document item))
      (by simpa using nonempty) (List.forall_mem_map.2 padded) (List.forall_mem_map.2 isDocument)
    rw [separated_withValue, values_withValue] at isArray
    refine ⟨_, isArray, ?_⟩
    rw [Document.json?, Document.jsonItems?_map isMade]
    rfl
  | emptyObject isBlank => exact ⟨_, .emptyObject isBlank, rfl⟩
  | @object depth members nonempty keys padded _ inductionHypothesis =>
    choose! document isDocument isMade using inductionHypothesis
    have isObject := @IsDocument.object
      (members.map fun member => member.withValues (some member.key.value) (document member))
      (by simpa using nonempty)
      (List.forall_mem_map.2 fun member isMember =>
        ⟨(keys member isMember).1, .some (keys member isMember).2⟩)
      (List.forall_mem_map.2 padded) (List.forall_mem_map.2 isDocument)
    rw [separated_withValues, entries_withValues] at isObject
    refine ⟨_, isObject, ?_⟩
    rw [Document.json?, Document.jsonMembers?_map isMade]
    rfl

theorem IsDocument.isValue {chars : List Char} {document : Document}
    (isDocument : IsDocument chars document) {depth : Nat} {value : Json}
    (made : document.json? depth = some value) : IsValue depth chars value := by
  induction isDocument generalizing depth value with
  | null =>
    obtain rfl := Option.some.inj made
    exact .null
  | yes =>
    obtain rfl := Option.some.inj made
    exact .yes
  | no =>
    obtain rfl := Option.some.inj made
    exact .no
  | number isNumber =>
    obtain ⟨number, rfl, rfl⟩ := Option.map_eq_some_iff.1 made
    exact .number (isNumberText_some_iff.1 isNumber)
  | text isAnyText =>
    obtain ⟨text, rfl, rfl⟩ := Option.map_eq_some_iff.1 made
    cases isAnyText with
    | some isQuoted => exact .text isQuoted
  | emptyArray isBlank =>
    cases depth with
    | zero => exact nomatch made
    | succ depth =>
      obtain rfl := Option.some.inj made
      exact .emptyArray isBlank
  | @array items nonempty padded _ inductionHypothesis =>
    cases depth with
    | zero => exact nomatch made
    | succ depth =>
      obtain ⟨values, areValues, rfl⟩ := Option.map_eq_some_iff.1 made
      have each (item : Part Document) (member : item ∈ items) :
          ∃ value, item.value.json? depth = some value := by
        obtain ⟨value, -, made⟩ := Outcome.exists_mem_of_forall₂
          (Document.jsonItems?_eq_some_iff.1 areValues) (List.mem_map_of_mem member)
        exact ⟨value, made⟩
      choose! itemValue isItemValue using each
      have same := Document.jsonItems?_map isItemValue
      obtain rfl := Option.some.inj (areValues.symm.trans same)
      rw [← separated_withValue itemValue items, ← values_withValue itemValue items]
      exact .array (by simpa using nonempty) (List.forall_mem_map.2 padded)
        (List.forall_mem_map.2 fun item member =>
          inductionHypothesis item member (isItemValue item member))
  | emptyObject isBlank =>
    cases depth with
    | zero => exact nomatch made
    | succ depth =>
      obtain rfl := Option.some.inj made
      exact .emptyObject isBlank
  | @object members nonempty keys padded _ inductionHypothesis =>
    cases depth with
    | zero => exact nomatch made
    | succ depth =>
      obtain ⟨values, areValues, rfl⟩ := Option.map_eq_some_iff.1 made
      have each (member : Member (Option String) Document) (isMember : member ∈ members) :
          ∃ entry : String × Json, member.entry.1 = some entry.1 ∧
            member.entry.2.json? depth = some entry.2 := by
        obtain ⟨entry, -, made⟩ := Outcome.exists_mem_of_forall₂
          (Document.jsonMembers?_eq_some_iff.1 areValues) (List.mem_map_of_mem isMember)
        exact ⟨entry, made⟩
      choose! entry isKey isMade using each
      have entries : members.map Member.entry =
          members.map fun member => (some (entry member).1, member.entry.2) :=
        List.map_congr_left fun member isMember => Prod.ext (isKey member isMember) rfl
      rw [entries, Document.jsonMembers?_map isMade, Option.some.injEq] at areValues
      subst areValues
      rw [← separated_withValues (fun member => (entry member).1) (fun member => (entry member).2),
        ← entries_withValues (fun member => (entry member).1) (fun member => (entry member).2)]
      refine .object (by simpa using nonempty)
        (List.forall_mem_map.2 fun member isMember => ⟨(keys member isMember).1, ?_⟩)
        (List.forall_mem_map.2 padded)
        (List.forall_mem_map.2 fun member isMember =>
          inductionHypothesis member isMember (isMade member isMember))
      have isAnyText := (keys member isMember).2
      rw [show member.key.value = some (entry member).1 from isKey member isMember] at isAnyText
      cases isAnyText with
      | some isQuoted => exact isQuoted

end Grammar

open Grammar in
/-- The text is that of a value with blanks around it, and has no more than so many arrays and
objects inside each other. Its numbers are in the range of doubles, and none of its escapes is half
of a surrogate pair alone. -/
def IsText (depth : Nat) (text : String) (value : Json) : Prop :=
  ∃ before chars after, text.toList = before ++ (chars ++ after) ∧ IsBlank before ∧
    IsBlank after ∧ IsValue depth chars value

namespace IsText

variable {depth more : Nat} {text : String} {value left right : Json}

theorem mono (isText : IsText depth text value) (fits : depth ≤ more) : IsText more text value := by
  obtain ⟨before, chars, after, same, isBefore, isAfter, isValue⟩ := isText
  exact ⟨before, chars, after, same, isBefore, isAfter, isValue.mono fits⟩

theorem exists_document (isText : IsText depth text value) :
    ∃ document, Document.IsText text document ∧ document.json? depth = some value := by
  obtain ⟨before, chars, after, same, isBefore, isAfter, isValue⟩ := isText
  obtain ⟨document, isDocument, made⟩ := isValue.exists_document
  exact ⟨document, ⟨before, chars, after, same, isBefore, isAfter, isDocument⟩, made⟩

theorem unique (isLeft : IsText depth text left) (isRight : IsText more text right) :
    left = right := by
  obtain ⟨document, isDocument, made⟩ := (isLeft.mono (Nat.le_max_left depth more)).exists_document
  obtain ⟨other, isOther, madeOther⟩ := (isRight.mono (Nat.le_max_right depth more)).exists_document
  obtain rfl := isDocument.unique isOther
  exact Option.some.inj (made.symm.trans madeOther)

end IsText

theorem isText_iff {depth : Nat} {text : String} {document : Document} {value : Json}
    (isDocument : Document.IsText text document) :
    IsText depth text value ↔ document.json? depth = some value := by
  constructor
  · intro isText
    obtain ⟨other, isOther, made⟩ := isText.exists_document
    obtain rfl := isDocument.unique isOther
    exact made
  · intro made
    obtain ⟨before, chars, after, same, isBefore, isAfter, isDocument⟩ := isDocument
    exact ⟨before, chars, after, same, isBefore, isAfter, isDocument.isValue made⟩

theorem parse?_eq_some_iff {text : String} {value : Json} :
    parse? text = some value ↔ IsText greatestDepth text value := by
  constructor
  · intro read
    obtain ⟨document, isDocument, made⟩ := Option.bind_eq_some_iff.1 read
    exact (isText_iff (Document.parse?_eq_some_iff.1 isDocument)).2 made
  · intro isText
    obtain ⟨document, isDocument, made⟩ := isText.exists_document
    exact Option.bind_eq_some_iff.2 ⟨document, Document.parse?_eq_some_iff.2 isDocument, made⟩

theorem parse?_eq_none_iff {text : String} :
    parse? text = none ↔ ¬ ∃ value, IsText greatestDepth text value := by
  rw [Option.eq_none_iff_forall_ne_some]
  simp only [ne_eq, parse?_eq_some_iff, not_exists]

end Json

end Metacard
