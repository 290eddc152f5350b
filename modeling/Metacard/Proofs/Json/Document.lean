import Metacard.Proofs.Json.Tokens
/-!
# The grammar of JSON texts

A document has a text in the grammar of RFC 8259, with blanks around values, keys and marks. A text
is read as a document exactly when it is a text of the document.
-/

set_option autoImplicit false

namespace Metacard

namespace Json

open Reader

def separated {α : Type} (write : α → List Char) : List α → List Char
  | [] => []
  | item :: rest => write item ++ rest.flatMap fun item => ',' :: write item

theorem separated_cons_cons {α : Type} (write : α → List Char) (item next : α) (rest : List α) :
    separated write (item :: next :: rest) =
      write item ++ ',' :: separated write (next :: rest) := by
  rw [separated, separated, List.flatMap_cons, List.cons_append]

namespace Grammar

def IsBlank (chars : List Char) : Prop :=
  ∀ c ∈ chars, isSpace c = true

theorem isBlank_nil : IsBlank [] :=
  List.forall_mem_nil _

theorem skip_append {blank : List Char} (isBlank : IsBlank blank) (rest : List Char) :
    skip (blank ++ rest) = skip rest :=
  List.dropWhile_append_of_pos isBlank

theorem skip_cons {c : Char} (noSpace : isSpace c = false) (rest : List Char) :
    skip (c :: rest) = c :: rest :=
  List.dropWhile_cons_of_neg (by simp [noSpace])

theorem skip_blank {blank : List Char} (isBlank : IsBlank blank) : skip blank = [] := by
  have skipped := skip_append isBlank []
  rwa [List.append_nil] at skipped

theorem exists_blank (chars : List Char) : ∃ blank, IsBlank blank ∧ chars = blank ++ skip chars :=
  ⟨chars.takeWhile isSpace, List.all_eq_true.1 List.all_takeWhile,
    List.takeWhile_append_dropWhile.symm⟩

theorem skip_skip (chars : List Char) : skip (skip chars) = skip chars := by
  obtain ⟨blank, isBlank, same⟩ := exists_blank chars
  conv_rhs => rw [same, skip_append isBlank]

theorem exists_blank_of_skip_eq {chars rest : List Char} (skipped : skip chars = rest) :
    ∃ blank, IsBlank blank ∧ chars = blank ++ rest :=
  skipped ▸ exists_blank chars

structure Part (α : Type) where
  before : List Char
  chars : List Char
  after : List Char
  value : α

def Part.text {α : Type} (part : Part α) : List Char :=
  part.before ++ (part.chars ++ part.after)

def Part.IsPadded {α : Type} (part : Part α) : Prop :=
  IsBlank part.before ∧ IsBlank part.after

structure Member (κ α : Type) where
  key : Part κ
  value : Part α

def Member.text {κ α : Type} (member : Member κ α) : List Char :=
  member.key.text ++ ':' :: member.value.text

def Member.entry {κ α : Type} (member : Member κ α) : κ × α :=
  (member.key.value, member.value.value)

inductive IsDocument : List Char → Document → Prop where
  | null : IsDocument ['n', 'u', 'l', 'l'] .null
  | yes : IsDocument ['t', 'r', 'u', 'e'] (.boolean true)
  | no : IsDocument ['f', 'a', 'l', 's', 'e'] (.boolean false)
  | number {chars : List Char} {value : Option Number} (isNumber : IsNumberText chars value) :
      IsDocument chars (.number value)
  | text {chars : List Char} {value : Option String} (isAnyText : IsAnyText chars value) :
      IsDocument chars (.text value)
  | emptyArray {blank : List Char} (isBlank : IsBlank blank) :
      IsDocument ('[' :: (blank ++ [']'])) (.array [])
  | array {items : List (Part Document)} (nonempty : items ≠ [])
      (padded : ∀ item ∈ items, item.IsPadded)
      (each : ∀ item ∈ items, IsDocument item.chars item.value) :
      IsDocument ('[' :: (separated Part.text items ++ [']'])) (.array (items.map Part.value))
  | emptyObject {blank : List Char} (isBlank : IsBlank blank) :
      IsDocument ('\x7b' :: (blank ++ ['\x7d'])) (.object [])
  | object {members : List (Member (Option String) Document)} (nonempty : members ≠ [])
      (keys : ∀ member ∈ members, member.key.IsPadded ∧ IsAnyText member.key.chars member.key.value)
      (padded : ∀ member ∈ members, member.value.IsPadded)
      (each : ∀ member ∈ members, IsDocument member.value.chars member.value.value) :
      IsDocument ('\x7b' :: (separated Member.text members ++ ['\x7d']))
        (.object (members.map Member.entry))

/-! ## What is read is in the grammar -/

theorem document?_skip (steps : Nat) (chars : List Char) :
    document? steps (skip chars) = document? steps chars := by
  cases steps with
  | zero => rfl
  | succ steps => rw [document?, document?, skip_skip]

theorem items?_skip (steps : Nat) (chars : List Char) :
    Reader.items? steps (skip chars) = Reader.items? steps chars := by
  cases steps with
  | zero => rfl
  | succ steps => rw [Reader.items?, Reader.items?, document?_skip]

theorem members?_skip (steps : Nat) (chars : List Char) :
    members? steps (skip chars) = members? steps chars := by
  cases steps with
  | zero => rfl
  | succ steps => rw [members?, members?, skip_skip]

structure AreItems (parts : List (Part Document)) (items : List Document) : Prop where
  nonempty : parts ≠ []
  padded : ∀ part ∈ parts, part.IsPadded
  each : ∀ part ∈ parts, IsDocument part.chars part.value
  values : items = parts.map Part.value

structure AreMembers (parts : List (Member (Option String) Document))
    (members : List (Option String × Document)) : Prop where
  nonempty : parts ≠ []
  keys : ∀ part ∈ parts, part.key.IsPadded ∧ IsAnyText part.key.chars part.key.value
  padded : ∀ part ∈ parts, part.value.IsPadded
  each : ∀ part ∈ parts, IsDocument part.value.chars part.value.value
  entries : members = parts.map Member.entry

/-- What is read in so many steps is in the grammar. -/
structure Sound (steps : Nat) : Prop where
  document : ∀ {chars rest : List Char} {value : Document},
    document? steps chars = some (value, rest) →
      ∃ blank text, IsBlank blank ∧ chars = blank ++ (text ++ rest) ∧ IsDocument text value
  items : ∀ {chars rest : List Char} {items : List Document},
    Reader.items? steps chars = some (items, rest) →
      ∃ parts, chars = separated Part.text parts ++ ']' :: rest ∧ AreItems parts items
  members : ∀ {chars rest : List Char} {members : List (Option String × Document)},
    members? steps chars = some (members, rest) →
      ∃ parts, chars = separated Member.text parts ++ '\x7d' :: rest ∧
        AreMembers parts members

theorem exists_isDocument {chars text rest : List Char} {value : Document}
    (isDocument : IsDocument text value) (skipped : skip chars = text ++ rest) :
    ∃ blank text, IsBlank blank ∧ chars = blank ++ (text ++ rest) ∧ IsDocument text value := by
  obtain ⟨blank, isBlank, same⟩ := exists_blank_of_skip_eq skipped
  exact ⟨blank, text, isBlank, same, isDocument⟩

theorem Sound.document_succ {steps : Nat} (sound : Sound steps) {chars rest : List Char}
    {value : Document} (read : document? (steps + 1) chars = some (value, rest)) :
    ∃ blank text, IsBlank blank ∧ chars = blank ++ (text ++ rest) ∧ IsDocument text value := by
  rw [document?.eq_def] at read
  dsimp only at read
  split at read
  · rename_i skipped
    obtain ⟨rfl, rfl⟩ := Prod.mk.inj (Option.some.inj read)
    exact exists_isDocument .null skipped
  · rename_i skipped
    obtain ⟨rfl, rfl⟩ := Prod.mk.inj (Option.some.inj read)
    exact exists_isDocument .yes skipped
  · rename_i skipped
    obtain ⟨rfl, rfl⟩ := Prod.mk.inj (Option.some.inj read)
    exact exists_isDocument .no skipped
  · rename_i skipped
    obtain ⟨⟨found, left⟩, textRead, made⟩ := Option.bind_eq_some_iff.1 read
    obtain ⟨rfl, rfl⟩ := Prod.mk.inj (Option.some.inj made)
    obtain ⟨text, isText, isAnyText⟩ := anyText?_iff.1 textRead
    exact exists_isDocument (.text isAnyText) (skipped.trans isText)
  · rename_i skipped
    split at read
    · rename_i skippedItems
      obtain ⟨rfl, rfl⟩ := Prod.mk.inj (Option.some.inj read)
      obtain ⟨inner, isInner, rfl⟩ := exists_blank_of_skip_eq skippedItems
      exact exists_isDocument (.emptyArray isInner) (by rw [skipped]; simp)
    · obtain ⟨⟨items, left⟩, itemsRead, made⟩ := Option.bind_eq_some_iff.1 read
      obtain ⟨rfl, rfl⟩ := Prod.mk.inj (Option.some.inj made)
      rw [items?_skip] at itemsRead
      obtain ⟨parts, rfl, nonempty, padded, each, rfl⟩ := sound.items itemsRead
      exact exists_isDocument (.array nonempty padded each) (by rw [skipped]; simp)
  · rename_i skipped
    split at read
    · rename_i skippedMembers
      obtain ⟨rfl, rfl⟩ := Prod.mk.inj (Option.some.inj read)
      obtain ⟨inner, isInner, rfl⟩ := exists_blank_of_skip_eq skippedMembers
      exact exists_isDocument (.emptyObject isInner) (by rw [skipped]; simp)
    · obtain ⟨⟨members, left⟩, membersRead, made⟩ := Option.bind_eq_some_iff.1 read
      obtain ⟨rfl, rfl⟩ := Prod.mk.inj (Option.some.inj made)
      rw [members?_skip] at membersRead
      obtain ⟨parts, rfl, nonempty, keys, padded, each, rfl⟩ := sound.members membersRead
      exact exists_isDocument (.object nonempty keys padded each) (by rw [skipped]; simp)
  · obtain ⟨⟨found, left⟩, numberRead, made⟩ := Option.bind_eq_some_iff.1 read
    obtain ⟨rfl, rfl⟩ := Prod.mk.inj (Option.some.inj made)
    obtain ⟨text, isText, isNumber⟩ := isNumberText_of_number? numberRead
    exact exists_isDocument (.number isNumber) isText

theorem Sound.items_succ {steps : Nat} (sound : Sound steps) {chars rest : List Char}
    {items : List Document} (read : Reader.items? (steps + 1) chars = some (items, rest)) :
    ∃ parts, chars = separated Part.text parts ++ ']' :: rest ∧ AreItems parts items := by
  rw [Reader.items?] at read
  obtain ⟨⟨item, left⟩, itemRead, ended⟩ := Option.bind_eq_some_iff.1 read
  obtain ⟨before, text, isBefore, rfl, isDocument⟩ := sound.document itemRead
  dsimp only at ended
  split at ended
  · rename_i skipped
    obtain ⟨rfl, rfl⟩ := Prod.mk.inj (Option.some.inj ended)
    obtain ⟨after, isAfter, rfl⟩ := exists_blank_of_skip_eq skipped
    refine ⟨[⟨before, text, after, item⟩], by simp [separated, Part.text], List.cons_ne_nil _ _,
      ?_, ?_, rfl⟩
    · exact List.forall_mem_singleton.2 ⟨isBefore, isAfter⟩
    · exact List.forall_mem_singleton.2 isDocument
  · rename_i skipped
    obtain ⟨after, isAfter, rfl⟩ := exists_blank_of_skip_eq skipped
    obtain ⟨⟨others, othersLeft⟩, othersRead, made⟩ := Option.bind_eq_some_iff.1 ended
    obtain ⟨rfl, rfl⟩ := Prod.mk.inj (Option.some.inj made)
    obtain ⟨parts, rfl, nonempty, padded, each, rfl⟩ := sound.items othersRead
    obtain ⟨next, more, rfl⟩ := List.exists_cons_of_ne_nil nonempty
    refine ⟨⟨before, text, after, item⟩ :: next :: more, ?_, List.cons_ne_nil _ _, ?_, ?_, rfl⟩
    · simp [separated_cons_cons, Part.text]
    · exact List.forall_mem_cons.2 ⟨⟨isBefore, isAfter⟩, padded⟩
    · exact List.forall_mem_cons.2 ⟨isDocument, each⟩
  · exact nomatch ended

theorem Sound.members_succ {steps : Nat} (sound : Sound steps)
    {chars rest : List Char} {members : List (Option String × Document)}
    (read : members? (steps + 1) chars = some (members, rest)) :
    ∃ parts, chars = separated Member.text parts ++ '\x7d' :: rest ∧
      AreMembers parts members := by
  rw [members?] at read
  split at read
  · rename_i keySkipped
    obtain ⟨keyBefore, isKeyBefore, rfl⟩ := exists_blank_of_skip_eq keySkipped
    obtain ⟨⟨key, afterKey⟩, keyRead, colon⟩ := Option.bind_eq_some_iff.1 read
    obtain ⟨keyText, isKeyText, isAnyText⟩ := anyText?_iff.1 keyRead
    rw [isKeyText]
    dsimp only at colon
    split at colon
    · rename_i colonSkipped
      obtain ⟨keyAfter, isKeyAfter, rfl⟩ := exists_blank_of_skip_eq colonSkipped
      obtain ⟨⟨value, left⟩, valueRead, ended⟩ := Option.bind_eq_some_iff.1 colon
      obtain ⟨before, text, isBefore, rfl, isDocument⟩ := sound.document valueRead
      dsimp only at ended
      split at ended
      · rename_i skipped
        obtain ⟨rfl, rfl⟩ := Prod.mk.inj (Option.some.inj ended)
        obtain ⟨after, isAfter, rfl⟩ := exists_blank_of_skip_eq skipped
        refine ⟨[⟨⟨keyBefore, keyText, keyAfter, key⟩, ⟨before, text, after, value⟩⟩],
          by simp [separated, Member.text, Part.text], List.cons_ne_nil _ _, ?_, ?_, ?_, rfl⟩
        · exact List.forall_mem_singleton.2 ⟨⟨isKeyBefore, isKeyAfter⟩, isAnyText⟩
        · exact List.forall_mem_singleton.2 ⟨isBefore, isAfter⟩
        · exact List.forall_mem_singleton.2 isDocument
      · rename_i skipped
        obtain ⟨after, isAfter, rfl⟩ := exists_blank_of_skip_eq skipped
        obtain ⟨⟨others, othersLeft⟩, othersRead, made⟩ := Option.bind_eq_some_iff.1 ended
        obtain ⟨rfl, rfl⟩ := Prod.mk.inj (Option.some.inj made)
        obtain ⟨parts, rfl, nonempty, keys, padded, each, rfl⟩ := sound.members othersRead
        obtain ⟨next, more, rfl⟩ := List.exists_cons_of_ne_nil nonempty
        refine ⟨⟨⟨keyBefore, keyText, keyAfter, key⟩, ⟨before, text, after, value⟩⟩ :: next :: more,
          ?_, List.cons_ne_nil _ _, ?_, ?_, ?_, rfl⟩
        · simp [separated_cons_cons, Member.text, Part.text]
        · exact List.forall_mem_cons.2 ⟨⟨⟨isKeyBefore, isKeyAfter⟩, isAnyText⟩, keys⟩
        · exact List.forall_mem_cons.2 ⟨⟨isBefore, isAfter⟩, padded⟩
        · exact List.forall_mem_cons.2 ⟨isDocument, each⟩
      · exact nomatch ended
    · exact nomatch colon
  · exact nomatch read

theorem sound (steps : Nat) : Sound steps := by
  induction steps with
  | zero => exact ⟨nofun, nofun, nofun⟩
  | succ steps inductionHypothesis =>
    exact ⟨inductionHypothesis.document_succ, inductionHypothesis.items_succ,
      inductionHypothesis.members_succ⟩

/-! ## What is in the grammar is read -/

def EndsValue (rest : List Char) : Prop :=
  ∀ c ∈ rest.head?, isSpace c = true ∨ c = ',' ∨ c = ']' ∨ c = '\x7d'

theorem EndsValue.endsNumeral {rest : List Char} (ends : EndsValue rest) : EndsNumeral rest := by
  intro c isHead
  rcases ends c isHead with isSpace | rfl | rfl | rfl
  · simp only [Reader.isSpace, Bool.or_eq_true, decide_eq_true_eq] at isSpace
    rcases isSpace with ((rfl | rfl) | rfl) | rfl <;> simp [IsExponentMark]
  · simp [IsExponentMark]
  · simp [IsExponentMark]
  · simp [IsExponentMark]

theorem endsValue_append {blank : List Char} (isBlank : IsBlank blank) {c : Char}
    (isEnd : c = ',' ∨ c = ']' ∨ c = '\x7d') (rest : List Char) :
    EndsValue (blank ++ c :: rest) := by
  cases blank with
  | nil => exact fun first isHead => Option.some.inj isHead ▸ .inr isEnd
  | cons space blank =>
    exact fun first isHead => Option.some.inj isHead ▸ .inl (isBlank space List.mem_cons_self)

/-- The text is read as the value, after any blank, in two steps for each character. -/
def IsRead (text : List Char) (value : Document) : Prop :=
  ∀ (steps : Nat) (blank rest : List Char), IsBlank blank → EndsValue rest →
    2 * (blank ++ (text ++ rest)).length ≤ steps →
      document? steps (blank ++ (text ++ rest)) = some (value, rest)

theorem IsRead.part {part : Part Document} (isRead : IsRead part.chars part.value)
    (padded : part.IsPadded) {c : Char} (isEnd : c = ',' ∨ c = ']' ∨ c = '\x7d')
    (rest : List Char) (steps : Nat) (enough : 2 * (part.text ++ c :: rest).length ≤ steps) :
    ∃ left, document? steps (part.text ++ c :: rest) = some (part.value, left) ∧
      skip left = c :: rest := by
  have text : part.text ++ c :: rest =
      part.before ++ (part.chars ++ (part.after ++ c :: rest)) := by
    simp [Part.text]
  have noSpace : isSpace c = false := by
    rcases isEnd with rfl | rfl | rfl <;> decide
  rw [text] at enough ⊢
  refine ⟨part.after ++ c :: rest, ?_, ?_⟩
  · exact isRead steps part.before _ padded.1 (endsValue_append padded.2 isEnd rest) enough
  · rw [skip_append padded.2, skip_cons noSpace]

theorem items?_separated {parts : List (Part Document)} (nonempty : parts ≠ [])
    (padded : ∀ part ∈ parts, part.IsPadded)
    (each : ∀ part ∈ parts, IsRead part.chars part.value) (rest : List Char) :
    ∀ steps, 2 * (separated Part.text parts ++ ']' :: rest).length < steps →
      Reader.items? steps (separated Part.text parts ++ ']' :: rest) =
        some (parts.map Part.value, rest) := by
  induction parts with
  | nil => exact absurd rfl nonempty
  | cons part others inductionHypothesis =>
    intro steps enough
    obtain ⟨fewer, rfl⟩ : ∃ fewer, steps = fewer + 1 := ⟨steps - 1, by omega⟩
    obtain ⟨partPadded, othersPadded⟩ := List.forall_mem_cons.1 padded
    obtain ⟨isRead, othersRead⟩ := List.forall_mem_cons.1 each
    cases others with
    | nil =>
      have text : separated Part.text [part] ++ ']' :: rest = part.text ++ ']' :: rest := by
        simp [separated]
      rw [text] at enough ⊢
      obtain ⟨left, read, ended⟩ :=
        isRead.part partPadded (c := ']') (by simp) rest fewer (by omega)
      rw [Reader.items?, read]
      simp [ended]
    | cons next more =>
      have text : separated Part.text (part :: next :: more) ++ ']' :: rest =
          part.text ++ ',' :: (separated Part.text (next :: more) ++ ']' :: rest) := by
        simp [separated_cons_cons]
      rw [text] at enough ⊢
      obtain ⟨left, read, ended⟩ := isRead.part partPadded (c := ',') (by simp)
        (separated Part.text (next :: more) ++ ']' :: rest) fewer (by omega)
      have later := inductionHypothesis (List.cons_ne_nil _ _) othersPadded othersRead fewer (by
        rw [List.length_append, List.length_cons] at enough
        omega)
      rw [Reader.items?, read]
      simp [ended, later]

theorem Member.exists_key {member : Member (Option String) Document} (padded : member.key.IsPadded)
    (isAnyText : IsAnyText member.key.chars member.key.value) (rest : List Char) :
    ∃ opened left, skip (member.text ++ rest) = '"' :: opened ∧
      anyText? opened = some (member.key.value, left) ∧
        skip left = ':' :: (member.value.text ++ rest) := by
  obtain ⟨inner, isInner⟩ := isAnyText.exists_cons
  have text : member.text ++ rest = member.key.before ++
      '"' :: (inner ++ (member.key.after ++ ':' :: (member.value.text ++ rest))) := by
    simp [Member.text, Part.text, isInner]
  refine ⟨inner ++ (member.key.after ++ ':' :: (member.value.text ++ rest)),
    member.key.after ++ ':' :: (member.value.text ++ rest), ?_, ?_, ?_⟩
  · rw [text, skip_append padded.1, skip_cons (by decide)]
  · exact anyText?_iff.2 ⟨member.key.chars, by rw [isInner, List.cons_append], isAnyText⟩
  · rw [skip_append padded.2, skip_cons (by decide)]

theorem members?_separated {parts : List (Member (Option String) Document)} (nonempty : parts ≠ [])
    (keys : ∀ part ∈ parts, part.key.IsPadded ∧ IsAnyText part.key.chars part.key.value)
    (padded : ∀ part ∈ parts, part.value.IsPadded)
    (each : ∀ part ∈ parts, IsRead part.value.chars part.value.value) (rest : List Char) :
    ∀ steps, 2 * (separated Member.text parts ++ '\x7d' :: rest).length < steps →
      members? steps (separated Member.text parts ++ '\x7d' :: rest) =
        some (parts.map Member.entry, rest) := by
  induction parts with
  | nil => exact absurd rfl nonempty
  | cons part others inductionHypothesis =>
    intro steps enough
    obtain ⟨fewer, rfl⟩ : ∃ fewer, steps = fewer + 1 := ⟨steps - 1, by omega⟩
    obtain ⟨⟨keyPadded, isAnyText⟩, othersKeys⟩ := List.forall_mem_cons.1 keys
    obtain ⟨partPadded, othersPadded⟩ := List.forall_mem_cons.1 padded
    obtain ⟨isRead, othersRead⟩ := List.forall_mem_cons.1 each
    have shorter (rest : List Char) :
        (part.value.text ++ rest).length < (part.text ++ rest).length := by
      simp [Member.text]
      omega
    cases others with
    | nil =>
      have text : separated Member.text [part] ++ '\x7d' :: rest = part.text ++ '\x7d' :: rest := by
        simp [separated]
      rw [text] at enough ⊢
      have fewerChars := shorter ('\x7d' :: rest)
      obtain ⟨left, read, ended⟩ :=
        isRead.part partPadded (c := '\x7d') (by simp) rest fewer (by omega)
      obtain ⟨opened, afterKey, isOpened, keyRead, colon⟩ :=
        Member.exists_key keyPadded isAnyText ('\x7d' :: rest)
      rw [members?, isOpened]
      simp [keyRead, colon, read, ended, Member.entry]
    | cons next more =>
      have text : separated Member.text (part :: next :: more) ++ '\x7d' :: rest =
          part.text ++ ',' :: (separated Member.text (next :: more) ++ '\x7d' :: rest) := by
        simp [separated_cons_cons]
      rw [text] at enough ⊢
      have fewerChars := shorter (',' :: (separated Member.text (next :: more) ++ '\x7d' :: rest))
      obtain ⟨left, read, ended⟩ := isRead.part partPadded (c := ',') (by simp)
        (separated Member.text (next :: more) ++ '\x7d' :: rest) fewer (by omega)
      have later := inductionHypothesis (List.cons_ne_nil _ _) othersKeys othersPadded othersRead
        fewer (by
          rw [List.length_append, List.length_cons] at enough
          omega)
      obtain ⟨opened, afterKey, isOpened, keyRead, colon⟩ := Member.exists_key keyPadded isAnyText
        (',' :: (separated Member.text (next :: more) ++ '\x7d' :: rest))
      rw [members?, isOpened]
      simp [keyRead, colon, read, ended, later, Member.entry]

theorem IsRead.of_step {c : Char} {more : List Char} {value : Document}
    (step : ∀ steps rest, EndsValue rest → 2 * (more ++ rest).length < steps →
      document? (steps + 1) (c :: (more ++ rest)) = some (value, rest)) :
    IsRead (c :: more) value := by
  intro steps blank rest isBlank ends enough
  rw [List.length_append, List.cons_append, List.length_cons] at enough
  obtain ⟨fewer, rfl⟩ : ∃ fewer, steps = fewer + 1 := ⟨steps - 1, by omega⟩
  rw [← document?_skip, skip_append isBlank, document?_skip]
  exact step fewer rest ends (by omega)

theorem IsNumberText.exists_cons {chars : List Char} {value : Option Number}
    (isNumber : IsNumberText chars value) :
    ∃ c rest, chars = c :: rest ∧ (c = '-' ∨ c.isDigit = true) := by
  obtain ⟨isWhole, -, -, -⟩ := isNumber
  rename_i negative whole fractionChars exponentChars fraction exponent
  cases negative with
  | true => exact ⟨'-', _, rfl, .inl rfl⟩
  | false =>
    obtain ⟨c, rest, rfl, isDigit⟩ := isWhole.exists_cons
    exact ⟨c, _, rfl, .inr isDigit⟩

theorem noSpace_of_opens {c : Char} (opens : c = '-' ∨ c.isDigit = true) : isSpace c = false := by
  apply Bool.eq_false_iff.2
  intro isSpace
  simp only [Reader.isSpace, Bool.or_eq_true, decide_eq_true_eq] at isSpace
  rcases isSpace with ((rfl | rfl) | rfl) | rfl <;> exact absurd opens (by decide)

theorem document?_number {c : Char} (opens : c = '-' ∨ c.isDigit = true) (steps : Nat)
    (rest : List Char) : document? (steps + 1) (c :: rest) = (do
      let (found, rest) ← number? (c :: rest)
      some (.number found, rest)) := by
  rw [document?.eq_def]
  dsimp only
  rw [skip_cons (noSpace_of_opens opens)]
  split
  case h_7 => rfl
  all_goals
    rename_i other
    rw [(List.cons.inj other).1] at opens
    exact absurd opens (by decide)

theorem document?_array {chars : List Char} (opens : ∀ rest, skip chars ≠ ']' :: rest)
    (steps : Nat) : document? (steps + 1) ('[' :: chars) = (do
      let (items, rest) ← Reader.items? steps chars
      some (.array items, rest)) := by
  rw [document?, skip_cons (by decide)]
  simp only
  rw [items?_skip]

theorem document?_object {chars : List Char} (opens : ∀ rest, skip chars ≠ '\x7d' :: rest)
    (steps : Nat) : document? (steps + 1) ('\x7b' :: chars) = (do
      let (members, rest) ← members? steps chars
      some (.object members, rest)) := by
  rw [document?, skip_cons (by decide)]
  simp only
  rw [members?_skip]

theorem IsDocument.exists_cons {text : List Char} {value : Document}
    (isDocument : IsDocument text value) :
    ∃ c rest, text = c :: rest ∧ isSpace c = false ∧ c ≠ ']' := by
  cases isDocument with
  | number isNumber =>
    obtain ⟨c, rest, rfl, opens⟩ := isNumber.exists_cons
    refine ⟨c, rest, rfl, noSpace_of_opens opens, ?_⟩
    rintro rfl
    exact absurd opens (by decide)
  | text isAnyText =>
    obtain ⟨inner, rfl⟩ := isAnyText.exists_cons
    exact ⟨'"', inner, rfl, by decide, by decide⟩
  | null | yes | no | emptyArray | array | emptyObject | object =>
    exact ⟨_, _, rfl, by decide, by decide⟩

theorem skip_items_ne {parts : List (Part Document)} (nonempty : parts ≠ [])
    (padded : ∀ part ∈ parts, part.IsPadded)
    (each : ∀ part ∈ parts, IsDocument part.chars part.value) (after rest : List Char) :
    skip (separated Part.text parts ++ after) ≠ ']' :: rest := by
  obtain ⟨part, others, rfl⟩ := List.exists_cons_of_ne_nil nonempty
  have isBefore := (padded part List.mem_cons_self).1
  obtain ⟨c, more, opens, noSpace, noBracket⟩ := (each part List.mem_cons_self).exists_cons
  rw [separated, Part.text, opens]
  simp only [List.append_assoc, List.cons_append]
  rw [skip_append isBefore, skip_cons noSpace]
  exact fun same => noBracket (List.cons.inj same).1

theorem skip_members_ne {parts : List (Member (Option String) Document)} (nonempty : parts ≠ [])
    (keys : ∀ part ∈ parts, part.key.IsPadded ∧ IsAnyText part.key.chars part.key.value)
    (after rest : List Char) : skip (separated Member.text parts ++ after) ≠ '\x7d' :: rest := by
  obtain ⟨part, others, rfl⟩ := List.exists_cons_of_ne_nil nonempty
  obtain ⟨⟨isBefore, -⟩, isAnyText⟩ := keys part List.mem_cons_self
  obtain ⟨inner, opens⟩ := isAnyText.exists_cons
  rw [separated, Member.text, Part.text, opens]
  simp only [List.append_assoc, List.cons_append]
  rw [skip_append isBefore, skip_cons (by decide)]
  exact fun same => absurd (List.cons.inj same).1 (by decide)

/-- Every value of the grammar is read, if its text ends before what follows. -/
theorem IsDocument.isRead {text : List Char} {value : Document}
    (isDocument : IsDocument text value) : IsRead text value := by
  induction isDocument with
  | null | yes | no =>
    apply IsRead.of_step
    intro steps rest _ _
    rw [document?, skip_cons (by decide)]
    rfl
  | number isNumber =>
    obtain ⟨c, more, rfl, opens⟩ := isNumber.exists_cons
    apply IsRead.of_step
    intro steps rest ends _
    have read := number?_append isNumber ends.endsNumeral
    rw [document?_number opens, ← List.cons_append, read]
    rfl
  | text isAnyText =>
    obtain ⟨inner, rfl⟩ := isAnyText.exists_cons
    apply IsRead.of_step
    intro steps rest _ _
    have read : anyText? (inner ++ rest) = some (_, rest) :=
      anyText?_iff.2 ⟨'"' :: inner, rfl, isAnyText⟩
    rw [document?, skip_cons (by decide)]
    simp [read]
  | @emptyArray inner isInner =>
    apply IsRead.of_step
    intro steps rest _ _
    have closed : skip (inner ++ ']' :: rest) = ']' :: rest := by
      rw [skip_append isInner, skip_cons (by decide)]
    rw [document?, skip_cons (by decide)]
    simp [closed]
  | array nonempty padded each inductionHypothesis =>
    apply IsRead.of_step
    intro steps rest _ enough
    rw [List.append_assoc] at enough ⊢
    have read := items?_separated nonempty padded inductionHypothesis rest steps enough
    rw [document?_array (skip_items_ne nonempty padded each _)]
    simp [read]
  | @emptyObject inner isInner =>
    apply IsRead.of_step
    intro steps rest _ _
    have closed : skip (inner ++ '\x7d' :: rest) = '\x7d' :: rest := by
      rw [skip_append isInner, skip_cons (by decide)]
    rw [document?, skip_cons (by decide)]
    simp [closed]
  | object nonempty keys padded each inductionHypothesis =>
    apply IsRead.of_step
    intro steps rest _ enough
    rw [List.append_assoc] at enough ⊢
    have read := members?_separated nonempty keys padded inductionHypothesis rest steps enough
    rw [document?_object (skip_members_ne nonempty keys _)]
    simp [read]

end Grammar

end Json

namespace Document

open Json Json.Grammar

def IsText (text : String) (document : Document) : Prop :=
  ∃ before chars after, text.toList = before ++ (chars ++ after) ∧ IsBlank before ∧
    IsBlank after ∧ IsDocument chars document

theorem parse?_eq_some_iff {text : String} {document : Document} :
    parse? text = some document ↔ IsText text document := by
  constructor
  · intro read
    obtain ⟨⟨found, rest⟩, documentRead, ended⟩ := Option.bind_eq_some_iff.1 read
    dsimp only at ended
    split at ended
    · rename_i isEnd
      obtain rfl := Option.some.inj ended
      obtain ⟨before, chars, isBefore, same, isDocument⟩ := (sound _).document documentRead
      obtain ⟨after, isAfter, isRest⟩ := exists_blank_of_skip_eq (List.isEmpty_iff.1 isEnd)
      rw [List.append_nil] at isRest
      exact ⟨before, chars, rest, same, isBefore, isRest ▸ isAfter, isDocument⟩
    · exact nomatch ended
  · rintro ⟨before, chars, after, same, isBefore, isAfter, isDocument⟩
    have ends : EndsValue after := fun c isHead => .inl (isAfter c (List.mem_of_head? isHead))
    have read := isDocument.isRead (2 * text.toList.length + 1) before after isBefore ends
      (same ▸ Nat.le_succ _)
    rw [← same] at read
    simp only [parse?, read, skip_blank isAfter, Option.bind_eq_bind, Option.bind_some,
      List.isEmpty_nil, if_true]

theorem IsText.unique {text : String} {left right : Document} (isLeft : IsText text left)
    (isRight : IsText text right) : left = right := by
  have read := parse?_eq_some_iff.2 isLeft
  rw [parse?_eq_some_iff.2 isRight] at read
  exact (Option.some.inj read).symm

end Document

end Metacard
