import Metacard.Proofs.Schema.Declared
/-!
# The sides of a schema text, read line by line

A reader takes two lines for each attribute, a remark with the raw id and an entry with the name and
the type, up to the line that closes the side. It reads just the lists of such pairs whose names are
names. What it reads of a schema text are the fields of the side, unless some attribute has an id
that does not become a name when its dashes and dots are replaced; an id with a line break even
takes more than its two lines.
-/

set_option autoImplicit false

namespace Metacard

namespace Text

def after? (start text : String) : Option String :=
  (start.toList.isPrefixOf? text.toList).map String.ofList

def before? (ending text : String) : Option String :=
  (ending.toList.isSuffixOf? text.toList).map String.ofList

theorem after?_eq_some_iff {start text rest : String} :
    after? start text = some rest ↔ text = start ++ rest := by
  rw [after?, Option.map_eq_some_iff]
  constructor
  · rintro ⟨chars, starts, rfl⟩
    apply String.toList_inj.1
    rw [String.toList_append, String.toList_ofList,
      List.isPrefixOf?_eq_some_iff_append_eq.1 starts]
  · rintro rfl
    refine ⟨rest.toList, List.isPrefixOf?_eq_some_iff_append_eq.2 ?_, String.ofList_toList⟩
    rw [String.toList_append]

theorem before?_eq_some_iff {ending text rest : String} :
    before? ending text = some rest ↔ text = rest ++ ending := by
  rw [before?, Option.map_eq_some_iff]
  constructor
  · rintro ⟨chars, ends, rfl⟩
    apply String.toList_inj.1
    rw [String.toList_append, String.toList_ofList,
      List.isSuffixOf?_eq_some_iff_append_eq.1 ends]
  · rintro rfl
    refine ⟨rest.toList, List.isSuffixOf?_eq_some_iff_append_eq.2 ?_, String.ofList_toList⟩
    rw [String.toList_append]

def between? (start ending text : String) : Option String :=
  (after? start text).bind (before? ending)

theorem between?_eq_some_iff {start ending text rest : String} :
    between? start ending text = some rest ↔ text = start ++ rest ++ ending := by
  rw [between?, Option.bind_eq_some_iff]
  constructor
  · rintro ⟨behind, starts, ends⟩
    rw [after?_eq_some_iff.1 starts, before?_eq_some_iff.1 ends, String.append_assoc]
  · rintro rfl
    exact ⟨rest ++ ending, after?_eq_some_iff.2 (String.append_assoc ..),
      before?_eq_some_iff.2 rfl⟩

end Text

namespace Sdl

open Text

/-- What two lines say about an attribute. -/
structure Row where
  rawId : String
  name : String
  list : Bool
  type : String
  deriving DecidableEq, Repr

namespace Row

def ofField (field : Field) : Row where
  rawId := field.rawId
  name := field.name
  list := field.type.list
  type := field.type.base.name

def typeText (list : Bool) (type : String) : String :=
  if list then "[" ++ type ++ "]" else type

def texts (row : Row) : List String :=
  ["  # metacard attribute: **`" ++ row.rawId ++ "`**",
    "  " ++ (row.name ++ ": " ++ typeText row.list row.type)]

structure IsLegal (row : Row) : Prop where
  name : isName row.name = true
  type : isName row.type = true

end Row

def readName? (text : String) : Option String :=
  if isName text then some text else none

def readType? (text : String) : Option (Bool × String) :=
  match between? "[" "]" text with
  | some inner => (readName? inner).map (true, ·)
  | none => (readName? text).map (false, ·)

def readRow? (remark entry : String) : Option Row := do
  let rawId ← between? "  # metacard attribute: **`" "`**" remark
  let text ← after? "  " entry
  let name ← readName? (String.ofList (text.toList.takeWhile isNameChar))
  let typeText ← after? (name ++ ": ") text
  let (list, type) ← readType? typeText
  some ⟨rawId, name, list, type⟩

def readRows? : List String → Option (List Row)
  | [] => none
  | [line] => if line = closing then some [] else none
  | remark :: entry :: rest =>
      if remark = closing then some []
      else do
        let row ← readRow? remark entry
        let rows ← readRows? rest
        some (row :: rows)

theorem readName?_eq_some_iff {text name : String} :
    readName? text = some name ↔ text = name ∧ isName name = true := by
  rw [readName?]
  split
  · rename_i legal
    rw [Option.some.injEq]
    exact ⟨fun same => ⟨same, same ▸ legal⟩, And.left⟩
  · rename_i illegal
    refine iff_of_false (by simp) ?_
    rintro ⟨rfl, legal⟩
    exact illegal legal

theorem readType?_eq_some_iff {text type : String} {list : Bool} :
    readType? text = some (list, type) ↔ text = Row.typeText list type ∧ isName type = true := by
  cases inner : between? "[" "]" text with
  | some within =>
    have enclosed := between?_eq_some_iff.1 inner
    simp only [readType?, inner, Option.map_eq_some_iff, Prod.mk.injEq, readName?_eq_some_iff]
    constructor
    · rintro ⟨_, ⟨rfl, legal⟩, rfl, rfl⟩
      exact ⟨enclosed, legal⟩
    · rintro ⟨shown, legal⟩
      cases list with
      | true =>
        have same : between? "[" "]" text = some type := between?_eq_some_iff.2 shown
        obtain rfl := Option.some.inj (inner.symm.trans same)
        exact ⟨within, ⟨rfl, legal⟩, rfl, rfl⟩
      | false =>
        -- No name starts with a bracket.
        have bracket : '[' ∈ type.toList := by
          rw [← show text = type from shown, enclosed]
          simp
        exact absurd (isNameChar_of_isName legal '[' bracket) (by decide)
  | none =>
    simp only [readType?, inner, Option.map_eq_some_iff, Prod.mk.injEq, readName?_eq_some_iff]
    constructor
    · rintro ⟨_, ⟨rfl, legal⟩, rfl, rfl⟩
      exact ⟨rfl, legal⟩
    · rintro ⟨shown, legal⟩
      cases list with
      | true => exact absurd (inner ▸ between?_eq_some_iff.2 shown) (Option.some_ne_none type).symm
      | false => exact ⟨type, ⟨shown, legal⟩, rfl, rfl⟩

theorem readRow?_eq_some_iff {remark entry : String} {row : Row} :
    readRow? remark entry = some row ↔ [remark, entry] = row.texts ∧ row.IsLegal := by
  simp only [readRow?, Option.bind_eq_bind, Option.bind_eq_some_iff, Prod.exists,
    Option.some.injEq, between?_eq_some_iff, after?_eq_some_iff, readName?_eq_some_iff,
    readType?_eq_some_iff]
  constructor
  · rintro ⟨rawId, rfl, text, rfl, name, ⟨-, nameLegal⟩, _, rfl, list, type, ⟨rfl, typeLegal⟩, rfl⟩
    exact ⟨rfl, nameLegal, typeLegal⟩
  · rintro ⟨lines, nameLegal, typeLegal⟩
    obtain ⟨rfl, rfl⟩ : _ ∧ _ := by simpa [Row.texts] using lines
    refine ⟨row.rawId, rfl, _, rfl, row.name, ⟨?_, nameLegal⟩, _, rfl, row.list, row.type,
      ⟨rfl, typeLegal⟩, rfl⟩
    rw [String.append_assoc, String.toList_append, List.takeWhile_append_of_pos
      (isNameChar_of_isName nameLegal), String.toList_append]
    simp [isNameChar, isNameStart]

theorem head?_of_mem_texts {row : Row} {line : String} (member : line ∈ row.texts) :
    line.toList.head? = some ' ' := by
  rcases List.mem_pair.1 member with rfl | rfl <;> simp

theorem ne_closing_of_mem_texts {row : Row} {line : String} (member : line ∈ row.texts) :
    line ≠ closing := by
  rintro rfl
  exact absurd (head?_of_mem_texts member) (by decide)

theorem readRows?_eq_some_iff {lines : List String} {rows : List Row} :
    readRows? lines = some rows ↔
      (∃ rest, lines = rows.flatMap Row.texts ++ closing :: rest) ∧ ∀ row ∈ rows, row.IsLegal := by
  constructor
  · induction lines using readRows?.induct generalizing rows with
    | case1 => simp [readRows?]
    | case2 =>
      intro isRead
      obtain rfl : [] = rows := by simpa [readRows?] using isRead
      exact ⟨⟨[], rfl⟩, by simp⟩
    | case3 line other => simp [readRows?, other]
    | case4 entry rest =>
      intro isRead
      obtain rfl : [] = rows := by simpa [readRows?] using isRead
      exact ⟨⟨entry :: rest, rfl⟩, by simp⟩
    | case5 remark entry rest other inductionHypothesis =>
      intro isRead
      simp only [readRows?, if_neg other, Option.bind_eq_bind, Option.bind_eq_some_iff,
        Option.some.injEq] at isRead
      obtain ⟨row, isRow, others, areOthers, rfl⟩ := isRead
      obtain ⟨lines, rowLegal⟩ := readRow?_eq_some_iff.1 isRow
      obtain ⟨⟨after, split⟩, othersLegal⟩ := inductionHypothesis areOthers
      refine ⟨⟨after, ?_⟩, List.forall_mem_cons.2 ⟨rowLegal, othersLegal⟩⟩
      rw [List.flatMap_cons, List.append_assoc, ← split, ← lines]
      rfl
  · rintro ⟨⟨rest, rfl⟩, legal⟩
    induction rows with
    | nil => cases rest <;> rfl
    | cons row rows inductionHypothesis =>
      obtain ⟨rowLegal, othersLegal⟩ := List.forall_mem_cons.1 legal
      obtain ⟨remark, entry, lines⟩ : ∃ remark entry, row.texts = [remark, entry] := ⟨_, _, rfl⟩
      have goesOn : remark ≠ closing := ne_closing_of_mem_texts (lines ▸ List.mem_cons_self)
      rw [List.flatMap_cons, lines, List.append_assoc, List.cons_append, List.singleton_append,
        readRows?, if_neg goesOn, readRow?_eq_some_iff.2 ⟨lines.symm, rowLegal⟩,
        inductionHypothesis othersLegal]
      rfl

/-! ## The sides of a schema text -/

def rows (schema : Schema) (side : Side) : List Row :=
  (schema.shape side).fields.map .ofField

theorem texts_ofField (field : Field) : (Row.ofField field).texts = fieldTexts field := by
  rw [Row.texts, fieldTexts, Field.render, FieldType.render]
  rfl

theorem flatMap_texts (schema : Schema) (side : Side) :
    (rows schema side).flatMap Row.texts = (schema.shape side).fields.flatMap fieldTexts := by
  rw [rows, List.flatMap_map, funext texts_ofField]

theorem mem_rows_iff {schema : Schema} {side : Side} {row : Row} :
    row ∈ rows schema side ↔
      ∃ attr ∈ schema.attributes, .ofField (.ofAttribute side attr) = row := by
  rw [rows, Schema.shape, List.map_map, List.mem_map]
  rfl

/-- A side takes two lines for each attribute, in their order, and the closing one. -/
def IsBlock (schema : Schema) (side : Side) : Prop :=
  ∃ rest, linesAfter (opening side) (render schema) =
    (rows schema side).flatMap Row.texts ++ closing :: rest

/-- The reader gets the fields of a side back. -/
def ReadsBack (schema : Schema) (side : Side) : Prop :=
  readRows? (linesAfter (opening side) (render schema)) = some (rows schema side)

theorem break_mem_safeName_iff {raw : String} :
    '\n' ∈ (safeName raw).toList ↔ '\n' ∈ raw.toList := by
  rw [safeName, String.toList_ofList, List.mem_map]
  constructor
  · rintro ⟨c, member, same⟩
    rwa [(safeChar_eq_iff (by decide) (by decide)).1 same] at member
  · exact fun member => ⟨'\n', member, by decide⟩

theorem unbroken_texts {attr : Attribute} (unbroken : '\n' ∉ attr.id.toList) (side : Side) :
    ∀ text ∈ fieldTexts (.ofAttribute side attr), '\n' ∉ text.toList := by
  have remark : '\n' ∉ ("  # metacard attribute: **`" ++ attr.id ++ "`**").toList :=
    unbroken_append (unbroken_append (by decide) unbroken) (by decide)
  have name : '\n' ∉ (safeName attr.id ++ ": ").toList :=
    unbroken_append (mt break_mem_safeName_iff.1 unbroken) (by decide)
  have entry : '\n' ∉ ("  " ++ (Field.ofAttribute side attr).render).toList :=
    unbroken_append (by decide) (unbroken_append name (unbroken_typeText attr side))
  rw [fieldTexts, List.forall_mem_cons, List.forall_mem_singleton]
  exact ⟨remark, entry⟩

theorem fieldLines_of_unbroken {schema : Schema}
    (unbroken : ∀ attr ∈ schema.attributes, '\n' ∉ attr.id.toList) (side : Side) :
    fieldLines schema side = (rows schema side).flatMap Row.texts := by
  rw [fieldLines, flatMap_texts]
  apply flatMap_linesOf
  intro text member
  obtain ⟨field, isField, isText⟩ := List.mem_flatMap.1 member
  obtain ⟨attr, isAttr, rfl⟩ := List.mem_map.1 isField
  exact unbroken_texts (unbroken attr isAttr) side text isText

theorem opening_not_mem_sideLines {schema : Schema}
    (unbroken : ∀ attr ∈ schema.attributes, '\n' ∉ attr.id.toList) :
    opening .write ∉ sideLines schema .read := by
  rw [sideLines, fieldLines_of_unbroken unbroken]
  simp only [List.mem_append, not_or]
  refine ⟨⟨by decide, fun member => ?_⟩, by decide⟩
  obtain ⟨row, -, isText⟩ := List.mem_flatMap.1 member
  exact absurd (head?_of_mem_texts isText) (by decide)

theorem isBlock_iff {schema : Schema} {side : Side} : IsBlock schema side ↔
    ∀ attr ∈ schema.attributes, '\n' ∉ attr.id.toList := by
  constructor
  · rintro ⟨rest, lines⟩ attr isAttr isBreak
    have isText : "  # metacard attribute: **`" ++ attr.id ++ "`**" ∈
        linesAfter (opening side) (render schema) := by
      rw [lines]
      exact List.mem_append_left _ (List.mem_flatMap.2
        ⟨_, mem_rows_iff.2 ⟨attr, isAttr, rfl⟩, List.mem_cons_self⟩)
    apply unbroken_of_mem_linesAfter isText
    simp [isBreak]
  · intro unbroken
    have ahead := opening_not_mem_ahead schema side
    cases side with
    | read =>
      have after := linesAfter_of_split (linesOf_render_opening schema) ahead
      rw [fieldLines_of_unbroken unbroken] at after
      exact ⟨sideLines schema .write ++ [""], after⟩
    | write =>
      -- The fields of the read side stand ahead of the write side and must not open it.
      have behind : opening .write ∉
          preludeLines ++ scalarLines schema ++ sideLines schema .read ++ [""] := by
        simp only [List.mem_append, not_or] at ahead ⊢
        exact ⟨⟨ahead.1, opening_not_mem_sideLines unbroken⟩, ahead.2⟩
      have lines : sideLines schema .write =
          ["", opening .write] ++ fieldLines schema .write ++ [closing] := rfl
      refine ⟨[""], linesAfter_of_split ?_ behind⟩
      rw [linesOf_render, lines, fieldLines_of_unbroken unbroken]
      simp

theorem readsBack_iff {schema : Schema} {side : Side} : ReadsBack schema side ↔
    ∀ attr ∈ schema.attributes, isName (safeName attr.id) = true := by
  rw [ReadsBack, readRows?_eq_some_iff]
  constructor
  · rintro ⟨-, legal⟩ attr isAttr
    exact (legal _ (mem_rows_iff.2 ⟨attr, isAttr, rfl⟩)).name
  · intro names
    have unbroken : ∀ attr ∈ schema.attributes, '\n' ∉ attr.id.toList := fun attr isAttr =>
      mt break_mem_safeName_iff.2 (unbroken_of_isName (names attr isAttr))
    refine ⟨isBlock_iff.2 unbroken, fun row member => ?_⟩
    obtain ⟨attr, isAttr, rfl⟩ := mem_rows_iff.1 member
    exact ⟨names attr isAttr, isName_ofPrimitive attr.type side⟩

/-- On both sides of a schema text all types have legal names. A side takes two lines for each
attribute just if no id has a line break, and its fields are read back just if all ids become names
when their dashes and dots are replaced. -/
theorem sides_well_formed_iff (schema : Schema) (side : Side) :
    (∀ field ∈ (schema.shape side).fields, isName field.type.base.name = true) ∧
      (IsBlock schema side ↔ ∀ attr ∈ schema.attributes, '\n' ∉ attr.id.toList) ∧
      (ReadsBack schema side ↔ ∀ attr ∈ schema.attributes, isName (safeName attr.id) = true) :=
  ⟨fun _ => isName_base, isBlock_iff, readsBack_iff⟩

/-- A blank in an id stays in the name of its field. -/
theorem name_with_blank :
    ¬ ∀ (attributes : List Attribute) (schema : Schema), Schema.build attributes = .ok schema →
      ∀ side, ReadsBack schema side := by
  intro readsBack
  have built : Schema.build [.plain "file size" .long] =
      .ok ⟨[.plain "file size" .long], ⟨.ofList [("file size", "file size")]⟩⟩ := by rfl
  have names := readsBack_iff.1 (readsBack _ _ built .read)
  exact absurd (names _ (List.mem_singleton_self _)) (by decide)

end Sdl

end Metacard
