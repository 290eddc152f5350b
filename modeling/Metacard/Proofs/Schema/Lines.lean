import Metacard.Proofs.Schema.TypeNames
import Metacard.Proofs.Table
import Metacard.Schema.Sdl
/-!
# The lines of schema texts

A text is cut into lines at its line breaks. The text of a schema has the lines of its declarations;
only the two lines for an attribute can be cut further, as nothing keeps line breaks out of its id.
-/

set_option autoImplicit false

namespace Metacard

namespace Text

def linesOf (text : String) : List String :=
  (text.toList.splitOn '\n').map String.ofList

theorem linesOf_of_unbroken {line : String} (unbroken : '\n' ∉ line.toList) :
    linesOf line = [line] := by
  rw [linesOf, List.splitOn_eq_singleton unbroken, List.map_singleton, String.ofList_toList]

theorem linesOf_append_break (left right : String) :
    linesOf (left ++ "\n" ++ right) = linesOf left ++ linesOf right := by
  have chars : (left ++ "\n" ++ right).toList = left.toList ++ '\n' :: right.toList := by
    rw [String.toList_append, String.toList_append, List.append_assoc]
    rfl
  have cut := List.splitOnP_append_cons (p := (· == '\n')) left.toList right.toList
    (beq_self_eq_true '\n')
  rw [linesOf, chars, List.splitOn, cut, List.map_append]
  rfl

theorem linesOf_join (lines : List String) :
    linesOf (String.join (lines.map (· ++ "\n"))) = lines.flatMap linesOf ++ [""] := by
  induction lines with
  | nil => rfl
  | cons line rest inductionHypothesis =>
    have joined : String.join ((line :: rest).map (· ++ "\n")) =
        line ++ "\n" ++ String.join (rest.map (· ++ "\n")) := by
      apply String.toList_inj.1
      simp [String.toList_join]
    rw [joined, linesOf_append_break, inductionHypothesis, List.flatMap_cons, List.append_assoc]

/-- A line break is a byte of its own. -/
theorem unbroken_of_bytes {line : String} (noBreak : 10 ∉ line.toByteArray.data.toList) :
    '\n' ∉ line.toList := by
  intro member
  apply noBreak
  rw [← String.utf8Encode_toList, List.utf8Encode, List.data_toByteArray]
  exact List.mem_flatMap.2 ⟨'\n', member, by decide⟩

theorem flatMap_linesOf {lines : List String} (unbroken : ∀ line ∈ lines, '\n' ∉ line.toList) :
    lines.flatMap linesOf = lines := by
  induction lines with
  | nil => rfl
  | cons line rest inductionHypothesis =>
    rw [List.flatMap_cons, linesOf_of_unbroken (unbroken line List.mem_cons_self),
      inductionHypothesis fun other member => unbroken other (List.mem_cons_of_mem _ member),
      List.singleton_append]

theorem splitOn_break_cons {c : Char} (unbroken : c ≠ '\n') (chars : List Char) :
    (c :: chars).splitOn '\n' = (chars.splitOn '\n').modifyHead (List.cons c) := by
  rw [List.splitOn, List.splitOnP_cons_eq_if_modifyHead, if_neg (by simpa using unbroken)]
  rfl

theorem splitOn_break_self (chars : List Char) :
    ('\n' :: chars).splitOn '\n' = [] :: chars.splitOn '\n' := by
  rw [List.splitOn, List.splitOnP_cons_eq_if_modifyHead, if_pos (beq_self_eq_true '\n')]
  rfl

theorem linesOf_append_left {before : String} (unbroken : '\n' ∉ before.toList) (text : String) :
    ∃ first rest, linesOf text = first :: rest ∧
      linesOf (before ++ text) = (before ++ first) :: rest := by
  obtain ⟨first, rest, split⟩ := List.exists_cons_of_ne_nil
    (List.splitOnP_ne_nil (· == '\n') text.toList)
  have moved : ∀ chars : List Char, '\n' ∉ chars →
      (chars ++ text.toList).splitOn '\n' = (chars ++ first) :: rest := by
    intro chars
    induction chars with
    | nil => exact fun _ => split
    | cons c chars inductionHypothesis =>
      intro isUnbroken
      rw [List.cons_append, splitOn_break_cons (List.ne_of_not_mem_cons isUnbroken).symm,
        inductionHypothesis (List.not_mem_of_not_mem_cons isUnbroken)]
      rfl
  refine ⟨String.ofList first, rest.map String.ofList, congrArg _ split, ?_⟩
  rw [linesOf, String.toList_append, moved _ unbroken, List.map_cons, String.ofList_append,
    String.ofList_toList]

theorem linesOf_append_right {after : String} (unbroken : '\n' ∉ after.toList) (text : String) :
    ∃ earlier last, linesOf text = earlier ++ [last] ∧
      linesOf (text ++ after) = earlier ++ [last ++ after] := by
  have moved : ∀ chars : List Char, ∃ earlier last, chars.splitOn '\n' = earlier ++ [last] ∧
      (chars ++ after.toList).splitOn '\n' = earlier ++ [last ++ after.toList] := by
    intro chars
    induction chars with
    | nil => exact ⟨[], [], rfl, List.splitOn_eq_singleton unbroken⟩
    | cons c chars inductionHypothesis =>
      obtain ⟨earlier, last, split, splitAll⟩ := inductionHypothesis
      by_cases isBreak : c = '\n'
      · subst isBreak
        refine ⟨[] :: earlier, last, ?_, ?_⟩
        · rw [splitOn_break_self, split, List.cons_append]
        · rw [List.cons_append, splitOn_break_self, splitAll, List.cons_append]
      · rw [List.cons_append, splitOn_break_cons isBreak, splitOn_break_cons isBreak, split,
          splitAll]
        -- The character belongs to the first line, which may be the last one too.
        cases earlier with
        | nil => exact ⟨[], c :: last, rfl, rfl⟩
        | cons first earlier => exact ⟨(c :: first) :: earlier, last, rfl, rfl⟩
  obtain ⟨earlier, last, split, splitAll⟩ := moved text.toList
  refine ⟨earlier.map String.ofList, String.ofList last, ?_, ?_⟩
  · rw [linesOf, split, List.map_append, List.map_singleton]
  · rw [linesOf, String.toList_append, splitAll, List.map_append, List.map_singleton,
      String.ofList_append, String.ofList_toList]

theorem unbroken_of_mem_linesOf {text line : String} (member : line ∈ linesOf text) :
    '\n' ∉ line.toList := by
  obtain ⟨chars, isPart, rfl⟩ := List.mem_map.1 member
  rw [String.toList_ofList]
  suffices parts : ∀ chars : List Char, ∀ part ∈ chars.splitOn '\n', '\n' ∉ part from
    parts text.toList chars isPart
  intro chars
  induction chars with
  | nil =>
    intro part member
    rw [List.splitOn_nil, List.mem_singleton] at member
    simp [member]
  | cons c chars inductionHypothesis =>
    intro part member
    by_cases isBreak : c = '\n'
    · rw [isBreak, splitOn_break_self] at member
      rcases List.mem_cons.1 member with rfl | member
      · exact List.not_mem_nil
      · exact inductionHypothesis part member
    · rw [splitOn_break_cons isBreak] at member
      obtain ⟨first, rest, split⟩ := List.exists_cons_of_ne_nil
        (List.splitOnP_ne_nil (· == '\n') chars)
      rw [List.splitOn] at member inductionHypothesis
      rw [split] at member inductionHypothesis
      rcases List.mem_cons.1 member with rfl | member
      · exact List.not_mem_cons_of_ne_of_not_mem (Ne.symm isBreak)
          (inductionHypothesis first List.mem_cons_self)
      · exact inductionHypothesis part (List.mem_cons_of_mem _ member)

def linesBefore (line text : String) : List String :=
  (linesOf text).takeWhile (· ≠ line)

def linesAfter (line text : String) : List String :=
  ((linesOf text).dropWhile (· ≠ line)).drop 1

section

variable {line text : String} {before after : List String}

theorem linesBefore_of_split (split : linesOf text = before ++ line :: after)
    (first : line ∉ before) : linesBefore line text = before := by
  have others : ∀ other ∈ before, decide (other ≠ line) = true := fun other member =>
    decide_eq_true fun same => first (same ▸ member)
  rw [linesBefore, split, List.takeWhile_append_of_pos others,
    List.takeWhile_cons_of_neg (by simp), List.append_nil]

theorem linesAfter_of_split (split : linesOf text = before ++ line :: after)
    (first : line ∉ before) : linesAfter line text = after := by
  have others : ∀ other ∈ before, decide (other ≠ line) = true := fun other member =>
    decide_eq_true fun same => first (same ▸ member)
  rw [linesAfter, split, List.dropWhile_append_of_pos others,
    List.dropWhile_cons_of_neg (by simp), List.drop_one, List.tail_cons]

theorem unbroken_of_mem_linesAfter {other : String} (member : other ∈ linesAfter line text) :
    '\n' ∉ other.toList :=
  unbroken_of_mem_linesOf ((List.dropWhile_suffix _).subset (List.mem_of_mem_drop member))

end

end Text

namespace Sdl

open Text

/-! ## The lines of a schema -/

def opening : Side → String
  | .read => "type MetacardAttributes \x7b"
  | .write => "input MetacardAttributesInput \x7b"

def closing : String := "\x7d"

/-- What is written for an attribute: a remark with its id, and its name and type. -/
def fieldTexts (field : Field) : List String :=
  ["  # metacard attribute: **`" ++ field.rawId ++ "`**", "  " ++ field.render]

def fieldLines (schema : Schema) (side : Side) : List String :=
  ((schema.shape side).fields.flatMap fieldTexts).flatMap linesOf

def sideLines (schema : Schema) (side : Side) : List String :=
  ["", opening side] ++ fieldLines schema side ++ [closing]

def preludeLines : List String :=
  prelude.flatMap Declaration.lines ++ [""]

def nominalTypes (schema : Schema) : List String :=
  nominalNames ((schema.shape .read).fields ++ (schema.shape .write).fields)

def scalarLines (schema : Schema) : List String :=
  (nominalTypes schema).map ("scalar " ++ ·)

theorem lines_fieldEntry (field : Field) : (fieldEntry field).lines = fieldTexts field := by
  have remark : "  " ++ "# " ++ ("metacard attribute: **`" ++ field.rawId ++ "`**") =
      "  # metacard attribute: **`" ++ field.rawId ++ "`**" := by
    simp only [← String.append_assoc]
    rfl
  rw [Entry.lines, fieldTexts, fieldEntry, remarkLine, remark, List.singleton_append]

theorem lines_shapeBlock (schema : Schema) (side : Side) :
    (shapeBlock (schema.shape side)).lines =
      ["", opening side] ++ (schema.shape side).fields.flatMap fieldTexts ++ [closing] := by
  have entries : ((schema.shape side).fields.map fieldEntry).flatMap Entry.lines =
      (schema.shape side).fields.flatMap fieldTexts := by
    have texts : (fun field => (fieldEntry field).lines) = fieldTexts := funext lines_fieldEntry
    rw [List.flatMap_map, texts]
  rw [shapeBlock, Declaration.lines, entries]
  cases side <;> rfl

theorem lines_eq (schema : Schema) : lines schema =
    preludeLines ++ scalarLines schema ++
      (["", opening .read] ++ (schema.shape .read).fields.flatMap fieldTexts ++ [closing]) ++
      (["", opening .write] ++ (schema.shape .write).fields.flatMap fieldTexts ++ [closing]) := by
  have scalars : (nominals schema).flatMap Declaration.lines = scalarLines schema := by
    rw [nominals, List.flatMap_map, scalarLines, List.map_eq_flatMap]
    rfl
  rw [lines, scalars, lines_shapeBlock, lines_shapeBlock, preludeLines]

theorem unbroken_prelude : ∀ line ∈ preludeLines, '\n' ∉ line.toList := by
  have bytes : ∀ line ∈ preludeLines, 10 ∉ line.toByteArray.data.toList := by decide +kernel
  exact fun line member => unbroken_of_bytes (bytes line member)

/-! ### Nominal types -/

theorem mem_nominalNames_iff {fields : List Field} {name : String} :
    name ∈ nominalNames fields ↔ ∃ field ∈ fields, field.type.base = .nominal name := by
  have nominal (base : BaseType) : base.nominal? = some name ↔ base = .nominal name := by
    cases base <;> simp [BaseType.nominal?]
  simp [nominalNames, Table.mem_keys_ofList, nominal]

theorem mem_nominalTypes_iff {schema : Schema} {name : String} :
    name ∈ nominalTypes schema ↔
      ∃ side, ∃ field ∈ (schema.shape side).fields, field.type.base = .nominal name := by
  rw [nominalTypes, mem_nominalNames_iff]
  constructor
  · rintro ⟨field, member, isNominal⟩
    rcases List.mem_append.1 member with member | member
    · exact ⟨.read, field, member, isNominal⟩
    · exact ⟨.write, field, member, isNominal⟩
  · rintro ⟨side, field, member, isNominal⟩
    refine ⟨field, List.mem_append.2 ?_, isNominal⟩
    cases side with
    | read => exact .inl member
    | write => exact .inr member

theorem ascending_nominalTypes (schema : Schema) : (nominalTypes schema).Pairwise (· < ·) := by
  rw [nominalTypes, nominalNames, Table.keys, List.pairwise_map]
  exact Table.ascending _

theorem isName_base {schema : Schema} {side : Side} {field : Field}
    (member : field ∈ (schema.shape side).fields) : isName field.type.base.name = true := by
  obtain ⟨attr, -, rfl⟩ := List.mem_map.1 member
  exact isName_ofPrimitive attr.type side

theorem isName_nominalType {schema : Schema} {name : String} (member : name ∈ nominalTypes schema) :
    isName name = true := by
  obtain ⟨side, field, isField, isNominal⟩ := mem_nominalTypes_iff.1 member
  have legal := isName_base isField
  rwa [isNominal] at legal

/-! ### The lines in the text -/

theorem unbroken_of_isName {name : String} (legal : isName name = true) : '\n' ∉ name.toList :=
  fun member => absurd (isNameChar_of_isName legal '\n' member) (by decide)

theorem unbroken_append {left right : String} (leftUnbroken : '\n' ∉ left.toList)
    (rightUnbroken : '\n' ∉ right.toList) : '\n' ∉ (left ++ right).toList := by
  rw [String.toList_append, List.mem_append]
  exact not_or.2 ⟨leftUnbroken, rightUnbroken⟩

theorem unbroken_scalarLines (schema : Schema) :
    ∀ line ∈ scalarLines schema, '\n' ∉ line.toList := by
  intro line member
  obtain ⟨name, isType, rfl⟩ := List.mem_map.1 member
  exact unbroken_append (by decide) (unbroken_of_isName (isName_nominalType isType))

theorem linesOf_render (schema : Schema) : linesOf (render schema) =
    preludeLines ++ scalarLines schema ++ sideLines schema .read ++ sideLines schema .write ++
      [""] := by
  have opened (side : Side) : ["", opening side].flatMap linesOf = ["", opening side] :=
    flatMap_linesOf (by cases side <;> decide)
  have closed : [closing].flatMap linesOf = [closing] := flatMap_linesOf (by decide)
  rw [render, linesOf_join, lines_eq]
  simp only [List.flatMap_append, flatMap_linesOf unbroken_prelude,
    flatMap_linesOf (unbroken_scalarLines schema), opened, closed]
  rfl

end Sdl

end Metacard
