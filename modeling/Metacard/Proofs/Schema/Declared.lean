import Metacard.Proofs.Schema.Lines
import Metacard.Proofs.Schema.Names
/-!
# The types that a schema text declares

A line that starts with one of four keywords introduces a type. All types that fields use are known
from the start of GraphQL or introduced ahead of both sides of the schema. No type is introduced
twice, unless a raw type has the name of one that every schema text introduces, or an id has lines
of its own that introduce types.
-/

set_option autoImplicit false

namespace Metacard.Sdl

open Text

/-- The words that introduce a type at the start of a line, with the blank behind them. -/
def keywords : List String :=
  ["scalar ", "enum ", "type ", "input "]

/-- The name that a line introduces; an empty one if it goes on with something else. -/
def introduced? (line : String) : Option String :=
  keywords.findSome? fun keyword =>
    (keyword.toList.isPrefixOf? line.toList).map fun rest =>
      String.ofList (rest.takeWhile isNameChar)

/-- The names of the types that a text introduces, as often as they are introduced. -/
def typeNames (text : String) : List String :=
  (linesOf text).filterMap introduced?

def laterTypeNames (text : String) : List String :=
  ((linesOf text).drop 1).filterMap introduced?

theorem introduced?_keyword {keyword : String} (isKeyword : keyword ∈ keywords) (rest : String) :
    introduced? (keyword ++ rest) = some (String.ofList (rest.toList.takeWhile isNameChar)) := by
  simp only [keywords, List.mem_cons, List.not_mem_nil, or_false] at isKeyword
  rcases isKeyword with rfl | rfl | rfl | rfl <;>
    simp [introduced?, keywords, List.isPrefixOf?]

theorem introduced?_eq_none_iff {line : String} : introduced? line = none ↔
    ∀ keyword ∈ keywords, ¬ keyword.toList <+: line.toList := by
  rw [introduced?, List.findSome?_eq_none_iff]
  refine forall₂_congr fun keyword _ => ?_
  rw [Option.map_eq_none_iff, Option.eq_none_iff_forall_ne_some]
  simp only [ne_eq, List.isPrefixOf?_eq_some_iff_append_eq, List.IsPrefix, not_exists]

theorem exists_keyword_of_introduced? {line name : String}
    (introduces : introduced? line = some name) :
    ∃ keyword ∈ keywords, ∃ rest, line = keyword ++ rest := by
  obtain ⟨keyword, isKeyword, found⟩ := List.exists_of_findSome?_eq_some introduces
  obtain ⟨rest, isRest, -⟩ := Option.map_eq_some_iff.1 found
  refine ⟨keyword, isKeyword, String.ofList rest, String.toList_inj.1 ?_⟩
  rw [String.toList_append, String.toList_ofList,
    List.isPrefixOf?_eq_some_iff_append_eq.1 isRest]

theorem introduced?_name {keyword name : String} (isKeyword : keyword ∈ keywords)
    (legal : isName name = true) {after : String} (ends : after.toList.takeWhile isNameChar = []) :
    introduced? (keyword ++ name ++ after) = some name := by
  rw [String.append_assoc, introduced?_keyword isKeyword, String.toList_append,
    List.takeWhile_append_of_pos (isNameChar_of_isName legal), ends, List.append_nil,
    String.ofList_toList]

theorem introduced?_of_head {line : String} (first : Char)
    (other : ∀ keyword ∈ keywords, keyword.toList.head? ≠ some first)
    (head : line.toList.head? = some first) : introduced? line = none := by
  refine introduced?_eq_none_iff.2 fun keyword isKeyword starts => other keyword isKeyword ?_
  have spelled : ∀ keyword ∈ keywords, keyword.toList ≠ [] := by decide
  obtain ⟨start, others, split⟩ := List.exists_cons_of_ne_nil (spelled keyword isKeyword)
  obtain ⟨rest, chars⟩ := List.head?_eq_some_iff.1 head
  rw [split, chars, List.cons_prefix_cons] at starts
  rw [split, starts.1, List.head?_cons]

theorem prefix_of_prefix_append_cons {word chars others : List Char} {mark : Char}
    (absent : mark ∉ word) (starts : word <+: chars ++ mark :: others) : word <+: chars := by
  rcases List.prefix_or_prefix_of_prefix starts (List.prefix_append _ _) with within | beyond
  · exact within
  · obtain ⟨after, rfl⟩ := beyond
    cases after with
    | nil => rw [List.append_nil]
    | cons c after =>
      have same := (List.cons_prefix_cons.1 ((List.prefix_append_right_inj chars).1 starts)).1
      exact absurd (List.mem_append_right _ (same ▸ List.mem_cons_self)) absent

theorem introduced?_append {mark : Char} {others : List Char} {after : String}
    (chars : after.toList = mark :: others) (endsName : isNameChar mark = false)
    (endsKeyword : ∀ keyword ∈ keywords, mark ∉ keyword.toList) (line : String) :
    introduced? (line ++ after) = introduced? line := by
  cases found : introduced? line with
  | some name =>
    obtain ⟨keyword, isKeyword, rest, rfl⟩ := exists_keyword_of_introduced? found
    have ended : (rest.toList ++ after.toList).takeWhile isNameChar =
        rest.toList.takeWhile isNameChar := by
      rw [List.takeWhile_append, chars, List.takeWhile_cons_of_neg (by simp [endsName])]
      split
      · rename_i whole
        rw [List.append_nil, (List.takeWhile_prefix isNameChar).eq_of_length whole]
      · rfl
    rw [← found, String.append_assoc, introduced?_keyword isKeyword, introduced?_keyword isKeyword,
      String.toList_append, ended]
  | none =>
    refine introduced?_eq_none_iff.2 fun keyword isKeyword starts => ?_
    rw [String.toList_append, chars] at starts
    exact introduced?_eq_none_iff.1 found keyword isKeyword
      (prefix_of_prefix_append_cons (endsKeyword keyword isKeyword) starts)

def Declaration.keyword : Declaration → String
  | .scalar _ _ => "scalar "
  | .block keyword _ _ => keyword ++ " "

theorem introduced?_of_blank {line : String} (head : line.toList.head? = some ' ') :
    introduced? line = none :=
  introduced?_of_head ' ' (by decide) head

theorem filterMap_remarkLine {margin : String} (remark : Option String)
    (isMargin : margin = "" ∨ margin = "  ") :
    (remarkLine margin remark).filterMap introduced? = [] := by
  cases remark with
  | none => rfl
  | some remark =>
    have skipped : introduced? (margin ++ "# " ++ remark) = none := by
      rcases isMargin with rfl | rfl
      · exact introduced?_of_head '#' (by decide) (by simp)
      · exact introduced?_of_blank (by simp)
    rw [remarkLine, List.filterMap_cons, skipped]
    rfl

theorem filterMap_lines {declaration : Declaration} (legal : isName declaration.name = true)
    (isKeyword : declaration.keyword ∈ keywords) :
    declaration.lines.filterMap introduced? = [declaration.name] := by
  cases declaration with
  | scalar remark name =>
    have line : introduced? ("scalar " ++ name ++ "") = some name :=
      introduced?_name isKeyword legal rfl
    rw [String.append_empty] at line
    rw [Declaration.lines, List.filterMap_append, filterMap_remarkLine remark (.inl rfl),
      List.filterMap_cons, line]
    rfl
  | block keyword name entries =>
    have line : introduced? (keyword ++ " " ++ name ++ " \x7b") = some name :=
      introduced?_name isKeyword legal (by decide)
    have inside : (entries.flatMap Entry.lines).filterMap introduced? = [] := by
      rw [List.filterMap_flatMap, List.flatMap_eq_nil_iff]
      intro entry _
      have text : introduced? ("  " ++ entry.text) = none := introduced?_of_blank (by simp)
      rw [Entry.lines, List.filterMap_append, filterMap_remarkLine entry.remark (.inr rfl),
        List.filterMap_cons, text]
      rfl
    have closed : introduced? "\x7d" = none :=
      introduced?_of_head '}' (by decide) (by decide)
    have empty : introduced? "" = none := by decide
    rw [Declaration.lines, List.filterMap_append, List.filterMap_append, inside]
    simp only [List.filterMap_cons, List.filterMap_nil, line, closed, empty]
    rfl

theorem typeNames_enclosed {before after : String} {mark : Char} {others : List Char}
    (blank : before.toList.head? = some ' ') (unbrokenBefore : '\n' ∉ before.toList)
    (chars : after.toList = mark :: others) (unbrokenAfter : '\n' ∉ after.toList)
    (endsName : isNameChar mark = false)
    (endsKeyword : ∀ keyword ∈ keywords, mark ∉ keyword.toList) (text : String) :
    typeNames (before ++ text ++ after) = laterTypeNames text := by
  obtain ⟨earlier, last, cut, cutAfter⟩ := linesOf_append_right unbrokenAfter text
  obtain ⟨first, rest, split, moved⟩ := linesOf_append_left unbrokenBefore (text ++ after)
  have skipped : introduced? (before ++ first) = none := by
    obtain ⟨tail, isTail⟩ := List.head?_eq_some_iff.1 blank
    apply introduced?_of_blank
    rw [String.toList_append, isTail, List.cons_append, List.head?_cons]
  rw [typeNames, String.append_assoc, moved, List.filterMap_cons_none skipped, laterTypeNames, cut]
  cases earlier with
  | nil =>
    rw [cutAfter, List.nil_append] at split
    obtain ⟨-, rfl⟩ := List.cons.inj split
    rfl
  | cons head earlier =>
    rw [cutAfter, List.cons_append] at split
    obtain ⟨-, rfl⟩ := List.cons.inj split
    rw [List.cons_append, List.drop_one, List.tail_cons, List.filterMap_append,
      List.filterMap_append]
    simp only [List.filterMap_cons, List.filterMap_nil,
      introduced?_append chars endsName endsKeyword]

/-! ### Safe names -/

theorem safeChar_eq_iff {c mark : Char} (plain : mark ≠ '_') (kept : safeChar mark = mark) :
    safeChar c = mark ↔ c = mark := by
  constructor
  · rintro rfl
    exact (safeChar_eq_self plain).symm
  · rintro rfl
    exact kept

theorem splitOn_map_safeChar (chars : List Char) :
    (chars.map safeChar).splitOn '\n' = (chars.splitOn '\n').map (List.map safeChar) := by
  induction chars with
  | nil => rfl
  | cons c chars inductionHypothesis =>
    have same : safeChar c = '\n' ↔ c = '\n' := safeChar_eq_iff (by decide) (by decide)
    by_cases isBreak : c = '\n'
    · rw [List.map_cons, same.2 isBreak, isBreak, splitOn_break_self, splitOn_break_self,
        inductionHypothesis]
      rfl
    · rw [List.map_cons, splitOn_break_cons (mt same.1 isBreak), splitOn_break_cons isBreak,
        inductionHypothesis]
      cases chars.splitOn '\n' <;> rfl

/-- A safe name has the lines of the id, each with the same characters replaced. -/
theorem linesOf_safeName (raw : String) : linesOf (safeName raw) = (linesOf raw).map safeName := by
  have compose : String.ofList ∘ List.map safeChar = safeName ∘ String.ofList := by
    funext chars
    simp [safeName]
  rw [linesOf, linesOf, safeName, String.toList_ofList, splitOn_map_safeChar, List.map_map,
    List.map_map, compose]

theorem prefix_map_safeChar {word : List Char} (kept : ∀ c ∈ word, c ≠ '_' ∧ safeChar c = c) :
    ∀ {chars : List Char}, word <+: chars.map safeChar → word <+: chars := by
  induction word with
  | nil => exact fun _ => List.nil_prefix
  | cons mark word inductionHypothesis =>
    intro chars starts
    cases chars with
    | nil => simp at starts
    | cons c chars =>
      obtain ⟨same, others⟩ := List.cons_prefix_cons.1 starts
      obtain ⟨plain, isKept⟩ := kept mark List.mem_cons_self
      exact List.cons_prefix_cons.2 ⟨((safeChar_eq_iff plain isKept).1 same.symm).symm,
        inductionHypothesis (fun d member => kept d (List.mem_cons_of_mem _ member)) others⟩

theorem introduced?_safeName {line : String} (skipped : introduced? line = none) :
    introduced? (safeName line) = none := by
  refine introduced?_eq_none_iff.2 fun keyword isKeyword starts => ?_
  have kept : ∀ keyword ∈ keywords, ∀ c ∈ keyword.toList, c ≠ '_' ∧ safeChar c = c := by
    simp [keywords, safeChar]
  rw [safeName, String.toList_ofList] at starts
  exact introduced?_eq_none_iff.1 skipped keyword isKeyword
    (prefix_map_safeChar (kept keyword isKeyword) starts)

theorem laterTypeNames_eq_nil_iff {text : String} : laterTypeNames text = [] ↔
    ∀ line ∈ (linesOf text).drop 1, introduced? line = none :=
  List.filterMap_eq_nil_iff

theorem laterTypeNames_safeName {raw : String} (noTypes : laterTypeNames raw = []) :
    laterTypeNames (safeName raw) = [] := by
  rw [laterTypeNames_eq_nil_iff] at noTypes ⊢
  intro line member
  rw [linesOf_safeName, ← List.map_drop] at member
  obtain ⟨other, isOther, rfl⟩ := List.mem_map.1 member
  exact introduced?_safeName (noTypes other isOther)

/-! ### All introduced types -/

/-- The types that the ids of attributes introduce on one side. -/
def idTypeNames (schema : Schema) : List String :=
  schema.attributes.flatMap fun attr =>
    laterTypeNames attr.id ++ laterTypeNames (safeName attr.id)

theorem unbroken_fieldType {type : FieldType} (legal : isName type.base.name = true) :
    '\n' ∉ type.render.toList := by
  have base := unbroken_of_isName legal
  rw [FieldType.render]
  split
  · exact unbroken_append (unbroken_append (by decide) base) (by decide)
  · exact base

theorem unbroken_typeText (attr : Attribute) (side : Side) :
    '\n' ∉ (Field.ofAttribute side attr).type.render.toList :=
  unbroken_fieldType (isName_ofPrimitive attr.type side)

theorem filterMap_fieldTexts (attr : Attribute) (side : Side) :
    ((fieldTexts (.ofAttribute side attr)).flatMap linesOf).filterMap introduced? =
      laterTypeNames attr.id ++ laterTypeNames (safeName attr.id) := by
  have remark : typeNames ("  # metacard attribute: **`" ++ attr.id ++ "`**") =
      laterTypeNames attr.id :=
    typeNames_enclosed rfl (by decide) (String.toList_ofList ..) (by decide) (by decide)
      (by decide) _
  have type : '\n' ∉ (": " ++ (Field.ofAttribute side attr).type.render).toList :=
    unbroken_append (by decide) (unbroken_typeText attr side)
  have text : typeNames ("  " ++ safeName attr.id ++
      (": " ++ (Field.ofAttribute side attr).type.render)) = laterTypeNames (safeName attr.id) :=
    typeNames_enclosed rfl (by decide) (String.toList_append ..) type (by decide) (by decide) _
  have render : "  " ++ (Field.ofAttribute side attr).render = "  " ++ safeName attr.id ++
      (": " ++ (Field.ofAttribute side attr).type.render) := by
    simp only [Field.render, Field.ofAttribute, String.append_assoc]
  rw [fieldTexts, List.flatMap_cons, List.flatMap_cons, List.flatMap_nil, List.append_nil, render,
    List.filterMap_append]
  exact congrArg₂ _ remark text

theorem filterMap_fieldLines (schema : Schema) (side : Side) :
    (fieldLines schema side).filterMap introduced? = idTypeNames schema := by
  rw [fieldLines, Schema.shape, List.flatMap_map, List.flatMap_assoc, List.filterMap_flatMap,
    idTypeNames]
  exact List.flatMap_congr fun attr _ => filterMap_fieldTexts attr side

theorem filterMap_preludeLines :
    preludeLines.filterMap introduced? = prelude.map Declaration.name := by
  have declarations : ∀ declaration ∈ prelude, isName declaration.name = true ∧
      declaration.keyword ∈ keywords := by decide +kernel
  have each : ∀ declaration ∈ prelude,
      declaration.lines.filterMap introduced? = [declaration.name] := fun declaration member =>
    filterMap_lines (declarations declaration member).1 (declarations declaration member).2
  have empty : [""].filterMap introduced? = [] := by decide
  rw [preludeLines, List.filterMap_append, empty, List.append_nil, List.filterMap_flatMap,
    List.flatMap_congr each, List.map_eq_flatMap]

theorem filterMap_scalarLines (schema : Schema) :
    (scalarLines schema).filterMap introduced? = nominalTypes schema := by
  have each : ∀ name ∈ nominalTypes schema, introduced? ("scalar " ++ name) = some name := by
    intro name member
    have line : introduced? ("scalar " ++ name ++ "") = some name :=
      introduced?_name (by decide) (isName_nominalType member) rfl
    rwa [String.append_empty] at line
  rw [scalarLines, List.filterMap_map]
  exact (List.filterMap_congr each).trans List.filterMap_some

theorem introduced?_opening (schema : Schema) (side : Side) :
    introduced? (opening side) = some (schema.shape side).name := by
  cases side <;> rfl

theorem filterMap_sideLines (schema : Schema) (side : Side) :
    (sideLines schema side).filterMap introduced? =
      (schema.shape side).name :: idTypeNames schema := by
  have opened : ["", opening side].filterMap introduced? = [(schema.shape side).name] := by
    have empty : introduced? "" = none := by decide
    rw [List.filterMap_cons_none empty, List.filterMap_cons_some (introduced?_opening schema side)]
    rfl
  have closed : [closing].filterMap introduced? = [] := by decide
  rw [sideLines, List.filterMap_append, List.filterMap_append, opened, closed,
    filterMap_fieldLines, List.append_nil, List.singleton_append]

/-- A schema text introduces the types of every schema text, the nominal types that fields use and
its two sides. What ids introduce comes on both sides. -/
theorem typeNames_render (schema : Schema) : typeNames (render schema) =
    prelude.map Declaration.name ++ nominalTypes schema ++
      (schema.shape .read).name :: idTypeNames schema ++
      (schema.shape .write).name :: idTypeNames schema := by
  have ended : [""].filterMap introduced? = [] := by decide
  rw [typeNames, linesOf_render]
  simp only [List.filterMap_append, filterMap_preludeLines, filterMap_scalarLines,
    filterMap_sideLines, ended, List.append_nil]

/-! ## Types that are used -/

theorem opening_not_mem_preludeLines (side : Side) : opening side ∉ preludeLines := by
  intro member
  have introduced : (Schema.builtin.shape side).name ∈ preludeLines.filterMap introduced? :=
    List.mem_filterMap.2 ⟨opening side, member, introduced?_opening .builtin side⟩
  rw [filterMap_preludeLines] at introduced
  cases side <;> exact absurd introduced (by decide +kernel)

theorem opening_not_mem_scalarLines (schema : Schema) (side : Side) :
    opening side ∉ scalarLines schema := by
  intro member
  obtain ⟨name, -, same⟩ := List.mem_map.1 member
  have heads := congrArg (fun line => line.toList.head?) same
  cases side <;> simp [opening] at heads

theorem opening_not_mem_ahead (schema : Schema) (side : Side) :
    opening side ∉ preludeLines ++ scalarLines schema ++ [""] := by
  simp only [List.mem_append, List.mem_singleton, not_or]
  exact ⟨⟨opening_not_mem_preludeLines side, opening_not_mem_scalarLines schema side⟩,
    by cases side <;> decide⟩

theorem linesOf_render_opening (schema : Schema) : linesOf (render schema) =
    (preludeLines ++ scalarLines schema ++ [""]) ++ opening .read ::
      (fieldLines schema .read ++ closing :: (sideLines schema .write ++ [""])) := by
  rw [linesOf_render, sideLines]
  simp

theorem linesBefore_opening (schema : Schema) :
    linesBefore (opening .read) (render schema) = preludeLines ++ scalarLines schema ++ [""] :=
  linesBefore_of_split (linesOf_render_opening schema) (opening_not_mem_ahead schema .read)

/-- Ahead of its sides a schema text has a line for every nominal type that a field of either side
uses, in ascending order and for no other type, after the lines that every schema text starts with.
So the type of every field is one that GraphQL knows from the start, or declared there. -/
theorem used_types_declared (schema : Schema) :
    (∃ names : List String, linesBefore (opening .read) (render schema) =
        preludeLines ++ names.map ("scalar " ++ ·) ++ [""] ∧ names.Pairwise (· < ·) ∧
      ∀ name, name ∈ names ↔
        ∃ side, ∃ field ∈ (schema.shape side).fields, field.type.base = .nominal name) ∧
    ∀ side, ∀ field ∈ (schema.shape side).fields,
      field.type.base.name ∈ ["String", "Int", "Float", "Boolean"] ∨
        "scalar " ++ field.type.base.name ∈ linesBefore (opening .read) (render schema) := by
  refine ⟨⟨nominalTypes schema, linesBefore_opening schema, ascending_nominalTypes schema,
    fun name => mem_nominalTypes_iff⟩, fun side field member => ?_⟩
  have known : ∀ scalar : Scalar, scalar.name ∈ ["String", "Int", "Float", "Boolean"] ∨
      "scalar " ++ scalar.name ∈ preludeLines := by
    intro scalar
    cases scalar <;> decide +kernel
  rw [linesBefore_opening]
  cases base : field.type.base with
  | scalar value =>
    exact (known value).imp_right fun line =>
      List.mem_append_left _ (List.mem_append_left _ line)
  | nominal name =>
    have isType : name ∈ nominalTypes schema := mem_nominalTypes_iff.2 ⟨side, field, member, base⟩
    exact .inr (List.mem_append_left _ (List.mem_append_right _ (List.mem_map_of_mem isType)))

/-! ## Types that are introduced twice -/

def knownTypes : List String :=
  ["String", "Int", "Float", "Boolean", "ID"]

/-- No type is introduced twice, and none that is known from the start. -/
structure DefinesOnce (text : String) : Prop where
  distinct : (typeNames text).Nodup
  new : ∀ name ∈ typeNames text, name ∉ knownTypes

def commonTypes : List String :=
  prelude.map Declaration.name ++ ["MetacardAttributes", "MetacardAttributesInput"]

/-- The raw types whose nominal type is one that every schema text introduces, or is known from the
start. -/
def takenTypes : List String :=
  ["ID", "Direction", "QuerySort", "QuerySortInput", "QuerySettings", "QuerySettingsInput",
    "QueryResponseStatus", "MetacardAction", "QueryResponseResult", "QueryResponse", "Query",
    "MetacardAttributes", "MetacardAttributesInput"]

theorem eq_of_nominalName_taken {raw name : String} (named : nominalName raw .read = name)
    (taken : name ∈ takenTypes) : raw = name := by
  have untouched : ∀ name ∈ takenTypes, '_' ∉ name.toList ∧ name ≠ "Unknown" ∧
      ∀ scalar ∈ Scalar.names, name ≠ scalar ++ "Type" := by decide +kernel
  obtain ⟨plain, known, free⟩ := untouched name taken
  exact eq_of_nominalName named plain known free

theorem taken_of_read {raw name : String} (named : nominalName raw .read = name)
    (reserved : name ∈ commonTypes ++ knownTypes) : raw ∈ takenTypes := by
  have kinds : ∀ name ∈ commonTypes ++ knownTypes, name ∈ Scalar.names ∨ name ∈ takenTypes := by
    decide +kernel
  rcases kinds name reserved with isScalar | taken
  · exact absurd (named ▸ isScalar) (nominalName_not_mem_names raw .read)
  · rwa [eq_of_nominalName_taken named taken]

theorem taken_of_write {raw name : String} (named : nominalName raw .write = name)
    (reserved : name ∈ commonTypes ++ knownTypes) : raw ∈ takenTypes := by
  have inputs : ∀ name ∈ commonTypes ++ knownTypes, "Input".toList <:+ name.toList →
      ∃ stem ∈ takenTypes, stem ++ "Input" = name := by decide +kernel
  rw [nominalName_write] at named
  have ends : "Input".toList <:+ name.toList := by
    rw [← named, String.toList_append]
    exact List.suffix_append _ _
  obtain ⟨stem, taken, spelled⟩ := inputs name reserved ends
  have read : nominalName raw .read = stem :=
    (String.append_left_inj "Input").1 (named.trans spelled.symm)
  rwa [eq_of_nominalName_taken read taken]

theorem taken_iff {raw : String} :
    raw ∈ takenTypes ↔ ∃ side, nominalName raw side ∈ commonTypes ++ knownTypes := by
  constructor
  · have either : ∀ raw ∈ takenTypes, nominalName raw .read ∈ commonTypes ++ knownTypes ∨
        nominalName raw .write ∈ commonTypes ++ knownTypes := by decide +kernel
    intro taken
    rcases either raw taken with reserved | reserved
    · exact ⟨.read, reserved⟩
    · exact ⟨.write, reserved⟩
  · rintro ⟨side, reserved⟩
    cases side with
    | read => exact taken_of_read rfl reserved
    | write => exact taken_of_write rfl reserved

theorem mem_nominalTypes_iff_other {schema : Schema} {name : String} :
    name ∈ nominalTypes schema ↔ ∃ attr ∈ schema.attributes, ∃ raw side,
      attr.type = .other raw ∧ name = nominalName raw side := by
  rw [mem_nominalTypes_iff]
  constructor
  · rintro ⟨side, field, member, base⟩
    obtain ⟨attr, isAttr, rfl⟩ := List.mem_map.1 member
    obtain ⟨raw, type, named⟩ := ofPrimitive_eq_nominal_iff.1 base
    exact ⟨attr, isAttr, raw, side, type, named⟩
  · rintro ⟨attr, isAttr, raw, side, type, named⟩
    exact ⟨side, .ofAttribute side attr, List.mem_map_of_mem isAttr,
      ofPrimitive_eq_nominal_iff.2 ⟨raw, type, named⟩⟩

/-- What an id introduces it introduces on both sides, so that it is introduced twice. -/
theorem idTypeNames_of_distinct {schema : Schema}
    (distinct : (typeNames (render schema)).Nodup) : idTypeNames schema = [] := by
  rw [typeNames_render, List.nodup_append] at distinct
  obtain ⟨-, -, apart⟩ := distinct
  refine List.eq_nil_iff_forall_not_mem.2 fun name member => ?_
  exact apart name (List.mem_append_right _ (List.mem_cons_of_mem _ member)) name
    (List.mem_cons_of_mem _ member) rfl

theorem definesOnce_iff {schema : Schema} : DefinesOnce (render schema) ↔
    idTypeNames schema = [] ∧
      ∀ name ∈ nominalTypes schema, name ∉ commonTypes ++ knownTypes := by
  have names (noIds : idTypeNames schema = []) :
      (typeNames (render schema)).Perm (commonTypes ++ nominalTypes schema) := by
    rw [typeNames_render, noIds, commonTypes]
    simp only [List.append_assoc]
    have swapped : (nominalTypes schema ++ ["MetacardAttributes", "MetacardAttributesInput"]).Perm
        (["MetacardAttributes", "MetacardAttributesInput"] ++ nominalTypes schema) :=
      List.perm_append_comm
    exact swapped.append_left _
  have commonDistinct : commonTypes.Nodup := by decide +kernel
  have commonNew : ∀ name ∈ commonTypes, name ∉ knownTypes := by decide +kernel
  have nominalDistinct : (nominalTypes schema).Nodup := Table.nodup_keys _
  constructor
  · rintro ⟨distinct, new⟩
    have noIds := idTypeNames_of_distinct distinct
    have apart := (List.nodup_append.1 ((names noIds).nodup_iff.1 distinct)).2.2
    refine ⟨noIds, fun name member reserved => ?_⟩
    rcases List.mem_append.1 reserved with common | known
    · exact apart name common name member rfl
    · exact new name ((names noIds).mem_iff.2 (List.mem_append_right _ member)) known
  · rintro ⟨noIds, free⟩
    refine ⟨(names noIds).nodup_iff.2 (List.nodup_append.2 ⟨commonDistinct, nominalDistinct, ?_⟩),
      fun name member known => ?_⟩
    · rintro name common _ member rfl
      exact free name member (List.mem_append_left _ common)
    · rcases List.mem_append.1 ((names noIds).mem_iff.1 member) with common | nominal
      · exact commonNew name common known
      · exact free name nominal (List.mem_append_right _ known)

theorem idTypeNames_eq_nil_iff {schema : Schema} : idTypeNames schema = [] ↔
    ∀ attr ∈ schema.attributes, ∀ line ∈ (linesOf attr.id).drop 1, introduced? line = none := by
  rw [idTypeNames, List.flatMap_eq_nil_iff]
  refine forall₂_congr fun attr _ => ?_
  rw [List.append_eq_nil_iff, ← laterTypeNames_eq_nil_iff]
  exact ⟨And.left, fun noTypes => ⟨noTypes, laterTypeNames_safeName noTypes⟩⟩

/-- A schema text defines no type twice, and none that GraphQL knows from the start, just if no
attribute has a raw type with one of the taken names, and no id has a line after its first one that
introduces a type. -/
theorem types_defined_once_iff (schema : Schema) : DefinesOnce (render schema) ↔
    ∀ attr ∈ schema.attributes, (∀ raw ∈ takenTypes, attr.type ≠ .other raw) ∧
      ∀ line ∈ (linesOf attr.id).drop 1, introduced? line = none := by
  have free : (∀ name ∈ nominalTypes schema, name ∉ commonTypes ++ knownTypes) ↔
      ∀ attr ∈ schema.attributes, ∀ raw ∈ takenTypes, attr.type ≠ .other raw := by
    constructor
    · intro isFree attr isAttr raw taken type
      obtain ⟨side, reserved⟩ := taken_iff.1 taken
      exact isFree _ (mem_nominalTypes_iff_other.2 ⟨attr, isAttr, raw, side, type, rfl⟩) reserved
    · intro untaken name member reserved
      obtain ⟨attr, isAttr, raw, side, type, rfl⟩ := mem_nominalTypes_iff_other.1 member
      exact untaken attr isAttr raw (taken_iff.2 ⟨side, reserved⟩) type
  rw [definesOnce_iff, idTypeNames_eq_nil_iff, free, and_comm]
  exact forall₂_and.symm

/-- An attribute of the raw type `Direction` makes its nominal type a second one of that name. -/
theorem direction_defined_twice :
    ¬ ∀ (attributes : List Attribute) (schema : Schema), Schema.build attributes = .ok schema →
      DefinesOnce (render schema) := by
  intro once
  have built : Schema.build [.plain "heading" (.other "Direction")] =
      .ok ⟨[.plain "heading" (.other "Direction")], ⟨.ofList [("heading", "heading")]⟩⟩ := by rfl
  have nominal : "Direction" ∈ nominalTypes
      ⟨[.plain "heading" (.other "Direction")], ⟨.ofList [("heading", "heading")]⟩⟩ :=
    mem_nominalTypes_iff_other.2 ⟨_, List.mem_singleton_self _, "Direction", .read, rfl, by decide⟩
  exact (definesOnce_iff.1 (once _ _ built)).2 _ nominal (by decide +kernel)

end Metacard.Sdl
