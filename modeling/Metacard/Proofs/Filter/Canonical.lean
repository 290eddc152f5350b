import Metacard.Proofs.Filter.Grammar
/-!
# The one form of a filter

The canonical form of a JSON value is the value without the members that no reader of filters looks
at, with words in capitals and `<>` for `!=`, at every level. What is read as a filter is written
again in its canonical form, which is read as the same filter.
-/

set_option autoImplicit false

namespace Metacard

namespace Filter

/-- The members that are looked at in an object with the tag. -/
def Tag.memberNames : Tag → List String
  | .connective _ => ["filters", "type"]
  | .negation => ["filter", "type"]
  | .operator _ => ["property", "type", "value"]

def keep (names : List String) (members : List (String × Json)) : List (String × Json) :=
  names.filterMap fun name => (members.lookup name).map fun value => (name, value)

def respelled : Json → Json
  | .text text => .text (Tag.spelling text)
  | other => other

mutual

def canonical : Json → Json
  | .object members =>
      match tag? members with
      | some tag => .object (keep tag.memberNames (canonicalMembers members))
      | none => .object members
  | .array items => .array (canonicalItems items)
  | other => other

def canonicalItems : List Json → List Json
  | [] => []
  | item :: rest => canonical item :: canonicalItems rest

def canonicalMembers : List (String × Json) → List (String × Json)
  | [] => []
  | (key, value) :: rest =>
      (key,
        if key = "type" then respelled value
        else if key = "filter" ∨ key = "filters" then canonical value
        else value) :: canonicalMembers rest

end

theorem lookup_keep (names : List String) (members : List (String × Json)) (name : String) :
    (keep names members).lookup name = if name ∈ names then members.lookup name else none := by
  induction names with
  | nil => rfl
  | cons first rest inductionHypothesis =>
    rw [keep, List.filterMap_cons]
    by_cases same : name = first
    · subst same
      cases found : members.lookup name with
      | none => simpa [keep, found] using inductionHypothesis
      | some value => simp
    · cases members.lookup first with
      | none => simpa [keep, same] using inductionHypothesis
      | some value =>
        simpa [keep, List.lookup_cons, beq_false_of_ne same, same] using inductionHypothesis

theorem keep_congr {names : List String} {left right : List (String × Json)}
    (same : ∀ name ∈ names, left.lookup name = right.lookup name) :
    keep names left = keep names right := by
  apply List.filterMap_congr
  intro name member
  rw [same name member]

theorem keep_eq_filter {names : List String} {members : List (String × Json)}
    (namesAscending : names.Pairwise (· < ·)) (ascending : Ascending members) :
    keep names members = members.filter fun entry => entry.1 ∈ names := by
  have keptAscending : Ascending (keep names members) := by
    rw [Ascending, keep, List.pairwise_filterMap]
    apply namesAscending.imp
    intro left right less leftEntry isLeft rightEntry isRight
    obtain ⟨_, _, rfl⟩ := Option.map_eq_some_iff.1 isLeft
    obtain ⟨_, _, rfl⟩ := Option.map_eq_some_iff.1 isRight
    exact less
  have filteredAscending : Ascending (members.filter fun entry => entry.1 ∈ names) :=
    ascending.sublist List.filter_sublist
  have same : (⟨_, keptAscending⟩ : Table Json) = ⟨_, filteredAscending⟩ := by
    apply Table.ext_find?
    intro name
    apply Option.ext
    intro value
    rw [← Table.mem_entries_iff, ← Table.mem_entries_iff]
    have found : (name, value) ∈ members ↔ members.lookup name = some value :=
      ⟨lookup_eq_some_of_mem ascending, mem_of_lookup_eq_some⟩
    simp [keep, found, and_comm]
  exact congrArg Table.entries same

theorem canonicalItems_eq (items : List Json) : canonicalItems items = items.map canonical := by
  induction items with
  | nil => rfl
  | cons item rest inductionHypothesis => rw [canonicalItems, List.map_cons, inductionHypothesis]

def canonicalMember (key : String) (value : Json) : Json :=
  if key = "type" then respelled value
  else if key = "filter" ∨ key = "filters" then canonical value
  else value

theorem canonicalMembers_eq (members : List (String × Json)) : canonicalMembers members =
    members.map fun entry => (entry.1, canonicalMember entry.1 entry.2) := by
  induction members with
  | nil => rfl
  | cons entry rest inductionHypothesis =>
    rw [canonicalMembers, List.map_cons, inductionHypothesis]
    rfl

section

variable {members : List (String × Json)} {tag : Tag}

theorem canonical_object (isTag : tag? members = some tag) :
    canonical (.object members) = .object (keep tag.memberNames (canonicalMembers members)) := by
  rw [canonical, isTag]

theorem lookup_canonicalMembers (members : List (String × Json)) (name : String) :
    (canonicalMembers members).lookup name = (members.lookup name).map (canonicalMember name) := by
  rw [canonicalMembers_eq, Table.lookup_map_entries]

theorem lookup_kept {name : String} (isKept : name ∈ tag.memberNames) :
    (keep tag.memberNames (canonicalMembers members)).lookup name =
      (members.lookup name).map (canonicalMember name) := by
  rw [lookup_keep, if_pos isKept, lookup_canonicalMembers]

theorem lookup_type_canonicalMembers (isTag : tag? members = some tag) :
    (canonicalMembers members).lookup "type" = some (.text tag.text) := by
  obtain ⟨text, hasTag, written⟩ := tag?_eq_some_iff.1 isTag
  rw [lookup_canonicalMembers, hasTag, ← Tag.spelling_of_isWritten written]
  rfl

theorem tag?_canonical (isTag : tag? members = some tag) :
    tag? (keep tag.memberNames (canonicalMembers members)) = some tag := by
  have isKept : "type" ∈ tag.memberNames := by cases tag <;> simp [Tag.memberNames]
  rw [tag?, lookup_keep, if_pos isKept, lookup_type_canonicalMembers isTag]
  exact tag.ofText?_text

end

theorem canonical_eq_array_iff {value : Json} {items : List Json} : canonical value = .array items ↔
    ∃ found, value = .array found ∧ found.map canonical = items := by
  cases value with
  | array found => simp [canonical, canonicalItems_eq]
  | object members =>
    rw [canonical]
    cases tag? members <;> simp
  | _ => simp [canonical]

theorem canonicalMember_canonicalMember {name : String} {value : Json} (notType : name ≠ "type")
    (again : canonical (canonical value) = canonical value) :
    canonicalMember name (canonicalMember name value) = canonicalMember name value := by
  simp only [canonicalMember, if_neg notType]
  split
  · exact again
  · rfl

theorem canonical_canonical (value : Json) : canonical (canonical value) = canonical value := by
  induction value with
  | array items each =>
    rw [canonical, canonical, canonicalItems_eq, canonicalItems_eq, List.map_map]
    exact congrArg Json.array (List.map_congr_left each)
  | object members each =>
    cases isTag : tag? members with
    | none => simp only [canonical, isTag]
    | some tag =>
      rw [canonical_object isTag, canonical_object (tag?_canonical isTag)]
      congr 1
      apply keep_congr
      intro name isKept
      rw [lookup_canonicalMembers, lookup_keep, if_pos isKept]
      by_cases isType : name = "type"
      · rw [isType, lookup_type_canonicalMembers isTag, Option.map_some]
        have isWritten := Tag.isWritten_of_ofText? tag.ofText?_text
        exact congrArg (some ∘ Json.text) (Tag.spelling_of_isWritten isWritten)
      · rw [lookup_canonicalMembers]
        cases found : members.lookup name with
        | none => rfl
        | some value =>
          have again := each _ (mem_of_lookup_eq_some found)
          exact congrArg some (canonicalMember_canonicalMember isType again)
  | _ => rfl

/-! ## What is read of a canonical form -/

theorem toJson_eq_canonical {value : Json} {tree : Filter} (read : ofJson value = .ok tree) :
    tree.toJson = canonical value := by
  induction value using formInduction generalizing tree with
  | object members inner each =>
    obtain ⟨tag, isTag, reads⟩ := ofJson_object_eq_ok_iff.1 read
    have hasTag := lookup_type_canonicalMembers isTag
    rw [canonical_object isTag]
    cases tag with
    | connective kind =>
      obtain ⟨items, trees, hasMembers, isTrees, rfl⟩ := reads
      have same : trees.map toJson = items.map canonical :=
        Outcome.map_eq_map_of_mapM isTrees fun item isItem _ _ =>
          each items hasMembers item isItem
      have isMembers : (canonicalMembers members).lookup "filters" =
          some (.array (trees.map toJson)) := by
        rw [lookup_canonicalMembers, hasMembers, same, ← canonicalItems_eq]
        rfl
      simp [toJson, toItems_eq, keep, Tag.memberNames, isMembers, hasTag, Tag.text]
    | negation =>
      obtain ⟨form, found, hasInner, isFound, rfl⟩ := reads
      have isInner : (canonicalMembers members).lookup "filter" = some found.toJson := by
        rw [lookup_canonicalMembers, hasInner, inner form hasInner isFound]
        rfl
      simp [toJson, keep, Tag.memberNames, isInner, hasTag, Tag.text]
    | operator kind =>
      obtain ⟨property, operand, hasProperty, hasValue, rfl⟩ := reads
      have isProperty : (canonicalMembers members).lookup "property" = some (.text property) := by
        rw [lookup_canonicalMembers, hasProperty]
        rfl
      have isValue : (canonicalMembers members).lookup "value" = some operand.toJson := by
        rw [lookup_canonicalMembers, hasValue]
        rfl
      simp [toJson, Comparison.toJson, keep, Tag.memberNames, isProperty, isValue, hasTag, Tag.text]
  | other value noObject => cases value <;> simp_all [ofJson]

section

variable {members : List (String × Json)} {tree : Filter}

theorem reads_connective_kept_iff {kind : Connective}
    (each : ∀ items, members.lookup "filters" = some (.array items) → ∀ item ∈ items,
      ∀ found, ofJson (canonical item) = .ok found ↔ ofJson item = .ok found) :
    (Tag.connective kind).Reads
        (keep (Tag.connective kind).memberNames (canonicalMembers members)) tree ↔
      (Tag.connective kind).Reads members tree := by
  have sameTrees {items : List Json} (hasMembers : members.lookup "filters" = some (.array items))
      (trees : List Filter) :
      (items.map canonical).mapM ofJson = .ok trees ↔ items.mapM ofJson = .ok trees := by
    rw [List.mapM_map]
    exact Outcome.mapM_eq_ok_congr fun item isItem found _ =>
      each items hasMembers item isItem found
  have isKept : "filters" ∈ (Tag.connective kind).memberNames := by simp [Tag.memberNames]
  simp only [Tag.Reads, lookup_kept isKept]
  constructor
  · rintro ⟨forms, trees, hasForms, isTrees, rfl⟩
    obtain ⟨form, hasForm, isArray⟩ := Option.map_eq_some_iff.1 hasForms
    obtain ⟨items, rfl, rfl⟩ := canonical_eq_array_iff.1 isArray
    exact ⟨items, trees, hasForm, (sameTrees hasForm trees).1 isTrees, rfl⟩
  · rintro ⟨items, trees, hasMembers, isTrees, rfl⟩
    refine ⟨items.map canonical, trees, ?_, (sameTrees hasMembers trees).2 isTrees, rfl⟩
    rw [hasMembers, ← canonicalItems_eq]
    rfl

theorem reads_negation_kept_iff
    (each : ∀ inner, members.lookup "filter" = some inner →
      ∀ found, ofJson (canonical inner) = .ok found ↔ ofJson inner = .ok found) :
    Tag.negation.Reads (keep Tag.negation.memberNames (canonicalMembers members)) tree ↔
      Tag.negation.Reads members tree := by
  have isKept : "filter" ∈ Tag.negation.memberNames := by simp [Tag.memberNames]
  simp only [Tag.Reads, lookup_kept isKept]
  constructor
  · rintro ⟨form, found, hasForm, isFound, rfl⟩
    obtain ⟨inner, hasInner, rfl⟩ := Option.map_eq_some_iff.1 hasForm
    exact ⟨inner, found, hasInner, (each inner hasInner found).1 isFound, rfl⟩
  · rintro ⟨inner, found, hasInner, isFound, rfl⟩
    refine ⟨canonical inner, found, ?_, (each inner hasInner found).2 isFound, rfl⟩
    rw [hasInner]
    rfl

theorem reads_operator_kept_iff {kind : Operator} :
    (Tag.operator kind).Reads (keep (Tag.operator kind).memberNames (canonicalMembers members))
        tree ↔ (Tag.operator kind).Reads members tree := by
  have isKept : "property" ∈ (Tag.operator kind).memberNames ∧
      "value" ∈ (Tag.operator kind).memberNames := by
    simp [Tag.memberNames]
  have isSame : canonicalMember "property" = id ∧ canonicalMember "value" = id := ⟨rfl, rfl⟩
  simp only [Tag.Reads, lookup_kept isKept.1, lookup_kept isKept.2, isSame, Option.map_id_fun, id]

end

/-- A value and its canonical form are read as the same filter, or both as none. -/
theorem ofJson_canonical_eq_ok_iff {value : Json} {tree : Filter} :
    ofJson (canonical value) = .ok tree ↔ ofJson value = .ok tree := by
  induction value using formInduction generalizing tree with
  | object members inner each =>
    cases isTag : tag? members with
    | none => rw [canonical, isTag]
    | some tag =>
      simp only [canonical_object isTag, ofJson_object_eq_ok_iff, tag?_canonical isTag, isTag,
        Option.some.injEq, exists_eq_left']
      cases tag with
      | connective kind =>
        exact reads_connective_kept_iff fun items hasMembers item isItem _ =>
          each items hasMembers item isItem
      | negation => exact reads_negation_kept_iff fun form hasInner _ => inner form hasInner
      | operator kind => exact reads_operator_kept_iff
  | other value noObject => cases value <;> simp_all [ofJson, canonical]

/-- A JSON value is read as a filter just if it is of the grammar; any other one is an invalid
predicate. What is read, written again, is the canonical form of the value, which is read as the
same filter and is its own canonical form. Of the members of an object it has those that the tag
asks for. -/
theorem json_form_canonical (value : Json) :
    ((∃ tree, ofJson value = .ok tree) ↔ Acceptable value) ∧
      (¬ Acceptable value ↔ ∃ fault, ofJson value = .error fault ∧
        (Failure.filter fault).kind = "invalid_predicate") ∧
      (∀ tree, ofJson value = .ok tree → tree.toJson = canonical value) ∧
      (∀ tree, ofJson (canonical value) = .ok tree ↔ ofJson value = .ok tree) ∧
      canonical (canonical value) = canonical value ∧
      ∀ (tag : Tag) (members : List (String × Json)), Ascending members →
        keep tag.memberNames members = members.filter fun entry => entry.1 ∈ tag.memberNames := by
  refine ⟨exists_ofJson_eq_ok_iff, ?_, fun _ => toJson_eq_canonical,
    fun _ => ofJson_canonical_eq_ok_iff, canonical_canonical value, fun tag members => ?_⟩
  · rw [← exists_ofJson_eq_ok_iff]
    cases ofJson value with
    | ok tree => simp
    | error fault => simp [Failure.kind]
  · have namesAscending : tag.memberNames.Pairwise (· < ·) := by
      cases tag <;> simp only [Tag.memberNames] <;> decide
    exact keep_eq_filter namesAscending

/-- A filter written with its words in small letters, an alias and a member that is passed over. -/
def looseForm : Json :=
  .object [("comment", .null), ("filters", .array [.object [("filter", .object
      [("property", .text "a"), ("type", .text "!="), ("value", .array [.natural 1])]),
    ("type", .text "Not")]]), ("type", .text "oR")]

theorem json_form_canonical_loose :
    let tree : Filter := .any [.negation (.compare .notEquals "a" (.list [.number (.integer 1)]))]
    ofJson looseForm = .ok tree ∧ tree.toJson = canonical looseForm :=
  have read : ofJson looseForm = .ok _ := by rfl
  ⟨read, (json_form_canonical looseForm).2.2.1 _ read⟩

end Filter

end Metacard
