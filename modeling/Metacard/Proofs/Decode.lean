import Metacard.Decode
import Metacard.Proofs.Outcome
import Metacard.Proofs.Table
/-!
# Records, lists and tables read back

A record is read from the members of an object when each of its fields is read from the member with
its name. Lists and tables that were written item by item are read item by item.
-/

set_option autoImplicit false

namespace Metacard

namespace Fields

variable {α β : Type}

/-- The fields are read from the members as the value; every member passes the check. -/
structure Reads (fields : Fields α) (members : List (String × Json)) (value : α) : Prop where
  checks : ∀ entry ∈ members, fields.check entry.1 entry.2 = .ok ()
  made : fields.ofMembers members = .ok value

theorem checkAll_of_checks {fields : Fields α} {members : List (String × Json)}
    (checks : ∀ entry ∈ members, fields.check entry.1 entry.2 = .ok ()) :
    fields.checkAll members = .ok () := by
  induction members with
  | nil => rfl
  | cons entry rest inductionHypothesis =>
    obtain ⟨first, others⟩ := List.forall_mem_cons.1 checks
    rw [checkAll, first]
    exact inductionHypothesis others

theorem ofObject_of_reads {fields : Fields α} {members : List (String × Json)} {value : α}
    (reads : fields.Reads members value) : fields.ofObject members = .ok value := by
  rw [ofObject, checkAll_of_checks reads.checks, ← reads.made]
  rfl

theorem decode_of_reads {fields : Fields α} {members : List (String × Json)} {value : α}
    (reads : fields.Reads members value) (record : String) (reading : Reading) :
    fields.decode record reading (.object members) = .ok value :=
  ofObject_of_reads reads

theorem reads_pure (value : α) (members : List (String × Json)) :
    (pure value : Fields α).Reads members value where
  checks := fun _ _ => rfl
  made := rfl

theorem Reads.seq {functions : Fields (α → β)} {arguments : Fields α}
    {members : List (String × Json)} {function : α → β} {argument : α}
    (left : functions.Reads members function) (right : arguments.Reads members argument) :
    (functions <*> arguments).Reads members (function argument) where
  checks := by
    intro entry member
    have leftChecks := left.checks entry member
    have rightChecks := right.checks entry member
    change (functions.check entry.1 entry.2 >>= fun _ => arguments.check entry.1 entry.2) = _
    rw [leftChecks]
    exact rightChecks
  made := by
    change (functions.ofMembers members >>= fun function =>
      arguments.ofMembers members >>= fun argument => .ok (function argument)) = _
    rw [left.made, right.made]
    rfl

theorem Reads.map {fields : Fields α} {members : List (String × Json)} {value : α}
    (reads : fields.Reads members value) (f : α → β) : (f <$> fields).Reads members (f value) :=
  (reads_pure f members).seq reads

section

variable {members : List (String × Json)} {name : String} {decoder : Decoder α} {found : Json}
  {value : α}

theorem reads_member (ascending : Ascending members) (isMember : members.lookup name = some found)
    (decoded : decoder found = .ok value) (ifMissing ifEnded : Option α) :
    (member name decoder ifMissing ifEnded).Reads members value where
  checks := by
    rintro ⟨key, other⟩ isEntry
    by_cases same : key = name
    · have isFound := lookup_eq_some_of_mem ascending isEntry
      rw [same, isMember] at isFound
      obtain rfl := Option.some.inj isFound
      simp [member, same, decoded, Except.map]
    · simp [member, same]
  made := by
    simp [member, isMember, decoded]

theorem reads_required (ascending : Ascending members)
    (isMember : members.lookup name = some found) (decoded : decoder found = .ok value) :
    (required name decoder).Reads members value :=
  reads_member ascending isMember decoded _ _

theorem reads_defaulted (ascending : Ascending members)
    (isMember : members.lookup name = some found) (decoded : decoder found = .ok value)
    (otherwise : α) : (defaulted name decoder otherwise).Reads members value :=
  reads_member ascending isMember decoded _ _

theorem nullable_of_not_null (notNull : found ≠ .null) (decoded : decoder found = .ok value) :
    Decode.nullable decoder found = .ok (some value) := by
  cases found <;> simp_all [Decode.nullable, Except.map]

theorem reads_optional (ascending : Ascending members)
    (isMember : members.lookup name = some found) (notNull : found ≠ .null)
    (decoded : decoder found = .ok value) : (optional name decoder).Reads members (some value) :=
  reads_member ascending isMember (nullable_of_not_null notNull decoded) _ _

theorem reads_optionalDefaulted (ascending : Ascending members)
    (isMember : members.lookup name = some found) (notNull : found ≠ .null)
    (decoded : decoder found = .ok value) :
    (optionalDefaulted name decoder).Reads members (some value) :=
  reads_defaulted ascending isMember (nullable_of_not_null notNull decoded) _

theorem reads_missing (isMissing : members.lookup name = none) (ifEnded : Option α) :
    (member name decoder (some value) ifEnded).Reads members value where
  checks := by
    rintro ⟨key, other⟩ isEntry
    have differs : key ≠ name := by
      have notName := List.lookup_eq_none_iff.1 isMissing _ isEntry
      exact (bne_iff_ne.1 notName).symm
    simp [member, differs]
  made := by
    simp [member, isMissing]

theorem reads_optionalDefaulted_missing (isMissing : members.lookup name = none) :
    (optionalDefaulted name decoder).Reads members none := by
  unfold optionalDefaulted defaulted
  exact reads_missing isMissing _

end

/-! ## What a record is made of -/

section

variable {members : List (String × Json)} {items rest : List Json} {short : Nat → DataFault}
  {place : Nat} {name : String} {decoder : Decoder α}

theorem ofMembers_seq_iff {functions : Fields (α → β)} {arguments : Fields α} {value : β} :
    (functions <*> arguments).ofMembers members = .ok value ↔
      ∃ function, functions.ofMembers members = .ok function ∧
        ∃ argument, arguments.ofMembers members = .ok argument ∧ function argument = value := by
  change (functions.ofMembers members >>= fun function =>
    arguments.ofMembers members >>= fun argument => .ok (function argument)) = .ok value ↔ _
  simp only [Outcome.bind_eq_ok_iff, Except.ok.injEq]

theorem ofMembers_map_iff {fields : Fields α} {f : α → β} {value : β} :
    (f <$> fields).ofMembers members = .ok value ↔
      ∃ argument, fields.ofMembers members = .ok argument ∧ f argument = value := by
  change (pure f <*> fields : Fields β).ofMembers members = _ ↔ _
  rw [ofMembers_seq_iff]
  constructor
  · rintro ⟨_, same, found⟩
    obtain rfl := Except.ok.inj same
    exact found
  · exact fun found => ⟨f, rfl, found⟩

theorem ofMembers_required_iff {value : α} :
    (required name decoder).ofMembers members = .ok value ↔
      ∃ found, members.lookup name = some found ∧ decoder found = .ok value := by
  cases isMember : members.lookup name <;> simp [required, member, isMember]

theorem ofMembers_defaulted_iff {value otherwise : α} :
    (defaulted name decoder otherwise).ofMembers members = .ok value ↔
      (∃ found, members.lookup name = some found ∧ decoder found = .ok value) ∨
        members.lookup name = none ∧ value = otherwise := by
  cases isMember : members.lookup name <;> simp [defaulted, member, isMember, eq_comm]

theorem ofItems_seq_iff {functions : Fields (α → β)} {arguments : Fields α} {value : β} :
    (functions <*> arguments).ofItems short place items = .ok (value, rest) ↔
      ∃ function between, functions.ofItems short place items = .ok (function, between) ∧
        ∃ argument, arguments.ofItems short (place + functions.size) between =
          .ok (argument, rest) ∧ function argument = value := by
  change (functions.ofItems short place items >>= fun read =>
    arguments.ofItems short (place + functions.size) read.2 >>= fun later =>
      .ok (read.1 later.1, later.2)) = .ok (value, rest) ↔ _
  simp only [Outcome.bind_eq_ok_iff, Prod.exists, Except.ok.injEq, Prod.mk.injEq]
  simp

theorem ofItems_map_iff {fields : Fields α} {f : α → β} {value : β} :
    (f <$> fields).ofItems short place items = .ok (value, rest) ↔
      ∃ argument, fields.ofItems short place items = .ok (argument, rest) ∧
        f argument = value := by
  change (pure f <*> fields : Fields β).ofItems short place items = _ ↔ _
  rw [ofItems_seq_iff]
  constructor
  · rintro ⟨_, _, same, found⟩
    obtain ⟨rfl, rfl⟩ := Prod.mk.inj (Except.ok.inj same)
    exact found
  · exact fun found => ⟨f, items, rfl, found⟩

theorem ofItems_required_iff {value : α} :
    (required name decoder).ofItems short place items = .ok (value, rest) ↔
      ∃ found, items = found :: rest ∧ decoder found = .ok value := by
  cases items with
  | nil => simp [required, member]
  | cons item others => simp [required, member, Outcome.map_eq_ok_iff, and_comm]

theorem ofItems_defaulted_iff {value otherwise : α} :
    (defaulted name decoder otherwise).ofItems short place items = .ok (value, rest) ↔
      (∃ found, items = found :: rest ∧ decoder found = .ok value) ∨
        items = [] ∧ rest = [] ∧ value = otherwise := by
  cases items with
  | nil => simp [defaulted, member, eq_comm, and_comm]
  | cons item others => simp [defaulted, member, Outcome.map_eq_ok_iff, and_comm]

theorem check_member_iff {ifMissing ifEnded : Option α} {key : String} {found : Json} :
    (member name decoder ifMissing ifEnded).check key found = .ok () ↔
      key = name → ∃ value, decoder found = .ok value := by
  by_cases same : key = name <;> simp [member, same, Outcome.map_eq_ok_iff]

theorem check_seq_iff {functions : Fields (α → β)} {arguments : Fields α} {key : String}
    {found : Json} : (functions <*> arguments).check key found = .ok () ↔
      functions.check key found = .ok () ∧ arguments.check key found = .ok () := by
  change (functions.check key found >>= fun _ => arguments.check key found) = _ ↔ _
  rw [Outcome.bind_eq_ok_iff]
  exact ⟨fun ⟨_, left, right⟩ => ⟨left, right⟩, fun ⟨left, right⟩ => ⟨(), left, right⟩⟩

theorem check_map_iff {fields : Fields α} {f : α → β} {key : String} {found : Json} :
    (f <$> fields).check key found = .ok () ↔ fields.check key found = .ok () := by
  change (pure f <*> fields : Fields β).check key found = _ ↔ _
  rw [check_seq_iff]
  exact and_iff_right rfl

end

def IsChecked (fields : Fields α) : Prop :=
  ∀ ⦃members value⦄, fields.ofMembers members = .ok value →
    ∀ ⦃key found⦄, members.lookup key = some found → fields.check key found = .ok ()

theorem isChecked_member (name : String) (decoder : Decoder α) (ifMissing ifEnded : Option α) :
    (member name decoder ifMissing ifEnded).IsChecked := by
  intro members value made key found isMember
  by_cases same : key = name
  · subst same
    simp only [member, isMember] at made
    simp [member, made, Except.map]
  · simp [member, same]

theorem IsChecked.seq {functions : Fields (α → β)} {arguments : Fields α}
    (left : functions.IsChecked) (right : arguments.IsChecked) :
    (functions <*> arguments).IsChecked := by
  intro members value made key found isMember
  obtain ⟨function, isFunction, argument, isArgument, -⟩ := ofMembers_seq_iff.1 made
  change (functions.check key found >>= fun _ => arguments.check key found) = _
  rw [left isFunction isMember]
  exact right isArgument isMember

theorem IsChecked.map {fields : Fields α} (isChecked : fields.IsChecked) (f : α → β) :
    (f <$> fields).IsChecked :=
  IsChecked.seq (fun _ _ _ _ _ _ => rfl) isChecked

theorem checkAll_eq_ok_iff {fields : Fields α} {members : List (String × Json)} :
    fields.checkAll members = .ok () ↔
      ∀ entry ∈ members, fields.check entry.1 entry.2 = .ok () := by
  refine ⟨fun passes => ?_, checkAll_of_checks⟩
  induction members with
  | nil => exact List.forall_mem_nil _
  | cons entry rest inductionHypothesis =>
    rw [checkAll] at passes
    obtain ⟨_, first, others⟩ := Outcome.bind_eq_ok passes
    exact List.forall_mem_cons.2 ⟨first, inductionHypothesis others⟩

theorem ofObject_eq_ok_iff {fields : Fields α} (isChecked : fields.IsChecked)
    {members : List (String × Json)} (distinct : (members.map Prod.fst).Nodup) {value : α} :
    fields.ofObject members = .ok value ↔ fields.ofMembers members = .ok value := by
  constructor
  · intro read
    obtain ⟨_, -, made⟩ := Outcome.bind_eq_ok read
    exact made
  · intro made
    refine ofObject_of_reads ⟨fun entry isEntry => ?_, made⟩
    exact isChecked made ((lookup_eq_some_iff_of_nodup distinct).2 isEntry)

end Fields

namespace Decode

variable {α : Type}

theorem natural_natural (n : Nat) : natural (.natural n) = .ok n := by
  have notNegative : ¬ (n : Int) < 0 := by omega
  simp [Json.natural, natural, notNegative]

theorem items_eq (decoder : Decoder α) (found : List Json) :
    items decoder found = found.mapM decoder := by
  induction found with
  | nil => rfl
  | cons item rest inductionHypothesis =>
    rw [items, List.mapM_cons, inductionHypothesis]
    rfl

theorem list_map_of_mem {β : Type} {decoder : Decoder α} {toJson : β → Json} {read : β → α}
    {found : List β} (readBack : ∀ item ∈ found, decoder (toJson item) = .ok (read item)) :
    list decoder (.array (found.map toJson)) = .ok (found.map read) := by
  rw [list, items_eq, Outcome.mapM_map_eq_ok readBack]

theorem list_map {β : Type} {decoder : Decoder α} {toJson : β → Json} {read : β → α}
    (readBack : ∀ item, decoder (toJson item) = .ok (read item)) (found : List β) :
    list decoder (.array (found.map toJson)) = .ok (found.map read) :=
  list_map_of_mem fun item _ => readBack item

theorem text_eq_ok_iff {found : Json} {value : String} :
    text found = .ok value ↔ found = .text value := by
  cases found <;> simp [text]

theorem boolean_eq_ok_iff {found : Json} {value : Bool} :
    boolean found = .ok value ↔ found = .boolean value := by
  cases found <;> simp [boolean]

theorem list_eq_ok_iff {decoder : Decoder α} {found : Json} {values : List α} :
    list decoder found = .ok values ↔ ∃ items, found = .array items ∧
      List.Forall₂ (fun item value => decoder item = .ok value) items values := by
  cases found with
  | null | boolean | number | text | object => simp [list]
  | array items =>
    rw [list, items_eq, Outcome.mapM_eq_ok_iff]
    simp

theorem texts_eq_ok_iff {found : Json} {values : List String} :
    list text found = .ok values ↔ found = .array (values.map .text) := by
  have each (items : List Json) : List.Forall₂ (fun item value => text item = .ok value)
      items values ↔ items = values.map .text := by
    simp only [text_eq_ok_iff, Outcome.forall₂_eq_map_iff]
  simp [list_eq_ok_iff, each]

theorem entries_eq (decoder : Decoder α) (members : List (String × Json)) :
    entries decoder members =
      members.mapM fun entry => (decoder entry.2).map fun value => (entry.1, value) := by
  induction members with
  | nil => rfl
  | cons entry rest inductionHypothesis =>
    rw [entries, List.mapM_cons, inductionHypothesis]
    cases decoder entry.2 <;> rfl

theorem table_eq_ok_iff {decoder : Decoder α} {found : Json} {values : Table α} :
    table decoder found = .ok values ↔ ∃ members entries, found = .object members ∧
      List.Forall₂ (fun member entry => member.1 = entry.1 ∧ decoder member.2 = .ok entry.2)
        members entries ∧ values = .ofList entries := by
  cases found with
  | null | boolean | number | text | array => simp [table]
  | object members =>
    have each (member : String × Json) (entry : String × α) :
        (decoder member.2).map (fun value => (member.1, value)) = .ok entry ↔
          member.1 = entry.1 ∧ decoder member.2 = .ok entry.2 := by
      rw [Outcome.map_eq_ok_iff]
      constructor
      · rintro ⟨value, decoded, rfl⟩
        exact ⟨rfl, decoded⟩
      · rintro ⟨sameKey, decoded⟩
        exact ⟨entry.2, decoded, Prod.ext sameKey rfl⟩
    rw [table, entries_eq, Outcome.map_eq_ok_iff]
    simp only [Outcome.mapM_eq_ok_iff, each]
    simp [eq_comm]

theorem table_map {decoder : Decoder α} {toJson : α → Json}
    (readBack : ∀ value, decoder (toJson value) = .ok value) (found : Table α) :
    table decoder (.ofTable (found.map toJson)) = .ok found := by
  have read : entries decoder (found.map toJson).entries = .ok (found.entries.map id) := by
    rw [entries_eq]
    apply Outcome.mapM_map_eq_ok
    intro entry _
    rw [readBack entry.2]
    rfl
  rw [Json.ofTable, table, read, Except.map, List.map_id, Table.ofList_entries]

end Decode

end Metacard
