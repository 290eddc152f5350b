import Mathlib.Data.Finset.Card
import Metacard.Table
/-!
# What tables hold

A table holds just the entries that are found under their keys. Entries that are put into a table
one after the other are found there unless a later one has the same key.
-/

set_option autoImplicit false

namespace Metacard

universe u v

variable {α : Type u} {β : Type v}

theorem ascending_of_keys {entries : List (String × α)}
    (keys : (entries.map Prod.fst).Pairwise (· < ·)) : Ascending entries :=
  List.pairwise_map.1 keys

theorem lookup_eq_some_of_mem {entries : List (String × α)} (ascending : Ascending entries)
    {entry : String × α} (member : entry ∈ entries) :
    entries.lookup entry.1 = some entry.2 := by
  induction entries with
  | nil => exact nomatch member
  | cons head rest inductionHypothesis =>
    obtain ⟨below, restAscending⟩ := List.pairwise_cons.1 ascending
    rcases List.mem_cons.1 member with rfl | member
    · exact List.lookup_cons_self
    · have differs : entry.1 ≠ head.1 := fun same =>
        String.lt_irrefl head.1 (same ▸ below entry member)
      rw [List.lookup_cons, beq_false_of_ne differs]
      exact inductionHypothesis restAscending member

theorem mem_of_lookup_eq_some {entries : List (String × α)} {key : String} {value : α}
    (found : entries.lookup key = some value) : (key, value) ∈ entries := by
  obtain ⟨before, after, rfl, _⟩ := List.lookup_eq_some_iff.1 found
  exact List.mem_append_right before List.mem_cons_self

theorem lookup_eq_some_iff_of_nodup {entries : List (String × α)}
    (distinct : (entries.map Prod.fst).Nodup) {key : String} {value : α} :
    entries.lookup key = some value ↔ (key, value) ∈ entries := by
  refine ⟨mem_of_lookup_eq_some, fun member => ?_⟩
  induction entries with
  | nil => exact nomatch member
  | cons head rest inductionHypothesis =>
    obtain ⟨isNew, restDistinct⟩ := List.nodup_cons.1 distinct
    rcases List.mem_cons.1 member with rfl | member
    · exact List.lookup_cons_self
    · have differs : key ≠ head.1 := fun same => isNew (same ▸ List.mem_map_of_mem member)
      rw [List.lookup_cons, beq_false_of_ne differs]
      exact inductionHypothesis restDistinct member

theorem lookup_filter_key (keep : String → Bool) (entries : List (String × α)) (key : String) :
    (entries.filter fun entry => keep entry.1).lookup key =
      if keep key then entries.lookup key else none := by
  induction entries with
  | nil => exact (ite_self none).symm
  | cons head rest inductionHypothesis =>
    rw [List.filter_cons]
    by_cases same : key = head.1
    · subst same
      cases kept : keep head.1 with
      | false => simpa [kept] using inductionHypothesis
      | true => rw [if_pos rfl, if_pos rfl, List.lookup_cons, List.lookup_cons, beq_self_eq_true]
    · have skipped : ∀ others, (head :: others).lookup key = others.lookup key := fun others => by
        rw [List.lookup_cons, beq_false_of_ne same]
      rw [skipped, ← inductionHypothesis]
      split
      · exact skipped _
      · rfl

theorem lookup_reverse {entries : List (String × α)} (ascending : Ascending entries)
    (key : String) : entries.reverse.lookup key = entries.lookup key := by
  induction entries with
  | nil => rfl
  | cons head rest inductionHypothesis =>
    obtain ⟨below, restAscending⟩ := List.pairwise_cons.1 ascending
    rw [List.reverse_cons, List.lookup_append, inductionHypothesis restAscending]
    by_cases same : key = head.1
    · have absent : rest.lookup key = none := by
        apply List.lookup_eq_none_iff.2
        intro entry member
        have differs : key ≠ entry.1 := by
          intro equal
          have less := below entry member
          rw [← same, equal] at less
          exact String.lt_irrefl entry.1 less
        exact bne_iff_ne.2 differs
      rw [absent, Option.none_or, List.lookup_cons, List.lookup_cons, same, beq_self_eq_true]
    · rw [List.lookup_cons, List.lookup_cons, beq_false_of_ne same, List.lookup_nil,
        Option.or_none]

theorem nodup_of_ascending {entries : List (String × α)} (ascending : Ascending entries) :
    entries.Nodup := by
  apply ascending.imp
  intro left right less same
  exact String.lt_irrefl _ (same ▸ less)

namespace Table

theorem mem_entries_iff {table : Table α} {key : String} {value : α} :
    (key, value) ∈ table.entries ↔ table.find? key = some value := by
  constructor
  · intro member
    exact lookup_eq_some_of_mem table.ascending member
  · intro found
    exact mem_of_lookup_eq_some found

theorem mem_keys_iff {table : Table α} {key : String} :
    key ∈ table.keys ↔ ∃ value, table.find? key = some value := by
  constructor
  · intro member
    obtain ⟨entry, isEntry, rfl⟩ := List.mem_map.1 member
    exact ⟨entry.2, mem_entries_iff.1 isEntry⟩
  · rintro ⟨value, found⟩
    exact List.mem_map.2 ⟨(key, value), mem_entries_iff.2 found, rfl⟩

theorem nodup_keys (table : Table α) : table.keys.Nodup := by
  rw [keys, List.Nodup, List.pairwise_map]
  apply table.ascending.imp
  intro left right less same
  exact String.lt_irrefl _ (same ▸ less)

theorem size_eq_card_keys (table : Table α) : table.size = table.keys.toFinset.card := by
  rw [List.toFinset_card_of_nodup table.nodup_keys, keys, List.length_map, size]

theorem mem_values_iff {table : Table α} {value : α} :
    value ∈ table.values ↔ ∃ key, table.find? key = some value := by
  constructor
  · intro member
    obtain ⟨entry, isEntry, rfl⟩ := List.mem_map.1 member
    exact ⟨entry.1, mem_entries_iff.1 isEntry⟩
  · rintro ⟨key, found⟩
    exact List.mem_map.2 ⟨(key, value), mem_entries_iff.2 found, rfl⟩

theorem find?_insertAll (table : Table α) (entries : List (String × α)) (key : String) :
    (table.insertAll entries).find? key = (entries.reverse.lookup key).or (table.find? key) := by
  induction entries generalizing table with
  | nil => rfl
  | cons entry rest inductionHypothesis =>
    have first : (table.insert entry.1 entry.2).find? key =
        ([entry].lookup key).or (table.find? key) := by
      by_cases same : key = entry.1
      · subst same
        rw [find?_insert_self, List.lookup_cons_self, Option.some_or]
      · rw [find?_insert_of_ne table entry.2 same, List.lookup_cons, beq_false_of_ne same,
          List.lookup_nil, Option.none_or]
    rw [List.reverse_cons, List.lookup_append, Option.or_assoc, ← first]
    exact inductionHypothesis (table.insert entry.1 entry.2)

theorem find?_ofList (entries : List (String × α)) (key : String) :
    (ofList entries).find? key = entries.reverse.lookup key := by
  rw [ofList, find?_insertAll, find?_empty, Option.or_none]

theorem mem_of_mem_ofList {entries : List (String × α)} {entry : String × α}
    (member : entry ∈ (ofList entries).entries) : entry ∈ entries := by
  have found := mem_entries_iff.1 member
  rw [find?_ofList] at found
  exact List.mem_reverse.1 (mem_of_lookup_eq_some found)

theorem mem_keys_ofList {entries : List (String × α)} {key : String} :
    key ∈ (ofList entries).keys ↔ ∃ value, (key, value) ∈ entries := by
  constructor
  · intro member
    obtain ⟨entry, isEntry, rfl⟩ := List.mem_map.1 member
    exact ⟨entry.2, mem_of_mem_ofList isEntry⟩
  · rintro ⟨value, member⟩
    apply mem_keys_iff.2
    rw [← Option.isSome_iff_exists, find?_ofList, List.lookup_isSome_iff]
    exact ⟨(key, value), List.mem_reverse.2 member, beq_self_eq_true key⟩

theorem ext_find? {left right : Table α} (same : ∀ key, left.find? key = right.find? key) :
    left = right := by
  have members : ∀ entry, entry ∈ left.entries ↔ entry ∈ right.entries := by
    rintro ⟨key, value⟩
    rw [mem_entries_iff, mem_entries_iff, same]
  have permuted : left.entries.Perm right.entries :=
    (List.perm_ext_iff_of_nodup (nodup_of_ascending left.ascending)
      (nodup_of_ascending right.ascending)).2 members
  apply ext
  apply List.Perm.eq_of_pairwise _ left.ascending right.ascending permuted
  intro first second _ _ below above
  exact absurd above (String.lt_asymm below)

@[simp]
theorem ofList_entries (table : Table α) : ofList table.entries = table := by
  apply ext_find?
  intro key
  rw [find?_ofList, lookup_reverse table.ascending, find?]

theorem ofList_of_perm {table : Table α} {entries : List (String × α)}
    (permuted : entries.Perm table.entries) : ofList entries = table := by
  have distinct : (entries.reverse.map Prod.fst).Nodup :=
    (((List.reverse_perm entries).trans permuted).map Prod.fst).nodup_iff.2 table.nodup_keys
  apply ext_find?
  intro key
  rw [find?_ofList]
  ext value
  rw [lookup_eq_some_iff_of_nodup distinct, List.mem_reverse, permuted.mem_iff, mem_entries_iff]

theorem insert_of_find? {table : Table α} {key : String} {value : α}
    (found : table.find? key = some value) : table.insert key value = table := by
  apply ext_find?
  intro other
  by_cases same : other = key
  · rw [same, find?_insert_self, found]
  · rw [find?_insert_of_ne table value same]

theorem find?_eq_none_iff {table : Table α} {key : String} :
    table.find? key = none ↔ key ∉ table.keys := by
  cases found : table.find? key <;> simp [mem_keys_iff, found]

theorem mem_keys_insert {table : Table α} {key other : String} {value : α} :
    other ∈ (table.insert key value).keys ↔ other = key ∨ other ∈ table.keys := by
  by_cases same : other = key
  · simp [mem_keys_iff, same]
  · simp [mem_keys_iff, same, find?_insert_of_ne table value same]

theorem isSome_find?_insert {table : Table α} {key other : String} {value : α} :
    ((table.insert key value).find? other).isSome ↔ key = other ∨ (table.find? other).isSome := by
  by_cases same : other = key
  · simp [same]
  · simp [find?_insert_of_ne table value same, Ne.symm same]

theorem size_insert (table : Table α) (key : String) (value : α) :
    (table.insert key value).size =
      if (table.find? key).isSome then table.size else table.size + 1 := by
  have keys : (table.insert key value).keys.toFinset = Insert.insert key table.keys.toFinset := by
    ext other
    simp only [List.mem_toFinset, Finset.mem_insert, mem_keys_insert]
  rw [size_eq_card_keys, keys, Finset.card_insert_eq_ite, size_eq_card_keys]
  cases found : table.find? key with
  | none => simp [find?_eq_none_iff.1 found]
  | some present => simp [mem_keys_iff, found]

theorem find?_erase_self (table : Table α) (key : String) : (table.erase key).find? key = none := by
  rw [find?_eq_none_iff, keys, erase]
  simp

theorem find?_erase_of_ne (table : Table α) {key other : String} (differs : other ≠ key) :
    (table.erase key).find? other = table.find? other := by
  have members : ∀ value, (other, value) ∈ (table.erase key).entries ↔
      (other, value) ∈ table.entries := by
    intro value
    simp [erase, differs]
  apply Option.ext
  intro value
  rw [← mem_entries_iff, ← mem_entries_iff, members]

theorem find?_foldl_erase (keys : List String) (table : Table α) (key : String) :
    (keys.foldl erase table).find? key = if key ∈ keys then none else table.find? key := by
  induction keys generalizing table with
  | nil => simp
  | cons first rest inductionHypothesis =>
    rw [List.foldl_cons, inductionHypothesis]
    by_cases same : key = first
    · simp [same, find?_erase_self]
    · simp [same, find?_erase_of_ne table same]

theorem lookup_map_entries (f : String → α → β) (entries : List (String × α)) (key : String) :
    (entries.map fun entry => (entry.1, f entry.1 entry.2)).lookup key =
      (entries.lookup key).map (f key) := by
  induction entries with
  | nil => rfl
  | cons entry rest inductionHypothesis =>
    rw [List.map_cons, List.lookup_cons, List.lookup_cons]
    by_cases same : key = entry.1
    · rw [same, beq_self_eq_true]
      rfl
    · rw [beq_false_of_ne same]
      exact inductionHypothesis

theorem lookup_map_values (f : α → β) (entries : List (String × α)) (key : String) :
    (entries.map fun entry => (entry.1, f entry.2)).lookup key = (entries.lookup key).map f :=
  lookup_map_entries (fun _ => f) entries key

theorem find?_map (f : α → β) (table : Table α) (key : String) :
    (table.map f).find? key = (table.find? key).map f :=
  lookup_map_values f table.entries key

@[simp]
theorem keys_map (f : α → β) (table : Table α) : (table.map f).keys = table.keys := by
  simp [keys, map, Function.comp_def]

theorem map_ofList (f : α → β) (entries : List (String × α)) :
    (ofList entries).map f = ofList (entries.map fun entry => (entry.1, f entry.2)) := by
  apply ext_find?
  intro key
  rw [find?_map, find?_ofList, find?_ofList, ← List.map_reverse, lookup_map_values]

/-! ## Renamed keys -/

/-- The entries put under new keys, one after the other. -/
def rekey (rename : String → String) (table : Table α) : Table α :=
  ofList (table.entries.map fun entry => (rename entry.1, entry.2))

structure Greatest (rename : String → String) (table : Table α) (name key : String) : Prop where
  member : key ∈ table.keys
  renamed : rename key = name
  greatest : ∀ other ∈ table.keys, rename other = name → other ≤ key

theorem lookup_map_rename {rename : String → String} {name : String}
    {entries : List (String × α)} (none : ∀ entry ∈ entries, rename entry.1 ≠ name) :
    (entries.map fun entry => (rename entry.1, entry.2)).lookup name = Option.none := by
  apply List.lookup_eq_none_iff.2
  intro entry member
  obtain ⟨old, isOld, rfl⟩ := List.mem_map.1 member
  exact bne_iff_ne.2 (none old isOld).symm

theorem find?_rekey_of_greatest {rename : String → String} {table : Table α} {name key : String}
    (greatest : Greatest rename table name key) :
    (table.rekey rename).find? name = table.find? key := by
  obtain ⟨value, found⟩ := mem_keys_iff.1 greatest.member
  obtain ⟨before, after, split⟩ := List.append_of_mem (mem_entries_iff.2 found)
  have later : ∀ entry ∈ after.reverse, rename entry.1 ≠ name := by
    intro entry member renamed
    have isAfter := List.mem_reverse.1 member
    have ascending := table.ascending
    rw [split] at ascending
    have less := (List.pairwise_cons.1 (List.pairwise_append.1 ascending).2.1).1 entry isAfter
    have isKey : entry.1 ∈ table.keys := by
      rw [keys, split]
      exact List.mem_map.2
        ⟨entry, List.mem_append_right _ (List.mem_cons_of_mem _ isAfter), rfl⟩
    exact String.not_lt.2 (greatest.greatest entry.1 isKey renamed) less
  rw [found, rekey, find?_ofList, ← List.map_reverse, split, List.reverse_append,
    List.reverse_cons, List.append_assoc, List.map_append, List.lookup_append,
    lookup_map_rename later, Option.none_or, List.singleton_append, List.map_cons,
    greatest.renamed, List.lookup_cons_self]

theorem exists_greatest_entry (rename : String → String) {name : String}
    {entries : List (String × α)} (ascending : Ascending entries) {entry : String × α}
    (member : entry ∈ entries) (renamed : rename entry.1 = name) :
    ∃ greatest ∈ entries, rename greatest.1 = name ∧
      ∀ other ∈ entries, rename other.1 = name → other.1 ≤ greatest.1 := by
  induction entries generalizing entry with
  | nil => exact nomatch member
  | cons head rest inductionHypothesis =>
    obtain ⟨below, restAscending⟩ := List.pairwise_cons.1 ascending
    by_cases later : ∃ other ∈ rest, rename other.1 = name
    · obtain ⟨other, isLater, otherRenamed⟩ := later
      obtain ⟨greatest, isEntry, greatestRenamed, above⟩ :=
        inductionHypothesis restAscending isLater otherRenamed
      refine ⟨greatest, List.mem_cons_of_mem _ isEntry, greatestRenamed, ?_⟩
      intro other isOther otherRenamed
      rcases List.mem_cons.1 isOther with rfl | isOther
      · exact String.not_lt.1 (String.lt_asymm (below greatest isEntry))
      · exact above other isOther otherRenamed
    · have isHead : ∀ other ∈ head :: rest, rename other.1 = name → other = head := by
        intro other isOther otherRenamed
        rcases List.mem_cons.1 isOther with same | isOther
        · exact same
        · exact absurd ⟨other, isOther, otherRenamed⟩ later
      obtain rfl := isHead entry member renamed
      refine ⟨entry, List.mem_cons_self, renamed, ?_⟩
      intro other isOther otherRenamed
      have same := isHead other isOther otherRenamed
      exact same ▸ String.le_refl other.1

theorem exists_greatest (rename : String → String) {table : Table α} {key : String}
    (member : key ∈ table.keys) : ∃ greatest, Greatest rename table (rename key) greatest := by
  obtain ⟨entry, isEntry, rfl⟩ := List.mem_map.1 member
  obtain ⟨greatest, isGreatest, renamed, above⟩ :=
    exists_greatest_entry rename table.ascending isEntry rfl
  refine ⟨greatest.1, List.mem_map.2 ⟨greatest, isGreatest, rfl⟩, renamed, ?_⟩
  intro other isKey otherRenamed
  obtain ⟨otherEntry, isOther, rfl⟩ := List.mem_map.1 isKey
  exact above otherEntry isOther otherRenamed

theorem mem_keys_rekey {rename : String → String} {table : Table α} {name : String} :
    name ∈ (table.rekey rename).keys ↔ ∃ key ∈ table.keys, rename key = name := by
  constructor
  · intro member
    obtain ⟨value, found⟩ := mem_keys_iff.1 member
    rw [rekey, find?_ofList] at found
    obtain ⟨entry, isEntry, renamed⟩ :=
      List.mem_map.1 (List.mem_reverse.1 (mem_of_lookup_eq_some found))
    exact ⟨entry.1, List.mem_map.2 ⟨entry, isEntry, rfl⟩, congrArg Prod.fst renamed⟩
  · rintro ⟨key, isKey, rfl⟩
    obtain ⟨greatest, isGreatest⟩ := exists_greatest rename isKey
    obtain ⟨value, found⟩ := mem_keys_iff.1 isGreatest.member
    exact mem_keys_iff.2 ⟨value, (find?_rekey_of_greatest isGreatest).trans found⟩

theorem find?_rekey_eq_some_iff {rename : String → String} {table : Table α} {name : String}
    {value : α} : (table.rekey rename).find? name = some value ↔
      ∃ key, Greatest rename table name key ∧ table.find? key = some value := by
  constructor
  · intro found
    obtain ⟨key, isKey, rfl⟩ := mem_keys_rekey.1 (mem_keys_iff.2 ⟨value, found⟩)
    obtain ⟨greatest, isGreatest⟩ := exists_greatest rename isKey
    exact ⟨greatest, isGreatest, (find?_rekey_of_greatest isGreatest).symm.trans found⟩
  · rintro ⟨key, isGreatest, found⟩
    exact (find?_rekey_of_greatest isGreatest).trans found

theorem find?_rekey_of_alone {rename : String → String} {table : Table α} {key : String}
    (alone : ∀ other ∈ table.keys, rename other = rename key → other = key) :
    (table.rekey rename).find? (rename key) = table.find? key := by
  by_cases isKey : key ∈ table.keys
  · apply find?_rekey_of_greatest
    refine ⟨isKey, rfl, fun other isOther renamed => ?_⟩
    exact alone other isOther renamed ▸ String.le_refl other
  · have absent : rename key ∉ (table.rekey rename).keys := by
      intro member
      obtain ⟨other, isOther, renamed⟩ := mem_keys_rekey.1 member
      exact isKey (alone other isOther renamed ▸ isOther)
    rw [find?_eq_none_iff.2 isKey, find?_eq_none_iff.2 absent]

theorem size_rekey (rename : String → String) (table : Table α) :
    (table.rekey rename).size = (table.keys.toFinset.image rename).card := by
  have keys : (table.rekey rename).keys.toFinset = table.keys.toFinset.image rename := by
    ext name
    simp only [List.mem_toFinset, Finset.mem_image, mem_keys_rekey]
  rw [size_eq_card_keys, keys]

theorem size_rekey_of_injOn {rename : String → String} {table : Table α}
    (injective : Set.InjOn rename table.keys.toFinset) :
    (table.rekey rename).size = table.size := by
  rw [size_rekey, Finset.card_image_of_injOn injective, size_eq_card_keys]

theorem size_rekey_le (rename : String → String) (table : Table α) :
    (table.rekey rename).size ≤ table.size := by
  rw [size_rekey, size_eq_card_keys]
  exact Finset.card_image_le

/-- Entries are lost just where two keys get one new key. -/
theorem size_rekey_lt_iff {rename : String → String} {table : Table α} :
    (table.rekey rename).size < table.size ↔
      ∃ first ∈ table.keys, ∃ second ∈ table.keys,
        first ≠ second ∧ rename first = rename second := by
  constructor
  · intro less
    apply Classical.byContradiction
    intro noClash
    have injective : Set.InjOn rename table.keys.toFinset := by
      intro first isFirst second isSecond same
      apply Classical.byContradiction
      intro differ
      exact noClash ⟨first, List.mem_toFinset.1 isFirst, second, List.mem_toFinset.1 isSecond,
        differ, same⟩
    exact Nat.ne_of_lt less (size_rekey_of_injOn injective)
  · rintro ⟨first, isFirst, second, isSecond, differ, same⟩
    refine Nat.lt_of_le_of_ne (size_rekey_le rename table) fun equal => differ ?_
    rw [size_rekey, size_eq_card_keys] at equal
    exact Finset.card_image_iff.1 equal (List.mem_toFinset.2 isFirst)
      (List.mem_toFinset.2 isSecond) same

theorem rekey_rekey {rename back : String → String} {table : Table α}
    (ledBack : ∀ key ∈ table.keys, back (rename key) = key) :
    (table.rekey rename).rekey back = table := by
  have keys : ∀ name, name ∈ ((table.rekey rename).rekey back).keys ↔ name ∈ table.keys := by
    intro name
    rw [mem_keys_rekey]
    constructor
    · rintro ⟨renamed, isRenamed, rfl⟩
      obtain ⟨key, isKey, rfl⟩ := mem_keys_rekey.1 isRenamed
      rwa [ledBack key isKey]
    · intro isKey
      exact ⟨rename name, mem_keys_rekey.2 ⟨name, isKey, rfl⟩, ledBack name isKey⟩
  apply ext_find?
  intro name
  by_cases isKey : name ∈ table.keys
  · have forth : (table.rekey rename).find? (rename name) = table.find? name := by
      apply find?_rekey_of_alone
      intro other isOther renamed
      rw [← ledBack other isOther, renamed, ledBack name isKey]
    have alone : ∀ other ∈ (table.rekey rename).keys, back other = back (rename name) →
        other = rename name := by
      intro other isOther same
      obtain ⟨key, isKey', rfl⟩ := mem_keys_rekey.1 isOther
      rw [ledBack key isKey', ledBack name isKey] at same
      rw [same]
    calc
      ((table.rekey rename).rekey back).find? name =
          ((table.rekey rename).rekey back).find? (back (rename name)) := by
        rw [ledBack name isKey]
      _ = (table.rekey rename).find? (rename name) := find?_rekey_of_alone alone
      _ = table.find? name := forth
  · rw [find?_eq_none_iff.2 isKey, find?_eq_none_iff.2 (mt (keys name).1 isKey)]

theorem rekey_insert {rename : String → String} {table : Table α} {key : String} (value : α)
    (alone : ∀ other ∈ table.keys, rename other = rename key → other = key) :
    (table.insert key value).rekey rename = (table.rekey rename).insert (rename key) value := by
  apply ext_find?
  intro name
  by_cases same : name = rename key
  · subst same
    have aloneStill : ∀ other ∈ (table.insert key value).keys, rename other = rename key →
        other = key := by
      intro other isOther renamed
      rcases mem_keys_insert.1 isOther with isKey | isOther
      · exact isKey
      · exact alone other isOther renamed
    rw [find?_rekey_of_alone aloneStill, find?_insert_self, find?_insert_self]
  · rw [find?_insert_of_ne _ _ same]
    by_cases isName : name ∈ (table.rekey rename).keys
    · obtain ⟨other, isOther, rfl⟩ := mem_keys_rekey.1 isName
      obtain ⟨greatest, isGreatest⟩ := exists_greatest rename isOther
      have differs : greatest ≠ key := fun equal => same (equal ▸ isGreatest.renamed).symm
      have greatestStill : Greatest rename (table.insert key value) (rename other) greatest := by
        refine ⟨mem_keys_insert.2 (.inr isGreatest.member), isGreatest.renamed, ?_⟩
        intro later isLater renamed
        rcases mem_keys_insert.1 isLater with rfl | isLater
        · exact absurd renamed.symm same
        · exact isGreatest.greatest later isLater renamed
      rw [find?_rekey_of_greatest greatestStill, find?_rekey_of_greatest isGreatest,
        find?_insert_of_ne _ _ differs]
    · have absent : name ∉ ((table.insert key value).rekey rename).keys := by
        intro member
        obtain ⟨other, isOther, renamed⟩ := mem_keys_rekey.1 member
        rcases mem_keys_insert.1 isOther with rfl | isOther
        · exact same renamed.symm
        · exact isName (mem_keys_rekey.2 ⟨other, isOther, renamed⟩)
      rw [find?_eq_none_iff.2 isName, find?_eq_none_iff.2 absent]

end Table

end Metacard
