/-!
# Tables

Finite maps whose keys are texts. The entries stand in ascending order of key, so that two tables
with the same content are equal, and everything that is read off a table comes in that order.

The order of texts is that of their code points, which is also the order of their UTF-8 bytes.
-/

set_option autoImplicit false

namespace Metacard

universe u v

def insertEntry {α : Type u} (key : String) (value : α) :
    List (String × α) → List (String × α)
  | [] => [(key, value)]
  | entry :: rest =>
      if key < entry.1 then (key, value) :: entry :: rest
      else if key = entry.1 then (key, value) :: rest
      else entry :: insertEntry key value rest

def Ascending {α : Type u} (entries : List (String × α)) : Prop :=
  entries.Pairwise fun left right => left.1 < right.1

theorem mem_insertEntry {α : Type u} {key : String} {value : α} {entry : String × α} :
    ∀ {entries : List (String × α)}, entry ∈ insertEntry key value entries →
      entry = (key, value) ∨ entry ∈ entries
  | [], h => by simpa [insertEntry] using h
  | head :: rest, h => by
      rw [insertEntry] at h
      split at h
      · simpa using h
      · split at h
        · rcases List.mem_cons.1 h with h | h
          · exact .inl h
          · exact .inr (List.mem_cons_of_mem _ h)
        · rcases List.mem_cons.1 h with h | h
          · exact .inr (h ▸ List.mem_cons_self)
          · rcases mem_insertEntry h with h | h
            · exact .inl h
            · exact .inr (List.mem_cons_of_mem _ h)

theorem ascending_insertEntry {α : Type u} (key : String) (value : α) :
    ∀ {entries : List (String × α)}, Ascending entries →
      Ascending (insertEntry key value entries)
  | [], _ => by simp [insertEntry, Ascending]
  | head :: rest, h => by
      have headBelow := (List.pairwise_cons.1 h).1
      have restAscending := (List.pairwise_cons.1 h).2
      rw [insertEntry]
      split
      · rename_i below
        refine List.pairwise_cons.2 ⟨fun entry member => ?_, h⟩
        rcases List.mem_cons.1 member with member | member
        · exact member ▸ below
        · exact String.lt_trans below (headBelow entry member)
      · split
        · rename_i same
          exact List.pairwise_cons.2 ⟨fun entry member => same ▸ headBelow entry member,
            restAscending⟩
        · rename_i notBelow notSame
          refine List.pairwise_cons.2 ⟨fun entry member => ?_,
            ascending_insertEntry key value restAscending⟩
          rcases mem_insertEntry member with member | member
          · subst member
            exact Classical.byContradiction fun notAbove =>
              notSame (String.le_antisymm (String.not_lt.1 notAbove) (String.not_lt.1 notBelow))
          · exact headBelow entry member

/-- A finite map from texts, with its entries in ascending order of key. -/
structure Table (α : Type u) where
  entries : List (String × α)
  ascending : Ascending entries

namespace Table

variable {α : Type u} {β : Type v}

@[ext]
theorem ext {left right : Table α} (h : left.entries = right.entries) : left = right := by
  cases left
  cases right
  cases h
  rfl

instance [DecidableEq α] : DecidableEq (Table α) := fun left right =>
  decidable_of_iff (left.entries = right.entries) ⟨ext, fun h => h ▸ rfl⟩

def empty : Table α where
  entries := []
  ascending := List.Pairwise.nil

instance : Inhabited (Table α) := ⟨empty⟩

def find? (table : Table α) (key : String) : Option α :=
  table.entries.lookup key

def contains (table : Table α) (key : String) : Bool :=
  (table.find? key).isSome

def insert (table : Table α) (key : String) (value : α) : Table α where
  entries := insertEntry key value table.entries
  ascending := ascending_insertEntry key value table.ascending

def erase (table : Table α) (key : String) : Table α where
  entries := table.entries.filter fun entry => entry.1 ≠ key
  ascending := table.ascending.sublist List.filter_sublist

/-- Puts entries one after the other, so that of several under one key the last one stays. -/
def insertAll (table : Table α) (entries : List (String × α)) : Table α :=
  entries.foldl (fun result entry => result.insert entry.1 entry.2) table

/-- The table of some entries; of several under one key the last one stays. -/
def ofList (entries : List (String × α)) : Table α :=
  empty.insertAll entries

def keys (table : Table α) : List String :=
  table.entries.map Prod.fst

def values (table : Table α) : List α :=
  table.entries.map Prod.snd

def size (table : Table α) : Nat :=
  table.entries.length

def map (f : α → β) (table : Table α) : Table β where
  entries := table.entries.map fun entry => (entry.1, f entry.2)
  ascending := by
    rw [Ascending, List.pairwise_map]
    exact table.ascending

@[simp]
theorem entries_empty : (empty : Table α).entries = [] := rfl

@[simp]
theorem entries_insert (table : Table α) (key : String) (value : α) :
    (table.insert key value).entries = insertEntry key value table.entries := rfl

@[simp]
theorem find?_empty (key : String) : (empty : Table α).find? key = none := rfl

theorem lookup_insertEntry_self (key : String) (value : α) :
    ∀ entries : List (String × α), (insertEntry key value entries).lookup key = some value
  | [] => by simp [insertEntry]
  | head :: rest => by
      rw [insertEntry]
      split
      · exact List.lookup_cons_self
      · split
        · exact List.lookup_cons_self
        · rename_i notSame
          rw [List.lookup_cons, beq_false_of_ne notSame]
          exact lookup_insertEntry_self key value rest

theorem lookup_insertEntry_of_ne {key other : String} (value : α) (h : other ≠ key) :
    ∀ entries : List (String × α),
      (insertEntry key value entries).lookup other = entries.lookup other
  | [] => by simp [insertEntry, List.lookup_cons, beq_false_of_ne h]
  | head :: rest => by
      rw [insertEntry]
      split
      · simp [List.lookup_cons, beq_false_of_ne h]
      · split
        · rename_i same
          rw [List.lookup_cons, List.lookup_cons, ← same, beq_false_of_ne h]
        · rw [List.lookup_cons, List.lookup_cons, lookup_insertEntry_of_ne value h rest]

@[simp]
theorem find?_insert_self (table : Table α) (key : String) (value : α) :
    (table.insert key value).find? key = some value :=
  lookup_insertEntry_self key value table.entries

theorem find?_insert_of_ne (table : Table α) {key other : String} (value : α) (h : other ≠ key) :
    (table.insert key value).find? other = table.find? other :=
  lookup_insertEntry_of_ne value h table.entries

end Table

end Metacard
