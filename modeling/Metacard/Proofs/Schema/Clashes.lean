import Metacard.Proofs.Schema.Renaming
import Metacard.Proofs.Text.ByteOrder
/-!
# Clashes among renamed properties

Where several properties come under one new key the last of them stays, in the order of the bytes of
their old keys. Only the raw id of a known attribute and its safe name lead to one raw id, and of
these two the safe name comes last.
-/

set_option autoImplicit false

namespace Metacard

universe u

variable {α : Type u}

namespace Table

structure LastKey (rename : String → String) (table : Table α) (name key : String) : Prop where
  member : key ∈ table.keys
  renamed : rename key = name
  last : ∀ other ∈ table.keys, rename other = name → other ≠ key →
    Text.bytes other < Text.bytes key

theorem lastKey_iff_greatest {rename : String → String} {table : Table α} {name key : String} :
    LastKey rename table name key ↔ Greatest rename table name key := by
  constructor
  · intro isLast
    refine ⟨isLast.member, isLast.renamed, fun other isKey renamed => ?_⟩
    by_cases same : other = key
    · exact same ▸ String.le_refl other
    · exact Std.le_of_lt (Text.bytes_lt_iff.1 (isLast.last other isKey renamed same))
  · intro isGreatest
    refine ⟨isGreatest.member, isGreatest.renamed, fun other isKey renamed differs => ?_⟩
    have notAbove := isGreatest.greatest other isKey renamed
    exact Text.bytes_lt (Std.lt_of_le_of_ne notAbove differs)

/-- What renaming the keys of a table makes of it: there are just the new keys, each with the value
of the last key that gets it, and entries are lost just where two keys get one new key. -/
structure IsRenamed (rename : String → String) (table renamed : Table α) : Prop where
  mem_keys_iff : ∀ name, name ∈ renamed.keys ↔ ∃ key ∈ table.keys, rename key = name
  find?_eq_some_iff : ∀ name value, renamed.find? name = some value ↔
    ∃ key, LastKey rename table name key ∧ table.find? key = some value
  size_le : renamed.size ≤ table.size
  size_lt_iff : renamed.size < table.size ↔ ∃ first ∈ table.keys, ∃ second ∈ table.keys,
    first ≠ second ∧ rename first = rename second

theorem isRenamed_rekey (rename : String → String) (table : Table α) :
    IsRenamed rename table (table.rekey rename) where
  mem_keys_iff _ := mem_keys_rekey
  find?_eq_some_iff name value := by
    simp only [lastKey_iff_greatest]
    exact find?_rekey_eq_some_iff
  size_le := size_rekey_le rename table
  size_lt_iff := size_rekey_lt_iff

end Table

namespace NameMap.Knows

variable {names : NameMap} {known : List String}

theorem eq_or_eq_of_toRaw (knows : names.Knows known) {key raw : String}
    (led : names.toRaw key = raw) : key = raw ∨ key = safeName raw := by
  cases found : names.raws.find? key with
  | none =>
    rw [toRaw, found, Option.getD_none] at led
    exact .inl led
  | some other =>
    rw [toRaw, found, Option.getD_some] at led
    subst led
    exact .inr (knows.only key other found).2.symm

theorem toRaw_of_known (knows : names.Knows known) {raw : String} (isKnown : raw ∈ known) :
    names.toRaw raw = raw := by
  cases found : names.raws.find? raw with
  | none => rw [toRaw, found, Option.getD_none]
  | some other =>
    obtain ⟨otherKnown, same⟩ := knows.only raw other found
    have sameSafe : safeName other = safeName raw := by
      rw [← same, safeName_safeName]
    rw [toRaw, found, Option.getD_some]
    exact knows.apart other otherKnown raw isKnown sameSafe

/-- A known attribute has the value under its safe name; the one under its raw id only if there is
no other. -/
theorem find?_renameToRaw_of_known (knows : names.Knows known) {raw : String}
    (isKnown : raw ∈ known) (properties : Table Json) :
    (names.renameToRaw properties).find? raw =
      (properties.find? (safeName raw)).or (properties.find? raw) := by
  cases found : properties.find? (safeName raw) with
  | some value =>
    have greatest : Table.Greatest names.toRaw properties raw (safeName raw) := by
      refine ⟨Table.mem_keys_iff.2 ⟨value, found⟩, knows.toRaw_safeName isKnown, ?_⟩
      intro other isOther led
      rcases knows.eq_or_eq_of_toRaw led with rfl | rfl
      · exact le_safeName other
      · exact String.le_refl _
    rw [Option.some_or, ← found]
    exact Table.find?_rekey_of_greatest greatest
  | none =>
    have alone : ∀ other ∈ properties.keys, names.toRaw other = names.toRaw raw →
        other = raw := by
      intro other isOther led
      rw [knows.toRaw_of_known isKnown] at led
      rcases knows.eq_or_eq_of_toRaw led with same | rfl
      · exact same
      · exact absurd isOther (Table.find?_eq_none_iff.1 found)
    have kept := Table.find?_rekey_of_alone alone
    rw [knows.toRaw_of_known isKnown] at kept
    rw [Option.none_or]
    exact kept

end NameMap.Knows

/-- Of properties that come under one safe name, or under one raw id, the one with the last key
stays, and a known attribute has the value under its safe name if it is given in both spellings. -/
theorem NameMap.clashes_settled (properties : Table Json) :
    Table.IsRenamed safeName properties (renameToSafe properties) ∧
    ∀ (ids : List String) (names : NameMap), ofIds ids = .ok names →
      Table.IsRenamed names.toRaw properties (names.renameToRaw properties) ∧
      ∀ raw ∈ ids, (names.renameToRaw properties).find? raw =
        (properties.find? (safeName raw)).or (properties.find? raw) := by
  refine ⟨Table.isRenamed_rekey safeName properties, fun ids names known => ?_⟩
  refine ⟨Table.isRenamed_rekey names.toRaw properties, fun raw isKnown => ?_⟩
  exact (knows_of_ofIds known).find?_renameToRaw_of_known isKnown properties

/-- Three spellings of one safe name, of which two lead to the known id. -/
theorem NameMap.clashes_settled_spellings :
    let names : NameMap := ⟨.ofList [("a_b", "a-b")]⟩
    let properties : Table Json :=
      .ofList [("a-b", .text "dash"), ("a.b", .text "dot"), ("a_b", .text "line")]
    ofIds ["a-b"] = .ok names ∧
      (renameToSafe properties).find? "a_b" = some (.text "line") ∧
      (renameToSafe properties).size < properties.size ∧
      (names.renameToRaw properties).find? "a-b" = some (.text "line") ∧
      (names.renameToRaw properties).size < properties.size :=
  have known : ofIds ["a-b"] = .ok _ := by rfl
  have settled := clashes_settled
    (.ofList [("a-b", .text "dash"), ("a.b", .text "dot"), ("a_b", .text "line")])
  have last : Table.LastKey safeName _ "a_b" "a_b" := ⟨by decide, by decide, by decide⟩
  ⟨known, (settled.1.find?_eq_some_iff "a_b" _).2 ⟨"a_b", last, by rfl⟩,
    settled.1.size_lt_iff.2 ⟨"a-b", by decide, "a.b", by decide, by decide, by decide⟩,
    (settled.2 _ _ known).2 "a-b" List.mem_cons_self,
    (settled.2 _ _ known).1.size_lt_iff.2 ⟨"a-b", by decide, "a_b", by decide, by decide, by rfl⟩⟩

end Metacard
