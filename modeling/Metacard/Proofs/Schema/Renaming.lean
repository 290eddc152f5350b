import Metacard.Proofs.Schema.Names
/-!
# Properties renamed and renamed back

Attributes under safe names lose nothing when they are put under raw ids: of safe names no two lead
to one raw id, and each raw id has the safe name that it was reached from. Properties under known
raw ids lose nothing when they are put under safe names.
-/

set_option autoImplicit false

namespace Metacard

theorem safeName_safeName (raw : String) : safeName (safeName raw) = safeName raw := by
  have again (c : Char) : safeChar (safeChar c) = safeChar c := by
    by_cases replaced : safeChar c = '_'
    · rw [replaced]
      decide
    · rw [safeChar_eq_self replaced, safeChar_eq_self replaced]
  simp [safeName, Function.comp_def, again]

def Table.IsSafe (attributes : Table Json) : Prop :=
  ∀ name ∈ attributes.keys, safeName name = name

instance (attributes : Table Json) : Decidable attributes.IsSafe :=
  inferInstanceAs (Decidable (∀ name ∈ attributes.keys, safeName name = name))

namespace NameMap.Knows

variable {names : NameMap} {known : List String} {attributes : Table Json}

theorem toRaw_injective (knows : names.Knows known) {left right : String}
    (leftSafe : safeName left = left) (rightSafe : safeName right = right)
    (same : names.toRaw left = names.toRaw right) : left = right := by
  rw [← knows.safeName_toRaw leftSafe, same, knows.safeName_toRaw rightSafe]

theorem renameToSafe_renameToRaw (knows : names.Knows known) (safe : attributes.IsSafe) :
    renameToSafe (names.renameToRaw attributes) = attributes :=
  Table.rekey_rekey fun name member => knows.safeName_toRaw (safe name member)

theorem find?_renameToRaw (knows : names.Knows known) (safe : attributes.IsSafe) {name : String}
    (nameSafe : safeName name = name) :
    (names.renameToRaw attributes).find? (names.toRaw name) = attributes.find? name := by
  apply Table.find?_rekey_of_alone
  intro other isOther same
  exact knows.toRaw_injective (safe other isOther) nameSafe same

theorem renameToRaw_insert (knows : names.Knows known) (safe : attributes.IsSafe) {name : String}
    (nameSafe : safeName name = name) (value : Json) :
    names.renameToRaw (attributes.insert name value) =
      (names.renameToRaw attributes).insert (names.toRaw name) value := by
  apply Table.rekey_insert
  intro other isOther same
  exact knows.toRaw_injective (safe other isOther) nameSafe same

theorem toRaw_safeName_of_mem (knows : names.Knows known) (safe : attributes.IsSafe) {raw : String}
    (member : raw ∈ (names.renameToRaw attributes).keys) : names.toRaw (safeName raw) = raw := by
  obtain ⟨name, isName, rfl⟩ := Table.mem_keys_rekey.1 member
  rw [knows.safeName_toRaw (safe name isName)]

theorem size_renameToRaw (knows : names.Knows known) (safe : attributes.IsSafe) :
    (names.renameToRaw attributes).size = attributes.size := by
  apply Table.size_rekey_of_injOn
  intro left isLeft right isRight same
  exact knows.toRaw_injective (safe left (List.mem_toFinset.1 isLeft))
    (safe right (List.mem_toFinset.1 isRight)) same

theorem renameToRaw_renameToSafe (knows : names.Knows known)
    (isKnown : ∀ raw ∈ attributes.keys, raw ∈ known) :
    names.renameToRaw (renameToSafe attributes) = attributes :=
  Table.rekey_rekey fun raw member => knows.toRaw_safeName (isKnown raw member)

end NameMap.Knows

/-- Properties under safe names, known or not, are put under raw ids without loss and renamed back,
and properties under known ids are put under safe names and renamed back. -/
theorem NameMap.renaming_invertible {ids : List String} {names : NameMap}
    (known : ofIds ids = .ok names) (properties : Table Json) :
    (properties.IsSafe →
      renameToSafe (names.renameToRaw properties) = properties ∧
      (names.renameToRaw properties).size = properties.size ∧
      ∀ name ∈ properties.keys,
        (names.renameToRaw properties).find? (names.toRaw name) = properties.find? name) ∧
    ((∀ raw ∈ properties.keys, raw ∈ ids) →
      names.renameToRaw (renameToSafe properties) = properties) := by
  have knows := knows_of_ofIds known
  refine ⟨fun safe => ?_, knows.renameToRaw_renameToSafe⟩
  exact ⟨knows.renameToSafe_renameToRaw safe, knows.size_renameToRaw safe,
    fun name member => knows.find?_renameToRaw safe (safe name member)⟩

/-- A known and an unknown name beside each other, and two ids that are known. -/
theorem NameMap.renaming_invertible_contact :
    let names : NameMap := ⟨.ofList [("point_of_contact", "point-of-contact"), ("title", "title")]⟩
    let attributes : Table Json :=
      .ofList [("point_of_contact", .text "Jane"), ("point_of_view", .text "north")]
    let properties : Table Json :=
      .ofList [("point-of-contact", .text "Jane"), ("title", .text "Quay")]
    ofIds ["point-of-contact", "title"] = .ok names ∧ attributes.IsSafe ∧
      renameToSafe (names.renameToRaw attributes) = attributes ∧
      names.renameToRaw (renameToSafe properties) = properties :=
  have known : ofIds ["point-of-contact", "title"] = .ok _ := by rfl
  have safe : Table.IsSafe _ := by decide
  ⟨known, safe, ((renaming_invertible known _).1 safe).1,
    (renaming_invertible known _).2 (by decide)⟩

end Metacard
