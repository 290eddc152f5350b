import Metacard.Proofs.Outcome
import Metacard.Proofs.Table
import Metacard.Schema.Names
/-!
# Which ids can be known together

Ids can be known together just if no two different ones have the same safe name. Then the safe name
of each leads back to it. Else the first id that has the safe name of an earlier one is reported
together with the earlier one.
-/

set_option autoImplicit false

namespace Metacard

theorem not_safeChar_lt (c : Char) : ¬ safeChar c < c := by
  rw [safeChar]
  split
  · rename_i replaced
    rcases replaced with rfl | rfl <;> decide
  · exact Char.lt_irrefl c

theorem not_map_safeChar_lt (chars : List Char) : ¬ chars.map safeChar < chars := by
  induction chars with
  | nil => exact List.not_lt_nil []
  | cons c rest inductionHypothesis =>
    rw [List.map_cons, List.cons_lt_cons_iff]
    rintro (below | ⟨-, below⟩)
    · exact not_safeChar_lt c below
    · exact inductionHypothesis below

theorem le_safeName (raw : String) : raw ≤ safeName raw := by
  apply String.not_lt.1
  intro below
  rw [String.lt_iff, safeName, String.toList_ofList] at below
  exact not_map_safeChar_lt raw.toList below

theorem safeChar_eq_self {c : Char} (plain : safeChar c ≠ '_') : safeChar c = c := by
  rw [safeChar] at plain ⊢
  split
  · rename_i replaced
    exact absurd (if_pos replaced) plain
  · rfl

theorem eq_of_safeName_eq {raw name : String} (renamed : safeName raw = name)
    (plain : '_' ∉ name.toList) : raw = name := by
  rw [← renamed, safeName, String.toList_ofList] at plain
  have chars : raw.toList.map safeChar = raw.toList.map id := by
    apply List.map_congr_left
    intro c member
    exact safeChar_eq_self fun underscore => plain (underscore ▸ List.mem_map_of_mem member)
  rw [← renamed, safeName, chars, List.map_id, String.ofList_toList]

/-! ## Known ids -/

def Apart (ids : List String) : Prop :=
  ∀ left ∈ ids, ∀ right ∈ ids, safeName left = safeName right → left = right

/-- The first id with the safe name of an earlier one is `second`, and `first` is the earlier
one. -/
structure FirstCollision (ids : List String) (first second : String) : Prop where
  differ : first ≠ second
  same : safeName first = safeName second
  place : ∃ before after, ids = before ++ second :: after ∧ first ∈ before ∧ Apart before

namespace NameMap

/-- The known ids are these, each under its safe name. -/
structure Knows (names : NameMap) (known : List String) : Prop where
  find? : ∀ raw ∈ known, names.raws.find? (safeName raw) = some raw
  only : ∀ name raw, names.raws.find? name = some raw → raw ∈ known ∧ safeName raw = name

namespace Knows

variable {names : NameMap} {known : List String}

theorem apart (knows : names.Knows known) : Apart known := by
  intro left leftKnown right rightKnown same
  have found := knows.find? left leftKnown
  rw [same, knows.find? right rightKnown] at found
  exact (Option.some.inj found).symm

theorem toRaw_safeName (knows : names.Knows known) {raw : String} (isKnown : raw ∈ known) :
    names.toRaw (safeName raw) = raw := by
  rw [toRaw, knows.find? raw isKnown, Option.getD_some]

theorem safeName_toRaw (knows : names.Knows known) {name : String} (safe : safeName name = name) :
    safeName (names.toRaw name) = name := by
  rw [toRaw]
  cases found : names.raws.find? name with
  | none => exact safe
  | some raw => exact (knows.only name raw found).2

theorem toRaw_of_plain (knows : names.Knows known) {name : String} (safe : safeName name = name)
    (plain : '_' ∉ name.toList) : names.toRaw name = name :=
  eq_of_safeName_eq (knows.safeName_toRaw safe) plain

theorem empty : NameMap.empty.Knows [] where
  find? := fun _ member => nomatch member
  only := fun _ _ found => nomatch found

theorem again (knows : names.Knows known) {raw : String} (isKnown : raw ∈ known) :
    names.Knows (known ++ [raw]) where
  find? := by
    intro other member
    rcases List.mem_append.1 member with member | member
    · exact knows.find? other member
    · rw [List.eq_of_mem_singleton member]
      exact knows.find? raw isKnown
  only := by
    intro name other found
    obtain ⟨member, same⟩ := knows.only name other found
    exact ⟨List.mem_append_left _ member, same⟩

theorem insert (knows : names.Knows known) {raw : String}
    (free : names.raws.find? (safeName raw) = none) :
    NameMap.Knows ⟨names.raws.insert (safeName raw) raw⟩ (known ++ [raw]) where
  find? := by
    intro other member
    rcases List.mem_append.1 member with member | member
    · have found := knows.find? other member
      have differs : safeName other ≠ safeName raw := by
        intro same
        rw [same, free] at found
        exact Option.some_ne_none other found.symm
      rw [Table.find?_insert_of_ne _ _ differs, found]
    · rw [List.eq_of_mem_singleton member, Table.find?_insert_self]
  only := by
    intro name other found
    by_cases same : name = safeName raw
    · subst same
      rw [Table.find?_insert_self] at found
      obtain rfl := Option.some.inj found
      exact ⟨List.mem_append_right _ List.mem_cons_self, rfl⟩
    · rw [Table.find?_insert_of_ne _ _ same] at found
      obtain ⟨member, same⟩ := knows.only name other found
      exact ⟨List.mem_append_left _ member, same⟩

end Knows

theorem add_cases {names : NameMap} {known : List String} (knows : names.Knows known)
    (raw : String) :
    (∃ next, names.add raw = .ok next ∧ next.Knows (known ++ [raw])) ∨
      ∃ first ∈ known, first ≠ raw ∧ safeName first = safeName raw ∧
        names.add raw = .error (.nameCollision (safeName raw) first raw) := by
  cases found : names.raws.find? (safeName raw) with
  | none =>
    refine .inl ⟨⟨names.raws.insert (safeName raw) raw⟩, ?_, knows.insert found⟩
    simp only [add, found]
  | some first =>
    obtain ⟨isKnown, same⟩ := knows.only (safeName raw) first found
    by_cases equal : first = raw
    · subst equal
      refine .inl ⟨names, ?_, knows.again isKnown⟩
      simp only [add, found, if_true]
    · refine .inr ⟨first, isKnown, equal, same, ?_⟩
      simp only [add, found, if_neg equal]

theorem addAll_cases (ids : List String) :
    ∀ {names : NameMap} {known : List String}, names.Knows known →
      (∃ next, names.addAll ids = .ok next ∧ next.Knows (known ++ ids)) ∨
        ∃ before first second after, ids = before ++ second :: after ∧
          Apart (known ++ before) ∧ first ∈ known ++ before ∧ first ≠ second ∧
          safeName first = safeName second ∧
          names.addAll ids = .error (.nameCollision (safeName second) first second) := by
  induction ids with
  | nil =>
    intro names known knows
    rw [List.append_nil]
    exact .inl ⟨names, rfl, knows⟩
  | cons raw rest inductionHypothesis =>
    intro names known knows
    rcases add_cases knows raw with
      ⟨next, added, nextKnows⟩ | ⟨first, isKnown, differ, same, failed⟩
    · have step : names.addAll (raw :: rest) = next.addAll rest := by
        rw [addAll, added]
        rfl
      rw [step, List.append_cons]
      rcases inductionHypothesis nextKnows with
        found | ⟨before, first, second, after, rfl, collision⟩
      · exact .inl found
      · rw [← List.append_cons] at collision
        exact .inr ⟨raw :: before, first, second, after, rfl, collision⟩
    · refine .inr ⟨[], first, raw, rest, rfl, ?_⟩
      rw [List.append_nil, addAll, failed]
      exact ⟨knows.apart, isKnown, differ, same, rfl⟩

theorem ofIds_cases (ids : List String) :
    (∃ names, ofIds ids = .ok names ∧ names.Knows ids) ∨
      ∃ first second, FirstCollision ids first second ∧
        ofIds ids = .error (.nameCollision (safeName second) first second) := by
  rcases addAll_cases ids Knows.empty with ⟨names, made, knows⟩ |
    ⟨before, first, second, after, place, apart, member, differ, same, failed⟩
  · exact .inl ⟨names, made, knows⟩
  · exact .inr ⟨first, second, ⟨differ, same, before, after, place, member, apart⟩, failed⟩

end NameMap

theorem FirstCollision.mem_first {ids : List String} {first second : String}
    (collision : FirstCollision ids first second) : first ∈ ids := by
  obtain ⟨before, after, rfl, member, _⟩ := collision.place
  exact List.mem_append_left _ member

theorem FirstCollision.mem_second {ids : List String} {first second : String}
    (collision : FirstCollision ids first second) : second ∈ ids := by
  obtain ⟨before, after, rfl, _⟩ := collision.place
  exact List.mem_append_right _ List.mem_cons_self

namespace NameMap

theorem knows_of_ofIds {ids : List String} {names : NameMap} (made : ofIds ids = .ok names) :
    names.Knows ids := by
  rcases ofIds_cases ids with ⟨other, madeOther, knows⟩ | ⟨first, second, _, failed⟩
  · rw [made] at madeOther
    obtain rfl := Except.ok.inj madeOther
    exact knows
  · rw [made] at failed
    exact nomatch failed

end NameMap

end Metacard
