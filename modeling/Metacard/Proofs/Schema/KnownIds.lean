import Metacard.Proofs.Schema.Names
/-!
# Known ids as a set

Which names are known, what each of them leads back to and how many there are depends on the ids as
a set alone. In which order they were made known, and how often, shows in nothing but in which
collision is reported.
-/

set_option autoImplicit false

namespace Metacard

theorem not_apart_iff {ids : List String} : ¬ Apart ids ↔
    ∃ left ∈ ids, ∃ right ∈ ids, left ≠ right ∧ safeName left = safeName right := by
  simp [Apart, and_comm]

namespace FirstCollision

variable {ids : List String} {first second : String}

theorem not_apart (collision : FirstCollision ids first second) : ¬ Apart ids := fun apart =>
  collision.differ (apart first collision.mem_first second collision.mem_second collision.same)

theorem middle_eq_nil (collision : FirstCollision ids first second)
    {before middle after rest : List String} (isFirst : first ∈ before)
    (split : second :: after = middle ++ rest) (apart : Apart (before ++ middle)) :
    middle = [] := by
  cases middle with
  | nil => rfl
  | cons id middle =>
    obtain ⟨rfl, _⟩ := List.cons.inj split
    have isSecond : second ∈ before ++ second :: middle :=
      List.mem_append_right _ List.mem_cons_self
    exact absurd (apart first (List.mem_append_left _ isFirst) second isSecond collision.same)
      collision.differ

theorem unique {otherFirst otherSecond : String} (collision : FirstCollision ids first second)
    (other : FirstCollision ids otherFirst otherSecond) :
    otherFirst = first ∧ otherSecond = second := by
  obtain ⟨before, after, rfl, isFirst, apart⟩ := collision.place
  obtain ⟨otherBefore, otherAfter, split, isOther, otherApart⟩ := other.place
  have sameBefore : otherBefore = before ∧ otherSecond = second := by
    rcases List.append_eq_append_iff.1 split with ⟨middle, rfl, rest⟩ | ⟨middle, rfl, rest⟩
    · obtain rfl := collision.middle_eq_nil isFirst rest otherApart
      exact ⟨List.append_nil _, (List.cons.inj rest).1.symm⟩
    · obtain rfl := other.middle_eq_nil isOther rest apart
      exact ⟨(List.append_nil _).symm, (List.cons.inj rest).1⟩
  obtain ⟨rfl, rfl⟩ := sameBefore
  exact ⟨apart _ isOther _ isFirst (other.same.trans collision.same.symm), rfl⟩

end FirstCollision

namespace NameMap

namespace Knows

variable {names : NameMap} {known : List String}

theorem isKnown_iff (knows : names.Knows known) {name : String} :
    names.isKnown name = true ↔ ∃ raw ∈ known, safeName raw = name := by
  rw [isKnown, Table.contains, Option.isSome_iff_exists]
  constructor
  · rintro ⟨raw, found⟩
    exact ⟨raw, knows.only name raw found⟩
  · rintro ⟨raw, isKnown, rfl⟩
    exact ⟨raw, knows.find? raw isKnown⟩

theorem toRaw_of_unknown (knows : names.Knows known) {name : String}
    (unknown : ∀ raw ∈ known, safeName raw ≠ name) : names.toRaw name = name := by
  cases found : names.raws.find? name with
  | none => rw [toRaw, found, Option.getD_none]
  | some raw =>
    obtain ⟨isKnown, same⟩ := knows.only name raw found
    exact absurd same (unknown raw isKnown)

theorem size_eq_card (knows : names.Knows known) : names.size = known.toFinset.card := by
  have keys : names.raws.keys.toFinset = known.toFinset.image safeName := by
    ext name
    simp only [List.mem_toFinset, Finset.mem_image, Table.mem_keys_iff]
    constructor
    · rintro ⟨raw, found⟩
      exact ⟨raw, knows.only name raw found⟩
    · rintro ⟨raw, isKnown, rfl⟩
      exact ⟨raw, knows.find? raw isKnown⟩
  have injective : Set.InjOn safeName known.toFinset := by
    intro left isLeft right isRight same
    exact knows.apart left (List.mem_toFinset.1 isLeft) right (List.mem_toFinset.1 isRight) same
  rw [size, Table.size_eq_card_keys, keys, Finset.card_image_of_injOn injective]

theorem unique {other : NameMap} {others : List String} (knows : names.Knows known)
    (otherKnows : other.Knows others) (same : ∀ raw, raw ∈ others ↔ raw ∈ known) :
    other = names := by
  have found (name raw : String) :
      other.raws.find? name = some raw ↔ names.raws.find? name = some raw := by
    constructor
    · intro isFound
      obtain ⟨isKnown, rfl⟩ := otherKnows.only name raw isFound
      exact knows.find? raw ((same raw).1 isKnown)
    · intro isFound
      obtain ⟨isKnown, rfl⟩ := knows.only name raw isFound
      exact otherKnows.find? raw ((same raw).2 isKnown)
  cases names
  cases other
  congr 1
  exact Table.ext_find? fun name => Option.ext (found name)

end Knows

theorem ofIds_eq_error_iff {ids : List String} {failure : Failure} :
    ofIds ids = .error failure ↔ ∃ first second, FirstCollision ids first second ∧
      failure = .nameCollision (safeName second) first second := by
  rcases ofIds_cases ids with ⟨names, made, knows⟩ | ⟨first, second, collision, failed⟩
  · rw [made]
    refine ⟨nofun, ?_⟩
    rintro ⟨first, second, collision, _⟩
    exact absurd knows.apart collision.not_apart
  · rw [failed]
    constructor
    · intro same
      exact ⟨first, second, collision, (Except.error.inj same).symm⟩
    · rintro ⟨otherFirst, otherSecond, other, rfl⟩
      obtain ⟨rfl, rfl⟩ := collision.unique other
      rfl

theorem exists_ofIds_eq_error_iff {ids : List String} :
    (∃ failure, ofIds ids = .error failure) ↔ ¬ Apart ids := by
  rcases ofIds_cases ids with ⟨names, made, knows⟩ | ⟨first, second, collision, failed⟩
  · rw [made]
    exact ⟨nofun, fun notApart => absurd knows.apart notApart⟩
  · rw [failed]
    exact ⟨fun _ => collision.not_apart, fun _ => ⟨_, rfl⟩⟩

theorem ofIds_of_same {ids others : List String} (same : ∀ id, id ∈ others ↔ id ∈ ids)
    {names : NameMap} (made : ofIds ids = .ok names) : ofIds others = .ok names := by
  have knows := knows_of_ofIds made
  rcases ofIds_cases others with ⟨other, madeOther, otherKnows⟩ | ⟨first, second, collision, _⟩
  · rw [madeOther, knows.unique otherKnows same]
  · refine absurd (fun left isLeft right isRight => ?_) collision.not_apart
    exact knows.apart left ((same left).1 isLeft) right ((same right).1 isRight)

/-- Ids are refused just if two different ones have the same safe name, and the first such pair is
reported. Else every name that one of them produces leads back to it, every other name to itself,
and there are as many names as different ids, in whatever order and however often they are given. -/
theorem known_ids_exact (ids : List String) :
    ((∃ failure, ofIds ids = .error failure) ↔
      ∃ left ∈ ids, ∃ right ∈ ids, left ≠ right ∧ safeName left = safeName right) ∧
    (∀ failure, ofIds ids = .error failure ↔ ∃ first second, FirstCollision ids first second ∧
      failure = .nameCollision (safeName second) first second) ∧
    (∀ names, ofIds ids = .ok names →
      (∀ raw ∈ ids, names.toRaw (safeName raw) = raw) ∧
      (∀ name, (∀ raw ∈ ids, safeName raw ≠ name) → names.toRaw name = name) ∧
      (∀ name, names.isKnown name = true ↔ ∃ raw ∈ ids, safeName raw = name) ∧
      names.size = ids.toFinset.card) ∧
    ∀ names others, (∀ id, id ∈ others ↔ id ∈ ids) → ofIds ids = .ok names →
      ofIds others = .ok names := by
  refine ⟨exists_ofIds_eq_error_iff.trans not_apart_iff, fun failure => ofIds_eq_error_iff,
    fun names made => ?_, fun names others same => ofIds_of_same same⟩
  have knows := knows_of_ofIds made
  exact ⟨fun raw => knows.toRaw_safeName, fun name => knows.toRaw_of_unknown,
    fun name => knows.isKnown_iff, knows.size_eq_card⟩

/-- The same ids in another order, one of them given twice. -/
theorem known_ids_exact_repeated :
    let names : NameMap := ⟨.ofList [("a_b", "a-b"), ("title", "title")]⟩
    ofIds ["title", "a-b", "title"] = .ok names ∧ ofIds ["a-b", "title"] = .ok names ∧
      names.toRaw "a_b" = "a-b" ∧ names.size = 2 :=
  have made : ofIds ["a-b", "title"] = .ok _ := by rfl
  have exact := known_ids_exact ["a-b", "title"]
  ⟨exact.2.2.2 _ _ (by simp [or_comm]) made, made,
    (exact.2.2.1 _ made).1 "a-b" List.mem_cons_self, (exact.2.2.1 _ made).2.2.2⟩

end NameMap

end Metacard
