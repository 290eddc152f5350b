import Metacard.Json.Document
import Metacard.Proofs.Outcome
/-!
# The values of documents

A list of documents has values just if each of them has one, and likewise the members of an object.
-/

set_option autoImplicit false

namespace Metacard.Document

variable {ι : Type} {depth : Nat}

/-- Members that are entries one by one have the keys of the entries. -/
theorem map_fst_of_forall₂ {α β : Type} {R : Option String × α → String × β → Prop}
    {members : List (Option String × α)} {entries : List (String × β)}
    (each : List.Forall₂ (fun member entry => member.1 = some entry.1 ∧ R member entry)
      members entries) : members.map Prod.fst = (entries.map Prod.fst).map some := by
  rw [← List.forall₂_eq_eq_eq, List.forall₂_map_left_iff, List.forall₂_map_right_iff,
    List.forall₂_map_right_iff]
  exact each.imp fun _ _ related => related.1

theorem jsonItems?_eq_some_iff {items : List Document} {values : List Json} :
    jsonItems? depth items = some values ↔
      List.Forall₂ (fun item value => item.json? depth = some value) items values := by
  induction items generalizing values with
  | nil => simp [jsonItems?, eq_comm]
  | cons item rest inductionHypothesis =>
    rw [jsonItems?, List.forall₂_cons_left_iff]
    constructor
    · intro made
      obtain ⟨first, isFirst, made⟩ := Option.bind_eq_some_iff.1 made
      obtain ⟨others, areOthers, made⟩ := Option.bind_eq_some_iff.1 made
      exact ⟨first, others, isFirst, inductionHypothesis.1 areOthers,
        (Option.some.inj made).symm⟩
    · rintro ⟨first, others, isFirst, areOthers, rfl⟩
      rw [isFirst, inductionHypothesis.2 areOthers]
      rfl

theorem jsonMembers?_eq_some_iff {members : List (Option String × Document)}
    {values : List (String × Json)} :
    jsonMembers? depth members = some values ↔ List.Forall₂ (fun member value =>
      member.1 = some value.1 ∧ member.2.json? depth = some value.2) members values := by
  induction members generalizing values with
  | nil => simp [jsonMembers?, eq_comm]
  | cons member rest inductionHypothesis =>
    rw [jsonMembers?, List.forall₂_cons_left_iff]
    constructor
    · intro made
      obtain ⟨key, isKey, made⟩ := Option.bind_eq_some_iff.1 made
      obtain ⟨first, isFirst, made⟩ := Option.bind_eq_some_iff.1 made
      obtain ⟨others, areOthers, made⟩ := Option.bind_eq_some_iff.1 made
      exact ⟨(key, first), others, ⟨isKey, isFirst⟩, inductionHypothesis.1 areOthers,
        (Option.some.inj made).symm⟩
    · rintro ⟨⟨key, first⟩, others, ⟨isKey, isFirst⟩, areOthers, rfl⟩
      rw [isKey, isFirst, inductionHypothesis.2 areOthers]
      rfl

theorem jsonItems?_map {document : ι → Document} {value : ι → Json} {items : List ι}
    (each : ∀ item ∈ items, (document item).json? depth = some (value item)) :
    jsonItems? depth (items.map document) = some (items.map value) := by
  rw [jsonItems?_eq_some_iff, List.forall₂_map_left_iff, List.forall₂_map_right_iff,
    List.forall₂_same]
  exact each

theorem jsonMembers?_map {key : ι → String} {document : ι → Document} {value : ι → Json}
    {members : List ι}
    (each : ∀ member ∈ members, (document member).json? depth = some (value member)) :
    jsonMembers? depth (members.map fun member => (some (key member), document member)) =
      some (members.map fun member => (key member, value member)) := by
  rw [jsonMembers?_eq_some_iff, List.forall₂_map_left_iff, List.forall₂_map_right_iff,
    List.forall₂_same]
  exact fun member isMember => ⟨rfl, each member isMember⟩

theorem exists_jsonMembers? {members : List (Option String × Document)}
    (each : ∀ member ∈ members, ∃ entry : String × Json, member.1 = some entry.1 ∧
      member.2.json? depth = some entry.2) :
    ∃ values, jsonMembers? depth members = some values := by
  choose! entry isKey isMade using each
  have same : members = members.map fun member => (some (entry member).1, member.2) :=
    (List.map_id members).symm.trans
      (List.map_congr_left fun member isMember => Prod.ext (isKey member isMember) rfl)
  rw [same]
  exact ⟨_, jsonMembers?_map isMade⟩

theorem json?_eq_text_iff {document : Document} {text : String} :
    document.json? depth = some (.text text) ↔ document = .text (some text) := by
  cases document with
  | null | boolean | number | text => simp [json?]
  | array | object => cases depth <;> simp [json?, Json.record]

theorem json?_eq_boolean_iff {document : Document} {value : Bool} :
    document.json? depth = some (.boolean value) ↔ document = .boolean value := by
  cases document with
  | null | boolean | number | text => simp [json?]
  | array | object => cases depth <;> simp [json?, Json.record]

theorem json?_eq_texts_iff {document : Document} {texts : List String} :
    document.json? (depth + 1) = some (.array (texts.map .text)) ↔
      document = .array (texts.map fun text => .text (some text)) := by
  cases document with
  | null | boolean | number | text => simp [json?]
  | object => simp [json?, Json.record]
  | array items =>
    have each : jsonItems? depth items = some (texts.map .text) ↔
        items = texts.map fun text => .text (some text) := by
      rw [jsonItems?_eq_some_iff, List.forall₂_map_right_iff]
      simp only [json?_eq_text_iff, Outcome.forall₂_eq_map_iff]
    simp [json?, each]

end Metacard.Document
