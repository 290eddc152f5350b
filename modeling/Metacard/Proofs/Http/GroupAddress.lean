import Metacard.Http.Remote
import Metacard.Proofs.Http.Percent
/-!
# The addresses of enumerations

The enumerations of a group are found behind the API root, in a segment of their own under the name
of the group. Dropped characters of a name are no part of that segment, and a name that is a dot
segment, or becomes one, takes none at all. All other names are told apart.
-/

set_option autoImplicit false

namespace Metacard.Http

def encodeSegment (special : Bool) (segment : String) : String :=
  percentEncode (inSegmentSet special) segment.toList

section

variable {special : Bool}

theorem percentDecode?_encodeSegment (segment : String) :
    percentDecode? (encodeSegment special segment).toList = some segment.toList :=
  percentDecode?_percentEncode (isEncodingSet_segment special) segment.toList

theorem encodeSegment_inj {left right : String} :
    encodeSegment special left = encodeSegment special right ↔ left = right :=
  (percentEncode_inj (isEncodingSet_segment special)).trans String.toList_inj

theorem slash_not_mem_encodeSegment (segment : String) :
    '/' ∉ (encodeSegment special segment).toList := by
  intro member
  have digits : ∀ n < 16, '/' ≠ hexDigit n := by decide
  rcases of_mem_percentEncode member with kept | percent | ⟨n, below, digit⟩
  · simp [inSegmentSet] at kept
  · exact absurd percent (by decide)
  · exact digits n below digit

theorem encodeSegment_mem_iff {spellings : List String} {text segment : String}
    (decoded : ∀ spelling ∈ spellings, percentDecode? spelling.toList = some text.toList)
    (written : encodeSegment special text ∈ spellings) :
    encodeSegment special segment ∈ spellings ↔ segment = text := by
  constructor
  · intro isSpelling
    have same := decoded _ isSpelling
    rw [percentDecode?_encodeSegment] at same
    exact String.toList_inj.1 (Option.some.inj same)
  · rintro rfl
    exact written

theorem isSingleDot_encodeSegment {segment : String} :
    isSingleDot (encodeSegment special segment) = true ↔ segment = "." :=
  List.contains_iff_mem.trans
    (encodeSegment_mem_iff (by decide +kernel) (by cases special <;> decide))

theorem isDoubleDot_encodeSegment {segment : String} :
    isDoubleDot (encodeSegment special segment) = true ↔ segment = ".." :=
  List.contains_iff_mem.trans
    (encodeSegment_mem_iff (by decide +kernel) (by cases special <;> decide))

end

/-! ## Segments for a group -/

/-- What is left of a name without its dropped characters. -/
def keptName (name : String) : String :=
  String.ofList (withoutDropped name.toList)

theorem keptName_eq_self_iff {name : String} :
    keptName name = name ↔ ∀ c ∈ name.toList, isDropped c = false := by
  rw [← String.toList_inj, keptName, String.toList_ofList, withoutDropped, List.filter_eq_self]
  simp only [Bool.not_eq_true']

def roomFor (path : List String) : List String :=
  if path = [""] then [] else path

theorem roomFor_append_singleton {path : List String} {segment : String} (named : segment ≠ "") :
    roomFor (path ++ [segment]) = path ++ [segment] := by
  apply if_neg
  intro same
  cases path with
  | nil => exact named (List.singleton_inj.1 same)
  | cons first rest => simp at same

theorem pushSegment_eq (special : Bool) (path : List String) (segment : String) :
    pushSegment special path segment =
      if segment = "." ∨ segment = ".." then path
      else if keptName segment = ".." then above (roomFor path) ++ [""]
      else if keptName segment = "." then roomFor path ++ [""]
      else roomFor path ++ [encodeSegment special (keptName segment)] := by
  have written : percentEncode (inSegmentSet special) (withoutDropped segment.toList) =
      encodeSegment special (keptName segment) := by
    rw [encodeSegment, keptName, String.toList_ofList]
  simp only [pushSegment, addSegment, written, isDoubleDot_encodeSegment,
    isSingleDot_encodeSegment, if_true]
  rfl

def rootSegments (path : List String) : List String :=
  roomFor (withoutFinalEmpty path)

def sharedSegments : List String :=
  ["enumerations", "metacardtype"]

def groupSegments (group : String) : List String :=
  if group = "." ∨ group = ".." then sharedSegments
  else if keptName group = ".." then ["enumerations", ""]
  else if keptName group = "." then sharedSegments ++ [""]
  else sharedSegments ++ [keptName group]

theorem encodeSegment_shared {special : Bool} :
    ∀ word ∈ sharedSegments, encodeSegment special word = word := by
  cases special <;> decide

theorem map_encodeSegment_shared {special : Bool} :
    sharedSegments.map (encodeSegment special) = sharedSegments :=
  (List.map_congr_left encodeSegment_shared).trans (List.map_id' _)

theorem pushSegment_word {special : Bool} {word : String} (isShared : word ∈ sharedSegments)
    (path : List String) : pushSegment special path word = roomFor path ++ [word] := by
  have plain : ∀ word ∈ sharedSegments, (word ≠ "." ∧ word ≠ "..") ∧ keptName word = word := by
    decide
  obtain ⟨⟨single, double⟩, kept⟩ := plain word isShared
  rw [pushSegment_eq, kept, encodeSegment_shared word isShared, if_neg (not_or.2 ⟨single, double⟩),
    if_neg double, if_neg single]

theorem pushSegment_shared (special : Bool) (path : List String) :
    pushSegment special (pushSegment special path "enumerations") "metacardtype" =
      roomFor path ++ sharedSegments := by
  rw [pushSegment_word (by decide), pushSegment_word (by decide),
    roomFor_append_singleton (by decide), List.append_assoc]
  rfl

theorem roomFor_append_shared (path : List String) :
    roomFor (path ++ sharedSegments) = path ++ sharedSegments := by
  have last : path ++ sharedSegments = path ++ ["enumerations"] ++ ["metacardtype"] := by
    rw [List.append_assoc]
    rfl
  rw [last, roomFor_append_singleton (by decide)]

theorem above_append_shared (path : List String) :
    above (path ++ sharedSegments) = path ++ ["enumerations"] := by
  have last : (path ++ sharedSegments).getLast? = some "metacardtype" := by
    rw [List.getLast?_append]
    rfl
  rw [above, last, if_neg (by decide)]
  exact List.dropLast_append_of_ne_nil (List.cons_ne_nil _ _)

theorem foldl_pushSegment (special : Bool) (path : List String) (group : String) :
    (sharedSegments ++ [group]).foldl (pushSegment special) (withoutFinalEmpty path) =
      rootSegments path ++ (groupSegments group).map (encodeSegment special) := by
  have word : encodeSegment special "enumerations" = "enumerations" :=
    encodeSegment_shared _ List.mem_cons_self
  have empty : encodeSegment special "" = "" := rfl
  have pushed : (sharedSegments ++ [group]).foldl (pushSegment special) (withoutFinalEmpty path) =
      pushSegment special (rootSegments path ++ sharedSegments) group :=
    congrArg (pushSegment special · group) (pushSegment_shared special (withoutFinalEmpty path))
  rw [pushed, pushSegment_eq, roomFor_append_shared, above_append_shared, groupSegments]
  split
  · rw [map_encodeSegment_shared]
  · split
    · rw [List.map_cons, List.map_singleton, word, empty, List.append_assoc]
      rfl
    · split
      · rw [List.map_append, List.map_singleton, map_encodeSegment_shared, empty, List.append_assoc]
      · rw [List.map_append, List.map_singleton, map_encodeSegment_shared, List.append_assoc]

/-! ## Addresses as texts -/

theorem toList_render_segments (path : List String) :
    (UrlPath.segments path).render.toList = path.flatMap fun segment => '/' :: segment.toList := by
  rw [UrlPath.render, String.toList_join, List.flatMap_map]
  exact List.flatMap_congr fun segment _ => String.toList_append ..

theorem splitOn_slash {path : List String} (plain : ∀ segment ∈ path, '/' ∉ segment.toList) :
    ∀ {first : List Char}, '/' ∉ first →
      (first ++ path.flatMap fun segment => '/' :: segment.toList).splitOn '/' =
        first :: path.map String.toList := by
  induction path with
  | nil =>
    intro first isPlain
    rw [List.flatMap_nil, List.append_nil, List.splitOn_eq_singleton isPlain]
    rfl
  | cons segment rest inductionHypothesis =>
    intro first isPlain
    obtain ⟨segmentPlain, restPlain⟩ := List.forall_mem_cons.1 plain
    rw [List.flatMap_cons, List.cons_append, List.splitOn, List.splitOnP_append_cons _ _ (by simp)]
    exact congrArg₂ (· ++ ·) (List.splitOn_eq_singleton isPlain)
      (inductionHypothesis restPlain segmentPlain)

theorem render_segments_inj {left right : List String}
    (leftPlain : ∀ segment ∈ left, '/' ∉ segment.toList)
    (rightPlain : ∀ segment ∈ right, '/' ∉ segment.toList) :
    (UrlPath.segments left).render = (UrlPath.segments right).render ↔ left = right := by
  refine ⟨fun same => ?_, fun same => by rw [same]⟩
  have parts := congrArg (fun text => text.toList.splitOn '/') same
  simp only [toList_render_segments] at parts
  rw [← List.nil_append (left.flatMap _), ← List.nil_append (right.flatMap _),
    splitOn_slash leftPlain List.not_mem_nil, splitOn_slash rightPlain List.not_mem_nil] at parts
  exact List.map_injective_iff.2 (fun _ _ => String.toList_inj.1) (List.cons.inj parts).2

/-- Paths with a common beginning differ as texts where they go on. -/
theorem render_append_inj {path left right : List String} :
    (UrlPath.segments (path ++ left)).render = (UrlPath.segments (path ++ right)).render ↔
      (UrlPath.segments left).render = (UrlPath.segments right).render := by
  rw [← String.toList_inj, ← String.toList_inj]
  simp only [toList_render_segments, List.flatMap_append, List.append_cancel_left_eq]

theorem render_path_inj {url : Url} {left right : UrlPath} :
    Url.render { url with path := left } = Url.render { url with path := right } ↔
      left.render = right.render := by
  cases url
  simp only [Url.render, Url.target, Url.pathText, String.append_left_inj,
    String.append_right_inj]

variable {config : Config} {root : Url} {path : List String}

/-- The API root of a configuration can be read, is followed by no query or fragment, and takes more
segments. -/
structure IsRoot (config : Config) (root : Url) (path : List String) : Prop where
  read : Url.parse (config.endpoint "") = .ok root
  path : root.path = .segments path
  query : root.query = none
  fragment : root.fragment = none

def groupUrl (config : Config) (group : String) : Except Failure Url :=
  Remote.metadataUrl config ["enumerations", "metacardtype", group]

/-- The address has the path of the API root with three more segments, the last of them for the
group. -/
def IsNamedAfter (root : Url) (path : List String) (group : String) (url : Url) : Prop :=
  ∃ segment, url = { root with
      path := .segments (rootSegments path ++ ["enumerations", "metacardtype", segment]) } ∧
    percentDecode? segment.toList = some group.toList

def groupAddress (root : Url) (path : List String) (group : String) : Url :=
  { root with
    path := .segments (rootSegments path ++
      (groupSegments group).map (encodeSegment (isSpecial root.scheme))) }

theorem groupUrl_eq (isRoot : IsRoot config root path) (group : String) :
    groupUrl config group = .ok (groupAddress root path group) := by
  have extended : root.extend? ["enumerations", "metacardtype", group] =
      some (groupAddress root path group) := by
    rw [Url.extend?, isRoot.path]
    exact congrArg (fun segments => some { root with path := .segments segments })
      (foldl_pushSegment (isSpecial root.scheme) path group)
  simp only [groupUrl, Remote.metadataUrl, isRoot.read, extended]

theorem isNamedAfter_iff {group : String} :
    IsNamedAfter root path group (groupAddress root path group) ↔
      groupSegments group = sharedSegments ++ [group] := by
  have written : (sharedSegments ++ [group]).map (encodeSegment (isSpecial root.scheme)) =
      ["enumerations", "metacardtype", encodeSegment (isSpecial root.scheme) group] := by
    rw [List.map_append, map_encodeSegment_shared]
    rfl
  constructor
  · rintro ⟨segment, same, decoded⟩
    have segments := List.append_cancel_left (UrlPath.segments.inj (congrArg Url.path same))
    obtain ⟨name, -, rfl⟩ : ∃ name ∈ groupSegments group,
        encodeSegment (isSpecial root.scheme) name = segment := by
      rw [← List.mem_map, segments]
      simp
    -- The last segment can only be read as what was encoded in it.
    rw [percentDecode?_encodeSegment] at decoded
    obtain rfl := String.toList_inj.1 (Option.some.inj decoded)
    exact List.map_injective_iff.2 (fun _ _ => encodeSegment_inj.1) (segments.trans written.symm)
  · intro named
    refine ⟨encodeSegment (isSpecial root.scheme) group, ?_, percentDecode?_encodeSegment group⟩
    rw [groupAddress, named, written]

theorem groupSegments_eq_iff {group : String} :
    groupSegments group = sharedSegments ++ [group] ↔
      group ≠ "." ∧ group ≠ ".." ∧ ∀ c ∈ group.toList, isDropped c = false := by
  rw [← keptName_eq_self_iff, ← and_assoc, ← not_or]
  constructor
  · intro segments
    rw [groupSegments] at segments
    split at segments
    · simp at segments
    · rename_i plain
      refine ⟨plain, ?_⟩
      split at segments
      · simp [sharedSegments] at segments
      · split at segments
        · rename_i isDot
          rw [← List.singleton_inj.1 (List.append_cancel_left segments)] at isDot
          exact absurd isDot (by decide)
        · exact List.singleton_inj.1 (List.append_cancel_left segments)
  · rintro ⟨plain, kept⟩
    rw [not_or] at plain
    rw [groupSegments, kept, if_neg (not_or.2 plain), if_neg plain.2, if_neg plain.1]

theorem render_groupAddress_inj {group other : String} :
    (groupAddress root path group).render = (groupAddress root path other).render ↔
      groupSegments group = groupSegments other := by
  have plain (name : String) : ∀ segment ∈ (groupSegments name).map
      (encodeSegment (isSpecial root.scheme)), '/' ∉ segment.toList := by
    intro segment member
    obtain ⟨text, -, rfl⟩ := List.mem_map.1 member
    exact slash_not_mem_encodeSegment text
  rw [groupAddress, groupAddress, render_path_inj, render_append_inj,
    render_segments_inj (plain group) (plain other)]
  exact (List.map_injective_iff.2 fun _ _ => encodeSegment_inj.1).eq_iff

/-- Every group has an address, and it names the group just if the name is no dot segment and has no
dropped characters. Two groups share an address just if their names leave the same segments. -/
theorem group_has_own_url_iff (isRoot : IsRoot config root path) (group : String) :
    ∃ url, groupUrl config group = .ok url ∧ url.query = none ∧ url.fragment = none ∧
      (IsNamedAfter root path group url ↔
        group ≠ "." ∧ group ≠ ".." ∧ ∀ c ∈ group.toList, isDropped c = false) ∧
      ∀ other otherUrl, groupUrl config other = .ok otherUrl →
        (url.render = otherUrl.render ↔ groupSegments group = groupSegments other) := by
  refine ⟨_, groupUrl_eq isRoot group, isRoot.query, isRoot.fragment,
    isNamedAfter_iff.trans groupSegments_eq_iff, fun other otherUrl isUrl => ?_⟩
  obtain rfl := Except.ok.inj ((groupUrl_eq isRoot other).symm.trans isUrl)
  exact render_groupAddress_inj

def localConfig : Config where
  baseUrl := "https://localhost:8993"
  apiRoot := "/search/catalog/internal"
  rpcPath := "/direct"
  timeoutMilliseconds := 30000
  acceptInvalidCerts := false
  defaultCount := none

def localRoot : Url where
  scheme := "https"
  authority := some ⟨.absent, .named "localhost", some 8993⟩
  path := .segments ["search", "catalog", "internal"]
  isPathMarked := false
  query := none
  fragment := none

theorem isRoot_local : IsRoot localConfig localRoot ["search", "catalog", "internal"] where
  read := by decide +kernel
  path := rfl
  query := rfl
  fragment := rfl

theorem group_has_own_url_iff_local :
    IsRoot localConfig localRoot ["search", "catalog", "internal"] ∧
      ∃ url, groupUrl localConfig "my group/a?b#c" = .ok url ∧
        IsNamedAfter localRoot ["search", "catalog", "internal"] "my group/a?b#c" url := by
  obtain ⟨url, isUrl, -, -, named, -⟩ := group_has_own_url_iff isRoot_local "my group/a?b#c"
  exact ⟨isRoot_local, url, isUrl, named.2 (by simp [isDropped])⟩

/-- A tab in the name of a group is dropped, so that the group shares the address of another. -/
theorem group_url_shared :
    ¬ ∀ (config : Config) (root : Url) (path : List String), IsRoot config root path →
      ∀ group other url otherUrl, groupUrl config group = .ok url →
        groupUrl config other = .ok otherUrl → group ≠ other → url.render ≠ otherUrl.render := by
  intro apart
  exact apart _ _ _ isRoot_local "ab" "a\tb" _ _ (groupUrl_eq isRoot_local "ab")
    (groupUrl_eq isRoot_local "a\tb") (by decide) (render_groupAddress_inj.2 (by decide))

end Metacard.Http
