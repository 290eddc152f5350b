import Metacard.Proofs.Cql.Tokens
import Metacard.Proofs.Number.Reading
/-!
# Query texts read back

A query text is read from the left, token by token. What an opening parenthesis has begun waits on a
stack until it is closed.

    filter = name operator literal
           | ( filter )  | ( filter AND filter … )  | ( filter OR filter … )
           | NOT ( filter )

The tokens of a query are read as that query.
-/

set_option autoImplicit false

namespace Metacard.Cql

inductive Literal where
  | text (value : String)
  | number (value : Number)
  | boolean (value : Bool)
  deriving DecidableEq, Repr

structure Leaf where
  operator : Operator
  property : String
  literal : Literal
  deriving DecidableEq, Repr

/-- What a query text says. A group of one member has no connective. -/
inductive Query where
  | leaf (comparison : Leaf)
  | group (connective : Option Connective) (members : List Query)
  | negation (inner : Query)
  deriving Repr

/-- The connective of a group that is seen in its text. -/
def shown (connective : Connective) (members : Nat) : Option Connective :=
  if members = 1 then none else some connective

namespace Query

@[elab_as_elim, induction_eliminator]
theorem induction {motive : Query → Prop} (leaf : ∀ comparison, motive (.leaf comparison))
    (group : ∀ connective members, (∀ member ∈ members, motive member) →
      motive (.group connective members))
    (negation : ∀ inner, motive inner → motive (.negation inner)) (query : Query) : motive query :=
  @Query.rec motive (fun members => ∀ member ∈ members, motive member) leaf group negation
    (fun _ member => nomatch member)
    (fun _ _ first others => List.forall_mem_cons.2 ⟨first, others⟩) query

/-- Every group has a member, and a connective iff it needs one. -/
inductive Proper : Query → Prop where
  | leaf (comparison : Leaf) : Proper (.leaf comparison)
  | sole {member : Query} : Proper member → Proper (.group none [member])
  | group (connective : Connective) {first second : Query} {others : List Query} :
      (∀ member ∈ first :: second :: others, Proper member) →
        Proper (.group (some connective) (first :: second :: others))
  | negation {inner : Query} : Proper inner → Proper (.negation inner)

end Query

def negationWord : List Char := ['N', 'O', 'T']

def nameToken (name : String) : Token :=
  if isBare name then .word name.toList else .quoted '"' name.toList

def Literal.token : Literal → Token
  | .text value => .quoted '\'' value.toList
  | .number value => .word value.render.toList
  | .boolean value => .word (if value then "true" else "false").toList

def Leaf.tokens (leaf : Leaf) : List Token :=
  [nameToken leaf.property, .word leaf.operator.token.toList, leaf.literal.token]

def separator : Option Connective → List Token
  | none => []
  | some connective => [.word connective.keyword.toList]

namespace Query

mutual

def tokens : Query → List Token
  | .leaf comparison => comparison.tokens
  | .group connective members =>
      .opening :: ((separator connective).intercalate (memberTokens members) ++ [.closing])
  | .negation inner => .word negationWord :: .opening :: (inner.tokens ++ [.closing])

def memberTokens : List Query → List (List Token)
  | [] => []
  | member :: rest => member.tokens :: memberTokens rest

end

theorem memberTokens_eq (members : List Query) : memberTokens members = members.map tokens := by
  induction members with
  | nil => rfl
  | cons member rest inductionHypothesis => rw [memberTokens, inductionHypothesis, List.map_cons]

end Query

/-! ## The reader -/

def Token.name? : Token → Option String
  | .quoted '"' content => some (String.ofList content)
  | .word chars => if isBare (String.ofList chars) then some (String.ofList chars) else none
  | _ => none

def operator? (chars : List Char) : Option Operator :=
  [Operator.equals, .notEquals, .like, .ilike, .greater, .greaterOrEqual, .less,
    .lessOrEqual].find? fun operator => operator.token.toList = chars

def connective? (chars : List Char) : Option Connective :=
  [Connective.and, .or].find? fun connective => connective.keyword.toList = chars

def Token.literal? : Token → Option Literal
  | .quoted '\'' content => some (.text (String.ofList content))
  | .word chars =>
      if chars = "true".toList then some (.boolean true)
      else if chars = "false".toList then some (.boolean false)
      else (Number.read? chars).map .number
  | _ => none

inductive Frame where
  /-- A group with the connective seen so far and the members so far, the last one first. -/
  | group (connective : Option Connective) (reversed : List Query)
  | negation
  deriving Repr

inductive Reader where
  | expecting (stack : List Frame)
  | negating (stack : List Frame)
  | named (stack : List Frame) (name : String)
  | compared (stack : List Frame) (name : String) (operator : Operator)
  | complete (stack : List Frame) (query : Query)
  deriving Repr

namespace Reader

def step : Reader → Token → Option Reader
  | .expecting stack, .opening => some (.expecting (.group none [] :: stack))
  | .expecting stack, token =>
      if token = .word negationWord then some (.negating stack)
      else token.name?.map (.named stack)
  | .negating stack, .opening => some (.expecting (.negation :: stack))
  | .named stack name, .word chars => (operator? chars).map (.compared stack name)
  | .compared stack name operator, token =>
      token.literal?.map fun literal => .complete stack (.leaf ⟨operator, name, literal⟩)
  | .complete (.group connective reversed :: stack) query, .closing =>
      some (.complete stack (.group connective (query :: reversed).reverse))
  | .complete (.negation :: stack) query, .closing => some (.complete stack (.negation query))
  | .complete (.group connective reversed :: stack) query, .word chars =>
      (connective? chars).bind fun next =>
        if connective.getD next = next then
          some (.expecting (.group (some next) (query :: reversed) :: stack))
        else none
  | _, _ => none

def query? : Reader → Option Query
  | .complete [] query => some query
  | _ => none

end Reader

def read? (text : String) : Option Query := do
  let tokens ← tokens? text.toList
  let reader ← tokens.foldlM Reader.step (.expecting [])
  reader.query?

theorem operator?_token (operator : Operator) :
    operator? operator.token.toList = some operator := by
  cases operator <;> decide

theorem connective?_keyword (connective : Connective) :
    connective? connective.keyword.toList = some connective := by
  cases connective <;> decide

theorem literal?_word_render (value : Number) :
    (Token.word value.render.toList).literal? = some (.number value) := by
  have other (word : List Char) (unreadable : Number.read? word = none) :
      value.render.toList ≠ word := by
    intro same
    have read := Number.read?_render value
    rw [same, unreadable] at read
    exact Option.some_ne_none _ read.symm
  rw [Token.literal?, if_neg (other _ (by decide)), if_neg (other _ (by decide)),
    Number.read?_render]
  rfl

theorem literal?_token (literal : Literal) : literal.token.literal? = some literal := by
  cases literal with
  | text value => simp [Literal.token, Token.literal?]
  | number value => exact literal?_word_render value
  | boolean value => cases value <;> decide

theorem name?_nameToken (name : String) : (nameToken name).name? = some name := by
  by_cases bare : isBare name = true
  · simp [nameToken, Token.name?, bare]
  · simp [nameToken, Token.name?, bare]

theorem isBare_negationWord : isBare (String.ofList negationWord) = false := by
  decide

theorem nameToken_ne_negationWord (name : String) : nameToken name ≠ .word negationWord := by
  rw [nameToken]
  split
  · rename_i bare
    intro same
    have spelled : name = String.ofList negationWord := by
      rw [← Token.word.inj same, String.ofList_toList]
    rw [spelled, isBare_negationWord] at bare
    exact Bool.false_ne_true bare
  · exact fun same => nomatch same

/-! ## Reading the tokens of a query -/

namespace Reader

def run (reader : Reader) (tokens : List Token) : Option Reader :=
  tokens.foldlM step reader

theorem run_nil (reader : Reader) : reader.run [] = some reader := rfl

theorem run_cons {reader next : Reader} {token : Token} (taken : reader.step token = some next)
    (rest : List Token) : reader.run (token :: rest) = next.run rest := by
  rw [run, List.foldlM_cons, taken]
  rfl

theorem run_append {reader next : Reader} {tokens : List Token}
    (taken : reader.run tokens = some next) (rest : List Token) :
    reader.run (tokens ++ rest) = next.run rest := by
  rw [run] at taken
  rw [run, List.foldlM_append, taken]
  rfl

theorem step_expecting_name {token : Token} {name : String} (other : token ≠ .word negationWord)
    (found : token.name? = some name) (stack : List Frame) :
    (expecting stack).step token = some (named stack name) := by
  cases token with
  | opening => exact absurd found (Option.some_ne_none name).symm
  | closing => exact absurd found (Option.some_ne_none name).symm
  | word chars =>
    rw [step, if_neg other, found]
    · rfl
    · exact fun same => nomatch same
  | quoted mark content =>
    rw [step, if_neg other, found]
    · rfl
    · exact fun same => nomatch same

theorem run_leaf (leaf : Leaf) (stack : List Frame) :
    (expecting stack).run leaf.tokens = some (complete stack (.leaf leaf)) := by
  have named := step_expecting_name (nameToken_ne_negationWord leaf.property)
    (name?_nameToken leaf.property) stack
  have compared : (Reader.named stack leaf.property).step (.word leaf.operator.token.toList) =
      some (compared stack leaf.property leaf.operator) := by
    rw [step, operator?_token]
    rfl
  have ended : (Reader.compared stack leaf.property leaf.operator).step leaf.literal.token =
      some (complete stack (.leaf leaf)) := by
    rw [step, literal?_token]
    rfl
  rw [Leaf.tokens, run_cons named, run_cons compared, run_cons ended, run_nil]

/-- The members of a group that is open, and the parenthesis that closes it. Each member is read on
top of whatever stack there is. -/
theorem run_members (connective : Connective) (stack : List Frame) (others : List Query) :
    ∀ (first : Query) (known : Option Connective) (reversed : List Query),
      known.getD connective = connective →
      (∀ member ∈ first :: others, ∀ stack,
        (expecting stack).run member.tokens = some (complete stack member)) →
      (expecting (.group known reversed :: stack)).run
          ((separator (some connective)).intercalate ((first :: others).map Query.tokens) ++
            [.closing]) =
        some (complete stack (.group (if others = [] then known else some connective)
          (reversed.reverse ++ first :: others))) := by
  -- On the members still to come. After a separator the group goes on with its connective known.
  induction others with
  | nil =>
    intro first known reversed _ members
    have closed : (complete (.group known reversed :: stack) first).step .closing =
        some (complete stack (.group known (first :: reversed).reverse)) := rfl
    have read := members first List.mem_cons_self (.group known reversed :: stack)
    rw [List.map_cons, List.map_nil, List.intercalate_singleton, run_append read,
      run_cons closed, run_nil, if_pos rfl, List.reverse_cons]
  | cons second others inductionHypothesis =>
    intro first known reversed agrees members
    have joined : (complete (.group known reversed :: stack) first).step
        (.word connective.keyword.toList) =
          some (expecting (.group (some connective) (first :: reversed) :: stack)) := by
      rw [step, connective?_keyword, Option.bind_some, if_pos agrees]
    have read := members first List.mem_cons_self (.group known reversed :: stack)
    have remaining := inductionHypothesis second (some connective) (first :: reversed) rfl
      fun member isOther => members member (List.mem_cons_of_mem _ isOther)
    rw [List.map_cons] at remaining
    rw [List.map_cons, List.map_cons, List.intercalate_cons_cons, List.append_assoc,
      List.append_assoc, run_append read, separator, List.singleton_append, run_cons joined]
    rw [separator] at remaining
    rw [remaining, ite_self, if_neg (List.cons_ne_nil _ _), List.reverse_cons,
      List.append_assoc, List.singleton_append]

theorem run_tokens {query : Query} (proper : query.Proper) :
    ∀ stack, (expecting stack).run query.tokens = some (complete stack query) := by
  -- Any stack, since members are read above the frames of the groups around them.
  induction proper with
  | leaf comparison =>
    intro stack
    rw [Query.tokens, run_leaf]
  | @sole member _ inductionHypothesis =>
    intro stack
    have opened : (expecting stack).step .opening =
        some (expecting (.group none [] :: stack)) := rfl
    have closed : (complete (.group none [] :: stack) member).step .closing =
        some (complete stack (.group none [member])) := rfl
    rw [Query.tokens, Query.memberTokens_eq, List.map_cons, List.map_nil,
      List.intercalate_singleton, run_cons opened, run_append (inductionHypothesis _),
      run_cons closed, run_nil]
  | @group connective first second others _ inductionHypothesis =>
    intro stack
    have opened : (expecting stack).step .opening =
        some (expecting (.group none [] :: stack)) := rfl
    rw [Query.tokens, Query.memberTokens_eq, run_cons opened,
      run_members connective stack _ first none [] rfl inductionHypothesis,
      if_neg (List.cons_ne_nil _ _), List.reverse_nil, List.nil_append]
  | @negation inner _ inductionHypothesis =>
    intro stack
    have negated : (expecting stack).step (.word negationWord) = some (negating stack) := rfl
    have opened : (negating stack).step .opening = some (expecting (.negation :: stack)) := rfl
    have closed : (complete (.negation :: stack) inner).step .closing =
        some (complete stack (.negation inner)) := rfl
    rw [Query.tokens, run_cons negated, run_cons opened, run_append (inductionHypothesis _),
      run_cons closed, run_nil]

end Reader

theorem readable_nameToken (name : String) : (nameToken name).Readable := by
  by_cases bare : isBare name = true
  · rw [nameToken, if_pos bare]
    have parts := bare
    simp only [isBare, Bool.and_eq_true, List.all_eq_true] at parts
    obtain ⟨⟨starts, nameChars⟩, _⟩ := parts
    refine ⟨?_, ?_⟩
    · intro empty
      rw [empty] at starts
      exact Bool.false_ne_true starts
    · apply List.all_eq_true.2
      intro c member
      exact isWordPart_of_apart (by decide) (nameChars c member)
  · rw [nameToken, if_neg bare]
    rfl

theorem readable_operator (operator : Operator) :
    (Token.word operator.token.toList).Readable := by
  cases operator <;> exact ⟨by decide, by decide⟩

theorem readable_connective (connective : Connective) :
    (Token.word connective.keyword.toList).Readable := by
  cases connective <;> exact ⟨by decide, by decide⟩

theorem readable_literal (literal : Literal) : literal.token.Readable := by
  cases literal with
  | text value => rfl
  | number value =>
    refine ⟨value.toList_render_ne_nil, List.all_eq_true.2 ?_⟩
    intro c member
    exact isWordPart_of_apart (by decide) (value.isTextChar_of_mem_render member)
  | boolean value => cases value <;> exact ⟨by decide, by decide⟩

theorem Leaf.readable (leaf : Leaf) : ∀ token ∈ leaf.tokens, token.Readable := by
  intro token member
  simp only [Leaf.tokens, List.mem_cons, List.not_mem_nil, or_false] at member
  rcases member with rfl | rfl | rfl
  · exact readable_nameToken leaf.property
  · exact readable_operator leaf.operator
  · exact readable_literal leaf.literal

theorem readable_separator (connective : Option Connective) :
    ∀ token ∈ separator connective, token.Readable := by
  cases connective with
  | none => exact fun _ member => nomatch member
  | some connective =>
    intro token member
    rw [List.eq_of_mem_singleton member]
    exact readable_connective connective

theorem readable_intercalate {between : List Token} {parts : List (List Token)}
    (readable : ∀ token ∈ between, token.Readable)
    (partsReadable : ∀ part ∈ parts, ∀ token ∈ part, token.Readable) :
    ∀ token ∈ between.intercalate parts, token.Readable := by
  induction parts with
  | nil => exact fun _ member => nomatch member
  | cons part rest inductionHypothesis =>
    have first := partsReadable part List.mem_cons_self
    have others := inductionHypothesis fun part member =>
      partsReadable part (List.mem_cons_of_mem _ member)
    by_cases last : rest = []
    · rw [last, List.intercalate_singleton]
      exact first
    · rw [List.intercalate_cons_of_ne_nil last]
      simp only [List.forall_mem_append]
      exact ⟨⟨first, readable⟩, others⟩

theorem Query.readable (query : Query) : ∀ token ∈ query.tokens, token.Readable := by
  induction query with
  | leaf comparison =>
    rw [Query.tokens]
    exact comparison.readable
  | group connective members membersReadable =>
    have parts : ∀ part ∈ memberTokens members, ∀ token ∈ part, token.Readable := by
      rw [memberTokens_eq]
      intro part isPart
      obtain ⟨member, isMember, rfl⟩ := List.mem_map.1 isPart
      exact membersReadable member isMember
    rw [Query.tokens]
    simp only [List.forall_mem_cons, List.forall_mem_append]
    exact ⟨trivial, readable_intercalate (readable_separator connective) parts, trivial,
      fun _ member => nomatch member⟩
  | negation inner innerReadable =>
    rw [Query.tokens]
    simp only [List.forall_mem_cons, List.forall_mem_append]
    exact ⟨⟨by decide, by decide⟩, trivial, innerReadable, trivial,
      fun _ member => nomatch member⟩

theorem read?_of_spaced {text : String} {query : Query} (proper : query.Proper)
    (spelled : text.toList ++ [' '] = spaced query.tokens) : read? text = some query := by
  have read := Reader.run_tokens proper []
  rw [Reader.run] at read
  rw [read?, tokens?_of_spaced query.readable spelled, Option.bind_eq_bind, Option.bind_some, read]
  rfl

end Metacard.Cql
