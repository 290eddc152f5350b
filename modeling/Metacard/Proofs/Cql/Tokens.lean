import Metacard.Filter.Cql
/-!
# The tokens of query texts

A query text consists of parentheses, words and quoted texts. A quoted text ends at the first mark
that is not written twice, whatever else it holds; a word ends at a blank, a parenthesis or a mark.

Every text of tokens with blanks between them is cut into exactly these tokens.
-/

set_option autoImplicit false

namespace Metacard.Cql

inductive Token where
  | opening
  | closing
  | word (chars : List Char)
  | quoted (mark : Char) (content : List Char)
  deriving DecidableEq, Repr

def isMark (c : Char) : Bool :=
  c = '"' || c = '\''

def delimiters : List Char := [' ', '(', ')', '"', '\'']

def isWordPart (c : Char) : Bool :=
  c ∉ delimiters

theorem isWordPart_of_apart {p : Char → Bool} (apart : delimiters.all (fun c => !p c) = true)
    {c : Char} (holds : p c = true) : isWordPart c = true := by
  apply decide_eq_true
  intro delimiter
  have fails := List.all_eq_true.1 apart c delimiter
  rw [holds] at fails
  exact Bool.false_ne_true fails

namespace Lexer

/-- What the characters since the last finished token are part of, the last character first. -/
inductive Mode where
  | between
  | word (reversed : List Char)
  | inside (mark : Char) (reversed : List Char)
  /-- After a mark that ends the quoted text unless it is written twice. -/
  | ended (mark : Char) (reversed : List Char)
  deriving DecidableEq, Repr

end Lexer

structure Lexer where
  /-- The finished tokens, the last one first. -/
  finished : List Token
  mode : Lexer.Mode
  deriving DecidableEq, Repr

namespace Lexer

def start (finished : List Token) (c : Char) : Lexer :=
  if c = ' ' then ⟨finished, .between⟩
  else if c = '(' then ⟨.opening :: finished, .between⟩
  else if c = ')' then ⟨.closing :: finished, .between⟩
  else if isMark c then ⟨finished, .inside c []⟩
  else ⟨finished, .word [c]⟩

def step (lexer : Lexer) (c : Char) : Lexer :=
  match lexer.mode with
  | .between => start lexer.finished c
  | .word reversed =>
      if isWordPart c then ⟨lexer.finished, .word (c :: reversed)⟩
      else start (.word reversed.reverse :: lexer.finished) c
  | .inside mark reversed =>
      if c = mark then ⟨lexer.finished, .ended mark reversed⟩
      else ⟨lexer.finished, .inside mark (c :: reversed)⟩
  | .ended mark reversed =>
      if c = mark then ⟨lexer.finished, .inside mark (mark :: reversed)⟩
      else start (.quoted mark reversed.reverse :: lexer.finished) c

def tokens? (lexer : Lexer) : Option (List Token) :=
  match lexer.mode with
  | .between => some lexer.finished.reverse
  | _ => none

end Lexer

/-- The tokens of a text. A blank is put behind it, so that the last token ends like all others. -/
def tokens? (chars : List Char) : Option (List Token) :=
  ((chars ++ [' ']).foldl Lexer.step ⟨[], .between⟩).tokens?

namespace Token

def spelling : Token → List Char
  | .opening => ['(']
  | .closing => [')']
  | .word chars => chars
  | .quoted mark content => enclosed mark content

def Readable : Token → Prop
  | .opening | .closing => True
  | .word chars => chars ≠ [] ∧ chars.all isWordPart = true
  | .quoted mark _ => isMark mark = true

end Token

def spaced (tokens : List Token) : List Char :=
  tokens.flatMap fun token => token.spelling ++ [' ']

@[simp]
theorem spaced_nil : spaced [] = [] := rfl

@[simp]
theorem spaced_cons (token : Token) (tokens : List Token) :
    spaced (token :: tokens) = token.spelling ++ ' ' :: spaced tokens := by
  simp [spaced]

@[simp]
theorem spaced_append (left right : List Token) :
    spaced (left ++ right) = spaced left ++ spaced right :=
  List.flatMap_append

namespace Lexer

theorem start_blank (finished : List Token) : start finished ' ' = ⟨finished, .between⟩ :=
  if_pos rfl

theorem start_wordPart {c : Char} (part : isWordPart c = true) (finished : List Token) :
    start finished c = ⟨finished, .word [c]⟩ := by
  have apart : c ≠ ' ' ∧ c ≠ '(' ∧ c ≠ ')' ∧ c ≠ '"' ∧ c ≠ '\'' := by
    simpa [isWordPart, delimiters] using part
  obtain ⟨blank, opening, closing, double, single⟩ := apart
  simp [start, isMark, blank, opening, closing, double, single]

theorem start_mark {mark : Char} (isMark : isMark mark = true) (finished : List Token) :
    start finished mark = ⟨finished, .inside mark []⟩ := by
  have marks : mark = '"' ∨ mark = '\'' := by simpa [Cql.isMark] using isMark
  rcases marks with rfl | rfl
  · rfl
  · rfl

theorem foldl_step_word {chars : List Char} (parts : ∀ c ∈ chars, isWordPart c = true)
    (finished : List Token) (reversed : List Char) :
    chars.foldl step ⟨finished, .word reversed⟩ =
      ⟨finished, .word (chars.reverse ++ reversed)⟩ := by
  induction chars generalizing reversed with
  | nil => rfl
  | cons c chars inductionHypothesis =>
    have next : step ⟨finished, .word reversed⟩ c = ⟨finished, .word (c :: reversed)⟩ :=
      if_pos (parts c List.mem_cons_self)
    rw [List.foldl_cons, next,
      inductionHypothesis fun c member => parts c (List.mem_cons_of_mem _ member)]
    simp

/-- No content ends a quoted text early, since every mark in it is written twice. -/
theorem foldl_step_content (mark : Char) (content : List Char) (finished : List Token)
    (reversed : List Char) :
    (content.flatMap fun c => if c = mark then [mark, mark] else [c]).foldl step
        ⟨finished, .inside mark reversed⟩ =
      ⟨finished, .inside mark (content.reverse ++ reversed)⟩ := by
  induction content generalizing reversed with
  | nil => rfl
  | cons c content inductionHypothesis =>
    rw [List.flatMap_cons, List.foldl_append]
    have next : (if c = mark then [mark, mark] else [c]).foldl step
        ⟨finished, .inside mark reversed⟩ = ⟨finished, .inside mark (c :: reversed)⟩ := by
      -- The first of two marks ends the text, and the second one takes that back.
      by_cases same : c = mark
      · subst same
        simp [step]
      · simp [step, same]
    rw [next, inductionHypothesis]
    simp

theorem foldl_step_spelling {token : Token} (readable : token.Readable) (finished : List Token) :
    (token.spelling ++ [' ']).foldl step ⟨finished, .between⟩ =
      ⟨token :: finished, .between⟩ := by
  cases token with
  | opening => rfl
  | closing => rfl
  | word chars =>
    obtain ⟨nonempty, readableChars⟩ := readable
    have parts := List.all_eq_true.1 readableChars
    cases chars with
    | nil => contradiction
    | cons c chars =>
      have first : step ⟨finished, .between⟩ c = ⟨finished, .word [c]⟩ :=
        start_wordPart (parts c List.mem_cons_self) finished
      have last : step ⟨finished, .word (chars.reverse ++ [c])⟩ ' ' =
          start (.word (chars.reverse ++ [c]).reverse :: finished) ' ' := rfl
      rw [Token.spelling, List.cons_append, List.foldl_cons, first, List.foldl_append,
        foldl_step_word fun c member => parts c (List.mem_cons_of_mem _ member),
        List.foldl_cons, List.foldl_nil, last, start_blank]
      simp
  | quoted mark content =>
    have first : step ⟨finished, .between⟩ mark = ⟨finished, .inside mark []⟩ :=
      start_mark readable finished
    have ends : step ⟨finished, .inside mark content.reverse⟩ mark =
        ⟨finished, .ended mark content.reverse⟩ := if_pos rfl
    have different : ' ' ≠ mark := by
      intro same
      have blank : isMark ' ' = true := same ▸ readable
      exact absurd blank (by decide)
    have last : step ⟨finished, .ended mark content.reverse⟩ ' ' =
        start (.quoted mark content.reverse.reverse :: finished) ' ' := if_neg different
    rw [Token.spelling, enclosed, List.cons_append, List.cons_append, List.foldl_cons, first,
      List.foldl_append, List.foldl_append, foldl_step_content, List.append_nil]
    simp only [List.foldl_cons, List.foldl_nil]
    rw [ends, last, start_blank, List.reverse_reverse]

theorem foldl_step_spaced {tokens : List Token} (readable : ∀ token ∈ tokens, token.Readable)
    (finished : List Token) :
    (spaced tokens).foldl step ⟨finished, .between⟩ = ⟨tokens.reverse ++ finished, .between⟩ := by
  induction tokens generalizing finished with
  | nil => rfl
  | cons token tokens inductionHypothesis =>
    have first := foldl_step_spelling (readable token List.mem_cons_self) finished
    rw [spaced, List.flatMap_cons, List.foldl_append, first]
    have others := inductionHypothesis
      (fun token member => readable token (List.mem_cons_of_mem _ member)) (token :: finished)
    rw [spaced] at others
    rw [others]
    simp

end Lexer

theorem tokens?_of_spaced {chars : List Char} {tokens : List Token}
    (readable : ∀ token ∈ tokens, token.Readable) (text : chars ++ [' '] = spaced tokens) :
    tokens? chars = some tokens := by
  rw [tokens?, text, Lexer.foldl_step_spaced readable]
  simp [Lexer.tokens?]

end Metacard.Cql
