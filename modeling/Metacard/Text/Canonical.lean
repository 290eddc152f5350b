import Metacard.Text.Canonical.Classes
import Metacard.Text.Canonical.Composites
/-!
# The canonical form of a text

The same writing can be coded in several ways: with composites or with marks of their own, and with
marks in different orders. In the canonical form (NFC) every character is taken apart, marks are put
in the order of their classes, and what can be put together is put together again.

A few characters never appear in the canonical form because they stand for a single other one or are
excluded from composition. They are left alone here: the texts that are brought into canonical form
have been freed of them before.
-/

set_option autoImplicit false

namespace Metacard.Text.Canonical

/-- Takes a character apart in at most `depth` steps. -/
def takeApart : (depth : Nat) → Nat → List Nat
  | 0, code => [code]
  | depth + 1, code =>
      match parts? code with
      | some (first, second) => takeApart depth first ++ [second]
      | none => [code]

/-- No composite is taken apart in more steps than this. -/
def greatestDepth : Nat := 4

def decompose (c : Char) : List Char :=
  (takeApart greatestDepth c.toNat).map Char.ofNat

/-- Puts a character in front of ordered ones, behind the marks of lower classes. -/
def insertMark (c : Char) : List Char → List Char
  | [] => [c]
  | next :: rest =>
      if 0 < combiningClass next ∧ combiningClass next < combiningClass c then
        next :: insertMark c rest
      else c :: next :: rest

def ordered (chars : List Char) : List Char :=
  chars.foldr insertMark []

structure Composition where
  /-- What is finished, the last character first. -/
  finished : List Char
  /-- The character that marks are put upon, if there is one. -/
  base : Option Char
  /-- The marks that did not fit into it, the last one first. -/
  marks : List Char

namespace Composition

def empty : Composition where
  finished := []
  base := none
  marks := []

def reversed (state : Composition) : List Char :=
  state.marks ++ state.base.toList ++ state.finished

/-- No mark stands between the base and a character that keeps it from being put upon the base. -/
def isOpen (state : Composition) (c : Char) : Bool :=
  match state.marks with
  | [] => true
  | last :: _ => combiningClass last < combiningClass c

def add (state : Composition) (c : Char) : Composition :=
  let composite := state.base.bind fun base =>
    if state.isOpen c then composite? base.toNat c.toNat else none
  match composite with
  | some code => { state with base := some (Char.ofNat code) }
  | none =>
      if combiningClass c = 0 then
        { finished := state.reversed, base := some c, marks := [] }
      else { state with marks := c :: state.marks }

end Composition

def compose (chars : List Char) : List Char :=
  (chars.foldl Composition.add .empty).reversed.reverse

def normalize (chars : List Char) : List Char :=
  compose (ordered (chars.flatMap decompose))

end Metacard.Text.Canonical
