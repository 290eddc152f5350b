import Metacard.Http.Domain.Mapping
import Metacard.Text.Canonical
import Metacard.Text.Direction
import Metacard.Text.Joining
import Metacard.Text.Marks
import Metacard.Text.Punycode
/-!
# Domains

A domain is a list of labels parted by dots. In the form that is sent every label is of ASCII
characters: one with other characters is written in Punycode after `xn--`. All spellings of a domain
have one such form: characters are first replaced by what they stand for, and labels in Punycode are
read before they are looked at.

Labels may be empty, hyphens may stand anywhere, and ASCII labels may have any length.
-/

set_option autoImplicit false

namespace Metacard.Http.Domain

open Metacard.Text

def punycodeMark : List Char := ['x', 'n', '-', '-']

/-- A label with more characters is not written in Punycode. -/
def greatestLabel : Nat := 1000

/-- A label in Punycode with more characters after the mark is not read. -/
def greatestCode : Nat := 2000

def isAscii (c : Char) : Bool :=
  c.toNat < 0x80

def isForbidden (c : Char) : Bool :=
  c.toNat ≤ 0x20 || c.toNat = 0x7F || "%#/:<>?@[\\]^|".toList.contains c

/-- A label without Punycode, given one as it is written. A label in Punycode that could be written
otherwise is refused. -/
def label? (label : List Char) : Option (List Char) :=
  match label with
  | 'x' :: 'n' :: '-' :: '-' :: code =>
      if code.isEmpty || code.getLast? == some '-' || greatestCode < code.length ||
          !code.all isAscii then none
      else do
        let label ← Punycode.decode? code
        let meaning ← mapped? label
        if meaning == label && Canonical.normalize label == label &&
            !punycodeMark.isPrefixOf label then some label
        else none
  | _ => some label

def isWellFormed (label : List Char) : Bool :=
  !(label.head?.map isMark).getD false && areJoinersAllowed [] label &&
    (label.all isAscii || label.length ≤ greatestLabel)

/-- The labels of a domain without Punycode, if it is one. Where one label is read from the right,
the order of reading has to be clear in all of them. -/
def labels? (chars : List Char) : Option (List (List Char)) := do
  let meaning ← mapped? chars
  let meaning := Canonical.normalize meaning
  if meaning.any isForbidden then none
  else
    let labels ← (meaning.splitOnP (· == '.')).mapM label?
    if labels.all isWellFormed &&
        (!(labels.any fun label => label.any isRightward) || labels.all isWellDirected) then
      some labels
    else none

def asciiLabel (label : List Char) : List Char :=
  if label.all isAscii then label else punycodeMark ++ Punycode.encode label

def toAscii? (chars : List Char) : Option (List Char) :=
  (labels? chars).map fun labels => List.intercalate ['.'] (labels.map asciiLabel)

end Metacard.Http.Domain
