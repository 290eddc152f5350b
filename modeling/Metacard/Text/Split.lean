/-!
# Parts of a text

A text is parted at the first character of a kind, or at the first place where a mark stands.
-/

set_option autoImplicit false

namespace Metacard.Text

def breakAt (stop : Char → Bool) (chars : List Char) : List Char × List Char :=
  (chars.takeWhile fun c => !stop c, chars.dropWhile fun c => !stop c)

def splitAtMark (mark : Char) (chars : List Char) : List Char × Option (List Char) :=
  match breakAt (· == mark) chars with
  | (before, _ :: after) => (before, some after)
  | (before, []) => (before, none)

end Metacard.Text
