/-!
# ASCII letters

Tags, keywords and names of the catalog's grammar are compared and classified by their ASCII
letters and digits alone; every other character stands for itself.
-/

set_option autoImplicit false

namespace Metacard.Text

def equalIgnoringCase (left right : String) : Bool :=
  left.toList.map Char.toLower == right.toList.map Char.toLower

/-- A letter of the ASCII alphabet or a decimal digit. -/
def isWordChar (c : Char) : Bool :=
  c.isAlpha || c.isDigit

theorem equalIgnoringCase_iff {left right : String} :
    equalIgnoringCase left right = true ↔
      left.toList.map Char.toLower = right.toList.map Char.toLower := by
  simp [equalIgnoringCase]

theorem equalIgnoringCase_refl (text : String) : equalIgnoringCase text text = true := by
  simp [equalIgnoringCase]

end Metacard.Text
