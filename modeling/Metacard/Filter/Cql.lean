import Metacard.Filter.Fault
import Metacard.Text.Blank
/-!
# The query text of filters

    id = 'abc-123'                     a comparison; texts are quoted
    resource-size > 1024               numbers and booleans stand bare
    title = 'O''Brien'                 a quote inside a text is written twice
    "odd name" = 'x'                   a property that is no plain name, or a keyword, is quoted
    ( a = 'x' AND b = 'y' )            a group is always parenthesised
    ( tag = 'a' OR tag = 'b' )         a list operand becomes a group
    NOT ( a = 'x' )                    a negation

A tree with an empty group, a blank property, or an empty or nested list anywhere has no text.

This is `CqlCompiler`.
-/

set_option autoImplicit false

namespace Metacard.Cql

/-- Reserved words; a property spelled like one in any case is quoted. -/
def keywords : List String :=
  ["AND", "OR", "NOT", "LIKE", "ILIKE", "IS", "NULL", "IN", "BETWEEN", "EXISTS", "TRUE", "FALSE",
    "BEFORE", "AFTER", "DURING", "INCLUDE", "EXCLUDE"]

def isKeyword (name : String) : Bool :=
  keywords.any fun keyword => Text.equalIgnoringCase keyword name

def isNameStart (c : Char) : Bool :=
  c.isAlpha || c = '_'

def isNameChar (c : Char) : Bool :=
  Text.isWordChar c || c = '_' || c = '-' || c = '.' || c = ':'

def isBare (name : String) : Bool :=
  (name.toList.head?.map isNameStart).getD false && name.toList.all isNameChar &&
    !isKeyword name

/-- The characters between two marks, with every mark among them written twice. -/
def enclosed (mark : Char) (chars : List Char) : List Char :=
  mark :: (chars.flatMap fun c => if c = mark then [mark, mark] else [c]) ++ [mark]

def property (name : String) : String :=
  if isBare name then name else String.ofList (enclosed '"' name.toList)

def literal? : Operand → Option String
  | .text value => some (String.ofList (enclosed '\'' value.toList))
  | .number value => some value.render
  | .boolean value => some (if value then "true" else "false")
  | .list _ => none

def group (connective : Connective) (parts : List String) : String :=
  "( " ++ String.intercalate (" " ++ connective.keyword ++ " ") parts ++ " )"

def term (name : String) (operator : Operator) (literal : String) : String :=
  name ++ " " ++ operator.token ++ " " ++ literal

def terms (leaf : Comparison) (name : String) :
    List Operand → Except FilterFault (List String)
  | [] => .ok []
  | element :: rest =>
      match literal? element with
      | none => .error (.listNested leaf.property)
      | some literal => (terms leaf name rest).map (term name leaf.operator literal :: ·)

def comparison (leaf : Comparison) : Except FilterFault String :=
  let trimmed := Text.trim leaf.property
  if trimmed.isEmpty then .error .propertyBlank
  else
    let name := property trimmed
    match literal? leaf.operand with
    | some literal => .ok (term name leaf.operator literal)
    | none =>
        if leaf.operand.elements.isEmpty then .error (.listEmpty leaf.property)
        else (terms leaf name leaf.operand.elements).map (group .or)

mutual

/-- The text of a filter, or the first fault from left to right. -/
def compile : Filter → Except FilterFault String
  | .comparison leaf => comparison leaf
  | .group connective members =>
      if members.isEmpty then .error (.groupEmpty connective)
      else (compileAll members).map (group connective)
  | .negation inner => (compile inner).map fun text => "NOT ( " ++ text ++ " )"

def compileAll : List Filter → Except FilterFault (List String)
  | [] => .ok []
  | member :: rest => do
      let first ← compile member
      let others ← compileAll rest
      .ok (first :: others)

end

end Metacard.Cql
