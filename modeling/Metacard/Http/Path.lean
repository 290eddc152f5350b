import Metacard.Http.Percent
/-!
# Paths of URLs

A path is either one flat text, which cannot be extended, or a list of segments. The path `/` is a
single empty segment. The segments `.` and `..`, in any spelling, stand for places and are no part
of a path.

A segment that names a drive, as `C:`, has nothing above it.
-/

set_option autoImplicit false

namespace Metacard.Http

inductive UrlPath where
  | flat (text : String)
  | segments (segments : List String)
  deriving DecidableEq, Repr

def UrlPath.render : UrlPath → String
  | .flat text => text
  | .segments path => String.join (path.map fun segment => "/" ++ segment)

/-- The path starts with an empty segment and goes on. Written alone it would be taken for an
authority. -/
def UrlPath.startsTwice : UrlPath → Bool
  | .segments ("" :: _ :: _) => true
  | _ => false

def isDropped (c : Char) : Bool :=
  c = '\t' || c = '\n' || c = '\r'

def withoutDropped (chars : List Char) : List Char :=
  chars.filter fun c => !isDropped c

def isSingleDot (segment : String) : Bool :=
  [".", "%2e", "%2E"].contains segment

def isDoubleDot (segment : String) : Bool :=
  ["..", "%2e%2e", "%2e%2E", "%2E%2e", "%2E%2E", "%2e.", "%2E.", ".%2e", ".%2E"].contains segment

/-- The letter of the drive that a segment names: a letter with a colon or a bar after it. -/
def drive? (segment : String) : Option Char :=
  match segment.toList with
  | [letter, mark] => if letter.isAlpha && (mark = ':' || mark = '|') then some letter else none
  | _ => none

def above (path : List String) : List String :=
  if (path.getLast?.bind drive?).isSome then path else path.dropLast

/-- Adds an encoded segment to a path. A dot segment at the end leaves an empty one. -/
def addSegment (path : List String) (segment : String) (isLast : Bool) : List String :=
  if isDoubleDot segment then above path ++ (if isLast then [""] else [])
  else if isSingleDot segment then path ++ (if isLast then [""] else [])
  else path ++ [segment]

def addSegments (path : List String) : List String → List String
  | [] => path
  | [segment] => addSegment path segment true
  | segment :: rest => addSegments (addSegment path segment false) rest

/-- The path without a final empty segment, unless it is the only one. -/
def withoutFinalEmpty (path : List String) : List String :=
  if 2 ≤ path.length ∧ path.getLast? = some "" then path.dropLast else path

/-- Adds one more segment, given as any text. The segments `.` and `..` are passed over. -/
def pushSegment (special : Bool) (path : List String) (segment : String) : List String :=
  if segment = "." ∨ segment = ".." then path
  else
    let encoded := percentEncode (inSegmentSet special) (withoutDropped segment.toList)
    addSegment (if path = [""] then [] else path) encoded true

def isSlash (special : Bool) (c : Char) : Bool :=
  c = '/' || (special && c = '\\')

def readSegments (special : Bool) (chars : List Char) : List String :=
  addSegments [] ((chars.splitOnP (isSlash special)).map fun segment =>
    percentEncode inPathSet (withoutDropped segment))

/-! ## Files -/

structure FilePath where
  segments : List String
  /-- The path is on a drive of this machine, whatever the host. -/
  isLocal : Bool
  deriving DecidableEq, Repr

namespace FilePath

def empty : FilePath where
  segments := []
  isLocal := false

/-- A drive with its colon that dropped characters part from what follows, and what follows. -/
def parted? (chars : List Char) : Option (String × List Char) :=
  match chars.dropWhile isDropped with
  | letter :: rest =>
      match rest.dropWhile isDropped with
      | ':' :: c :: rest =>
          match withoutDropped rest with
          | [] => none
          | next => if letter.isAlpha && isDropped c then some (String.ofList [letter, ':'], next)
              else none
      | _ => none
  | [] => none

/-- Adds a segment. A drive in front is written with a colon. -/
def add (path : FilePath) (chars : List Char) (isLast : Bool) : FilePath :=
  let segment := percentEncode inPathSet (withoutDropped chars)
  if path.segments.isEmpty then
    match parted? chars, drive? segment with
    | some (drive, rest), _ => { path with segments := [drive, percentEncode inPathSet rest] }
    | none, some letter => { segments := [String.ofList [letter, ':']], isLocal := true }
    | none, none => { path with segments := addSegment [] segment isLast }
  else { path with segments := addSegment path.segments segment isLast }

def addAll (path : FilePath) : List (List Char) → FilePath
  | [] => path
  | [segment] => path.add segment true
  | segment :: rest => (path.add segment false).addAll rest

def trimmed (path : FilePath) : FilePath :=
  { path with
    segments :=
      match path.segments.dropWhile (· == "") with
      | [] => [""]
      | segments => segments }

def read (chars : List Char) : FilePath :=
  (empty.addAll (chars.splitOnP (isSlash true))).trimmed

end FilePath

end Metacard.Http
