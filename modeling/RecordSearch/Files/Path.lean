import RecordSearch.Text.Basic

/-! Paths of files. A path is kept without the parts that lead nowhere, so that its text form shows
each step once. -/
namespace RecordSearch

/-- A path: the slashes that it begins with, and its parts. -/
structure FilePath where
  root : Text := []
  parts : List Text := []
  deriving DecidableEq, Repr

namespace FilePath

/-- The slashes that a path begins with. Exactly two are kept apart from one; three or more are
one. -/
def rootOf (text : Text) : Text :=
  match (text.takeWhile (· == '/')).length with
  | 0 => []
  | 2 => ['/', '/']
  | _ => ['/']

def isStep (part : Text) : Bool := part != [] && part != ['.']

def ofText (text : Text) : FilePath := ⟨rootOf text, (Text.splitAt (· == '/') text).filter isStep⟩

/-- The text form of a path. The path without parts is the place where one is. -/
def toText (path : FilePath) : Text :=
  if path.root.isEmpty && path.parts.isEmpty then ['.'] else path.root ++ Text.join ['/'] path.parts

/-- The path `inner` seen from `outer`. -/
def append (outer inner : FilePath) : FilePath :=
  if inner.root.isEmpty then ⟨outer.root, outer.parts ++ inner.parts⟩ else inner

instance : Append FilePath := ⟨append⟩

end FilePath
end RecordSearch
