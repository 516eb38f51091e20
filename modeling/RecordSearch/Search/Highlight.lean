import RecordSearch.Text.CaseMatch

/-! The places where a term stands in a text, when case is left aside, from left to right and
without overlap, and the text with a marker around each of them. -/
namespace RecordSearch

/-- A piece of a text that was looked through for a term. -/
inductive Segment where
  | hit (text : Text)
  | plain (c : Char)
  deriving DecidableEq, Repr

structure Span where
  text : Text
  start : Nat
  stop : Nat
  deriving DecidableEq, Repr

def beginsWith (term text : Text) : Bool :=
  match term, text with
  | [], _ => true
  | _ :: _, [] => false
  | c :: term, d :: text => caseMatches c d && beginsWith term text

namespace Segment

/-- The segments of a text whose first characters belong to a place already found. -/
def scanAfter (term : Text) : Nat → Text → List Segment
  | _, [] => []
  | skip + 1, _ :: rest => scanAfter term skip rest
  | 0, c :: rest =>
    if beginsWith term (c :: rest) then
      .hit ((c :: rest).take term.length) :: scanAfter term (term.length - 1) rest
    else .plain c :: scanAfter term 0 rest

def scan (term text : Text) : List Segment := scanAfter term 0 text

def spansFrom : Nat → List Segment → List Span
  | _, [] => []
  | start, .hit text :: rest =>
    ⟨text, start, start + text.length⟩ :: spansFrom (start + text.length) rest
  | start, .plain _ :: rest => spansFrom (start + 1) rest

end Segment

/-- The places where a term stands in a text. An empty term stands nowhere. -/
def findHighlights (text term : Text) : List Span :=
  if term.isEmpty then [] else Segment.spansFrom 0 (Segment.scan term text)

structure Marker where
  opening : Text
  closing : Text
  deriving DecidableEq, Repr

/-- The marker of a tag, with a class if one is given and not empty. -/
def Marker.ofTag (tag : Text) (cssClass : Option Text) : Marker :=
  let classPart := match cssClass.filter fun name => !name.isEmpty with
    | some name => " class=".toList ++ '\x22' :: name ++ ['\x22']
    | none => []
  ⟨'<' :: tag ++ classPart ++ ['>'], "</".toList ++ tag ++ ['>']⟩

/-- The text with a marker around each place where the term stands. -/
def highlight (marker : Marker) (text term : Text) : Text :=
  if term.isEmpty then text
  else (Segment.scan term text).flatMap fun
    | .hit found => marker.opening ++ found ++ marker.closing
    | .plain c => [c]

end RecordSearch
