import RecordSearch.Query.Basic
import RecordSearch.Text.Word

/-! Clauses as they stand in a normalized query: a field name, a colon and a value of one or more
words. A value runs word by word to the next field name, the next connective or the end; where it
meets a word with a colon that is neither, there is no clause. The scan keeps every character, so
that the pieces put together are the query again. -/
namespace RecordSearch

/-- A clause with the words of its value. -/
structure Clause where
  name : Text
  /-- Whether a space stands behind the colon. -/
  spaced : Bool
  first : Text
  more : List Text
  deriving DecidableEq, Repr

namespace Clause

def value (clause : Clause) : Text := Text.join [' '] (clause.first :: clause.more)

def source (clause : Clause) : Text :=
  clause.name ++ ':' :: ((if clause.spaced then [' '] else []) ++ clause.value)

def opens (word : Text) : Bool :=
  !(word.takeWhile isNameChar).isEmpty && (word.dropWhile isNameChar).head? == some ':'

def endsValue (word : Text) : Bool := opens word || (Connective.ofName? word).isSome

/-- The words that belong to the value whose first word stands before them, if it ends properly. -/
def furtherWords? : List Text → Option (List Text)
  | [] => some []
  | word :: rest =>
    if endsValue word then some []
    else if word.isEmpty || word.contains ':' then none
    else (furtherWords? rest).map (word :: ·)

/-- The clause whose name begins where the text begins. -/
def at? (text : Text) : Option Clause :=
  let name := text.takeWhile isNameChar
  match name.isEmpty, text.dropWhile isNameChar with
  | false, ':' :: behind =>
    let spaced := behind.head? == some ' '
    match Text.splitAt (· == ' ') (if spaced then behind.drop 1 else behind) with
    | [] => none
    | first :: rest =>
      if first.isEmpty then none
      else (furtherWords? rest).map fun more => ⟨name, spaced, first, more⟩
  | _, _ => none

end Clause

/-- A piece of a scanned query: a clause, or one character outside of all clauses. -/
inductive Piece where
  | clause (found : Clause)
  | plain (c : Char)
  deriving DecidableEq, Repr

namespace Piece

def source : Piece → Text
  | .clause found => found.source
  | .plain c => [c]

def clause? : Piece → Option Clause
  | .clause found => some found
  | .plain _ => none

/-- The pieces of the text without its first characters, which belong to a clause already found. -/
def scanAfter : Nat → Text → List Piece
  | _, [] => []
  | skip + 1, _ :: rest => scanAfter skip rest
  | 0, c :: rest =>
    match Clause.at? (c :: rest) with
    | some found => .clause found :: scanAfter (found.source.length - 1) rest
    | none => .plain c :: scanAfter 0 rest

def scan (text : Text) : List Piece := scanAfter 0 text

end Piece

def Clause.scan (text : Text) : List Clause := (Piece.scan text).filterMap Piece.clause?

end RecordSearch
