import RecordSearch.Console.Columns
import RecordSearch.Text.Blank

/-! Lines of limited width. A line breaks in front of the first word that does not fit into it. -/
namespace RecordSearch.Console

inductive Overflow where
  /-- It goes on in the next line. -/
  | fold
  /-- It is cut, and an ellipsis shows so. -/
  | ellipsis
  deriving DecidableEq, Repr

/-- The words of a line, each with the blanks behind it, and the first with those before it too. -/
def wordsWithGaps (line : Text) : List Text :=
  let leading := line.takeWhile isBlank
  match split (line.dropWhile isBlank) with
  | [] => []
  | first :: rest => (leading ++ first) :: rest
where
  split : Text → List Text
    | [] => []
    | c :: rest =>
      match rest, split rest with
      | [], _ => [[c]]
      | d :: _, words => if isBlank c && !isBlank d then [c] :: words else Text.consFirst c words

/-- The lines so far, last first, the line that is being filled, and its columns. -/
structure Filling where
  done : List Text := []
  line : Text := []
  used : Nat := 0

namespace Filling

/-- Begins a new line with a text, unless nothing stands in the first one yet. -/
def breakLine (filling : Filling) (text : Text) (used : Nat) : Filling :=
  if filling.done.isEmpty && filling.line.isEmpty then ⟨[], text, used⟩
  else ⟨filling.line :: filling.done, text, used⟩

def append (filling : Filling) (word : Text) (used : Nat) : Filling :=
  { filling with line := filling.line ++ word, used }

def push (width : Nat) (overflow : Overflow) (filling : Filling) (word : Text) : Filling :=
  let size := columns (Text.dropWhileEnd isBlank word)
  if filling.used + size ≤ width then filling.append word (filling.used + columns word)
  else if width < size then
    match overflow with
    | .fold =>
      (chop width word).foldl (fun filling part => filling.breakLine part (columns part)) filling
    | .ellipsis => filling.breakLine word (columns word)
  else if filling.used = 0 then filling.append word 0
  else filling.breakLine word (columns word)

def lines (filling : Filling) : List Text := (filling.line :: filling.done).reverse

end Filling

/-- A line without as many blanks at its end as it has characters too many. -/
def dropExcess (width : Nat) (line : Text) : Text :=
  let blanks := (line.reverse.takeWhile isBlank).length
  line.take (line.length - min blanks (line.length - width))

def truncate (width : Nat) (overflow : Overflow) (line : Text) : Text :=
  if columns line ≤ width then line
  else match overflow with
    | .fold => fit width line
    | .ellipsis => fit (width - 1) line ++ ['\u2026']

def tabSize : Nat := 8

def expandTabs (line : Text) : Text := expand 0 (Text.splitAt (· == '\t') line)
where
  expand : Nat → List Text → Text
    | _, [] => []
    | _, [part] => part
    | column, part :: rest =>
      let reached := column + columns part + 1
      let gap := (tabSize - reached % tabSize) % tabSize
      part ++ List.replicate (gap + 1) ' ' ++ expand (reached + gap) rest

def wrapLine (width : Nat) (overflow : Overflow) (line : Text) : List Text :=
  let words := wordsWithGaps line
  let lines :=
    if words.isEmpty then [line]
    else (words.foldl (Filling.push width overflow) {}).lines
  lines.map (dropExcess width)

def wrap (width : Nat) (overflow : Overflow) (text : Text) : List Text :=
  (Text.splitAt (· == '\n') text).flatMap fun line => wrapLine width overflow (expandTabs line)

/-- The characters that a screen does not take: those that ring, go back or change the line without
ending it. -/
def isDropped (c : Char) : Bool :=
  let n := c.toNat; n == 7 || n == 8 || n == 11 || n == 12 || n == 13

def plain (text : Text) : Text := text.filter fun c => !isDropped c

end RecordSearch.Console
