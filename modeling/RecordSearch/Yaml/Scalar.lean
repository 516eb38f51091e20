import RecordSearch.Json.Token
import RecordSearch.Yaml.Cursor

/-! The forms of scalars: between quotes, plain, and in a block of lines. Each reader takes the text
at the scalar and gives what the scalar says and the text behind it. -/
namespace RecordSearch.Yaml

/-- What stands between two pieces of a scalar: spaces, or ends of lines. Of the ends of lines the
first may have been taken away. -/
inductive Gap where
  | spaces (reversed : Text)
  | lines (first : Option Char) (more : Text)
  deriving DecidableEq, Repr

namespace Gap

def none : Gap := .spaces []

/-- The gap and one more space. Spaces at the beginning of a line do not count. -/
def space (c : Char) : Gap → Gap
  | .spaces reversed => .spaces (c :: reversed)
  | .lines first more => .lines first more

/-- The gap and the end of a line. Spaces before it do not count. -/
def lineEnd (c : Char) : Gap → Gap
  | .spaces _ => .lines (some c) []
  | .lines first more => .lines first (more ++ [c])

/-- What a gap says: a single end of line is a space, and of several the first says nothing. -/
def text : Gap → Text
  | .spaces reversed => reversed.reverse
  | .lines (some '\n') [] => [' ']
  | .lines (some '\n') more => more
  | .lines (some c) more => c :: more
  | .lines Option.none more => more

def isEmpty : Gap → Bool
  | .spaces reversed => reversed.isEmpty
  | .lines _ _ => false

end Gap

def before (text : Text) (result : Option (Text × Text)) : Option (Text × Text) :=
  result.map fun (more, rest) => (text ++ more, rest)

namespace Quoted

inductive Place where
  | inside (gap : Gap)
  /-- Behind a quote that ends the scalar unless another one follows. -/
  | quote
  | escape
  | digits (count value : Nat)

def escaped? (c : Char) : Option Char :=
  [('0', '\x00'), ('a', '\x07'), ('b', '\x08'), ('t', '\t'), ('\t', '\t'), ('n', '\n'),
    ('v', '\x0b'), ('f', '\x0c'), ('r', '\r'), ('e', '\x1b'), (' ', ' '), ('\x22', '\x22'),
    ('\\', '\\'), ('/', '/'), ('N', '\u0085'), ('_', '\u00a0'), ('L', '\u2028'),
    ('P', '\u2029')].lookup c

def digitCount? (c : Char) : Option Nat := [('x', 2), ('u', 4), ('U', 8)].lookup c

/-- A quoted scalar from a place on. Between single quotes a quote is written twice; between double
quotes a backslash begins an escape, and takes away the end of a line. A line inside a scalar begins
no document. -/
def readFrom (double : Bool) : Place → Text → Option (Text × Text)
  | .quote, [] => some ([], [])
  | _, [] => none
  | .quote, c :: rest =>
    if c == '\x27' then before [c] (readFrom double (.inside .none) rest) else some ([], c :: rest)
  | .escape, c :: rest =>
    if isBreak c then
      (if isMarker rest then none else readFrom double (.inside (.lines none [])) rest)
    else match escaped? c, digitCount? c with
      | some stood, _ => before [stood] (readFrom double (.inside .none) rest)
      | none, some count => readFrom double (.digits count 0) rest
      | none, none => none
  | .digits count value, c :: rest =>
    match Json.hexDigit? c with
    | none => none
    | some digit =>
      let value := 16 * value + digit
      if 1 < count then readFrom double (.digits (count - 1) value) rest
      else if 0x110000 ≤ value then none
      else before [Char.ofNat value] (readFrom double (.inside .none) rest)
  | .inside gap, c :: rest =>
    if isSpace c then readFrom double (.inside (gap.space c)) rest
    else if isBreak c then
      (if isMarker rest then none else readFrom double (.inside (gap.lineEnd c)) rest)
    else if double && c == '\x22' then some (gap.text, rest)
    else if double && c == '\\' then before gap.text (readFrom double .escape rest)
    else if !double && c == '\x27' then before gap.text (readFrom double .quote rest)
    else before (gap.text ++ [c]) (readFrom double (.inside .none) rest)

def read (double : Bool) (text : Text) : Option (Text × Text) :=
  readFrom double (.inside .none) text

end Quoted

namespace Plain

def endsInFlow (c : Char) : Bool :=
  c == ',' || c == '?' || c == '[' || c == ']' || c == '\x7b' || c == '\x7d'

def isColonEnd (inFlow : Bool) (rest : Text) : Bool :=
  isGap rest ||
    (inFlow &&
      stopsAt (fun c => c == ',' || c == '[' || c == ']' || c == '\x7b' || c == '\x7d') rest)

def endsBefore (inFlow : Bool) (indent : Int) (gap : Gap) (column : Nat) (c : Char)
    (rest : Text) : Bool :=
  c == '\t' || (c == ':' && isColonEnd inFlow rest) || (inFlow && endsInFlow c) ||
    (!gap.isEmpty && c == '#') ||
    match gap with
    | .lines _ _ => !inFlow && (column : Int) < indent
    | .spaces _ => false

/-- A plain scalar from a place on, behind a gap; `mark` is what follows the last character that
belongs to it, and `column` counts the spaces since the end of a line. -/
def readFrom (inFlow : Bool) (indent : Int) : (gap : Gap) → (column : Nat) → (mark : Text) →
    Text → Text × Text
  | _, _, mark, [] => ([], mark)
  | gap, column, mark, c :: rest =>
    if c == ' ' then readFrom inFlow indent (gap.space c) (column + 1) mark rest
    else if isBreak c then
      if isMarker rest then ([], mark) else readFrom inFlow indent (gap.lineEnd c) 0 mark rest
    else if endsBefore inFlow indent gap column c rest then ([], mark)
    else
      let (more, behind) := readFrom inFlow indent .none 0 rest rest
      (gap.text ++ c :: more, behind)

/-- The plain scalar at the beginning of a text. Outside of brackets its later lines have at least
`indent` spaces. -/
def read (inFlow : Bool) (indent : Int) (text : Text) : Text × Text :=
  readFrom inFlow indent .none 0 text text

def begins (inFlow : Bool) (c : Char) (rest : Text) : Bool :=
  if "-?:,[]#&*!|>%@".toList.contains c || c == '\x7b' || c == '\x7d' || c == '\x27' || c ==
    '\x22' || c == '\x60' ||
      isSpace c || isBreak c then
    !isGap rest && (c == '-' || (!inFlow && (c == '?' || c == ':')))
  else true

end Plain

namespace Block

/-- What becomes of the ends of lines at the end of a block. -/
inductive Chomping where
  | strip
  | clip
  | keep
  deriving DecidableEq, Repr

/-- The signs behind the first character of a block: what becomes of the last ends of lines, and by
how many spaces the lines are indented. -/
structure Header where
  chomping : Chomping := .clip
  increment : Option Nat := none
  deriving DecidableEq, Repr

/-- The header and the text behind it. Both signs may stand in either order, and the indentation is
not zero. -/
def header? (text : Text) : Option (Header × Text) :=
  let sign? (c : Char) : Option Chomping := [('+', Chomping.keep), ('-', .strip)].lookup c
  let digits? (text : Text) : Option (Option Nat × Text) :=
    match text with
    | c :: rest =>
      match Text.digit? c with
      | some 0 => none
      | some digit => some (some digit, rest)
      | none => some (none, text)
    | [] => some (none, [])
  match text.head?.bind sign? with
  | some chomping => (digits? text.tail).map fun (increment, rest) => (⟨chomping, increment⟩, rest)
  | none => do
    let (increment, rest) ← digits? text
    match increment, rest.head?.bind sign? with
    | some _, some chomping => some (⟨chomping, increment⟩, rest.tail)
    | _, _ => some (⟨.clip, increment⟩, rest)

/-- The ends of lines before the first line that is not empty, the greatest column on the way, the
column that is reached, and the text there. -/
def leading : (column greatest : Nat) → Text → Text × Nat × Nat × Text
  | column, greatest, [] => ([], greatest, column, [])
  | column, greatest, c :: rest =>
    if c == ' ' then leading (column + 1) (max greatest (column + 1)) rest
    else if isBreak c then
      let (breaks, result) := leading 0 greatest rest
      (c :: breaks, result)
    else ([], greatest, column, c :: rest)

/-- The ends of empty lines, where at most `indent` spaces of each line are passed over, the column
that is reached, and the text there. -/
def emptyLines (indent : Nat) : (column : Nat) → Text → Text × Nat × Text
  | column, [] => ([], column, [])
  | column, c :: rest =>
    if c == ' ' && column < indent then emptyLines indent (column + 1) rest
    else if isBreak c then
      let (breaks, result) := emptyLines indent 0 rest
      (c :: breaks, result)
    else ([], column, c :: rest)

def beginsWithSpace (text : Text) : Bool := text.head?.any isSpace

/-- The lines of a block from a column on, behind some ends of lines. In a folded block a single end
of line between two lines that begin with no space is a space. -/
def lines (folded : Bool) (indent : Nat) (chomping : Chomping) : (fuel : Nat) → (breaks : Text) →
    (column : Nat) → Text → Text × Text
  | 0, _, _, text => ([], text)
  | fuel + 1, breaks, column, text =>
    if column ≠ indent ∨ text.isEmpty then (if chomping = .keep then breaks else [], text)
    else
      let line := text.takeWhile fun c => !isBreak c
      let behind := text.dropWhile fun c => !isBreak c
      let lineEnd := behind.take 1
      let (more, column, rest) := emptyLines indent 0 (behind.drop 1)
      if column = indent ∧ !rest.isEmpty then
        let gap :=
          if folded && lineEnd == ['\n'] && !beginsWithSpace line && !beginsWithSpace rest then
            (if more.isEmpty then [' '] else [])
          else lineEnd
        let (others, final) := lines folded indent chomping fuel more column rest
        (breaks ++ line ++ gap ++ others, final)
      else
        let ending := match chomping with
          | .strip => []
          | .clip => lineEnd
          | .keep => lineEnd ++ more
        (breaks ++ line ++ ending, rest)

def read (folded : Bool) (indent : Int) (text : Text) : Option (Text × Text) := do
  let (header, behind) ← header? text
  if !isGapOfSpaces behind then none
  else
    let behind := behind.dropWhile (· == ' ')
    let behind := if behind.head? == some '#' then behind.dropWhile fun c => !isBreak c else behind
    if !stopsAt isBreak behind then none
    else
      let least := (indent + 1).toNat.max 1
      let text := behind.drop 1
      match header.increment with
      | none =>
        let (breaks, greatest, column, rest) := leading 0 0 text
        some
          (lines folded (max least greatest) header.chomping (text.length + 1) breaks column rest)
      | some increment =>
        let indent := least + increment - 1
        let (breaks, column, rest) := emptyLines indent 0 text
        some (lines folded indent header.chomping (text.length + 1) breaks column rest)

end Block
end RecordSearch.Yaml
