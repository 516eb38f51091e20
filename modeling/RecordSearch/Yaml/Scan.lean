import RecordSearch.Yaml.Token

/-! From the text of a YAML document to its tokens. Blocks begin where a line is indented further
than the block around it and end where one is indented less. A scalar, an alias or a collection may
turn out to be a name when a colon follows it on its line; then the sign of a name is put in front
of it. -/
namespace RecordSearch.Yaml

/-- The place of what may turn out to be a name: the number of tokens before it, and where it
begins. -/
structure Candidate where
  count : Nat
  /-- Whether nothing but a name may stand here. -/
  required : Bool
  cursor : Cursor
  deriving DecidableEq, Repr

structure Scan where
  cursor : Cursor
  depth : Nat := 0
  /-- The indentation of the innermost block, and those of the blocks around it. -/
  indent : Int := -1
  outer : List Int := []
  mayName : Bool := true
  /-- What may turn out to be a name, for each number of open brackets. -/
  candidates : List (Nat × Candidate) := []
  tokens : List Token := []

namespace Scan

def inFlow (scan : Scan) : Bool := 0 < scan.depth

def emit (token : Token) (scan : Scan) : Scan := { scan with tokens := token :: scan.tokens }

/-- Puts a token in front of those that follow the first `count`. -/
def insertAt (count : Nat) (token : Token) (scan : Scan) : Scan :=
  let later := scan.tokens.length - count
  { scan with tokens := scan.tokens.take later ++ token :: scan.tokens.drop later }

/-- Passes over spaces, comments and ends of lines. Outside of brackets a name may begin on a new
line. -/
def skipGaps : (fuel : Nat) → Scan → Scan
  | 0, scan => scan
  | fuel + 1, scan =>
    let cursor := scan.cursor.skipWhile (· == ' ')
    let cursor :=
      if cursor.rest.head? == some '#' then cursor.skipWhile (fun c => !isBreak c)
      else cursor
    if cursor.rest.head?.any isBreak then
      skipGaps fuel { scan with cursor := cursor.skip 1, mayName := scan.mayName || !scan.inFlow }
    else { scan with cursor := cursor }

/-- Forgets what can no longer be a name: a name ends on the line where it begins, and soon. -/
def dropStale (scan : Scan) : Option Scan :=
  let isStale : Nat × Candidate → Bool := fun (_, candidate) =>
    candidate.cursor.line != scan.cursor.line || 1024 < scan.cursor.offset - candidate.cursor.offset
  if scan.candidates.any fun member => isStale member && member.2.required then none
  else some { scan with candidates := scan.candidates.filter fun member => !isStale member }

def dropCandidate (scan : Scan) : Option Scan :=
  match scan.candidates.lookup scan.depth with
  | some candidate =>
    if candidate.required then none
    else some { scan with candidates := scan.candidates.filter (·.1 != scan.depth) }
  | none => some scan

def noteCandidate (scan : Scan) : Option Scan :=
  if scan.mayName then do
    let required := !scan.inFlow && scan.indent == (scan.cursor.column : Int)
    let scan ← scan.dropCandidate
    return { scan with
      candidates := (scan.depth, ⟨scan.tokens.length, required, scan.cursor⟩) :: scan.candidates }
  else some scan

/-- Ends the blocks that are indented further than a column, given the indentations of the blocks
around the innermost. -/
def endBlocks (column : Int) : List Int → Scan → Scan
  | [], scan => scan
  | indent :: outer, scan =>
    if column < scan.indent then
      endBlocks column outer { scan.emit .endBlock with indent := indent, outer := outer }
    else scan

/-- Ends the blocks that are indented further than a column. Brackets go on whatever the column
is. -/
def unwind (column : Int) (scan : Scan) : Scan :=
  if scan.inFlow then scan else scan.endBlocks column scan.outer

def beginBlock (column : Nat) (scan : Scan) : Scan :=
  { scan with indent := column, outer := scan.indent :: scan.outer }

def advance (count : Nat) (scan : Scan) : Scan := { scan with cursor := scan.cursor.skip count }

/-- A line that begins or ends a document, or speaks about one. -/
def marker (token : Token) (rest : Text) (scan : Scan) : Option Scan := do
  let scan ← (scan.unwind (-1)).dropCandidate
  return { scan.emit token with cursor := scan.cursor.moveTo rest, mayName := false }

def openFlow (token : Token) (scan : Scan) : Option Scan := do
  let scan ← scan.noteCandidate
  return { (scan.emit token).advance 1 with depth := scan.depth + 1, mayName := true }

def closeFlow (token : Token) (scan : Scan) : Option Scan := do
  if scan.depth = 0 then none
  else
    let scan ← scan.dropCandidate
    return { (scan.emit token).advance 1 with depth := scan.depth - 1, mayName := false }

def comma (scan : Scan) : Option Scan := do
  let scan ← scan.dropCandidate
  return { (scan.emit .comma).advance 1 with mayName := true }

/-- The scan with a block that begins here, if it is indented further than the innermost; none where
no name may begin. -/
def openBlock (token : Token) (scan : Scan) : Option Scan :=
  if scan.inFlow then some scan
  else if !scan.mayName then none
  else if scan.indent < (scan.cursor.column : Int) then
    some ((scan.beginBlock scan.cursor.column).emit token)
  else some scan

def entry (scan : Scan) : Option Scan := do
  let scan ← scan.openBlock .beginSequence
  let scan ← scan.dropCandidate
  return { (scan.emit .entry).advance 1 with mayName := true }

def key (scan : Scan) : Option Scan := do
  let scan ← scan.openBlock .beginMapping
  let scan ← scan.dropCandidate
  return { (scan.emit .key).advance 1 with mayName := !scan.inFlow }

/-- A colon before a value. What may have been a name now is one, and a block may begin with it. -/
def value (scan : Scan) : Option Scan :=
  match scan.candidates.lookup scan.depth with
  | some candidate =>
    let column := candidate.cursor.column
    let named :=
      { scan with candidates := scan.candidates.filter (·.1 != scan.depth) }.insertAt
        candidate.count .key
    let opened := if !scan.inFlow && scan.indent < (column : Int) then
        (named.beginBlock column).insertAt candidate.count .beginMapping
      else named
    some { (opened.emit .value).advance 1 with mayName := false }
  | none => do
    let scan ← scan.openBlock .beginMapping
    return { (scan.emit .value).advance 1 with mayName := !scan.inFlow }

/-- A token that may be a name or belong to one, and the text behind it. -/
def nameable (read : Option (Token × Text)) (scan : Scan) : Option Scan := do
  let scan ← scan.noteCandidate
  let (token, rest) ← read
  return { scan.emit token with cursor := scan.cursor.moveTo rest, mayName := false }

def block (folded : Bool) (rest : Text) (scan : Scan) : Option Scan := do
  let scan ← scan.dropCandidate
  let (text, behind) ← Block.read folded scan.indent rest
  return { scan.emit (.scalar text false) with
    cursor := scan.cursor.moveTo behind, mayName := true }

def next (c : Char) (rest : Text) (scan : Scan) : Option Scan :=
  let atStart := scan.cursor.column = 0
  if c == '%' && atStart then do
    let (directive, behind) ← Token.directive? rest
    scan.marker (.directive directive) behind
  else if atStart && isMarker (c :: rest) then
    scan.marker (if c == '-' then .documentStart else .documentEnd) (rest.drop 2)
  else if c == '[' then scan.openFlow .openSequence
  else if c == '\x7b' then scan.openFlow .openMapping
  else if c == ']' then scan.closeFlow .closeSequence
  else if c == '\x7d' then scan.closeFlow .closeMapping
  else if c == ',' then scan.comma
  else if c == '-' && isGap rest then scan.entry
  else if c == '?' && (scan.inFlow || isGap rest) then scan.key
  else if c == ':' && (scan.inFlow || isGap rest) then scan.value
  else if c == '*' then
    scan.nameable ((Token.anchorName? rest).map fun (name, behind) => (.alias name, behind))
  else if c == '&' then
    scan.nameable ((Token.anchorName? rest).map fun (name, behind) => (.anchor name, behind))
  else if c == '!' then
    scan.nameable ((Token.tagging? (c :: rest)).map fun (tagging, behind) => (.tag tagging, behind))
  else if (c == '|' || c == '>') && !scan.inFlow then scan.block (c == '>') rest
  else if c == '\x27' || c == '\x22' then
    scan.nameable ((Quoted.read (c == '\x22') rest).map fun (text, behind) =>
      (.scalar text false, behind))
  else if Plain.begins scan.inFlow c rest then
    let (text, behind) := Plain.read scan.inFlow (scan.indent + 1) (c :: rest)
    scan.nameable (some (.scalar text true, behind))
  else none

def run : (fuel : Nat) → Scan → Option (List Token)
  | 0, _ => none
  | fuel + 1, scan => do
    let scan ← (scan.skipGaps (scan.cursor.rest.length + 1)).dropStale
    let scan := scan.unwind scan.cursor.column
    match scan.cursor.rest with
    | [] => (scan.unwind (-1)).dropCandidate.map fun final => final.tokens.reverse
    | c :: rest => run fuel (← scan.next c rest)

end Scan

/-- The tokens of a text, if it can be taken apart. A byte order mark may stand at the beginning. -/
def Token.scan (text : Text) : Option (List Token) :=
  if text.all isAllowed then
    let text := unifyBreaks text
    let start : Cursor := ⟨text, 0, 0, 0⟩
    Scan.run (text.length + 1)
      { cursor := if text.head? == some '\uFEFF' then start.skip 1 else start }
  else none

end RecordSearch.Yaml
