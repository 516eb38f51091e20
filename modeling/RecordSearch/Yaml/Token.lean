import RecordSearch.Text.Utf8
import RecordSearch.Yaml.Scalar

/-! The tokens of a YAML document, and the readers of those that are names: anchors, tags and
directives. -/
namespace RecordSearch.Yaml

/-- A tag as it is written: with a handle that stands for its beginning, or whole. -/
structure Tagging where
  handle : Option Text
  name : Text
  deriving DecidableEq, Repr

/-- A line that speaks about the document behind it. -/
inductive Directive where
  | version (major : Nat)
  | handle (handle meaning : Text)
  | other
  deriving DecidableEq, Repr

inductive Token where
  | directive (directive : Directive)
  | documentStart
  | documentEnd
  | openSequence
  | closeSequence
  | openMapping
  | closeMapping
  | comma
  | beginSequence
  | beginMapping
  | endBlock
  | entry
  | key
  | value
  | alias (name : Text)
  | anchor (name : Text)
  | tag (tagging : Tagging)
  | scalar (text : Text) (plain : Bool)
  deriving DecidableEq, Repr

namespace Token

def anchorName? (text : Text) : Option (Text × Text) :=
  let name := text.takeWhile isNameCharacter
  let rest := text.dropWhile isNameCharacter
  if name.isEmpty ||
    !(isGap rest ||
      stopsAt (fun c => "?:,]%@".toList.contains c || c == '\x7d' || c == '\x60') rest) then none
  else some (name, rest)

def isTagCharacter (c : Char) : Bool :=
  c.isAlphanum || c == '\x27' || "-;/?:@&=+$,_.!~*()[]".toList.contains c

def escapedBytes? : Text → Option (Bytes × Text)
  | '%' :: a :: b :: rest => do
    let high ← Json.hexDigit? a
    let low ← Json.hexDigit? b
    let (bytes, behind) ← escapedBytes? rest
    return (UInt8.ofNat (16 * high + low) :: bytes, behind)
  | '%' :: _ => none
  | text => some ([], text)

def tagPart? : (fuel : Nat) → Text → Option (Text × Text)
  | 0, text => some ([], text)
  | fuel + 1, text =>
    let plain := text.takeWhile isTagCharacter
    let rest := text.dropWhile isTagCharacter
    if rest.head? == some '%' then do
      let (bytes, behind) ← escapedBytes? rest
      match Utf8.decode bytes with
      | (escaped, none) => before (plain ++ escaped) (tagPart? fuel behind)
      | (_, some _) => none
    else some (plain, rest)

def tagName? (text : Text) : Option (Text × Text) :=
  match tagPart? text.length text with
  | some ([], _) => none
  | result => result

/-- The handle of a tag: one exclamation mark, two, or two around a name. -/
def handle? (text : Text) : Option (Text × Text) :=
  match text with
  | '!' :: rest =>
    let name := rest.takeWhile isNameCharacter
    match rest.dropWhile isNameCharacter with
    | '!' :: behind => some ('!' :: name ++ ['!'], behind)
    | _ => if rest.head? == some ' ' then some (['!'], rest) else none
  | _ => none

/-- Whether a second exclamation mark stands in the word at the beginning of a text. -/
def hasHandle (text : Text) : Bool := (text.takeWhile fun c => c != ' ' && !isBreak c).contains '!'

def tagging? (text : Text) : Option (Tagging × Text) := do
  let (tagging, rest) ← match text.drop 1 with
    | '<' :: behind =>
      match ← tagName? behind with
      | (name, '>' :: rest) => some (⟨none, name⟩, rest)
      | _ => none
    | behind =>
      if isGap behind then some (⟨none, ['!']⟩, behind)
      else if hasHandle behind then do
        let (handle, rest) ← handle? text
        (tagName? rest).map fun (name, rest) => (⟨some handle, name⟩, rest)
      else (tagName? behind).map fun (name, rest) => (⟨some ['!'], name⟩, rest)
  if isGapOfSpaces rest then some (tagging, rest) else none

def digits? (text : Text) : Option (Nat × Text) :=
  let digits := text.takeWhile Char.isDigit
  if digits.isEmpty then none else some (Json.digitsValue digits, text.dropWhile Char.isDigit)

def directiveOf? (name text : Text) : Option (Directive × Text) :=
  if name = "YAML".toList then do
    match ← digits? (text.dropWhile (· == ' ')) with
    | (major, '.' :: behind) =>
      let (_, rest) ← digits? behind
      if isGapOfSpaces rest then some (.version major, rest) else none
    | _ => none
  else if name = "TAG".toList then do
    let (handle, behind) ← handle? (text.dropWhile (· == ' '))
    if behind.head? != some ' ' then none
    else
      let (meaning, rest) ← tagName? (behind.dropWhile (· == ' '))
      if isGapOfSpaces rest then some (.handle handle meaning, rest) else none
  else some (.other, text.dropWhile fun c => !isBreak c)

def directive? (text : Text) : Option (Directive × Text) := do
  let name := text.takeWhile isNameCharacter
  let behind := text.dropWhile isNameCharacter
  if name.isEmpty || !isGapOfSpaces behind then none
  else
    let (found, rest) ← directiveOf? name behind
    let rest := rest.dropWhile (· == ' ')
    let rest := if rest.head? == some '#' then rest.dropWhile fun c => !isBreak c else rest
    if stopsAt isBreak rest then some (found, rest.drop 1) else none

end Token
end RecordSearch.Yaml
