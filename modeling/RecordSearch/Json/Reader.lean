import RecordSearch.Json.Token

/-! JSON documents from tokens. The reader keeps the containers that are still open; each token
changes the state once, and the state that the last token leaves gives the document. -/
namespace RecordSearch.Json

/-- A container that is still open, with what stands in it so far, last first. -/
inductive Frame where
  | array (items : List Document)
  | object (members : List (Text × Document)) (name : Text)

inductive Expected where
  | value
  | firstItem
  | firstName
  | name
  | colon
  | commaOrClose

inductive Progress where
  | reading (frames : List Frame) (expected : Expected)
  | finished (document : Document)
  /-- The text stopped being JSON, inside the document or behind it. -/
  | broken (document : Document)

namespace Progress

def put (document : Document) : List Frame → Progress
  | [] => .finished document
  | .array items :: outer => .reading (.array (document :: items) :: outer) .commaOrClose
  | .object members name :: outer =>
    .reading (.object ((name, document) :: members) [] :: outer) .commaOrClose

/-- The document that the open containers make up around an innermost one. -/
def close (document : Document) : List Frame → Document
  | [] => document
  | .array items :: outer => close (.array (document :: items).reverse) outer
  | .object members name :: outer => close (.object ((name, document) :: members).reverse) outer

def stop (frames : List Frame) : Progress := .broken (close .malformed frames)

def beginValue (frames : List Frame) : Token → Progress
  | .openArray => .reading (.array [] :: frames) .firstItem
  | .openObject => .reading (.object [] [] :: frames) .firstName
  | .scalar document => put document frames
  | _ => stop frames

def beginMember (frames : List Frame) : Token → Progress
  | .scalar (.string name) =>
    match frames with
    | .object members _ :: outer => .reading (.object members name :: outer) .colon
    | _ => stop frames
  | _ => stop frames

def endContainer : List Frame → Progress
  | .array items :: outer => put (.array items.reverse) outer
  | .object members _ :: outer => put (.object members.reverse) outer
  | [] => stop []

def step : Progress → Token → Progress
  | .reading frames .value, token => beginValue frames token
  | .reading frames .firstItem, .closeArray => endContainer frames
  | .reading frames .firstItem, token => beginValue frames token
  | .reading frames .firstName, .closeObject => endContainer frames
  | .reading frames .firstName, token => beginMember frames token
  | .reading frames .name, token => beginMember frames token
  | .reading frames .colon, .colon => .reading frames .value
  | .reading (.array items :: outer) .commaOrClose, .comma =>
    .reading (.array items :: outer) .value
  | .reading (.array items :: outer) .commaOrClose, .closeArray =>
    endContainer (.array items :: outer)
  | .reading (.object members name :: outer) .commaOrClose, .comma =>
    .reading (.object members name :: outer) .name
  | .reading (.object members name :: outer) .commaOrClose, .closeObject =>
    endContainer (.object members name :: outer)
  | .reading frames _, _ => stop frames
  | .finished document, _ => .broken document
  | .broken document, _ => .broken document

/-- The document read so far, and whether it is one and nothing stands behind it. -/
def result : Progress → Document × Bool
  | .reading frames _ => (close .malformed frames, false)
  | .finished document => (document, true)
  | .broken document => (document, false)

end Progress

/-- The document of a text, and whether the text is a JSON text as a whole. -/
def read (text : Text) : Document × Bool :=
  ((Token.scan text).foldl Progress.step (.reading [] .value)).result

end RecordSearch.Json
