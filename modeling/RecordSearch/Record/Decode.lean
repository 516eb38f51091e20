import RecordSearch.Json.Reader
import RecordSearch.Record.Basic
import RecordSearch.Text.Quoted
import RecordSearch.Timestamp.Internet

/-! Records from a JSON array. Every value must be of the type that its field has; the first value
that is not decides the whole array. Names that are no fields are passed over. -/
namespace RecordSearch

inductive PathStep where
  | index (place : Nat)
  | member (name : Text)
  deriving DecidableEq, Repr

inductive DecodeFault where
  | malformed
  | wrongType (expected : Text) (found : Text)
  | unknownContentType (name : Text)
  | badTimestamp
  | missingField (name : Text)
  deriving DecidableEq, Repr

structure DecodeError where
  fault : DecodeFault
  path : List PathStep := []
  deriving DecidableEq, Repr

namespace DecodeError

def stepText : PathStep → Text
  | .index place => '[' :: Text.ofNat place ++ [']']
  | .member name => '.' :: name

def backquoted (word : Text) : Text := '\x60' :: word ++ ['\x60']

def faultText : DecodeFault → Text
  | .malformed => "malformed JSON".toList
  | .wrongType expected found =>
    "Expected ".toList ++ backquoted expected ++ ", got ".toList ++ backquoted found
  | .unknownContentType name => "Invalid enum value ".toList ++ singleQuote :: name ++ [singleQuote]
  | .badTimestamp => "Invalid RFC3339 encoded datetime".toList
  | .missingField name => "Object missing required field ".toList ++ backquoted name

/-- What is wrong and where, for a reader. A text that is no JSON has no places. -/
def message (error : DecodeError) : Text :=
  if error.fault = .malformed ∨ error.path.isEmpty then faultText error.fault
  else faultText error.fault ++ " - at ".toList ++ backquoted ('$' :: error.path.flatMap stepText)

def within (step : PathStep) (error : DecodeError) : DecodeError :=
  { error with path := step :: error.path }

end DecodeError

namespace Decode

abbrev Result := Except DecodeError

def under {α : Type} (step : PathStep) : Result α → Result α
  | .ok value => .ok value
  | .error error => .error (error.within step)

/-- The value is not of the type expected. A number out of range is no value at all. -/
def unexpected {α : Type} (expected : String) : Json.Document → Result α
  | .malformed => .error ⟨.malformed, []⟩
  | .number number =>
    .error ⟨
      if number.isInRange then .wrongType expected.toList (Json.Document.number number).kind
      else .malformed, []⟩
  | document => .error ⟨.wrongType expected.toList document.kind, []⟩

def text : Json.Document → Result Text
  | .string text => .ok text
  | document => unexpected "str" document

def optionalText : Json.Document → Result (Option Text)
  | .null => .ok none
  | .string text => .ok (some text)
  | document => unexpected "str | null" document

def optionalInt (document : Json.Document) : Result (Option Int) :=
  match document with
  | .null => .ok none
  | .number number =>
    match number.int? with
    | some value => .ok (some value)
    | none => unexpected "int | null" document
  | _ => unexpected "int | null" document

def optionalObject (document : Json.Document) : Result (Option Json.Document) :=
  match document with
  | .null => .ok none
  | .object _ =>
    if document.isWhole && document.isInRange then .ok (some document)
    else .error ⟨.malformed, []⟩
  | _ => unexpected "object | null" document

def textsFrom : Nat → List Json.Document → Result (List Text)
  | _, [] => .ok []
  | place, item :: rest => do
    let first ← under (.index place) (text item)
    let others ← textsFrom (place + 1) rest
    return first :: others

def texts : Json.Document → Result (List Text)
  | .array items => textsFrom 0 items
  | document => unexpected "array" document

def contentType (document : Json.Document) : Result ContentType := do
  let name ← text document
  match ContentType.ofName? name with
  | some type => return type
  | none => .error ⟨.unknownContentType name, []⟩

def timestamp : Json.Document → Result Timestamp
  | .string text =>
    match Internet.timestamp? text with
    | some timestamp => .ok timestamp
    | none => .error ⟨.badTimestamp, []⟩
  | document => unexpected "datetime" document

end Decode

structure RecordEntry where
  id : Option Text := none
  title : Option Text := none
  contentType : Option ContentType := none
  userId : Option Text := none
  content : Option Text := none
  fileUrl : Option Text := none
  fileSize : Option Int := none
  mimeType : Option Text := none
  tags : List Text := []
  collectionId : Option Text := none
  metadata : Option Json.Document := none
  created : Option Timestamp := none
  updated : Option Timestamp := none

namespace RecordEntry

def readMember (entry : RecordEntry) (name : Text) (value : Json.Document) :
    Decode.Result RecordEntry :=
  if name = "id".toList then (Decode.text value).map fun id => { entry with id := some id }
  else if name = "title".toList then
    (Decode.text value).map fun title => { entry with title := some title }
  else if name = "contentType".toList then
    (Decode.contentType value).map fun type => { entry with contentType := some type }
  else if name = "userId".toList then
    (Decode.optionalText value).map fun userId => { entry with userId := userId }
  else if name = "content".toList then
    (Decode.optionalText value).map fun content => { entry with content := content }
  else if name = "fileUrl".toList then
    (Decode.optionalText value).map fun url => { entry with fileUrl := url }
  else if name = "fileSize".toList then
    (Decode.optionalInt value).map fun size => { entry with fileSize := size }
  else if name = "mimeType".toList then
    (Decode.optionalText value).map fun type => { entry with mimeType := type }
  else if name = "tags".toList then (Decode.texts value).map fun tags => { entry with tags := tags }
  else if name = "collectionId".toList then
    (Decode.optionalText value).map fun id => { entry with collectionId := id }
  else if name = "metadata".toList then
    (Decode.optionalObject value).map fun metadata => { entry with metadata := metadata }
  else if name = "createdAt".toList then
    (Decode.timestamp value).map fun time => { entry with created := some time }
  else if name = "updatedAt".toList then
    (Decode.timestamp value).map fun time => { entry with updated := some time }
  else if value.isWhole then .ok entry
  else .error ⟨.malformed, []⟩

def readMembers (entry : RecordEntry) : List (Text × Json.Document) → Decode.Result RecordEntry
  | [] => .ok entry
  | (name, value) :: rest => do
    let next ← Decode.under (.member name) (entry.readMember name value)
    next.readMembers rest

end RecordEntry

/-- An entry with what every record must state. -/
structure RecordDraft where
  title : Text
  contentType : ContentType
  entry : RecordEntry

namespace RecordDraft

/-- An entry must have a title and a kind. -/
def ofEntry (entry : RecordEntry) : Decode.Result RecordDraft :=
  match entry.title, entry.contentType with
  | none, _ => .error ⟨.missingField "title".toList, []⟩
  | some _, none => .error ⟨.missingField "contentType".toList, []⟩
  | some title, some type => .ok ⟨title, type, entry⟩

def ofDocument : Json.Document → Decode.Result RecordDraft
  | .object members => do ofEntry (← RecordEntry.readMembers {} members)
  | document => Decode.unexpected "object" document

def ofItems : Nat → List Json.Document → Decode.Result (List RecordDraft)
  | _, [] => .ok []
  | place, item :: rest => do
    let draft ← Decode.under (.index place) (ofDocument item)
    let drafts ← ofItems (place + 1) rest
    return draft :: drafts

end RecordDraft

/-- What records get that a file does not state: names, given out one after the other, and the time
of reading. -/
structure RecordDefaults where
  newId : Nat → Text
  now : Timestamp

namespace RecordDefaults

/-- The records of drafts. Only one without a name takes the next new one. -/
def fill (defaults : RecordDefaults) : Nat → List RecordDraft → List Record
  | _, [] => []
  | next, ⟨title, contentType, entry⟩ :: rest =>
    let record : Record := {
      id := entry.id.getD (defaults.newId next)
      title := title
      kind := .known contentType
      userId := entry.userId
      content := entry.content
      fileUrl := entry.fileUrl
      fileSize := entry.fileSize
      mimeType := entry.mimeType
      tags := entry.tags
      collectionId := entry.collectionId
      metadata := entry.metadata
      created := .read (entry.created.getD defaults.now)
      updated := .read (entry.updated.getD defaults.now) }
    record :: fill defaults (if entry.id.isNone then next + 1 else next) rest

end RecordDefaults

namespace Record

def ofDocument (defaults : RecordDefaults) : Json.Document → Decode.Result (List Record)
  | .array items => (RecordDraft.ofItems 0 items).map (defaults.fill 1)
  | document => Decode.unexpected "array" document

/-- The records that a text states. What stands behind the array is looked at last. -/
def ofText (defaults : RecordDefaults) (text : Text) : Decode.Result (List Record) := do
  let (document, complete) := Json.read text
  let records ← ofDocument defaults document
  if complete then return records else .error ⟨.malformed, []⟩

end Record
end RecordSearch
