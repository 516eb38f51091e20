import RecordSearch.Json.Document
import RecordSearch.Timestamp.Iso

/-! The records that are searched. A record from a file has one of five kinds and two timestamps; a
record that a program puts together may name any kind and write its dates as text. -/
namespace RecordSearch

inductive ContentType where
  | document
  | image
  | video
  | note
  | link
  deriving DecidableEq, Repr

namespace ContentType

def all : List ContentType := [.document, .image, .video, .note, .link]

def name : ContentType → Text
  | .document => "document".toList
  | .image => "image".toList
  | .video => "video".toList
  | .note => "note".toList
  | .link => "link".toList

def ofName? (name : Text) : Option ContentType := all.find? fun type => type.name == name

theorem ofName?_name (type : ContentType) : ofName? type.name = some type := by
  cases type <;> decide

end ContentType

/-- The kind that a record states: one of the five, or a name that is none of theirs. -/
inductive Kind where
  | known (type : ContentType)
  | other (name : Text)
  deriving DecidableEq, Repr

namespace Kind

def name : Kind → Text
  | .known type => type.name
  | .other name => name

def ofName (name : Text) : Kind :=
  match ContentType.ofName? name with
  | some type => .known type
  | none => .other name

end Kind

/-- A date of a record: read from a file, or still text. -/
inductive Stamp where
  | read (timestamp : Timestamp)
  | written (text : Text)
  deriving DecidableEq

/-- The instant of a date of a record; none if its text names none. -/
def Stamp.instant : Stamp → Except OutOfRange (Option Instant)
  | .read timestamp => timestamp.toInstant.map some
  | .written text => Instant.ofText? text

structure Record where
  id : Text
  title : Text
  kind : Kind
  userId : Option Text := none
  content : Option Text := none
  fileUrl : Option Text := none
  fileSize : Option Int := none
  mimeType : Option Text := none
  tags : List Text := []
  collectionId : Option Text := none
  metadata : Option Json.Document := none
  created : Stamp
  updated : Stamp

namespace Record

/-- Whether the record is as a file holds it: of one of the five kinds, and with timestamps. -/
def IsDecoded (record : Record) : Prop :=
  (∃ type, record.kind = .known type) ∧ (∃ timestamp, record.created = .read timestamp) ∧
    ∃ timestamp, record.updated = .read timestamp

end Record
end RecordSearch
