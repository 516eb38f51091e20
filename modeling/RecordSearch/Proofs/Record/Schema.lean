import Mathlib.Data.List.Nodup
import RecordSearch.Proofs.Json.Members
import RecordSearch.Proofs.Steps
import RecordSearch.Record.Decode

/-! What the object of a record must state, and what it then states. Its fields have types; a value
under the name of a field must be of its type, whichever of several it is, and the last one counts.
Decoding gives an entry for exactly these objects. -/
namespace RecordSearch

open Json (stated valuesUnder)

namespace Json.Document

def contentType? (document : Document) : Option ContentType :=
  document.text?.bind ContentType.ofName?

def timestamp? (document : Document) : Option Timestamp := document.text?.bind Internet.timestamp?

end Json.Document

inductive FieldType where
  | text
  | optionalText
  | optionalInt
  | optionalObject
  | texts
  | contentType
  | timestamp

/-- Whether a document is of a type. The numbers of an object must be in range. -/
def FieldType.admits : FieldType → Json.Document → Bool
  | .text, document => document.text?.isSome
  | .optionalText, document => document.isNull || document.text?.isSome
  | .optionalInt, document => document.isNull || document.int?.isSome
  | .optionalObject, document => document.isNull || document.object?.isSome && document.isInRange
  | .texts, document => document.texts?.isSome
  | .contentType, document => document.contentType?.isSome
  | .timestamp, document => document.timestamp?.isSome

namespace RecordEntry

def fields : List (Text × FieldType) := [
  ("id".toList, .text), ("title".toList, .text), ("contentType".toList, .contentType),
  ("userId".toList, .optionalText),
  ("content".toList, .optionalText), ("fileUrl".toList, .optionalText),
  ("fileSize".toList, .optionalInt),
  ("mimeType".toList, .optionalText), ("tags".toList, .texts),
  ("collectionId".toList, .optionalText),
  ("metadata".toList, .optionalObject), ("createdAt".toList, .timestamp),
  ("updatedAt".toList, .timestamp)]

def ofMembers (members : List (Text × Json.Document)) : RecordEntry where
  id := stated Json.Document.text? "id".toList members
  title := stated Json.Document.text? "title".toList members
  contentType := stated Json.Document.contentType? "contentType".toList members
  userId := stated Json.Document.text? "userId".toList members
  content := stated Json.Document.text? "content".toList members
  fileUrl := stated Json.Document.text? "fileUrl".toList members
  fileSize := stated Json.Document.int? "fileSize".toList members
  mimeType := stated Json.Document.text? "mimeType".toList members
  tags := (stated Json.Document.texts? "tags".toList members).getD []
  collectionId := stated Json.Document.text? "collectionId".toList members
  metadata := stated Json.Document.object? "metadata".toList members
  created := stated Json.Document.timestamp? "createdAt".toList members
  updated := stated Json.Document.timestamp? "updatedAt".toList members

/-- Whether the value may stand under the name. Any value may stand under one that is no field. -/
def admits (name : Text) (value : Json.Document) : Bool :=
  fields.all fun field => field.1 != name || field.2.admits value

/-- The members have the types of the fields that they name, and state what every record must. -/
structure MatchesSchema (members : List (Text × Json.Document)) : Prop where
  admitted : ∀ member ∈ members, admits member.1 member.2
  title : valuesUnder "title".toList members ≠ []
  contentType : valuesUnder "contentType".toList members ≠ []

end RecordEntry

def IsRecord (document : Json.Document) : Prop :=
  ∃ members, document = .object members ∧ RecordEntry.MatchesSchema members

namespace Decode

variable {document : Json.Document}

theorem under_eq_ok_iff {α : Type} {step : PathStep} {result : Result α} {value : α} :
    under step result = .ok value ↔ result = .ok value := by cases result <;> simp [under]

theorem unexpected_ne_ok {α : Type} (expected : String) (document : Json.Document) (value : α) :
    unexpected expected document ≠ .ok value := by cases document <;> simp [unexpected]

theorem text_eq_ok_iff {value : Text} :
    text document = .ok value ↔ document.text? = some value := by
  cases document <;> simp [text, unexpected_ne_ok, Json.Document.text?]

theorem optionalText_eq_ok_iff {value : Option Text} :
    optionalText document = .ok value ↔ FieldType.optionalText.admits document ∧
      document.text? = value := by
  cases document <;>
    simp [optionalText, unexpected_ne_ok, FieldType.admits, Json.Document.isNull,
    Json.Document.text?]

theorem optionalInt_eq_ok_iff {value : Option Int} :
    optionalInt document = .ok value ↔ FieldType.optionalInt.admits document ∧
      document.int? = value := by
  cases document with
  | number written =>
    cases whole : written.int? <;>
      simp [optionalInt, whole, unexpected_ne_ok, FieldType.admits, Json.Document.isNull,
        Json.Document.int?]
  | _ =>
    simp [optionalInt, unexpected_ne_ok, FieldType.admits, Json.Document.isNull, Json.Document.int?]

theorem optionalObject_eq_ok_iff (whole : document.isWhole = true) {value : Option Json.Document} :
    optionalObject document = .ok value ↔ FieldType.optionalObject.admits document ∧
      document.object? = value := by
  cases document with
  | object members =>
    cases inRange : (Json.Document.object members).isInRange <;>
      simp [optionalObject, whole, inRange, FieldType.admits, Json.Document.isNull,
        Json.Document.object?]
  | _ =>
    simp [optionalObject, unexpected_ne_ok, FieldType.admits, Json.Document.isNull,
      Json.Document.object?]

theorem textsFrom_eq_ok_iff {place : Nat} {items : List Json.Document} {values : List Text} :
    textsFrom place items = .ok values ↔ items.mapM Json.Document.text? = some values := by
  induction items generalizing place values with
  | nil => simp [textsFrom]
  | cons item rest ih =>
    simp [textsFrom, bind_eq_ok_iff, under_eq_ok_iff, text_eq_ok_iff, ih, Option.bind_eq_some_iff,
      pure, Except.pure]

theorem texts_eq_ok_iff {values : List Text} :
    texts document = .ok values ↔ document.texts? = some values := by
  cases document with
  | array items => exact textsFrom_eq_ok_iff
  | _ => simp [texts, unexpected_ne_ok, Json.Document.texts?]

theorem contentType_eq_ok_iff {type : ContentType} :
    contentType document = .ok type ↔ document.contentType? = some type := by
  simp only [contentType, bind_eq_ok_iff, text_eq_ok_iff, Json.Document.contentType?,
    Option.bind_eq_some_iff]
  apply exists_congr
  intro name
  cases ContentType.ofName? name <;> simp [pure, Except.pure]

theorem timestamp_eq_ok_iff {time : Timestamp} :
    timestamp document = .ok time ↔ document.timestamp? = some time := by
  cases document with
  | string written =>
    cases read : Internet.timestamp? written <;>
      simp [timestamp, read, Json.Document.timestamp?, Json.Document.text?]
  | _ => simp [timestamp, unexpected_ne_ok, Json.Document.timestamp?, Json.Document.text?]

end Decode

namespace RecordEntry

variable {members before : List (Text × Json.Document)} {name : Text} {value : Json.Document}
  {entry : RecordEntry}

theorem names_nodup : (fields.map Prod.fst).Nodup := by decide

theorem admits_eq_true_iff :
    admits name value ↔ ∀ type, (name, type) ∈ fields → type.admits value := by
  simp only [admits, List.all_eq_true, Prod.forall, bne_iff_ne, Bool.or_eq_true]
  grind

theorem admits_of_field {type : FieldType} (field : (name, type) ∈ fields) :
    admits name value = type.admits value := by
  rw [Bool.eq_iff_iff, admits_eq_true_iff]
  constructor
  · exact fun admitted => admitted type field
  · intro admitted other also
    have same : (name, other) = (name, type) := List.inj_on_of_nodup_map names_nodup also field rfl
    simp_all

theorem admits_of_unknown (unknown : name ∉ fields.map Prod.fst) : admits name value :=
  admits_eq_true_iff.mpr fun _ field => absurd (List.mem_map_of_mem field) unknown

/-- Reading a member that names a field adds it to what is stated, if the value is of the type of
the field. -/
theorem readMember_of_field {type : FieldType} (field : (name, type) ∈ fields)
    (whole : value.isWhole = true) :
    (ofMembers before).readMember name value = .ok entry ↔
      type.admits value ∧ ofMembers (before ++ [(name, value)]) = entry := by
  simp only [fields, List.mem_cons, Prod.mk.injEq, List.not_mem_nil, or_false] at field
  obtain ⟨rfl, rfl⟩ | ⟨rfl, rfl⟩ | ⟨rfl, rfl⟩ | ⟨rfl, rfl⟩ | ⟨rfl, rfl⟩ | ⟨rfl, rfl⟩ | ⟨rfl,
      rfl⟩ | ⟨rfl, rfl⟩ | ⟨rfl, rfl⟩ |
    ⟨rfl, rfl⟩ | ⟨rfl, rfl⟩ | ⟨rfl, rfl⟩ | ⟨rfl, rfl⟩ := field
  all_goals
    simp [readMember, ofMembers, Json.stated_concat, map_eq_ok_iff, FieldType.admits,
      Json.Document.isNull, Decode.text_eq_ok_iff, Decode.optionalText_eq_ok_iff,
      Decode.optionalInt_eq_ok_iff, Decode.optionalObject_eq_ok_iff whole, Decode.texts_eq_ok_iff,
      Decode.contentType_eq_ok_iff, Decode.timestamp_eq_ok_iff]
  -- What is left are the fields that cannot be null, in their order.
  · cases value.text? <;> simp
  · cases value.text? <;> simp
  · cases value.contentType? <;> simp
  · cases value.texts? <;> simp
  · cases value.timestamp? <;> simp
  · cases value.timestamp? <;> simp

theorem readMember_of_unknown (unknown : name ∉ fields.map Prod.fst)
    (whole : value.isWhole = true) :
    (ofMembers before).readMember name value = .ok (ofMembers (before ++ [(name, value)])) := by
  simp_all [fields, readMember, ofMembers, Json.stated_concat]

theorem readMember_eq_ok_iff (whole : value.isWhole = true) :
    (ofMembers before).readMember name value = .ok entry ↔
      admits name value ∧ ofMembers (before ++ [(name, value)]) = entry := by
  by_cases known : name ∈ fields.map Prod.fst
  · obtain ⟨⟨name, type⟩, field, rfl⟩ := List.mem_map.mp known
    rw [readMember_of_field field whole, admits_of_field field]
  · simp [readMember_of_unknown known whole, admits_of_unknown known]

/-- Reading members gives an entry if all are admitted, and then it is what they state. -/
theorem readMembers_eq_ok_iff (before : List (Text × Json.Document))
    (whole : Json.Document.membersWhole members = true) :
    (ofMembers before).readMembers members = .ok entry ↔
      (∀ member ∈ members, admits member.1 member.2) ∧ ofMembers (before ++ members) = entry := by
  induction members generalizing before with
  | nil => simp [readMembers]
  | cons member rest ih =>
    obtain ⟨own, others⟩ := Bool.and_eq_true_iff.mp whole
    simp [readMembers, bind_eq_ok_iff, Decode.under_eq_ok_iff, readMember_eq_ok_iff own,
      ih _ others, and_assoc]

theorem isSome_title_iff (admitted : ∀ member ∈ members, admits member.1 member.2) :
    (ofMembers members).title.isSome ↔ valuesUnder "title".toList members ≠ [] :=
  Json.isSome_stated_iff fun value inside =>
    admits_eq_true_iff.mp (admitted _ (Json.mem_valuesUnder.mp inside)) .text (by simp [fields])

theorem isSome_contentType_iff (admitted : ∀ member ∈ members, admits member.1 member.2) :
    (ofMembers members).contentType.isSome ↔ valuesUnder "contentType".toList members ≠ [] :=
  Json.isSome_stated_iff fun value inside =>
    admits_eq_true_iff.mp (admitted _ (Json.mem_valuesUnder.mp inside)) .contentType
      (by simp [fields])

/-- A title and a kind are stated if they are among the names, since their values cannot be null. -/
theorem matchesSchema_iff : MatchesSchema members ↔ (∀ member ∈ members, admits member.1 member.2) ∧
    (ofMembers members).title.isSome ∧ (ofMembers members).contentType.isSome := by
  constructor
  · rintro ⟨admitted, title, contentType⟩
    exact ⟨admitted, (isSome_title_iff admitted).mpr title,
      (isSome_contentType_iff admitted).mpr contentType⟩
  · rintro ⟨admitted, title, contentType⟩
    exact ⟨admitted, (isSome_title_iff admitted).mp title,
      (isSome_contentType_iff admitted).mp contentType⟩

end RecordEntry

namespace RecordDraft

open RecordEntry (admits ofMembers MatchesSchema)

variable {members : List (Text × Json.Document)} {document : Json.Document} {draft : RecordDraft}

structure IsStatedBy (members : List (Text × Json.Document)) (draft : RecordDraft) : Prop where
  admitted : ∀ member ∈ members, admits member.1 member.2
  entry : draft.entry = ofMembers members
  title : draft.entry.title = some draft.title
  contentType : draft.entry.contentType = some draft.contentType

theorem ofEntry_eq_ok_iff {entry : RecordEntry} : ofEntry entry = .ok draft ↔
    entry = draft.entry ∧ draft.entry.title = some draft.title ∧
      draft.entry.contentType = some draft.contentType := by
  obtain ⟨title, type, own⟩ := draft
  rw [ofEntry]
  cases titled : entry.title <;> cases typed : entry.contentType <;> grind

theorem ofDocument_object_eq_ok_iff (whole : Json.Document.membersWhole members = true) :
    ofDocument (.object members) = .ok draft ↔ draft.IsStatedBy members := by
  simp only [ofDocument, bind_eq_ok_iff, ofEntry_eq_ok_iff]
  constructor
  · rintro ⟨_, read, rfl, title, contentType⟩
    obtain ⟨admitted, entry⟩ := (RecordEntry.readMembers_eq_ok_iff [] whole).mp read
    exact ⟨admitted, entry.symm, title, contentType⟩
  · rintro ⟨admitted, entry, title, contentType⟩
    exact ⟨_, (RecordEntry.readMembers_eq_ok_iff [] whole).mpr ⟨admitted, entry.symm⟩, rfl,
      title, contentType⟩

/-- A draft is read from the object that states it, and from no other document. -/
theorem ofDocument_eq_ok_iff (whole : document.isWhole = true) :
    ofDocument document = .ok draft ↔
      ∃ members, document = .object members ∧ draft.IsStatedBy members := by
  cases document with
  | object members => simp [ofDocument_object_eq_ok_iff whole]
  | _ => simp [ofDocument, Decode.unexpected_ne_ok]

/-- Members state a draft if they match the schema. -/
theorem exists_isStatedBy_iff :
    (∃ draft : RecordDraft, draft.IsStatedBy members) ↔ MatchesSchema members := by
  rw [RecordEntry.matchesSchema_iff, Option.isSome_iff_exists, Option.isSome_iff_exists]
  constructor
  · rintro ⟨draft, admitted, entry, title, contentType⟩
    rw [entry] at title contentType
    exact ⟨admitted, ⟨_, title⟩, _, contentType⟩
  · rintro ⟨admitted, ⟨title, titled⟩, type, typed⟩
    exact ⟨⟨title, type, ofMembers members⟩, admitted, rfl, titled, typed⟩

theorem exists_ofDocument_iff (whole : document.isWhole = true) :
    (∃ draft, ofDocument document = .ok draft) ↔ IsRecord document := by
  simp only [ofDocument_eq_ok_iff whole, IsRecord, ← exists_isStatedBy_iff]
  grind

end RecordDraft
end RecordSearch
