import RecordSearch.Proofs.Json.NullCharacter
import RecordSearch.Proofs.Json.Reading
import RecordSearch.Proofs.Record.Restated
import RecordSearch.Record.Load

/-! Records from the array in a file: one for each item, from that item alone, if every item is the
object of a record, and none at all otherwise. Items that are stated again, in another order of
names or with names that are no fields, change nothing. -/
namespace RecordSearch

open Json (Document)

variable {items others : List Document} {same : Document → Document → Prop}
  {defaults : RecordDefaults}

namespace Record

/-- The record has what the entry states. Only a name and dates that are not stated are made up. -/
structure Completes (defaults : RecordDefaults) (entry : RecordEntry) (record : Record) : Prop where
  id : ∃ place, record.id = entry.id.getD (defaults.newId place)
  title : entry.title = some record.title
  kind : entry.contentType.map Kind.known = some record.kind
  userId : record.userId = entry.userId
  content : record.content = entry.content
  fileUrl : record.fileUrl = entry.fileUrl
  fileSize : record.fileSize = entry.fileSize
  mimeType : record.mimeType = entry.mimeType
  tags : record.tags = entry.tags
  collectionId : record.collectionId = entry.collectionId
  metadata : record.metadata = entry.metadata
  created : record.created = .read (entry.created.getD defaults.now)
  updated : record.updated = .read (entry.updated.getD defaults.now)

/-- The record is read from an object, which settles it but for a name and dates that it does not
state. -/
def IsReadFrom (defaults : RecordDefaults) (document : Document) (record : Record) : Prop :=
  ∃ members, document = .object members ∧ record.Completes defaults (RecordEntry.ofMembers members)

def Alike (same : Document → Document → Prop) (first second : Record) : Prop :=
  ∃ metadata, Option.Rel same first.metadata metadata ∧ second = { first with metadata := metadata }

end Record

namespace RecordDraft

variable {drafts : List RecordDraft}

theorem ofItems_eq_ok_iff {place : Nat} : ofItems place items = .ok drafts ↔
    List.Forall₂ (fun item draft => ofDocument item = .ok draft) items drafts := by
  induction items generalizing place drafts with
  | nil => simp [ofItems, eq_comm]
  | cons item rest ih =>
    simp only [ofItems, bind_eq_ok_iff, Decode.under_eq_ok_iff, ih, List.forall₂_cons_left_iff]
    constructor
    · rintro ⟨draft, read, drafts, later, same⟩
      exact ⟨draft, drafts, read, later, (Except.ok.inj same).symm⟩
    · rintro ⟨draft, drafts, read, later, rfl⟩
      exact ⟨draft, read, drafts, later, rfl⟩

theorem exists_ofItems_iff (place : Nat) (whole : Document.allWhole items = true) :
    (∃ drafts, ofItems place items = .ok drafts) ↔ ∀ item ∈ items, IsRecord item := by
  simp only [ofItems_eq_ok_iff]
  induction items with
  | nil => simp
  | cons item rest ih =>
    obtain ⟨own, later⟩ := Bool.and_eq_true_iff.mp whole
    simp only [List.forall_mem_cons, ← exists_ofDocument_iff own, ← ih later,
      List.forall₂_cons_left_iff]
    grind

theorem toOption_ofItems_cons {place : Nat} {item : Document} :
    (ofItems place (item :: items)).toOption =
    (ofDocument item).toOption.bind fun draft =>
    (ofItems (place + 1) items).toOption.map (draft :: ·) := by
  rw [ofItems]
  cases ofDocument item with
  | error => rfl
  | ok => cases ofItems (place + 1) items <;> rfl

/-- Items stated again give drafts as before, or none as before. -/
theorem ofItems_restated [IsPreorder Document same]
    (seen : ∀ first second, same first second → first.SeenAlike same second)
    (restated : List.Forall₂ (IsRestated same) items others)
    (whole : Document.allWhole items = true) (otherWhole : Document.allWhole others = true)
    (place : Nat) :
    Option.Rel (List.Forall₂ (Alike same)) (ofItems place items).toOption
      (ofItems place others).toOption := by
  induction restated generalizing place with
  | nil => exact .some .nil
  | @cons item other items others own _ ih =>
    obtain ⟨here, later⟩ := Bool.and_eq_true_iff.mp whole
    obtain ⟨otherHere, otherLater⟩ := Bool.and_eq_true_iff.mp otherWhole
    have first := ofDocument_restated seen own here otherHere
    have rest := ih later otherLater (place + 1)
    rw [toOption_ofItems_cons, toOption_ofItems_cons]
    generalize (ofDocument item).toOption = draft, (ofDocument other).toOption = otherDraft at first
    generalize (ofItems (place + 1) items).toOption = drafts,
      (ofItems (place + 1) others).toOption = otherDrafts at rest
    cases first with
    | none => exact .none
    | some first =>
      cases rest with
      | none => exact .none
      | some rest => exact .some (.cons first rest)

end RecordDraft

namespace RecordDefaults

theorem fill_isReadFrom {drafts : List RecordDraft} (whole : Document.allWhole items = true)
    (read : List.Forall₂ (fun item draft => RecordDraft.ofDocument item = .ok draft) items drafts)
    (next : Nat) : List.Forall₂ (Record.IsReadFrom defaults) items (defaults.fill next drafts) := by
  induction read generalizing next with
  | nil => exact .nil
  | cons own _ ih =>
    obtain ⟨here, later⟩ := Bool.and_eq_true_iff.mp whole
    obtain ⟨members, rfl, stated⟩ := (RecordDraft.ofDocument_eq_ok_iff here).mp own
    refine .cons ⟨members, rfl, ?_⟩ (ih later _)
    rw [← stated.entry]
    exact {
      id := ⟨next, rfl⟩
      title := stated.title
      kind := by rw [stated.contentType]; rfl
      userId := rfl
      content := rfl
      fileUrl := rfl
      fileSize := rfl
      mimeType := rfl
      tags := rfl
      collectionId := rfl
      metadata := rfl
      created := rfl
      updated := rfl }

theorem fill_alike {first second : List RecordDraft}
    (alike : List.Forall₂ (RecordDraft.Alike same) first second) (next : Nat) :
    List.Forall₂ (Record.Alike same) (defaults.fill next first) (defaults.fill next second) := by
  induction alike generalizing next with
  | nil => exact .nil
  | @cons first second _ _ own _ ih =>
    obtain ⟨title, type, entry⟩ := first
    obtain ⟨_, _, _⟩ := second
    obtain ⟨rfl, rfl, metadata, related, rfl⟩ := own
    exact .cons ⟨metadata, related, rfl⟩ (ih _)

end RecordDefaults

namespace Record

variable {files : FileAccess Id} {path other : FilePath} {bytes otherBytes : Bytes}

theorem ofBytes_of_isWritten (defaults : RecordDefaults)
    (written : Json.IsWritten bytes (.array items)) :
    ofBytes defaults bytes = (RecordDraft.ofItems 0 items).map (defaults.fill 1) := by
  obtain ⟨text, decoded, read⟩ := Json.isWritten_iff.mp written
  rw [ofBytes, decoded]
  simp only [Option.isSome_none, Bool.false_eq_true, if_false, ofText, read, ofDocument]
  cases RecordDraft.ofItems 0 items <;> rfl

theorem ofText_eq_ok_iff {text : Text} {records : List Record} :
    ofText defaults text = .ok records ↔
    (Json.read text).2 = true ∧ ofDocument defaults (Json.read text).1 = .ok records := by
  cases complete : (Json.read text).2 <;> simp [ofText, bind_eq_ok_iff, complete, pure, Except.pure]

theorem exists_array_of_ofDocument {document : Document} {records : List Record}
    (given : ofDocument defaults document = .ok records) : ∃ items, document = .array items := by
  cases document with
  | array items => exact ⟨items, rfl⟩
  | _ => simp [ofDocument, Decode.unexpected_ne_ok] at given

/-- Only the text of an array gives records. -/
theorem exists_isWritten_of_ofBytes {records : List Record}
    (given : ofBytes defaults bytes = .ok records) :
    ∃ items, Json.IsWritten bytes (.array items) := by
  rw [ofBytes] at given
  cases decoded : Utf8.decode bytes with
  | mk text error =>
    simp only [decoded] at given
    obtain ⟨complete, stated⟩ := ofText_eq_ok_iff.mp given
    obtain ⟨items, array⟩ := exists_array_of_ofDocument stated
    cases error with
    | some error =>
      rw [Json.read_of_null (by simp)] at complete
      contradiction
    | none => exact ⟨items, Json.isWritten_iff.mpr ⟨text, decoded, Prod.ext array complete⟩⟩

/-- What a file gives is settled by its bytes. -/
theorem load_eq (defaults : RecordDefaults) (there : files.read path = .ok bytes) :
    load files defaults path = (ofBytes defaults bytes).mapError fun fault =>
      ⟨path, .undecodable fault⟩ := by
  have found : files.bytes path = pure (.ok bytes) := by
    rw [FileAccess.bytes, there]
    rfl
  cases read : ofBytes defaults bytes with
  | error fault =>
    simp only [load, found, pure_bind, read]
    rfl
  | ok records =>
    simp only [load, found, pure_bind, read]
    rfl

theorem load_of_isWritten (defaults : RecordDefaults) (there : files.read path = .ok bytes)
    (written : Json.IsWritten bytes (.array items)) :
    load files defaults path =
      ((RecordDraft.ofItems 0 items).map (defaults.fill 1)).mapError
        fun fault => ⟨path, .undecodable fault⟩ := by
  rw [load_eq defaults there, ofBytes_of_isWritten defaults written]

theorem exists_isWritten_of_load {records : List Record} (there : files.read path = .ok bytes)
    (loaded : load files defaults path = .ok records) :
    ∃ items, Json.IsWritten bytes (.array items) := by
  rw [load_eq defaults there] at loaded
  cases given : ofBytes defaults bytes with
  | error fault => simp [given, Except.mapError] at loaded
  | ok records => exact exists_isWritten_of_ofBytes given

theorem toOption_load (defaults : RecordDefaults) (there : files.read path = .ok bytes)
    (written : Json.IsWritten bytes (.array items)) :
    (load files defaults path).toOption =
    (RecordDraft.ofItems 0 items).toOption.map (defaults.fill 1) := by
  rw [load_of_isWritten defaults there written]
  cases RecordDraft.ofItems 0 items <;> rfl

theorem exists_load_eq_ok (there : files.read path = .ok bytes)
    (written : Json.IsWritten bytes (.array items)) (every : ∀ item ∈ items, IsRecord item) :
    ∃ records, load files defaults path = .ok records ∧
      List.Forall₂ (IsReadFrom defaults) items records := by
  obtain ⟨drafts, read⟩ := (RecordDraft.exists_ofItems_iff 0 written.1).mpr every
  refine ⟨defaults.fill 1 drafts, ?_, ?_⟩
  · rw [load_of_isWritten defaults there written, read]
    rfl
  · exact RecordDefaults.fill_isReadFrom written.1 (RecordDraft.ofItems_eq_ok_iff.mp read) 1

theorem exists_load_eq_error (there : files.read path = .ok bytes)
    (written : Json.IsWritten bytes (.array items)) {item : Document} (inside : item ∈ items)
    (no : ¬IsRecord item) :
    ∃ fault, load files defaults path = .error ⟨path, .undecodable fault⟩ := by
  rw [load_of_isWritten defaults there written]
  cases read : RecordDraft.ofItems 0 items with
  | error fault => exact ⟨fault, rfl⟩
  | ok drafts =>
    exact absurd ((RecordDraft.exists_ofItems_iff 0 written.1).mp ⟨drafts, read⟩ item inside) no

theorem load_restated [IsPreorder Document same]
    (seen : ∀ first second, same first second → first.SeenAlike same second)
    (there : files.read path = .ok bytes) (written : Json.IsWritten bytes (.array items))
    (otherThere : files.read other = .ok otherBytes)
    (otherWritten : Json.IsWritten otherBytes (.array others))
    (restated : List.Forall₂ (IsRestated same) items others) :
    Option.Rel (List.Forall₂ (Alike same)) (load files defaults path).toOption
      (load files defaults other).toOption := by
  rw [toOption_load defaults there written, toOption_load defaults otherThere otherWritten]
  have drafts := RecordDraft.ofItems_restated seen restated written.1 otherWritten.1 0
  generalize (RecordDraft.ofItems 0 items).toOption = first,
    (RecordDraft.ofItems 0 others).toOption = second at drafts
  cases drafts with
  | none => exact .none
  | some alike => exact .some (RecordDefaults.fill_alike alike 1)

theorem eq_of_alike {first second : Record} (alike : Alike Eq first second) : first = second := by
  obtain ⟨metadata, same, rfl⟩ := alike
  generalize stated : first.metadata = own at same
  cases same with
  | none => rw [← stated]
  | some same => rw [← same, ← stated]

theorem eq_of_rel {first second : Option (List Record)}
    (related : Option.Rel (List.Forall₂ (Alike Eq)) first second) : first = second := by
  cases related with
  | none => rfl
  | some alike =>
    have same := alike.imp fun _ _ => eq_of_alike
    rw [List.forall₂_eq_eq_eq] at same
    rw [same]

/-- Only the file of an array gives records. It is loaded as a whole or not at all, and each record
is settled by the item in its place. Both stay the same when the objects of records state their
different names in another order, or state more names that are no fields. In another order of the
names inside these objects, the records are the same but for that order. -/
theorem load_all_or_nothing (defaults : RecordDefaults) (there : files.read path = .ok bytes) :
    (∀ records, load files defaults path = .ok records →
        ∃ items, Json.IsWritten bytes (.array items)) ∧
    ∀ items, Json.IsWritten bytes (.array items) →
      ((∀ item ∈ items, IsRecord item) →
        ∃ records, load files defaults path = .ok records ∧
            List.Forall₂ (IsReadFrom defaults) items records) ∧
      ((∃ item ∈ items, ¬IsRecord item) →
          ∃ fault, load files defaults path = .error ⟨path, .undecodable fault⟩) ∧
      ∀ other otherBytes others,
        files.read other = .ok otherBytes → Json.IsWritten otherBytes (.array others) →
        (List.Forall₂ (IsRestated Eq) items others →
          (load files defaults path).toOption = (load files defaults other).toOption) ∧
        (List.Forall₂ (IsRestated Document.Reordered) items others →
          Option.Rel (List.Forall₂ (Alike Document.Reordered)) (load files defaults path).toOption
            (load files defaults other).toOption) := by
  refine ⟨fun records => exists_isWritten_of_load there, fun items written => ?_⟩
  refine ⟨exists_load_eq_ok there written,
    fun ⟨item, inside, no⟩ => exists_load_eq_error there written inside no, ?_⟩
  intro other otherBytes others otherThere otherWritten
  constructor
  · intro restated
    exact eq_of_rel (load_restated (fun _ _ => Document.seenAlike_of_eq) there written otherThere
        otherWritten restated)
  · exact load_restated (fun _ _ => Document.Reordered.seenAlike) there written
      otherThere otherWritten

/-- A note in two writings, and an object that lacks a kind. -/
theorem load_all_or_nothing_notes :
    let note : List (Text × Document) :=
      [("title".toList, .string ['A']), ("contentType".toList, .string "note".toList),
      ("metadata".toList, .object [(['x'], .null), (['y'], .null)])]
    let again : List (Text × Document) :=
      [("kind".toList, .null), ("contentType".toList, .string "note".toList),
      ("metadata".toList, .object [(['y'], .null), (['x'], .null)]),
      ("title".toList, .string ['A'])]
    let files : FileAccess Id := ⟨fun path => .ok ((
      if path.parts = [['a']] then
        "[\x7b\x22title\x22: \x22A\x22, \x22contentType\x22: \x22note\x22, " ++
          "\x22metadata\x22: \x7b\x22x\x22: null, \x22y\x22: null\x7d\x7d]"
      else if path.parts = [['b']] then
        "[\x7b\x22kind\x22: null, \x22contentType\x22: \x22note\x22, " ++
          "\x22metadata\x22: \x7b\x22y\x22: null, \x22x\x22: null\x7d, \x22title\x22: \x22A\x22\x7d]"
      else "[\x7b\x22title\x22: \x22A\x22\x7d]").toList.map fun c => c.toNat.toUInt8)⟩
    let defaults : RecordDefaults := ⟨Text.ofNat, ⟨1, by decide, none⟩⟩
    RecordEntry.MatchesSchema note ∧ RecordEntry.Restated Document.Reordered note again ∧
      (∃ records, load files defaults ⟨[], [['a']]⟩ = .ok records ∧
        List.Forall₂ (IsReadFrom defaults) [.object note] records) ∧
      (∃ fault, load files defaults ⟨[], [['c']]⟩ = .error ⟨⟨[], [['c']]⟩, .undecodable fault⟩) ∧
      Option.Rel (List.Forall₂ (Alike Document.Reordered))
        (load files defaults ⟨[], [['a']]⟩).toOption
        (load files defaults ⟨[], [['b']]⟩).toOption := by
  intro note again files defaults
  have matching : RecordEntry.MatchesSchema note := ⟨by decide, by decide, by decide⟩
  have lacking : ¬IsRecord (.object [("title".toList, .string ['A'])]) := by
    rintro ⟨_, same, matching⟩
    cases same
    exact matching.contentType rfl
  have restated : RecordEntry.Restated Document.Reordered note again := by
    refine .trans (.swap (by decide) _) (.trans (.cons _ (.refl _) ?_) (.unknown (by decide) _ _))
    exact .trans (.swap (by decide) _) (.cons _ (.swap [] [] (by decide)) (.cons _ (.refl _) .nil))
  obtain ⟨-, every⟩ := load_all_or_nothing defaults (show files.read ⟨[], [['a']]⟩ = .ok _ from rfl)
  obtain ⟨loaded, -, reloaded⟩ := every [.object note] ⟨rfl, _, rfl, rfl⟩
  obtain ⟨-, every⟩ := load_all_or_nothing defaults (show files.read ⟨[], [['c']]⟩ = .ok _ from rfl)
  obtain ⟨-, failed, -⟩ := every [.object [("title".toList, .string ['A'])]] ⟨rfl, _, rfl, rfl⟩
  refine ⟨matching, restated, loaded (List.forall_mem_singleton.mpr ⟨note, rfl, matching⟩), ?_, ?_⟩
  · exact failed ⟨_, List.mem_singleton_self _, lacking⟩
  · apply (reloaded ⟨[], [['b']]⟩ _ [.object again] rfl ⟨rfl, _, rfl, rfl⟩).2
    exact .cons (.object restated) .nil

end Record
end RecordSearch
