import RecordSearch.Proofs.Search.Phrase
import RecordSearch.Proofs.Text.Sigma

/-! Queries for a text that stands in a record letter for letter. Such a query finds the record
unless the text has a capital sigma that ends a word in the text alone and not in the record, or in
the record and not in the text alone. -/
namespace RecordSearch

inductive TextField where
  | title
  | content
  | tags
  deriving DecidableEq, Repr

namespace TextField

def name : TextField → Text
  | .title => "title".toList
  | .content => "content".toList
  | .tags => "tags".toList

def texts (record : Record) : TextField → List Text
  | .title => [record.title]
  | .content => record.content.toList
  | .tags => record.tags

def condition (value : Text) : TextField → Condition
  | .title => .title value
  | .content => .content value
  | .tags => .tags [value]

def asking (field : TextField) (value : Text) : Query := { fields := [(field.name, .single value)] }

/-- A record that has one text in the part, and no other text. -/
def holding (text : Text) (date : Stamp) : TextField → Record
  | .title => { id := [], title := text, kind := .known .note, created := date, updated := date }
  | .content =>
    { id := [], title := [], kind := .known .note, content := some text, created := date,
      updated := date }
  | .tags =>
    { id := [], title := [], kind := .known .note, tags := [text], created := date,
      updated := date }

end TextField

def Query.askingAnywhere (value : Text) : Query := { fullText := some value }

theorem Query.matches?_of_condition {query : Query} {condition : Condition}
    (stated : query.conditions = .ok [condition]) (record : Record) :
    query.matches? record = condition.holds record := by
  rw [matches?, stated]
  change Condition.allHold record [condition] = _
  rw [Condition.allHold]
  cases condition.holds record with
  | error => rfl
  | ok answer => cases answer <;> rfl

theorem Query.matches?_askingAnywhere {value : Text} (nonempty : value ≠ []) (record : Record) :
    (askingAnywhere value).matches? record = (Condition.anywhere value).holds record := by
  refine matches?_of_condition ?_ record
  cases value with
  | nil => exact absurd rfl nonempty
  | cons c rest => rfl

theorem Text.holds_nil (whole : Text) : holds [] whole = true :=
  (occursIn_iff _ _).mpr List.nil_infix

theorem Text.eq_nil_of_holds_nil {value : Text} (held : holds value [] = true) : value = [] :=
  eq_nil_of_lowerAfter (List.infix_nil.mp ((occursIn_iff _ _).mp held))

variable {value whole : Text} {record : Record}

namespace TextField

variable {field : TextField} {date : Stamp}

theorem matches?_asking (field : TextField) (value : Text) (record : Record) :
    (field.asking value).matches? record = (field.condition value).holds record :=
  Query.matches?_of_condition (by cases field <;> rfl) record

theorem holds_of_mem_texts (stands : whole ∈ field.texts record)
    (held : Text.holds value whole = true) : (field.condition value).holds record = .ok true := by
  cases field with
  | title =>
    obtain rfl := List.mem_singleton.mp stands
    rw [condition, Condition.holds, held]
  | content =>
    have only : record.content = some whole := by simpa [texts] using stands
    simp [condition, Condition.holds, only, held]
  | tags =>
    simp only [condition, Condition.holds, Condition.tagged, List.any_cons, List.any_nil,
      Bool.or_false]
    exact congrArg Except.ok (List.any_eq_true.mpr ⟨whole, stands, held⟩)

theorem mem_searched (stands : whole ∈ field.texts record) : whole ∈ record.searched := by
  cases field with
  | title => exact List.mem_cons.mpr (.inl (List.mem_singleton.mp stands))
  | content => exact List.mem_cons_of_mem _ (List.mem_append_left _ stands)
  | tags => exact List.mem_cons_of_mem _ (List.mem_append_right _ stands)

theorem mem_texts_holding (field : TextField) (text : Text) (date : Stamp) :
    text ∈ field.texts (field.holding text date) := by
  cases field <;> simp [texts, holding]

theorem searched_holding (field : TextField) {text searched : Text}
    (member : searched ∈ (field.holding text date).searched) : searched = text ∨ searched = [] := by
  cases field <;> simp [Record.searched, holding] at member <;> tauto

theorem holds_holding (nonempty : whole ≠ [])
    (held : (field.condition value).holds (field.holding whole date) = .ok true) :
    Text.holds value whole = true := by
  cases field <;> simpa [condition, holding, Condition.holds, Condition.tagged, nonempty] using held

end TextField

theorem Condition.holds_anywhere_of_mem (stands : whole ∈ record.searched)
    (held : Text.holds value whole = true) :
    (Condition.anywhere value).holds record = .ok true := by
  simp only [Record.searched, List.mem_cons, List.mem_append, Option.mem_toList] at stands
  simp only [holds, tagged, List.any_cons, List.any_nil, Bool.or_false, Except.ok.injEq,
    Bool.or_eq_true, Option.any_eq_true, List.any_eq_true]
  rcases stands with rfl | content | tag
  · exact .inl (.inl held)
  · exact .inl (.inr ⟨whole, content, held⟩)
  · exact .inr ⟨whole, tag, held⟩

theorem Query.matches?_askingAnywhere_of_mem (stands : whole ∈ record.searched)
    (held : Text.holds value whole = true) : (askingAnywhere value).matches? record = .ok true := by
  by_cases empty : value = []
  · rw [empty]
    rfl
  · rw [matches?_askingAnywhere empty]
    exact Condition.holds_anywhere_of_mem stands held

namespace TextField

variable {field : TextField} {date : Stamp}

theorem holds_of_finds_holding (nonempty : whole ≠ [])
    (found : (field.asking value).matches? (field.holding whole date) = .ok true) :
    Text.holds value whole = true := by
  rw [matches?_asking] at found
  exact holds_holding nonempty found

theorem holds_of_finds_anywhere
    (found : (Query.askingAnywhere value).matches? (field.holding whole date) = .ok true) :
    Text.holds value whole = true := by
  by_cases empty : value = []
  · rw [empty]
    exact Text.holds_nil whole
  · rw [Query.matches?_askingAnywhere empty] at found
    obtain ⟨searched, member, held⟩ := Condition.exists_searched_of_anywhere found
    rcases field.searched_holding member with rfl | rfl
    · exact held
    · exact absurd (Text.eq_nil_of_holds_nil held) empty

/-- A query for a text finds a record that has the text letter for letter, if the text reads alike
there. It finds all such records exactly if the text is self-contained. -/
theorem finds_verbatim_iff (field : TextField) (value : Text) :
    (∀ record before after,
      before ++ value ++ after ∈ field.texts record → Text.ReadsAlike before value after →
      (field.asking value).matches? record = .ok true ∧
      (Query.askingAnywhere value).matches? record = .ok true) ∧
    ((∀ record, ∀ whole ∈ field.texts record,
        value <:+: whole → (field.asking value).matches? record = .ok true) ↔
      Text.IsSelfContained value) ∧
    ((∀ record, ∀ whole ∈ field.texts record, value <:+: whole →
      (Query.askingAnywhere value).matches? record = .ok true) ↔ Text.IsSelfContained value) := by
  have asked {record : Record} {whole : Text} (stands : whole ∈ field.texts record)
      (held : Text.holds value whole = true) : (field.asking value).matches? record = .ok true :=
    (matches?_asking field value record).trans (holds_of_mem_texts stands held)
  have askedAnywhere {record : Record} {whole : Text} (stands : whole ∈ field.texts record)
      (held : Text.holds value whole = true) :
      (Query.askingAnywhere value).matches? record = .ok true :=
    Query.matches?_askingAnywhere_of_mem (mem_searched stands) held
  have date : Stamp := .read ⟨0, by decide, none⟩
  rw [Text.isSelfContained_iff]
  refine ⟨fun record before after stands alike => ?_, ⟨fun found whole part => ?_, ?_⟩,
    ⟨fun found whole part => ?_, ?_⟩⟩
  · have held := Text.holds_of_readsAlike alike
    exact ⟨asked stands held, askedAnywhere stands held⟩
  · -- Empty content satisfies every condition, but it has no other part than the empty text.
    by_cases empty : whole = []
    · obtain rfl := List.infix_nil.mp (empty ▸ part)
      exact Text.holds_nil whole
    · exact holds_of_finds_holding empty (found _ whole (field.mem_texts_holding whole date) part)
  · exact fun held record whole stands part => asked stands (held whole part)
  · exact holds_of_finds_anywhere (found _ whole (field.mem_texts_holding whole date) part)
  · exact fun held record whole stands part => askedAnywhere stands (held whole part)

/-- The first letters of a word in capitals, of which the last is a sigma, do not find the word. -/
theorem finds_verbatim_misses_sigma :
    let stamp := Stamp.read ⟨63839664000000000, by decide, some 0⟩
    let note : Record :=
      { id := ['a'], title := "ΟΔΥΣΣΕΥΣ".toList, kind := .known .note, created := stamp,
        updated := stamp }
    let value := "ΟΔΥΣ".toList
    value <:+: note.title ∧ (title.asking value).matches? note = .ok false ∧
      (Query.askingAnywhere value).matches? note = .ok false := by
  refine ⟨⟨[], "ΣΕΥΣ".toList, by decide⟩, by decide +kernel, by decide +kernel⟩

end TextField
end RecordSearch
