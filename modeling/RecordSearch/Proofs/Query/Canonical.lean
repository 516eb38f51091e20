import RecordSearch.Proofs.Query.Sentence
import RecordSearch.Query.Print

/-! The text of a query states the query. Every part is written as one clause whose value begins
right behind the colon, and the value of a clause ends where the next one begins, so that the
clauses are a sentence without free words and without connectives. -/
namespace RecordSearch

namespace Text

structure Continues (word : Text) : Prop where
  isWord : IsWord word
  colonless : ':' ∉ word
  noConnective : ∀ connective : Connective, word ≠ connective.name

instance (word : Text) : Decidable (Continues word) :=
  decidable_of_iff (IsWord word ∧ ':' ∉ word ∧ Connective.ofName? word = none)
    ⟨fun ⟨isWord, colonless, different⟩ => ⟨isWord, colonless, fun connective same => by
        rw [same, Connective.ofName?_name] at different
        contradiction⟩,
      fun continues => ⟨continues.isWord, continues.colonless,
          Connective.ofName?_eq_none continues.noConnective⟩⟩

/-- A text that is read back as the value of a clause. -/
structure IsValue (text : Text) : Prop where
  nonempty : text ≠ []
  normal : normalize text = text
  continues : ∀ word ∈ (words text).tail, Continues word

instance (text : Text) : Decidable (IsValue text) :=
  decidable_of_iff (text ≠ [] ∧ normalize text = text ∧ ∀ word ∈ (words text).tail, Continues word)
    ⟨fun ⟨nonempty, normal, continues⟩ => ⟨nonempty, normal, continues⟩,
      fun value => ⟨value.nonempty, value.normal, value.continues⟩⟩

/-- A character that stands in no connective keeps a longer word from being one. -/
theorem Continues.append {word next : Text} {c : Char} (proper : Continues word)
    (next_proper : Continues next) (inside : c ∈ word ++ next)
    (foreign : ∀ connective : Connective, c ∉ connective.name) : Continues (word ++ next) where
  isWord := proper.isWord.append next_proper.isWord
  colonless := by simp [proper.colonless, next_proper.colonless]
  noConnective connective same := foreign connective (same ▸ inside)

theorem continues_comma : Continues [','] where
  isWord := isWord_of_all (by decide) (by decide)
  colonless := by decide
  noConnective connective := by cases connective <;> decide

theorem continues_quote : Continues ['\x22'] where
  isWord := isWord_of_all (by decide) (by decide)
  colonless := by decide
  noConnective connective := by cases connective <;> decide

theorem comma_notMem_name (connective : Connective) : ',' ∉ connective.name := by
  cases connective <;> decide

theorem quote_notMem_name (connective : Connective) : '\x22' ∉ connective.name := by
  cases connective <;> decide

theorem words_ne_nil {text : Text} (nonempty : text ≠ []) (normal : normalize text = text) :
    words text ≠ [] := by
  intro none
  rw [normalize, none, join] at normal
  exact nonempty normal.symm

/-- A word in front of a value makes another value. -/
theorem IsValue.word_append {word text : Text} (value : IsValue text) (proper : IsWord word) :
    IsValue (word ++ text) := by
  refine ⟨by simp [value.nonempty], normalize_append (normalize_word proper) value.normal, ?_⟩
  rw [words_append (normalize_word proper) value.normal, words_word proper]
  obtain ⟨first, rest, whole⟩ :=
    List.exists_cons_of_ne_nil (words_ne_nil value.nonempty value.normal)
  have later := value.continues
  rw [whole] at later ⊢
  exact later

/-- So does a quote behind it. -/
theorem IsValue.append_quote {text : Text} (value : IsValue text) : IsValue (text ++ ['\x22']) := by
  have quote := continues_quote.isWord
  refine ⟨by simp, normalize_append value.normal (normalize_word quote), ?_⟩
  rw [words_append value.normal (normalize_word quote), words_word quote]
  obtain ⟨first, rest, whole⟩ :=
    List.exists_cons_of_ne_nil (words_ne_nil value.nonempty value.normal)
  have later := value.continues
  rw [whole, List.tail_cons] at later
  rw [whole]
  cases rest with
  | nil => simp [glue]
  | cons next rest =>
    refine forall_mem_glue later (by simpa using continues_quote) fun last ends first begins => ?_
    obtain rfl := Option.some.inj begins
    exact (later last (List.mem_of_getLast? ends)).append continues_quote (by simp)
      quote_notMem_name

/-- Texts of which all words continue a value stay so with commas between them. -/
theorem continues_join_comma {items : List Text} (normal : ∀ item ∈ items, normalize item = item)
    (continues : ∀ item ∈ items, ∀ word ∈ words item, Continues word) :
    normalize (join [','] items) = join [','] items ∧ ∀ word ∈ words (join [','] items),
      Continues word := by
  have comma := continues_comma
  fun_induction join [','] items with
  | case1 => exact ⟨rfl, by simp⟩
  | case2 item => exact ⟨normal item List.mem_cons_self, continues item List.mem_cons_self⟩
  | case3 item rest _ ih =>
    obtain ⟨rest_normal, rest_continues⟩ :=
      ih (fun other member => normal other (List.mem_cons_of_mem _ member))
        fun other member => continues other (List.mem_cons_of_mem _ member)
    have item_normal := normal item List.mem_cons_self
    have comma_normal := normalize_word comma.isWord
    have behind_normal := normalize_append comma_normal rest_normal
    -- The words from the comma on: the first of them begins with it.
    have behind : ∀ word ∈ words ([','] ++ join [','] rest), Continues word := by
      rw [words_append comma_normal rest_normal, words_word comma.isWord]
      refine forall_mem_glue (by simpa using comma) rest_continues fun last ends first begins => ?_
      obtain rfl := Option.some.inj ends
      exact comma.append (rest_continues first (List.mem_of_head? begins)) (by simp)
        comma_notMem_name
    have begins : ∀ first ∈ (words ([','] ++ join [','] rest)).head?, ',' ∈ first := by
      rw [words_append comma_normal rest_normal, words_word comma.isWord]
      cases words (join [','] rest) with
      | nil => simp [glue]
      | cons _ _ => simp [glue]
    rw [List.append_assoc]
    refine ⟨normalize_append item_normal behind_normal, ?_⟩
    rw [words_append item_normal behind_normal]
    refine forall_mem_glue (continues item List.mem_cons_self) behind fun last ends first head => ?_
    exact (continues item List.mem_cons_self last (List.mem_of_getLast? ends)).append
      (behind first (List.mem_of_head? head)) (List.mem_append_right _ (begins first head))
        comma_notMem_name

end Text

namespace Clause

def ofValue (name value : Text) : Clause :=
  ⟨name, false, (Text.words value).headD [], (Text.words value).tail⟩

variable {name value : Text}

theorem words_eq_cons (written : Text.IsValue value) :
    Text.words value = (ofValue name value).first :: (ofValue name value).more := by
  obtain ⟨first, rest, whole⟩ :=
    List.exists_cons_of_ne_nil (Text.words_ne_nil written.nonempty written.normal)
  rw [ofValue, whole]
  rfl

theorem value_ofValue (written : Text.IsValue value) : (ofValue name value).value = value := by
  rw [Clause.value, ← words_eq_cons written, ← Text.normalize, written.normal]

theorem source_ofValue (written : Text.IsValue value) :
    (ofValue name value).source = name ++ ':' :: value := by
  rw [source, value_ofValue written]
  rfl

theorem isWritten_ofValue (nonempty : name ≠ []) (chars : ∀ c ∈ name, isNameChar c = true)
    (written : Text.IsValue value) : (ofValue name value).IsWritten where
  name_nonempty := nonempty
  name_chars := chars
  first_word := Text.isWord_of_mem_words (words_eq_cons written ▸ List.mem_cons_self)
  more_words word member := (written.continues word member).isWord
  more_colonless word member := (written.continues word member).colonless
  more_noConnective word member := (written.continues word member).noConnective

/-- Clauses one behind the other, word by word. -/
theorem join_words (clauses : List Clause) :
    Text.join [' '] (clauses.flatMap words) = Text.join [' '] (clauses.map source) := by
  have tails : tail (clauses.flatMap words) = tail (clauses.map source) := by
    induction clauses with
    | nil => rfl
    | cons clause rest ih =>
      rw [List.flatMap_cons, tail_words, ih]
      rfl
  cases clauses with
  | nil => rfl
  | cons clause rest =>
    obtain ⟨first, later, whole⟩ : ∃ first later,
        (clause :: rest).flatMap words = first :: later := by
      apply List.exists_cons_of_ne_nil
      cases spaced : clause.spaced with
      | false => simp [words, spaced]
      | true => simp [words, spaced]
    rw [whole, List.map_cons, tail_cons, tail_cons] at tails
    rw [whole, List.map_cons]
    exact List.tail_eq_of_cons_eq tails

end Clause

/-- A single text that is written as it is, or between quotes if it holds a space. -/
structure Text.IsPlain (text : Text) : Prop extends IsValue text where
  quoteless : ∀ c ∈ text, Query.isQuote c = false

instance (text : Text) : Decidable text.IsPlain :=
  decidable_of_iff (text.IsValue ∧ text.all (!Query.isQuote ·) = true)
    ⟨fun ⟨value, quoteless⟩ => ⟨value, by simpa using quoteless⟩,
      fun plain => ⟨plain.toIsValue, by simpa using plain.quoteless⟩⟩

/-- A member of a list that commas set apart. It may be empty. -/
structure Text.IsListed (text : Text) : Prop where
  normal : normalize text = text
  quoteless : ∀ c ∈ text, Query.isQuote c = false
  commaless : ',' ∉ text
  continues : ∀ word ∈ words text, Continues word

instance (text : Text) : Decidable text.IsListed :=
  decidable_of_iff (Text.normalize text = text ∧ text.all (!Query.isQuote ·) = true ∧ ',' ∉ text ∧
      ∀ word ∈ Text.words text, Text.Continues word)
    ⟨fun ⟨normal, quoteless, commaless, continues⟩ =>
      ⟨normal, by simpa using quoteless, commaless, continues⟩,
      fun listed =>
          ⟨listed.normal, by simpa using listed.quoteless, listed.commaless, listed.continues⟩⟩

/-- A value that its field may hold: only tags have a list, of two members or more, and a tag alone
has no comma. -/
inductive Value.IsCanonical (name : Text) : Value → Prop
  | single {text : Text} : text.IsPlain → (name = "tags".toList → ',' ∉ text) →
      IsCanonical name (.single text)
  | list {items : List Text} : name = "tags".toList → 2 ≤ items.length →
      (∀ item ∈ items, item.IsListed) →
      IsCanonical name (.list items)

instance (name : Text) : (value : Value) → Decidable (value.IsCanonical name)
  | .single text =>
    decidable_of_iff (text.IsPlain ∧ (name = "tags".toList → ',' ∉ text))
      ⟨fun ⟨plain, commaless⟩ => .single plain commaless,
       fun | .single plain commaless => ⟨plain, commaless⟩⟩
  | .list items =>
    decidable_of_iff (name = "tags".toList ∧ 2 ≤ items.length ∧ ∀ item ∈ items, item.IsListed)
      ⟨fun ⟨tags, many, listed⟩ => .list tags many listed,
       fun | .list tags many listed => ⟨tags, many, listed⟩⟩

/-- A date filter with an operator, which the value does not lengthen. -/
structure DateFilter.IsCanonical (filter : DateFilter) : Prop where
  field : filter.field ∈ dateFields
  operator_nonempty : filter.operator ≠ []
  operator_chars : ∀ c ∈ filter.operator, isOperatorChar c = true
  value : filter.value.IsPlain
  value_begins : ∀ c ∈ filter.value.head?, isOperatorChar c = false

instance (filter : DateFilter) : Decidable filter.IsCanonical :=
  decidable_of_iff (dateFields.contains filter.field = true ∧ filter.operator ≠ [] ∧
      filter.operator.all isOperatorChar = true ∧ filter.value.IsPlain ∧
      filter.value.head?.all (!isOperatorChar ·) = true)
    ⟨fun ⟨field, nonempty, chars, value, begins⟩ => ⟨List.contains_iff_mem.mp field, nonempty,
        List.all_eq_true.mp chars, value, by simpa [Option.all_eq_true] using begins⟩,
      fun canonical => ⟨List.contains_iff_mem.mpr canonical.field, canonical.operator_nonempty,
        List.all_eq_true.mpr canonical.operator_chars, canonical.value,
        by simpa [Option.all_eq_true] using canonical.value_begins⟩⟩

/-- A query without free text that its own text states. -/
structure Query.IsCanonical (query : Query) : Prop where
  distinct : query.fields.names.Nodup
  names : ∀ name ∈ query.fields.names, IsFieldName name
  values : ∀ member ∈ query.fields, Value.IsCanonical member.1 member.2
  dates : ∀ filter ∈ query.dateFilters, filter.IsCanonical
  noFullText : query.fullText = none

instance (query : Query) : Decidable query.IsCanonical :=
  decidable_of_iff (query.fields.names.Nodup ∧
    (∀ name ∈ query.fields.names, Query.IsFieldName name) ∧
      (∀ member ∈ query.fields, Value.IsCanonical member.1 member.2) ∧
      (∀ filter ∈ query.dateFilters, filter.IsCanonical) ∧ query.fullText = none)
    ⟨fun ⟨distinct, names, values, dates, textless⟩ => ⟨distinct, names, values, dates, textless⟩,
      fun canonical => ⟨canonical.distinct, canonical.names, canonical.values, canonical.dates,
          canonical.noFullText⟩⟩

namespace Query

def valueText : Value → Text
  | .list items => Text.join [','] items
  | .single text => if text.contains ' ' then '\x22' :: text ++ ['\x22'] else text

theorem fieldText_eq (name : Text) (value : Value) :
    fieldText name value = name ++ ':' :: valueText value := by
  cases value with
  | single text => rfl
  | list items => rfl

theorem stripQuotes_of_quoteless {text : Text} (quoteless : ∀ c ∈ text, isQuote c = false) :
    stripQuotes text = text := by
  have drop : ∀ other : Text, (∀ c ∈ other, isQuote c = false) →
      dropOpeningQuote other = other := by
    intro other free
    cases other with
    | nil => rfl
    | cons c rest => rw [dropOpeningQuote, if_neg (by simp [free c List.mem_cons_self])]
  rw [stripQuotes, drop text quoteless, drop text.reverse (by simpa using quoteless),
    List.reverse_reverse]

theorem stripQuotes_quoted (text : Text) : stripQuotes ('\x22' :: text ++ ['\x22']) = text := by
  have opening (rest : Text) : dropOpeningQuote ('\x22' :: rest) = rest := rfl
  rw [stripQuotes, List.cons_append, opening, List.reverse_append, List.reverse_singleton,
    List.singleton_append, opening, List.reverse_reverse]

/-- A field is read back from its value as it is written. -/
theorem ofClause?_valueText {name : Text} {value : Value} (field : IsFieldName name)
    (canonical : value.IsCanonical name) :
    Text.IsValue (valueText value) ∧
      Part.ofClause? name (stripQuotes (valueText value)) = some (.field name value) := by
  cases canonical with
  | @single text plain commaless =>
    have unlisted : ¬ (name = "tags".toList ∧ ',' ∈ text) := fun both => commaless both.1 both.2
    have stated : Part.ofClause? name text = some (.field name (.single text)) := by
      rw [Part.ofClause?, if_neg field.noDate, if_neg unlisted]
    by_cases spaced : text.contains ' ' = true
    · rw [valueText, if_pos spaced, stripQuotes_quoted]
      exact ⟨plain.toIsValue.append_quote.word_append Text.continues_quote.isWord, stated⟩
    · rw [valueText, if_neg spaced, stripQuotes_of_quoteless plain.quoteless]
      exact ⟨plain.toIsValue, stated⟩
  | @list items tags many listed =>
    obtain ⟨normal, continues⟩ :=
      Text.continues_join_comma (fun item member => (listed item member).normal)
      fun item member => (listed item member).continues
    obtain ⟨first, others, rfl⟩ :=
      List.exists_cons_of_length_pos (Nat.lt_of_lt_of_le Nat.zero_lt_two many)
    obtain ⟨second, rest, rfl⟩ := List.exists_cons_of_length_pos (Nat.le_of_succ_le_succ many)
    have comma : ',' ∈ Text.join [','] (first :: second :: rest) := by simp [Text.join]
    have quoteless : ∀ c ∈ Text.join [','] (first :: second :: rest), isQuote c = false := by
      intro c inside
      rcases Text.mem_join inside with gap | ⟨item, member, inside⟩
      · obtain rfl := List.mem_singleton.mp gap
        decide
      · exact (listed item member).quoteless c inside
    have pieces : Text.splitAt (· == ',') (Text.join [','] (first :: second :: rest)) =
        first :: second :: rest :=
      Text.splitAt_join (by simp) fun item member => (listed item member).commaless
    have trimmed : (first :: second :: rest).map Text.trim = first :: second :: rest := by
      refine (List.map_congr_left fun item member => ?_).trans (List.map_id _)
      exact Text.trim_of_normal (listed item member).normal
    refine ⟨⟨List.ne_nil_of_mem comma, normal, fun word member =>
        continues word (List.mem_of_mem_tail member)⟩, ?_⟩
    rw [valueText, stripQuotes_of_quoteless quoteless, Part.ofClause?, if_neg field.noDate,
      if_pos ⟨tags, comma⟩, pieces, trimmed]

/-- A date filter is read back from its operator and its value. -/
theorem ofClause?_dateText {filter : DateFilter} (canonical : filter.IsCanonical) :
    Text.IsValue (filter.operator ++ filter.value) ∧
      Part.ofClause? filter.field (stripQuotes (filter.operator ++ filter.value)) =
        some (.date filter) := by
  have chars := canonical.operator_chars
  have plain := canonical.value
  have operator : Text.IsWord filter.operator := by
    refine ⟨canonical.operator_nonempty, fun c inside => ?_⟩
    rcases eq_of_isOperatorChar (chars c inside) with rfl | rfl | rfl | rfl <;> decide
  have quoteless : ∀ c ∈ filter.operator ++ filter.value, isQuote c = false := by
    intro c inside
    rcases List.mem_append.mp inside with front | back
    · rcases eq_of_isOperatorChar (chars c front) with rfl | rfl | rfl | rfl <;> decide
    · exact plain.quoteless c back
  refine ⟨plain.toIsValue.word_append operator, ?_⟩
  rw [stripQuotes_of_quoteless quoteless, Part.ofClause?, if_pos canonical.field,
    splitOperator?_append canonical.operator_nonempty chars plain.nonempty canonical.value_begins,
    Option.map_some]
  simp only [Text.trim_of_normal plain.normal]

def clauses (query : Query) : List Clause :=
  query.fields.map (fun (name, value) => Clause.ofValue name (valueText value)) ++
    query.dateFilters.map fun filter =>
      Clause.ofValue filter.field (filter.operator ++ filter.value)

def sentence (query : Query) : Sentence := ⟨[], query.clauses.map fun clause => (clause, [])⟩

variable {query : Query}

/-- Every field and every date filter is read back from the clause that is written for it. -/
structure IsRestated (query : Query) : Prop where
  names : ∀ name ∈ query.fields.names, IsFieldName name
  fields : ∀ member ∈ query.fields, Text.IsValue (valueText member.2) ∧
    Part.ofClause? member.1 (stripQuotes (valueText member.2)) = some (.field member.1 member.2)
  dates : ∀ filter ∈ query.dateFilters, Text.IsValue (filter.operator ++ filter.value) ∧
    Part.ofClause? filter.field (stripQuotes (filter.operator ++ filter.value)) =
      some (.date filter)

instance (query : Query) : Decidable query.IsRestated :=
  decidable_of_iff ((∀ name ∈ query.fields.names, IsFieldName name) ∧
      (∀ member ∈ query.fields, Text.IsValue (valueText member.2) ∧
        Part.ofClause? member.1 (stripQuotes (valueText member.2)) =
            some (.field member.1 member.2)) ∧
      ∀ filter ∈ query.dateFilters, Text.IsValue (filter.operator ++ filter.value) ∧
        Part.ofClause? filter.field (stripQuotes (filter.operator ++ filter.value)) =
          some (.date filter))
    ⟨fun ⟨names, fields, dates⟩ => ⟨names, fields, dates⟩,
      fun restated => ⟨restated.names, restated.fields, restated.dates⟩⟩

theorem IsCanonical.isRestated (canonical : query.IsCanonical) : query.IsRestated where
  names := canonical.names
  fields member inside :=
    ofClause?_valueText (canonical.names member.1 (List.mem_map_of_mem inside))
      (canonical.values member inside)
  dates filter inside := ofClause?_dateText (canonical.dates filter inside)

namespace IsRestated

variable (restated : query.IsRestated)
include restated

theorem isWritten_clauses : ∀ clause ∈ query.clauses, clause.IsWritten := by
  intro clause member
  rcases List.mem_append.mp member with field | date
  · obtain ⟨⟨name, value⟩, inside, rfl⟩ := List.mem_map.mp field
    have named := restated.names name (List.mem_map_of_mem inside)
    exact Clause.isWritten_ofValue named.nonempty named.chars (restated.fields _ inside).1
  · obtain ⟨filter, inside, rfl⟩ := List.mem_map.mp date
    obtain ⟨written, stated⟩ := restated.dates filter inside
    have dated : filter.field ≠ [] ∧ ∀ c ∈ filter.field, isNameChar c = true := by
      have known := (Part.name_of_date stated).2
      rw [dateFields, List.mem_pair] at known
      rcases known with known | known <;> rw [known] <;>
        exact ⟨by decide, List.all_eq_true.mp (by decide)⟩
    exact Clause.isWritten_ofValue dated.1 dated.2 written

/-- The clauses state the fields and the date filters, each its own. -/
theorem map_part_clauses :
    query.clauses.map (fun clause => Part.ofClause? clause.name (stripQuotes clause.value)) =
      (query.fields.map (fun (name, value) => Part.field name value) ++ query.dateFilters.map
          Part.date).map some := by
  rw [clauses, List.map_append, List.map_append, List.map_map, List.map_map,
    List.map_map, List.map_map]
  refine congrArg₂ (· ++ ·) (List.map_congr_left ?_) (List.map_congr_left ?_)
  · intro member inside
    obtain ⟨written, stated⟩ := restated.fields member inside
    rwa [Function.comp_apply, Clause.value_ofValue written]
  · intro filter inside
    obtain ⟨written, stated⟩ := restated.dates filter inside
    rwa [Function.comp_apply, Clause.value_ofValue written]

/-- The clauses state the fields and the date filters. -/
theorem parts_clauses :
    parts query.clauses = query.fields.map (fun (name, value) => .field name value) ++
      query.dateFilters.map .date := by
  have stated := congrArg (List.filterMap id) restated.map_part_clauses
  rwa [List.filterMap_map, List.filterMap_map, Function.id_comp, Function.id_comp,
    List.filterMap_some] at stated

theorem map_source_clauses :
    query.clauses.map Clause.source =
      query.fields.map (fun (name, value) => fieldText name value) ++
        query.dateFilters.map DateFilter.toText := by
  rw [clauses, List.map_append, List.map_map, List.map_map]
  refine congrArg₂ (· ++ ·) (List.map_congr_left ?_) (List.map_congr_left ?_)
  · intro member inside
    simp only [Function.comp_apply, fieldText_eq,
      Clause.source_ofValue (restated.fields member inside).1]
  · intro filter inside
    rw [Function.comp_apply, DateFilter.toText,
      Clause.source_ofValue (restated.dates filter inside).1]

end IsRestated

theorem isWritten_clauses (canonical : query.IsCanonical) :
    ∀ clause ∈ query.clauses, clause.IsWritten :=
  canonical.isRestated.isWritten_clauses

theorem parts_clauses (canonical : query.IsCanonical) :
    parts query.clauses = query.fields.map (fun (name, value) => .field name value) ++
      query.dateFilters.map .date :=
  canonical.isRestated.parts_clauses

theorem toText_eq_join_words (canonical : query.IsCanonical) :
    query.toText = Text.join [' '] query.sentence.words := by
  have words : query.sentence.words = query.clauses.flatMap Clause.words := by
    simp [sentence, Sentence.words, Sentence.statedWords, List.flatMap_map]
  have free : query.freeText? = none := by rw [freeText?, canonical.noFullText]; rfl
  rw [words, Clause.join_words, canonical.isRestated.map_source_clauses, toText, free,
    Option.toList_none, List.append_nil]

/-- The text of a query without free text states its fields and its date filters, in their order,
and nothing else. -/
theorem parse_toText (canonical : query.IsCanonical) :
    parse query.toText = { query with connectives := [] } := by
  have written := isWritten_clauses canonical
  have normal : Text.normalize query.toText = query.toText := by
    have stated_written : ∀ member ∈ query.clauses.map fun clause =>
        (clause, ([] : List Connective)), member.1.IsWritten := by
      simpa using written
    rw [toText_eq_join_words canonical]
    exact Text.normalize_join_words fun word member =>
      Sentence.isWord_of_mem_statedWords stated_written member
  have fields : Named.ofList query.fields = query.fields := Named.ofList_of_nodup canonical.distinct
  have parted : (parts query.clauses).filterMap Part.field? = query.fields ∧
      (parts query.clauses).filterMap Part.date? = query.dateFilters := by
    rw [parts_clauses canonical, List.filterMap_append, List.filterMap_append]
    simp [List.filterMap_map, Function.comp_def, Part.field?, Part.date?]
  by_cases clauseless : query.clauses = []
  · have bare : query.fields = [] ∧ query.dateFilters = [] := by simpa [clauses] using clauseless
    have nothing : query.toText = [] := by
      rw [toText_eq_join_words canonical, sentence, clauseless]
      rfl
    rw [nothing, bare.1, bare.2, canonical.noFullText]
    rfl
  · have proper : query.sentence.IsProper := by
      refine ⟨by simp [sentence], by simp [sentence], rfl, by simpa [sentence] using clauseless, ?_⟩
      simpa [sentence] using written
    have stated : query.sentence.stated.map Prod.fst = query.clauses := by
      simp [sentence, Function.comp_def]
    have scanned : Clause.scan query.toText = query.clauses := by
      rw [toText_eq_join_words canonical, Sentence.clauseScan_join_words proper, stated]
    have rest := Sentence.residue_join_words proper
    have connectives := Sentence.connectivesIn_rest proper
    have free := Sentence.trim_withoutConnectives_rest proper
    rw [← rest, ← toText_eq_join_words canonical, stated] at connectives free
    rw [parse, normal, ofNormalized_of_clauses (by rwa [scanned]), scanned, parted.1, parted.2,
      fields, connectives, free]
    simp [sentence, asFullText, Text.join, canonical.noFullText]

/-- A value with a time of day and spaces, a list with an empty tag and one of two words, and two
date filters. -/
theorem parse_toText_mixed :
    let query : Query :=
      { fields := [("title".toList, .single "9:30 big cat".toList),
          ("tags".toList, .list ["old cat".toList, [], "b".toList]),
          ("x_1".toList, .single "AND".toList)]
        dateFilters :=
          [⟨"created".toList, ">=".toList, "2024-01-01 12".toList⟩,
            ⟨"created".toList, ['!'], "a:b".toList⟩]
        connectives := ["OR".toList] }
    query.IsCanonical ∧
      query.toText =
        "title:\"9:30 big cat\" tags:old cat,,b x_1:AND created:>=2024-01-01 12 created:!a:b".toList ∧
      parse query.toText = { query with connectives := [] } := by
  intro query
  have canonical : query.IsCanonical := by decide +kernel
  exact ⟨canonical, by decide +kernel, parse_toText canonical⟩

end Query
end RecordSearch
