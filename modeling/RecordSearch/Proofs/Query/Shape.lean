import RecordSearch.Proofs.Search.Conditions
import RecordSearch.Query.Describe
import RecordSearch.Search.Sql

/-! What a parsed query looks like, whatever its text. What is shown, searched or written as SQL is
looked up by these rules without a further check, so that no part of a parsed query is missing
there. -/
namespace RecordSearch

/-- A value as its field may hold it: only tags have a list, of two trimmed pieces or more, and a
tag alone has no comma. -/
inductive Value.Fits (name : Text) : Value → Prop
  | single {text : Text} : (name = "tags".toList → ',' ∉ text) → Fits name (.single text)
  | list {items : List Text} : name = "tags".toList → 2 ≤ items.length →
      (∀ item ∈ items, ',' ∉ item ∧ Text.IsTrimmed item) → Fits name (.list items)

structure DateFilter.IsWellFormed (filter : DateFilter) : Prop where
  field : filter.field ∈ dateFields
  operator_nonempty : filter.operator ≠ []
  operator_chars : ∀ c ∈ filter.operator, isOperatorChar c = true
  value : Text.IsTrimmed filter.value

/-- A query as it comes from a text. -/
structure Query.IsWellFormed (query : Query) : Prop where
  distinct : query.fields.names.Nodup
  names : ∀ name ∈ query.fields.names, IsFieldName name
  values : ∀ member ∈ query.fields, Value.Fits member.1 member.2
  dates : ∀ filter ∈ query.dateFilters, filter.IsWellFormed
  connectives : ∀ word ∈ query.connectives, ∃ connective : Connective, word = connective.name
  fullText_nonempty : ∀ text ∈ query.fullText, text ≠ []
  fullText_trimmed : ∀ text ∈ query.fullText, Text.IsTrimmed text

namespace Query

theorem Part.fits_of_field {name value other : Text} {content : Value}
    (stated : ofClause? name value = some (.field other content)) : content.Fits other := by
  rcases ofClause?_cases stated
    with ⟨-, _, _, -, date⟩ | ⟨-, tags, comma, list⟩ | ⟨-, commaless, single⟩
  · contradiction
  · obtain ⟨rfl, rfl⟩ := field.inj list
    refine .list tags (by simpa using Text.two_le_length_splitAt comma (by simp))
      fun item member => ?_
    obtain ⟨piece, between, rfl⟩ := List.mem_map.mp member
    refine ⟨fun inside => ?_, Text.isTrimmed_trim piece⟩
    exact Text.notMem_of_mem_splitAt between ((Text.trim_isInfix piece).subset inside)
  · obtain ⟨rfl, rfl⟩ := field.inj single
    exact .single commaless

theorem Part.isWellFormed_of_date {name value : Text} {filter : DateFilter}
    (stated : ofClause? name value = some (.date filter)) : filter.IsWellFormed := by
  rcases ofClause?_cases stated
    with ⟨dated, operator, target, split, date⟩ | ⟨-, -, -, list⟩ | ⟨-, -, single⟩
  · obtain rfl := Part.date.inj date
    obtain ⟨nonempty, chars⟩ := splitOperator?_eq_some split
    exact ⟨dated, nonempty, chars, Text.isTrimmed_trim target⟩
  · contradiction
  · contradiction

theorem mem_asFullText {text rest : Text} : text ∈ asFullText rest ↔ text = rest ∧ rest ≠ [] := by
  rw [asFullText]
  by_cases empty : rest = []
  · simp [empty]
  · rw [if_neg (by simpa using empty), Option.mem_some_iff]
    exact ⟨fun same => ⟨same.symm, empty⟩, fun shown => shown.1.symm⟩

theorem ofNormalized_of_clauseless {text : Text} (clauseless : Clause.scan text = []) :
    ofNormalized text = { fullText := asFullText text } := by
  rw [ofNormalized, clauseless]

/-- The free text is the normalized text or what is left of it, trimmed. -/
theorem fullText_parse {text full : Text} (stands : full ∈ (parse text).fullText) :
    full ≠ [] ∧ full.IsTrimmed := by
  by_cases clauseless : Clause.scan (Text.normalize text) = []
  · simp only [parse, ofNormalized_of_clauseless clauseless, mem_asFullText] at stands
    obtain ⟨rfl, nonempty⟩ := stands
    exact ⟨nonempty, Text.isTrimmed_normalize text⟩
  · simp only [parse, ofNormalized_of_clauses clauseless, mem_asFullText] at stands
    obtain ⟨rfl, nonempty⟩ := stands
    exact ⟨nonempty, Text.isTrimmed_trim _⟩

theorem connectives_parse {text word : Text} (stands : word ∈ (parse text).connectives) :
    ∃ connective : Connective, word = connective.name := by
  by_cases clauseless : Clause.scan (Text.normalize text) = []
  · rw [parse, ofNormalized_of_clauseless clauseless] at stands
    contradiction
  · rw [parse, ofNormalized_of_clauses clauseless] at stands
    obtain ⟨connective, -, rfl⟩ := List.mem_map.mp stands
    exact ⟨connective, rfl⟩

theorem isWellFormed_parse (text : Text) : (parse text).IsWellFormed := by
  constructor
  · rw [fields_parse]
    exact Named.nodup_names_ofList _
  · intro name member
    obtain ⟨field, inside, rfl⟩ := List.mem_map.mp member
    obtain ⟨clause, stands, name, noDate, -⟩ := exists_clause_of_mem_fields inside
    have proper := Clause.isProper_of_mem_scan stands
    rw [name]
    exact ⟨proper.name_nonempty, proper.name_chars, noDate⟩
  · intro member inside
    obtain ⟨clause, -, stated⟩ := exists_clause_stating_field inside
    exact Part.fits_of_field stated
  · intro filter inside
    obtain ⟨clause, -, stated⟩ := exists_clause_stating_date inside
    exact Part.isWellFormed_of_date stated
  · exact fun word stands => connectives_parse stands
  · exact fun full stands => (fullText_parse stands).1
  · exact fun full stands => (fullText_parse stands).2

end Query

namespace Sql

theorem column?_of_mem_dateFields {name : Text} (dated : name ∈ dateFields) :
    ∃ column, column? name = some column := by
  rw [dateFields, List.mem_pair] at dated
  rcases dated with rfl | rfl
  · exact ⟨"createdAt".toList, by decide⟩
  · exact ⟨"updatedAt".toList, by decide⟩

/-- Date filters on dates have a condition each. -/
theorem dateConditions_eq_ok {filters : List DateFilter}
    (dated : ∀ filter ∈ filters, filter.field ∈ dateFields) :
    ∃ conditions, dateConditions filters = .ok conditions ∧ conditions.length = filters.length := by
  induction filters with
  | nil => exact ⟨[], rfl, rfl⟩
  | cons filter rest ih =>
    obtain ⟨column, known⟩ := column?_of_mem_dateFields (dated filter List.mem_cons_self)
    obtain ⟨others, written, each⟩ :=
      ih fun other member => dated other (List.mem_cons_of_mem _ member)
    refine ⟨_, by rw [dateConditions, known, written]; rfl, ?_⟩
    rw [List.length_cons, List.length_cons, each]

end Sql

namespace Query

def partCount (query : Query) : Nat :=
  query.fields.length + query.dateFilters.length + query.fullText.toList.length

theorem sqlConditions_parse (text : Text) :
    ∃ conditions, Sql.conditions (parse text) = .ok conditions ∧
      conditions.length = (parse text).partCount := by
  obtain ⟨dates, written, each⟩ :=
    Sql.dateConditions_eq_ok fun filter member =>
      ((isWellFormed_parse text).dates filter member).field
  refine ⟨_, by rw [Sql.conditions, written]; rfl, ?_⟩
  cases full : (parse text).fullText with
  | none => simp [partCount, each, freeText?_parse, full]
  | some free => simp [partCount, each, freeText?_parse, full, Nat.add_assoc]

theorem length_describeLines_parse (text : Text) :
    (parse text).describeLines.length = (parse text).partCount + if (parse text).connectives =
    [] then 0 else 1 := by
  have connected : (if (parse text).connectives.isEmpty then ([] : List Text) else
      [describeLine "Connectives".toList (Text.join [' '] (parse text).connectives)]).length =
        if (parse text).connectives = [] then 0 else 1 := by
    by_cases none : (parse text).connectives = []
    · simp [none]
    · simp [none]
  rw [describeLines, List.length_append, List.length_append, List.length_append, connected,
    partCount, freeText?_parse]
  cases full : (parse text).fullText with
  | none => simp
  | some free =>
    simp
    omega

theorem ofField?_isSome_of_fits {name : Text} {value : Value} (known : name ∈ recordFields)
    (fits : value.Fits name) : (Condition.ofField? name value).isSome = true := by
  refine Condition.ofField?_isSome known fun items list => ?_
  subst list
  cases fits with
  | list tags => exact tags

/-- A parsed query is well formed. Without a clause it is the normalized text. Written as SQL it has
a condition for every part, described it has a line for every part and one for the connectives, and
searched by it has a condition for every field of records, provided that its dates lie in the years
1 to 9999. -/
theorem parse_shape (text : Text) :
    (parse text).IsWellFormed ∧
      (Clause.scan (Text.normalize text) = [] →
        parse text = { fullText :=
          if Text.normalize text = [] then none else some (Text.normalize text) }) ∧
      (∃ conditions, Sql.conditions (parse text) = .ok conditions ∧
        conditions.length = (parse text).partCount ∧
        (parse text).toSql = .ok (Sql.render (Sql.ofConditions conditions))) ∧
      (parse text).describeLines.length =
        (parse text).partCount + (if (parse text).connectives = [] then 0 else 1) ∧
      ((parse text).IsInYears → ∃ conditions, (parse text).conditions = .ok conditions ∧
        ∀ member ∈ (parse text).fields, member.1 ∈ recordFields →
          ∃ condition ∈ conditions, Condition.ofField? member.1 member.2 = some condition) := by
  refine ⟨isWellFormed_parse text, fun clauseless => ?_, ?_, length_describeLines_parse text,
    fun inYears => ?_⟩
  · rw [parse, ofNormalized_of_clauseless clauseless]
    simp [asFullText]
  · obtain ⟨conditions, written, each⟩ := sqlConditions_parse text
    exact ⟨conditions, written, each, by rw [toSql, Sql.statement, written]; rfl⟩
  · obtain ⟨dates, stated, -⟩ := conditions_eq_ok inYears
    refine ⟨_, stated, fun member inside known => ?_⟩
    have fits := (isWellFormed_parse text).values member inside
    obtain ⟨condition, here⟩ := Option.isSome_iff_exists.mp (ofField?_isSome_of_fits known fits)
    refine ⟨condition, ?_, here⟩
    rw [List.append_assoc]
    exact List.mem_append_left _ (List.mem_filterMap.mpr ⟨member, inside, here⟩)

/-- A list of tags that a single tag replaces later, and a date filter of which quotes leave only
the operator. -/
theorem parse_shape_replaced :
    let text := "old tags:a, ,b AND created:\"> \" tags:c bogus:d".toList
    (parse text).fields = [("tags".toList, .single ['c']), ("bogus".toList, .single ['d'])] ∧
      (parse text).dateFilters = [⟨"created".toList, ['>'], []⟩] ∧ (parse text).IsInYears ∧
      (parse text).IsWellFormed ∧ ∃ conditions, (parse text).conditions = .ok conditions ∧
        ∃ condition ∈ conditions,
          Condition.ofField? "tags".toList (.single ['c']) = some condition := by
  intro text
  have fields :
      (parse text).fields = [("tags".toList, .single ['c']), ("bogus".toList, .single ['d'])] := by
    decide +kernel
  have dates : (parse text).dateFilters = [⟨"created".toList, ['>'], []⟩] := by decide +kernel
  have inYears : (parse text).IsInYears := by
    intro filter member _
    rw [dates] at member
    obtain rfl := List.mem_singleton.mp member
    exact ⟨none, by decide +kernel⟩
  have shape := parse_shape text
  obtain ⟨conditions, stated, each⟩ := shape.2.2.2.2 inYears
  refine ⟨fields, dates, inYears, shape.1, conditions, stated, ?_⟩
  exact each ("tags".toList, .single ['c']) (by rw [fields]; exact List.mem_cons_self) (by decide)

end Query
end RecordSearch
