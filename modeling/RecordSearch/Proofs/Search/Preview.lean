import RecordSearch.Proofs.Search.Literals

/-! The statement of a query beside the search by it. The search leaves out fields that records do
not have and operators that are no comparison, the statement does not: it describes the search if
the query has neither. -/
namespace RecordSearch

namespace Sql

/-- The condition of a statement is the one that a record must satisfy. -/
inductive Describes : Fragments → Condition → Prop
  | title {value : Text} : Describes (like "title".toList value) (.title value)
  | content {value : Text} : Describes (like "content".toList value) (.content value)
  | kind {value : Text} : Describes (code "contentType = " ++ [.literal value]) (.kind value)
  | tag {value : Text} : Describes (like "tags".toList value) (.tags [value])
  | tags {values : List Text} :
      Describes (code "(" ++ joinWith " OR " (values.map (like "tags".toList)) ++ code ")")
        (.tags values)
  | date {filter : DateFilter} {comparison : Comparison} {target : Option Instant} :
      Comparison.ofOperator? filter.operator = some comparison →
        Instant.ofText? filter.value = .ok target →
      Describes (dateCondition filter) (.date (DateField.ofName filter.field) comparison target)
  | anywhere {text : Text} : Describes (textCondition text) (.anywhere text)

theorem describes_of_field {name : Text} {value : Value} {condition : Condition}
    (stated : Condition.ofField? name value = some condition) :
    Describes (fieldCondition name value) condition := by
  cases value with
  | list items =>
    by_cases tags : name = "tags".toList
    · rw [Condition.ofField?, if_pos tags] at stated
      obtain rfl := Option.some.inj stated
      rw [tags]
      exact .tags
    · rw [Condition.ofField?, if_neg tags] at stated
      contradiction
  | single text =>
    simp only [Condition.ofField?] at stated
    split at stated
    · next title =>
      obtain rfl := Option.some.inj stated
      rw [title]
      exact .title
    · split at stated
      · next content =>
        obtain rfl := Option.some.inj stated
        rw [content]
        exact .content
      · split at stated
        · next kind =>
          obtain rfl := Option.some.inj stated
          rw [kind]
          exact .kind
        · split at stated
          · next tags =>
            obtain rfl := Option.some.inj stated
            rw [tags]
            exact .tag
          · contradiction

theorem describes_of_date {filter : DateFilter} {condition : Condition}
    (stated : Condition.ofDateFilter filter = .ok (some condition)) :
    Describes (dateCondition filter) condition := by
  rw [Condition.ofDateFilter] at stated
  cases known : Comparison.ofOperator? filter.operator with
  | none => simp [known] at stated
  | some comparison =>
    cases read : Instant.ofText? filter.value with
    | error fault => simp [known, read, Except.map] at stated
    | ok target =>
      simp only [known, read, Except.map, Except.ok.injEq, Option.some.injEq] at stated
      rw [← stated]
      exact .date known read

theorem render_joinWith (gap : String) (parts : List Fragments) :
    render (joinWith gap parts) = Text.join gap.toList (parts.map render) := by
  induction parts using joinWith.induct with
  | case1 => rfl
  | case2 part => rfl
  | case3 part rest several ih =>
    obtain ⟨second, others, rfl⟩ := List.exists_cons_of_ne_nil fun nothing => several nothing
    rw [joinWith, render_append, render_append, render_code, ih]
    · rfl
    · exact several

theorem render_ofConditions (conditions : List Fragments) :
    render (ofConditions conditions) = "SELECT * FROM content_items".toList ++
      (if conditions = [] then []
          else " WHERE ".toList ++ Text.join " AND ".toList (conditions.map render)) ++
      " ORDER BY updatedAt DESC".toList := by
  rw [ofConditions, render_append, render_append, render_code, render_code]
  cases conditions with
  | nil => rfl
  | cons condition rest =>
    rw [if_neg (by simp), if_neg (by simp), render_append, render_code, render_joinWith]

end Sql

namespace Query

/-- The part of a query that records are looked for by: the fields that records have and the
comparisons of dates. -/
def applied (query : Query) : Query :=
  { query with
    fields := query.fields.filter fun field => recordFields.contains field.1
    dateFilters := query.dateFilters.filter DateFilter.isSupported }

structure IsApplied (query : Query) : Prop where
  fields : ∀ name ∈ query.fields.names, name ∈ recordFields
  dates : ∀ filter ∈ query.dateFilters, filter.isSupported = true

theorem IsApplied.applied_eq {query : Query} (whole : query.IsApplied) : query.applied = query := by
  have fields : query.fields.filter (fun field => recordFields.contains field.1) =
      query.fields := by
    refine List.filter_eq_self.mpr ?_
    intro field member
    simpa using whole.fields field.1 (List.mem_map_of_mem member)
  rw [applied, fields, List.filter_eq_self.mpr whole.dates]

theorem ofField?_unknown {name : Text} {value : Value} (unknown : name ∉ recordFields) :
    Condition.ofField? name value = none := by
  simp only [recordFields, List.mem_cons, List.not_mem_nil, or_false, not_or] at unknown
  obtain ⟨title, content, tags, type⟩ := unknown
  cases value with
  | single text => rw [Condition.ofField?, if_neg title, if_neg content, if_neg type, if_neg tags]
  | list items => rw [Condition.ofField?, if_neg tags]

/-- The applied part of a query is written as what the query is searched by. -/
theorem forall₂_describes_applied {query : Query} (wellFormed : query.IsWellFormed)
    (inYears : query.IsInYears) :
    ∃ conditions, query.conditions = .ok conditions ∧
      List.Forall₂ Sql.Describes (Sql.conditionsOf query.applied) conditions := by
  obtain ⟨dates, stated, each_date⟩ := conditions_eq_ok inYears
  have known_fields : query.fields.filterMap (fun field => Condition.ofField? field.1 field.2) =
      query.applied.fields.filterMap fun field => Condition.ofField? field.1 field.2 := by
    rw [applied, List.filterMap_filter]
    refine List.filterMap_congr ?_
    intro field _
    by_cases known : field.1 ∈ recordFields
    · rw [if_pos (by simpa using known)]
    · rw [if_neg (by simpa using known), ofField?_unknown known]
  have fields : List.Forall₂ Sql.Describes
      (query.applied.fields.map fun field => Sql.fieldCondition field.1 field.2)
      (query.fields.filterMap fun field => Condition.ofField? field.1 field.2) := by
    rw [known_fields]
    refine List.forall₂_map_left_iff.mpr ((Condition.forall₂_filterMap ?_).imp ?_)
    · intro field member
      obtain ⟨stands, known⟩ := List.mem_filter.mp member
      exact ofField?_isSome_of_fits (by simpa using known) (wellFormed.values field stands)
    · intro field condition here
      exact Sql.describes_of_field here
  have dates_described :
      List.Forall₂ Sql.Describes (query.applied.dateFilters.map Sql.dateCondition) dates := by
    refine List.forall₂_map_left_iff.mpr (each_date.imp ?_)
    intro filter condition here
    exact Sql.describes_of_date here
  have texts : List.Forall₂ Sql.Describes (query.applied.fullText.map Sql.textCondition).toList
      (query.freeText?.map Condition.anywhere).toList := by
    cases full : query.fullText with
    | none => simp [applied, freeText?, full]
    | some text =>
      have nonempty := wellFormed.fullText_nonempty text full
      simp [applied, freeText?, full, nonempty, Option.filter, Sql.Describes.anywhere]
  exact ⟨_, stated, List.rel_append (List.rel_append fields dates_described) texts⟩

theorem conditionsOf_applied_sublist (query : Query) :
    (Sql.conditionsOf query.applied).Sublist (Sql.conditionsOf query) :=
  ((List.filter_sublist.map _).append (List.filter_sublist.map _)).append (List.Sublist.refl _)

theorem length_conditionsOf (query : Query) :
    (Sql.conditionsOf query).length = query.fields.length + query.dateFilters.length +
      query.fullText.toList.length := by
  cases full : query.fullText with
  | none => simp [Sql.conditionsOf, full]
  | some text => simp [Sql.conditionsOf, full, Nat.add_assoc]

theorem length_conditionsOf_applied_iff (query : Query) :
    (Sql.conditionsOf query).length = (Sql.conditionsOf query.applied).length ↔
      query.IsApplied := by
  constructor
  · intro same
    rw [length_conditionsOf, length_conditionsOf] at same
    have fewer_fields :=
      List.length_filter_le (fun field => recordFields.contains field.1) query.fields
    have fewer_dates := List.length_filter_le DateFilter.isSupported query.dateFilters
    simp only [applied] at same
    have all_fields : (query.fields.filter fun field => recordFields.contains field.1).length =
        query.fields.length := by
      omega
    have all_dates : (query.dateFilters.filter DateFilter.isSupported).length =
        query.dateFilters.length := by omega
    have fields := List.length_filter_eq_length_iff.mp all_fields
    have dates := List.length_filter_eq_length_iff.mp all_dates
    constructor
    · intro name member
      obtain ⟨field, stands, rfl⟩ := List.mem_map.mp member
      simpa using fields field stands
    · exact dates
  · intro whole
    rw [whole.applied_eq]

/-- The statement of a text has a condition for everything that records are looked for by, in its
order, and no further ones if every field is one of records and every operator a comparison. -/
theorem toSql_parse_describes {text : Text} (inYears : (parse text).IsInYears) :
    ∃ written conditions,
      Sql.conditions (parse text) = .ok written ∧ (parse text).conditions = .ok conditions ∧
      (parse text).toSql = .ok ("SELECT * FROM content_items".toList ++
        (if written = [] then []
            else " WHERE ".toList ++ Text.join " AND ".toList (written.map Sql.render)) ++
        " ORDER BY updatedAt DESC".toList) ∧
      ((Sql.conditionsOf (parse text).applied).Sublist written ∧
        List.Forall₂ Sql.Describes (Sql.conditionsOf (parse text).applied) conditions) ∧
      (List.Forall₂ Sql.Describes written conditions ↔ (parse text).IsApplied) ∧
      (written.length = conditions.length ↔ (parse text).IsApplied) ∧
      (written = [] ↔ conditions = [] ∧ (parse text).IsApplied) := by
  obtain ⟨conditions, stated, described⟩ :=
    forall₂_describes_applied (isWellFormed_parse text) inYears
  have numbers : (Sql.conditionsOf (parse text)).length = conditions.length ↔
      (parse text).IsApplied := by
    rw [← described.length_eq]
    exact length_conditionsOf_applied_iff _
  refine ⟨_, conditions, Sql.conditions_parse text, stated, ?_,
    ⟨conditionsOf_applied_sublist _, described⟩, ?_,
    numbers, ?_⟩
  · rw [toSql, Sql.statement, Sql.conditions_parse, ← Sql.render_ofConditions]
    rfl
  · constructor
    · intro whole
      exact numbers.mp whole.length_eq
    · intro whole
      rwa [whole.applied_eq] at described
  · constructor
    · intro nothing
      have none : conditions.length = 0 := by
        have fewer := (conditionsOf_applied_sublist (parse text)).length_le
        rw [nothing, described.length_eq] at fewer
        simpa using fewer
      exact ⟨List.eq_nil_of_length_eq_zero none, numbers.mp (by rw [nothing, none]; rfl)⟩
    · rintro ⟨rfl, whole⟩
      exact List.eq_nil_of_length_eq_zero (numbers.mpr whole)

/-- Every part of this query is applied. -/
theorem toSql_parse_describes_every_part :
    let text := "notes type:note tags:a,b created:>2024-01-01".toList
    (parse text).IsInYears ∧ (parse text).IsApplied ∧ ∃ written conditions,
      Sql.conditions (parse text) = .ok written ∧ (parse text).conditions = .ok conditions ∧
        List.Forall₂ Sql.Describes written conditions ∧ written.length = 4 := by
  intro text
  have names : (parse text).fields.names = ["type".toList, "tags".toList] := by decide +kernel
  have filters : (parse text).dateFilters = [⟨"created".toList, ['>'], "2024-01-01".toList⟩] := by
    decide +kernel
  have parts : (Sql.conditionsOf (parse text)).length = 4 := by decide +kernel
  have inYears : (parse text).IsInYears := by
    intro filter member _
    rw [filters] at member
    obtain rfl := List.mem_singleton.mp member
    exact ⟨some ⟨63839664000000000, by decide⟩, by decide +kernel⟩
  have whole : (parse text).IsApplied := by
    constructor
    · rw [names]
      decide
    · rw [filters]
      decide
  obtain ⟨written, conditions, shown, stated, -, -, described, -⟩ := toSql_parse_describes inYears
  refine ⟨inYears, whole, written, conditions, shown, stated, described.mpr whole, ?_⟩
  rw [Sql.conditions_parse] at shown
  obtain rfl := Except.ok.inj shown
  exact parts

/-- A field that no record has and an operator that is no comparison are shown in the statement, but
records are not looked for by them. -/
theorem unapplied_parts_shown :
    let text := "bogus:x".toList
    let other := "created:!2024-01-01".toList
    ((parse text).IsInYears ∧ (parse text).conditions = .ok [] ∧
      Sql.conditions (parse text) = .ok [Sql.like "bogus".toList ['x']] ∧
      (parse text).toSql = .ok
        "SELECT * FROM content_items WHERE bogus LIKE \x27%x%\x27 ORDER BY updatedAt DESC".toList) ∧
    (parse other).IsInYears ∧ (parse other).conditions = .ok [] ∧
    (parse other).toSql = .ok
      "SELECT * FROM content_items WHERE createdAt ! \x272024-01-01\x27 ORDER BY updatedAt DESC".toList := by
  intro text other
  have text_inYears : (parse text).IsInYears := by
    have dateless : (parse text).dateFilters = [] := by decide +kernel
    rw [IsInYears, dateless]
    exact fun _ member => absurd member List.not_mem_nil
  have other_inYears : (parse other).IsInYears := by
    have filters : (parse other).dateFilters =
        [⟨"created".toList, ['!'], "2024-01-01".toList⟩] := by decide +kernel
    intro filter member supported
    rw [filters] at member
    obtain rfl := List.mem_singleton.mp member
    exact absurd supported (by decide)
  refine ⟨⟨text_inYears, ?_, ?_, ?_⟩, other_inYears, ?_, ?_⟩
  · decide +kernel
  · decide +kernel
  · decide +kernel
  · decide +kernel
  · decide +kernel

end Query
end RecordSearch
