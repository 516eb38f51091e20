import Mathlib.Data.List.Forall2
import RecordSearch.Proofs.Query.Names
import RecordSearch.Search.Condition

/-! The conditions that a query states. Nothing fails as long as the dates that are compared lie in
the years 1 to 9999, and a query that passes its check has a condition for every one of its
fields. -/
namespace RecordSearch

def DateFilter.isSupported (filter : DateFilter) : Bool :=
  (Comparison.ofOperator? filter.operator).isSome

/-- The dates that the query compares with do not leave the years 1 to 9999. -/
def Query.IsInYears (query : Query) : Prop :=
  ∀ filter ∈ query.dateFilters,
    filter.isSupported = true → ∃ target, Instant.ofText? filter.value = .ok target

namespace Condition

/-- Every condition of a list is the one of its member. -/
theorem forall₂_filterMap {α : Type} {state? : α → Option Condition} {members : List α}
    (stated : ∀ member ∈ members, (state? member).isSome = true) :
    List.Forall₂ (fun member condition => state? member = some condition) members
      (members.filterMap state?) := by
  induction members with
  | nil => exact .nil
  | cons member rest ih =>
    obtain ⟨condition, here⟩ := Option.isSome_iff_exists.mp (stated member List.mem_cons_self)
    rw [List.filterMap_cons_some here]
    exact .cons here (ih fun other inside => stated other (List.mem_cons_of_mem _ inside))

theorem ofDateFilter_unsupported {filter : DateFilter} (unsupported : filter.isSupported = false) :
    ofDateFilter filter = .ok none := by
  rw [ofDateFilter, Option.isSome_eq_false_iff.mp unsupported |> Option.isNone_iff_eq_none.mp]

theorem ofDateFilter_supported {filter : DateFilter} (supported : filter.isSupported = true)
    (inYears : ∃ target, Instant.ofText? filter.value = .ok target) :
    ∃ condition, ofDateFilter filter = .ok (some condition) := by
  obtain ⟨comparison, known⟩ := Option.isSome_iff_exists.mp supported
  obtain ⟨target, read⟩ := inYears
  exact ⟨.date (DateField.ofName filter.field) comparison target,
    by rw [ofDateFilter, known, read]; rfl⟩

/-- Date filters state one condition for each that has a comparison for its operator. -/
theorem ofDateFilters_eq_ok {filters : List DateFilter}
    (inYears : ∀ filter ∈ filters, filter.isSupported = true →
      ∃ target, Instant.ofText? filter.value = .ok target) :
    ∃ conditions, ofDateFilters filters = .ok conditions ∧
      List.Forall₂ (fun filter condition => ofDateFilter filter = .ok (some condition))
        (filters.filter DateFilter.isSupported) conditions := by
  induction filters with
  | nil => exact ⟨[], rfl, .nil⟩
  | cons filter rest ih =>
    obtain ⟨others, others_stated, each⟩ :=
      ih fun other inside => inYears other (List.mem_cons_of_mem _ inside)
    cases supported : filter.isSupported with
    | false =>
      refine ⟨others, ?_, ?_⟩
      · rw [ofDateFilters, ofDateFilter_unsupported supported, others_stated]
        rfl
      · rwa [List.filter_cons_of_neg (by simp [supported])]
    | true =>
      obtain ⟨condition, stated⟩ :=
        ofDateFilter_supported supported (inYears filter List.mem_cons_self supported)
      refine ⟨condition :: others, ?_, ?_⟩
      · rw [ofDateFilters, stated, others_stated]
        rfl
      · rw [List.filter_cons_of_pos supported]
        exact .cons stated each

/-- A field of records has a condition, provided that only tags have a list. -/
theorem ofField?_isSome {name : Text} {value : Value} (known : name ∈ Query.recordFields)
    (lists : ∀ items, value = .list items → name = "tags".toList) :
    (ofField? name value).isSome = true := by
  cases value with
  | list items => simp [ofField?, lists items rfl]
  | single text =>
    have cases : name = "title".toList ∨ name = "content".toList ∨ name = "tags".toList ∨
        name = "type".toList := by
      simpa only [Query.recordFields, List.mem_cons, List.not_mem_nil, or_false] using known
    rcases cases with rfl | rfl | rfl | rfl
    · rfl
    · rfl
    · rfl
    · rfl

end Condition

namespace Query

/-- The conditions of a query whose dates lie in the years 1 to 9999. -/
theorem conditions_eq_ok {query : Query} (inYears : query.IsInYears) :
    ∃ dates, query.conditions = .ok (query.fields.filterMap (fun (name, value) =>
        Condition.ofField? name value) ++
        dates ++ (query.freeText?.map Condition.anywhere).toList) ∧
      List.Forall₂ (fun filter condition => Condition.ofDateFilter filter = .ok (some condition))
        (query.dateFilters.filter DateFilter.isSupported) dates := by
  obtain ⟨dates, stated, each⟩ := Condition.ofDateFilters_eq_ok inYears
  refine ⟨dates, ?_, each⟩
  rw [conditions, stated]
  rfl

/-- Every name that a query is taken apart by is a marker of its text. A query that passes its check
therefore has fields of records only, each once, and states one condition for every field, one for
every date filter with a comparison, and one for the free text if there is any. -/
theorem checked_fields_have_conditions (text : Text) :
    (∀ name ∈ (parse text).fields.names ++ (parse text).dateFilters.map DateFilter.field,
        name ∈ markers text) ∧
      ((validate text).isValid = true →
        (parse text).fields.names.Nodup ∧
        (∀ name ∈ (parse text).fields.names, name ∈ recordFields) ∧
          ((parse text).IsInYears → ∃ fields dates,
            (parse text).conditions =
              .ok (fields ++ dates ++ ((parse text).fullText.map Condition.anywhere).toList) ∧
              List.Forall₂ (fun member condition =>
                  Condition.ofField? member.1 member.2 = some condition)
                (parse text).fields fields ∧
              List.Forall₂ (fun filter condition =>
                  Condition.ofDateFilter filter = .ok (some condition))
                ((parse text).dateFilters.filter DateFilter.isSupported) dates)) := by
  refine ⟨fun name member => ?_, fun valid => ⟨?_, fun name member => ?_, fun inYears => ?_⟩⟩
  · rcases List.mem_append.mp member with member | member
    · obtain ⟨field, inside, rfl⟩ := List.mem_map.mp member
      exact field_name_mem_markers inside
    · obtain ⟨filter, inside, rfl⟩ := List.mem_map.mp member
      exact date_name_mem_markers inside
  · rw [fields_parse]
    exact Named.nodup_names_ofList _
  · obtain ⟨field, inside, rfl⟩ := List.mem_map.mp member
    exact field_name_of_valid valid inside
  · obtain ⟨dates, stated, each⟩ := conditions_eq_ok inYears
    rw [freeText?_parse] at stated
    refine ⟨_, dates, stated, Condition.forall₂_filterMap fun member inside => ?_, each⟩
    obtain ⟨clause, -, name, -, lists⟩ := exists_clause_of_mem_fields inside
    rw [← name] at lists
    exact Condition.ofField?_isSome (field_name_of_valid valid inside) lists

/-- A checked query with two fields, two date filters of which one is no comparison, and free
text. -/
theorem checked_fields_have_conditions_sample :
    let text := "notes title:x tags:a,b created:>2024-01-01 updated:!2024".toList
    (validate text).isValid = true ∧ (parse text).IsInYears ∧ ∃ fields dates,
      (parse text).conditions = .ok (fields ++ dates ++ [.anywhere "notes".toList]) ∧
        fields.length = 2 ∧ dates.length = 1 := by
  intro text
  have valid : (validate text).isValid = true := by decide +kernel
  have filters : (parse text).dateFilters =
      [⟨"created".toList, ['>'], "2024-01-01".toList⟩,
          ⟨"updated".toList, ['!'], "2024".toList⟩] := by
    decide +kernel
  have inYears : (parse text).IsInYears := by
    intro filter member supported
    rw [filters] at member
    rcases List.mem_pair.mp member with rfl | rfl
    · exact ⟨some ⟨63839664000000000, by decide⟩, by decide +kernel⟩
    · exact absurd supported (by decide)
  have full : (parse text).fullText = some "notes".toList := by decide +kernel
  have two : (parse text).fields.length = 2 := by decide +kernel
  have one : ((parse text).dateFilters.filter DateFilter.isSupported).length = 1 := by
    rw [filters]
    decide
  obtain ⟨-, -, conditions⟩ := (checked_fields_have_conditions text).2 valid
  obtain ⟨fields, dates, stated, each_field, each_date⟩ := conditions inYears
  rw [full] at stated
  exact ⟨valid, inYears, fields, dates, stated, each_field.length_eq ▸ two,
    each_date.length_eq ▸ one⟩

end Query
end RecordSearch
