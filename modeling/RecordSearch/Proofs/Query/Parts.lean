import RecordSearch.Proofs.Named
import RecordSearch.Proofs.Query.Operators

/-! What the clauses of a query contribute to it. The fields and the date filters of a parsed query
are those of its clauses, each under the name of its clause. -/
namespace RecordSearch.Query

structure IsFieldName (name : Text) : Prop where
  nonempty : name ≠ []
  chars : ∀ c ∈ name, isNameChar c = true
  noDate : name ∉ dateFields

instance (name : Text) : Decidable (IsFieldName name) :=
  decidable_of_iff (name ≠ [] ∧ name.all isNameChar = true ∧ dateFields.contains name = false)
    ⟨fun ⟨nonempty, chars, noDate⟩ => ⟨nonempty, List.all_eq_true.mp chars, by simpa using noDate⟩,
      fun field => ⟨field.nonempty, List.all_eq_true.mpr field.chars, by simpa using field.noDate⟩⟩

namespace Part

def field? : Part → Option (Text × Value)
  | .field name value => some (name, value)
  | .date _ => none

def date? : Part → Option DateFilter
  | .field _ _ => none
  | .date filter => some filter

/-- What a clause can state: a date filter with its operator, a list of tags, or a single text. -/
theorem ofClause?_cases {name value : Text} {part : Part}
    (stated : ofClause? name value = some part) :
    (name ∈ dateFields ∧ ∃ operator target, splitOperator? value = some (operator, target) ∧
        part = .date ⟨name, operator, Text.trim target⟩) ∨
      (name ∉ dateFields ∧ name = "tags".toList ∧ ',' ∈ value ∧
        part = .field name (.list ((Text.splitAt (· == ',') value).map Text.trim))) ∨
      (name ∉ dateFields ∧ (name = "tags".toList → ',' ∉ value) ∧
          part = .field name (.single value)) := by
  simp only [ofClause?] at stated
  split at stated
  · next dated =>
    obtain ⟨⟨operator, target⟩, split, same⟩ := Option.map_eq_some_iff.mp stated
    exact .inl ⟨dated, operator, target, split, same.symm⟩
  · next noDate =>
    split at stated
    · next listed => exact .inr (.inl ⟨noDate, listed.1, listed.2, (Option.some.inj stated).symm⟩)
    · next unlisted =>
      exact .inr
        (.inr ⟨noDate, fun tags comma => unlisted ⟨tags, comma⟩, (Option.some.inj stated).symm⟩)

/-- A field has the name of its clause, and only tags have a list. -/
theorem name_of_field {name value other : Text} {content : Value}
    (stated : ofClause? name value = some (.field other content)) :
    other = name ∧ name ∉ dateFields ∧ ∀ items, content = .list items → name = "tags".toList := by
  rcases ofClause?_cases stated
    with ⟨-, _, _, -, date⟩ | ⟨noDate, tags, -, list⟩ | ⟨noDate, -, single⟩
  · contradiction
  · obtain ⟨rfl, rfl⟩ := field.inj list
    exact ⟨rfl, noDate, fun _ _ => tags⟩
  · obtain ⟨rfl, rfl⟩ := field.inj single
    exact ⟨rfl, noDate, fun _ list => by contradiction⟩

theorem name_of_date {name value : Text} {filter : DateFilter}
    (stated : ofClause? name value = some (.date filter)) :
    filter.field = name ∧ name ∈ dateFields := by
  rcases ofClause?_cases stated with ⟨dated, _, _, -, date⟩ | ⟨-, -, -, list⟩ | ⟨-, -, single⟩
  · obtain rfl := Part.date.inj date
    exact ⟨rfl, dated⟩
  · contradiction
  · contradiction

end Part

/-- The parts go to the fields and to the date filters and leave the rest of the query alone. -/
theorem foldl_add (query : Query) (stated : List Part) :
    stated.foldl add query =
      { query with
        fields :=
          (stated.filterMap Part.field?).foldl (fun named (name, value) =>
              named.set name value) query.fields
        dateFilters := query.dateFilters ++ stated.filterMap Part.date? } := by
  induction stated generalizing query with
  | nil => simp
  | cons part rest ih =>
    rw [List.foldl_cons, ih]
    cases part with
    | field name value => simp [add, List.filterMap_cons, Part.field?, Part.date?]
    | date filter => simp [add, List.filterMap_cons, Part.field?, Part.date?]

/-- A text with clauses is the query of its parts and of what is left when they are removed. -/
theorem ofNormalized_of_clauses {text : Text} (stated : Clause.scan text ≠ []) :
    ofNormalized text =
      { fields := Named.ofList ((parts (Clause.scan text)).filterMap Part.field?)
        dateFilters := (parts (Clause.scan text)).filterMap Part.date?
        connectives := (connectivesIn (residue text (Clause.scan text))).map Connective.name
        fullText :=
          asFullText (Text.trim (withoutConnectives (residue text (Clause.scan text)))) } := by
  obtain ⟨first, rest, clauses⟩ := List.exists_cons_of_ne_nil stated
  simp [ofNormalized, clauses, foldl_add, Named.ofList]

theorem fields_parse (text : Text) :
    (parse text).fields =
      Named.ofList ((parts (Clause.scan (Text.normalize text))).filterMap Part.field?) := by
  by_cases clauseless : Clause.scan (Text.normalize text) = []
  · simp [parse, ofNormalized, clauseless, parts, Named.ofList]
  · rw [parse, ofNormalized_of_clauses clauseless]

theorem dateFilters_parse (text : Text) :
    (parse text).dateFilters =
      (parts (Clause.scan (Text.normalize text))).filterMap Part.date? := by
  by_cases clauseless : Clause.scan (Text.normalize text) = []
  · simp [parse, ofNormalized, clauseless, parts]
  · rw [parse, ofNormalized_of_clauses clauseless]

/-- Every field is stated by a clause. -/
theorem exists_clause_stating_field {text : Text} {member : Text × Value}
    (inside : member ∈ (parse text).fields) :
    ∃ clause ∈ Clause.scan (Text.normalize text),
      Part.ofClause? clause.name (stripQuotes clause.value) = some (.field member.1 member.2) := by
  rw [fields_parse] at inside
  obtain ⟨part, stated, shown⟩ := List.mem_filterMap.mp (Named.mem_of_mem_ofList inside)
  obtain ⟨clause, stands, from_clause⟩ := List.mem_filterMap.mp stated
  cases part with
  | date filter => contradiction
  | field name value =>
    obtain rfl := Option.some.inj shown
    exact ⟨clause, stands, from_clause⟩

/-- Every date filter is stated by a clause. -/
theorem exists_clause_stating_date {text : Text} {filter : DateFilter}
    (inside : filter ∈ (parse text).dateFilters) :
    ∃ clause ∈ Clause.scan (Text.normalize text),
      Part.ofClause? clause.name (stripQuotes clause.value) = some (.date filter) := by
  rw [dateFilters_parse] at inside
  obtain ⟨part, stated, shown⟩ := List.mem_filterMap.mp inside
  obtain ⟨clause, stands, from_clause⟩ := List.mem_filterMap.mp stated
  cases part with
  | field name value => contradiction
  | date filter =>
    obtain rfl := Option.some.inj shown
    exact ⟨clause, stands, from_clause⟩

/-- Every field comes from a clause of its name. -/
theorem exists_clause_of_mem_fields {text : Text} {member : Text × Value}
    (inside : member ∈ (parse text).fields) :
    ∃ clause ∈ Clause.scan (Text.normalize text),
      member.1 = clause.name ∧ clause.name ∉ dateFields ∧
      ∀ items, member.2 = .list items → clause.name = "tags".toList := by
  obtain ⟨clause, stands, stated⟩ := exists_clause_stating_field inside
  exact ⟨clause, stands, Part.name_of_field stated⟩

theorem exists_clause_of_mem_dateFilters {text : Text} {filter : DateFilter}
    (inside : filter ∈ (parse text).dateFilters) :
    ∃ clause ∈ Clause.scan (Text.normalize text),
      filter.field = clause.name ∧ clause.name ∈ dateFields := by
  obtain ⟨clause, stands, stated⟩ := exists_clause_stating_date inside
  exact ⟨clause, stands, Part.name_of_date stated⟩

theorem freeText?_parse (text : Text) : (parse text).freeText? = (parse text).fullText := by
  have nonempty (rest : Text) :
      (asFullText rest).filter (fun text => !text.isEmpty) = asFullText rest := by
    rw [asFullText]
    split
    · rfl
    · next present => simp [Option.filter, present]
  by_cases clauseless : Clause.scan (Text.normalize text) = []
  · simp only [freeText?, parse, ofNormalized, clauseless, nonempty]
  · rw [freeText?, parse, ofNormalized_of_clauses clauseless, nonempty]

end RecordSearch.Query
