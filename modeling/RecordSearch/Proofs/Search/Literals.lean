import RecordSearch.Proofs.Query.Shape
import RecordSearch.Proofs.Search.Tokens

/-! What a reader of SQL finds in the statement of a query. The values of the query are the
literals, unchanged, and what stands outside of the literals depends on the names, the operators and
the number of the values only. -/
namespace RecordSearch

namespace Sql

def literals (fragments : Fragments) : List Text :=
  (fragments.flatMap Fragment.tokens).filterMap Token.value?

/-- A statement without the values of its literals: `none` stands for a literal. -/
abbrev Skeleton := List (Option Char)

def Skeleton.word (text : String) : Skeleton := text.toList.map some

def skeleton (fragments : Fragments) : Skeleton :=
  (fragments.flatMap Fragment.tokens).map Token.symbol?

@[simp] theorem literals_nil : literals [] = [] := rfl

@[simp] theorem literals_append (front back : Fragments) :
    literals (front ++ back) = literals front ++ literals back := by
  simp [literals]

@[simp] theorem literals_code (text : Text) (rest : Fragments) :
    literals (.code text :: rest) = literals rest := by
  have none : (text.map Token.symbol).filterMap Token.value? = [] := by
    simp [List.filterMap_map, Function.comp_def, Token.value?]
  simp [literals, Fragment.tokens, none]

@[simp] theorem literals_literal (value : Text) (rest : Fragments) :
    literals (.literal value :: rest) = value :: literals rest := rfl

@[simp] theorem skeleton_nil : skeleton [] = [] := rfl

@[simp] theorem skeleton_append (front back : Fragments) :
    skeleton (front ++ back) = skeleton front ++ skeleton back := by
  simp [skeleton]

@[simp] theorem skeleton_code (text : Text) (rest : Fragments) :
    skeleton (.code text :: rest) = text.map some ++ skeleton rest := by
  have each : (text.map Token.symbol).map Token.symbol? = text.map some := by
    rw [List.map_map]
    rfl
  simp [skeleton, Fragment.tokens, each]

@[simp] theorem skeleton_literal (value : Text) (rest : Fragments) :
    skeleton (.literal value :: rest) = none :: skeleton rest := rfl

@[simp] theorem literals_textCode (text : String) : literals (code text) = [] := by
  simp [code]

@[simp] theorem skeleton_textCode (text : String) : skeleton (code text) = .word text := by
  simp [code, Skeleton.word]

theorem literals_joinWith (gap : String) (parts : List Fragments) :
    literals (joinWith gap parts) = parts.flatMap literals := by
  induction parts using joinWith.induct with
  | case1 => rfl
  | case2 part => simp [joinWith]
  | case3 part rest several ih =>
    rw [joinWith]
    · simp [ih]
    · exact several

theorem skeleton_joinWith (gap : String) (parts : List Fragments) :
    skeleton (joinWith gap parts) = (Skeleton.word gap).intercalate (parts.map skeleton) := by
  induction parts using joinWith.induct with
  | case1 => rfl
  | case2 part => simp [joinWith]
  | case3 part rest several ih =>
    obtain ⟨second, others, rfl⟩ := List.exists_cons_of_ne_nil fun nothing => several nothing
    rw [joinWith]
    · rw [List.map_cons, List.map_cons, List.intercalate_cons_cons, ← List.map_cons, ← ih]
      simp
    · exact several

namespace Skeleton

def comparison (column operator : Text) : Skeleton :=
  (column ++ ' ' :: operator ++ [' ']).map some ++ [none]

def anyOf (parts : List Skeleton) : Skeleton :=
  word "(" ++ (word " OR ").intercalate parts ++ word ")"

/-- The condition of a field with a single value, or with a list of `length` values. -/
def ofField (name : Text) (length : Option Nat) : Skeleton :=
  match length with
  | some length => anyOf (List.replicate length (comparison name "LIKE".toList))
  | none =>
    if name = "type".toList then comparison "contentType".toList ['=']
    else comparison name "LIKE".toList

end Skeleton

def dateColumn (field : Text) : Text :=
  if field = "created".toList then "createdAt".toList else "updatedAt".toList

/-- What the skeleton of a statement depends on: the names of the fields, each with the number of
its values if it has a list of them, the dates with their operators, and whether there is free
text. -/
structure Outline where
  fields : List (Text × Option Nat)
  dates : List (Text × Text)
  hasText : Bool
  deriving DecidableEq, Repr

namespace Outline

def conditions (outline : Outline) : List Skeleton :=
  outline.fields.map (fun (name, length) => Skeleton.ofField name length) ++
    outline.dates.map (fun (field, operator) => Skeleton.comparison (dateColumn field) operator) ++
    if outline.hasText then
      [Skeleton.anyOf (["title", "content", "tags"].map fun column =>
          .comparison column.toList "LIKE".toList)]
    else []

def skeleton (outline : Outline) : Skeleton :=
  Skeleton.word "SELECT * FROM content_items" ++
    (if outline.conditions = [] then []
      else Skeleton.word " WHERE " ++ (Skeleton.word " AND ").intercalate outline.conditions) ++
    Skeleton.word " ORDER BY updatedAt DESC"

end Outline
end Sql

def Text.wildcards (value : Text) : Text := '%' :: value ++ ['%']

def Value.literals (name : Text) : Value → List Text
  | .list items => items.map Text.wildcards
  | .single value => if name = "type".toList then [value] else [Text.wildcards value]

def Value.length? : Value → Option Nat
  | .list items => some items.length
  | .single _ => none

namespace Query

def literals (query : Query) : List Text :=
  query.fields.flatMap (fun (name, value) => value.literals name) ++
    query.dateFilters.map DateFilter.value ++
    query.fullText.toList.flatMap fun text => List.replicate 3 (Text.wildcards text)

def outline (query : Query) : Sql.Outline where
  fields := query.fields.map fun (name, value) => (name, value.length?)
  dates := query.dateFilters.map fun filter => (filter.field, filter.operator)
  hasText := query.fullText.isSome

end Query

namespace Sql

@[simp] theorem literals_like (column value : Text) :
    literals (like column value) = [Text.wildcards value] := by
  simp [like, Text.wildcards]

@[simp] theorem skeleton_like (column value : Text) :
    skeleton (like column value) = .comparison column "LIKE".toList := by
  simp [like, Skeleton.comparison]

theorem literals_fieldCondition (name : Text) (value : Value) :
    literals (fieldCondition name value) = value.literals name := by
  cases value with
  | list items =>
    have each : (items.map (like name)).flatMap literals = items.map Text.wildcards := by
      rw [List.flatMap_map, List.map_eq_flatMap]
      simp only [literals_like]
    rw [fieldCondition, literals_append, literals_append, literals_joinWith, each]
    simp [Value.literals]
  | single value =>
    rw [fieldCondition, Value.literals]
    by_cases typed : name = "type".toList
    · rw [if_pos typed, if_pos typed]
      simp
    · rw [if_neg typed, if_neg typed, literals_like]

theorem skeleton_fieldCondition (name : Text) (value : Value) :
    skeleton (fieldCondition name value) = .ofField name value.length? := by
  cases value with
  | list items =>
    have each : items.map (fun value => skeleton (like name value)) =
        List.replicate items.length (.comparison name "LIKE".toList) := by
      rw [List.map_congr_left fun value _ => skeleton_like name value, List.map_const']
    rw [fieldCondition, skeleton_append, skeleton_append, skeleton_joinWith, List.map_map,
      Function.comp_def, each]
    simp [Value.length?, Skeleton.ofField, Skeleton.anyOf, Skeleton.word]
  | single value =>
    rw [fieldCondition, Value.length?, Skeleton.ofField]
    by_cases typed : name = "type".toList
    · rw [if_pos typed, if_pos typed]
      simp [Skeleton.comparison, Skeleton.word]
    · rw [if_neg typed, if_neg typed, skeleton_like]

def dateCondition (filter : DateFilter) : Fragments :=
  [.code (dateColumn filter.field ++ ' ' :: filter.operator ++ [' ']), .literal filter.value]

theorem column?_of_date {field : Text} (dated : field ∈ dateFields) :
    column? field = some (dateColumn field) := by
  rw [dateFields, List.mem_pair] at dated
  rcases dated with rfl | rfl
  · decide
  · decide

theorem dateConditions_eq_map {filters : List DateFilter}
    (dated : ∀ filter ∈ filters, filter.field ∈ dateFields) :
    dateConditions filters = .ok (filters.map dateCondition) := by
  induction filters with
  | nil => rfl
  | cons filter rest ih =>
    obtain ⟨first, others⟩ := List.forall_mem_cons.mp dated
    rw [dateConditions, column?_of_date first, ih others]
    rfl

def conditionsOf (query : Query) : List Fragments :=
  query.fields.map (fun (name, value) => fieldCondition name value) ++
    query.dateFilters.map dateCondition ++ (query.fullText.map textCondition).toList

theorem conditions_parse (text : Text) :
    conditions (.parse text) = .ok (conditionsOf (.parse text)) := by
  have dated :=
    dateConditions_eq_map fun filter member =>
      ((Query.isWellFormed_parse text).dates filter member).field
  rw [conditions, dated, Query.freeText?_parse]
  rfl

theorem quoteless_name {name : Text} (field : Query.IsFieldName name) : singleQuote ∉ name := by
  intro member
  have char := field.chars singleQuote member
  contradiction

theorem IsPart.like {name : Text} (quoteless : singleQuote ∉ name) (value : Text) :
    IsPart (like name value) := by
  refine IsPart.comparison ?_ (by simp) _
  rw [List.mem_append, not_or]
  exact ⟨quoteless, by decide⟩

theorem IsPart.textCode {text : String} (quoteless : singleQuote ∉ text.toList) :
    IsPart (code text) :=
  .ofCode quoteless

theorem IsPart.anyOf {parts : List Fragments} (each : ∀ part ∈ parts, IsPart part) :
    IsPart (code "(" ++ joinWith " OR " parts ++ code ")") :=
  ((textCode (by decide)).append (join (by decide) each)).append (textCode (by decide))

theorem isPart_fieldCondition {name : Text} (field : Query.IsFieldName name) (value : Value) :
    IsPart (fieldCondition name value) := by
  have quoteless := quoteless_name field
  cases value with
  | list items =>
    apply IsPart.anyOf
    intro part member
    obtain ⟨item, -, rfl⟩ := List.mem_map.mp member
    exact .like quoteless item
  | single value =>
    rw [fieldCondition]
    by_cases typed : name = "type".toList
    · rw [if_pos typed]
      exact .comparison (by decide) (by decide) value
    · rw [if_neg typed]
      exact .like quoteless value

theorem isPart_dateCondition {filter : DateFilter} (wellFormed : filter.IsWellFormed) :
    IsPart (dateCondition filter) := by
  apply IsPart.comparison
  · have operator : singleQuote ∉ filter.operator := by
      intro member
      have char := wellFormed.operator_chars singleQuote member
      contradiction
    have column : singleQuote ∉ dateColumn filter.field := by
      rw [dateColumn]
      split
      · decide
      · decide
    have blank : singleQuote ≠ ' ' := by decide
    simp [column, operator, blank]
  · simp

theorem isPart_textCondition (text : Text) : IsPart (textCondition text) := by
  apply IsPart.anyOf
  intro part member
  obtain ⟨column, listed, rfl⟩ := List.mem_map.mp member
  have quoteless : ∀ column ∈ ["title", "content", "tags"], singleQuote ∉ column.toList := by decide
  exact .like (quoteless column listed) text

theorem isPart_ofConditions {conditions : List Fragments}
    (each : ∀ condition ∈ conditions, IsPart condition) : IsPart (ofConditions conditions) := by
  refine IsPart.append (IsPart.append (.textCode (by decide)) ?_) (.textCode (by decide))
  by_cases nothing : conditions.isEmpty = true
  · rw [if_pos nothing]
    exact ⟨trivial, by simp [render]⟩
  · rw [if_neg nothing]
    exact (IsPart.textCode (by decide)).append (.join (by decide) each)

theorem literals_ofConditions (conditions : List Fragments) :
    literals (ofConditions conditions) = conditions.flatMap literals := by
  cases conditions with
  | nil => simp [ofConditions]
  | cons condition rest => simp [ofConditions, literals_joinWith]

theorem skeleton_ofConditions (conditions : List Fragments) :
    skeleton (ofConditions conditions) = Skeleton.word "SELECT * FROM content_items" ++
      (if conditions.map skeleton = [] then []
        else Skeleton.word " WHERE " ++
          (Skeleton.word " AND ").intercalate (conditions.map skeleton)) ++
      Skeleton.word " ORDER BY updatedAt DESC" := by
  cases conditions with
  | nil => simp [ofConditions]
  | cons condition rest => simp [ofConditions, skeleton_joinWith]

theorem isPart_of_mem_conditionsOf {query : Query} (wellFormed : query.IsWellFormed) :
    ∀ condition ∈ conditionsOf query, IsPart condition := by
  intro condition member
  simp only [conditionsOf, List.mem_append, List.mem_map, Option.mem_toList] at member
  rcases member with (⟨⟨name, value⟩, stands, rfl⟩ | ⟨filter, stands, rfl⟩) | text
  · exact isPart_fieldCondition (wellFormed.names name (List.mem_map_of_mem stands)) value
  · exact isPart_dateCondition (wellFormed.dates filter stands)
  · obtain ⟨free, -, rfl⟩ := Option.map_eq_some_iff.mp text
    exact isPart_textCondition free

theorem literals_conditionsOf (query : Query) :
    (conditionsOf query).flatMap literals = query.literals := by
  have dates : (query.dateFilters.map dateCondition).flatMap literals =
      query.dateFilters.map DateFilter.value := by
    rw [List.flatMap_map, List.map_eq_flatMap]
    simp [dateCondition]
  have texts : (query.fullText.map textCondition).toList.flatMap literals =
      query.fullText.toList.flatMap fun text => List.replicate 3 (Text.wildcards text) := by
    cases query.fullText with
    | none => rfl
    | some text => simp [textCondition, literals_joinWith, List.replicate]
  rw [conditionsOf, List.flatMap_append, List.flatMap_append, dates, texts, List.flatMap_map,
    Query.literals]
  simp only [literals_fieldCondition]

theorem skeleton_conditionsOf (query : Query) :
    (conditionsOf query).map skeleton = query.outline.conditions := by
  have dates : (query.dateFilters.map dateCondition).map skeleton =
      query.outline.dates.map fun date =>
        Skeleton.comparison (dateColumn date.1) date.2 := by
    simp [Query.outline, dateCondition, Skeleton.comparison]
  have texts : ((query.fullText.map textCondition).toList).map skeleton =
      if query.outline.hasText then
      [Skeleton.anyOf (["title", "content", "tags"].map fun column =>
          .comparison column.toList "LIKE".toList)]
      else [] := by
    cases full : query.fullText with
    | none => simp [Query.outline, full]
    | some text => simp [Query.outline, full, textCondition, skeleton_joinWith, Skeleton.anyOf]
  rw [conditionsOf, List.map_append, List.map_append, dates, texts, Outline.conditions]
  simp [Query.outline, skeleton_fieldCondition]

end Sql

namespace Query

/-- A reader of the statement of a text finds the values of the query in its literals, each
unchanged and in order, and outside of them what the outline of the query says. -/
theorem tokens?_toSql_parse (text : Text) :
    ∃ written tokens, (parse text).toSql = .ok written ∧ Sql.tokens? written = some tokens ∧
      tokens.filterMap Sql.Token.value? = (parse text).literals ∧
      tokens.map Sql.Token.symbol? = (parse text).outline.skeleton ∧
      (∀ field ∈ (parse text).outline.fields, IsFieldName field.1) ∧
      ∀ date ∈ (parse text).outline.dates,
        date.1 ∈ dateFields ∧ date.2 ≠ [] ∧ ∀ c ∈ date.2, isOperatorChar c = true := by
  have wellFormed := isWellFormed_parse text
  have part := Sql.isPart_ofConditions (Sql.isPart_of_mem_conditionsOf wellFormed)
  refine ⟨_, _, ?_, Sql.tokens?_render part.readable, ?_, ?_, ?_, ?_⟩
  · rw [toSql, Sql.statement, Sql.conditions_parse]
    rfl
  · have values := Sql.literals_ofConditions (Sql.conditionsOf (parse text))
    rwa [Sql.literals_conditionsOf] at values
  · have outside := Sql.skeleton_ofConditions (Sql.conditionsOf (parse text))
    rwa [Sql.skeleton_conditionsOf] at outside
  · intro field member
    obtain ⟨stated, stands, rfl⟩ := List.mem_map.mp member
    exact wellFormed.names stated.1 (List.mem_map_of_mem stands)
  · intro date member
    obtain ⟨filter, stands, rfl⟩ := List.mem_map.mp member
    have dated := wellFormed.dates filter stands
    exact ⟨dated.field, dated.operator_nonempty, dated.operator_chars⟩

end Query
end RecordSearch
