import RecordSearch.Proofs.Markup.Escape
import RecordSearch.Proofs.Query.Removal
import RecordSearch.Proofs.Query.ReadBack
import RecordSearch.Proofs.Text.Gaps

/-! The description of a query has the tags that the description writes itself, two on every line,
and no others: nothing that stands in a query opens, closes or disables a tag. -/
namespace RecordSearch

open Markup (IsTag IsActiveAt IsPlain IsSealed IsQuiet isQuiet_escape activeTags isActiveAt_iff)
open Markup.Piece (scan source sources IsScan activeFrom sources_scan isScan_scan activeFrom_append
  activeFrom_of_inactive)

namespace Query

def described (query : Query) : List (Text × Text) :=
  query.fields.map (fun member => (Markup.escape member.1, Markup.escape (shownValue member.2))) ++
    query.dateFilters.map (fun filter =>
      (filter.field, Markup.escape filter.operator ++ ' ' :: Markup.escape filter.value)) ++
    (if query.connectives.isEmpty then []
        else [("Connectives".toList, Text.join [' '] query.connectives)]) ++
    (query.freeText?.map fun text => ("Full text".toList, Markup.escape text)).toList

/-- The tags of lines with their places, where the first line begins at a place: every line has its
name in bold. -/
def tagsOfLines : Nat → List (Text × Text) → List (Nat × Text)
  | _, [] => []
  | start, (name, shown) :: rest =>
    (start, "[bold]".toList) ::
      (start + ("[bold]".toList ++ name ++ [':']).length, "[/bold]".toList) ::
      tagsOfLines (start + (describeLine name shown).length + 1) rest

def emptyNote : Text := "Empty query (matches everything)".toList

def writtenTags (query : Query) : List (Nat × Text) :=
  if query.described = [] then
    [(0, "[dim]".toList), (("[dim]".toList ++ emptyNote).length, "[/dim]".toList)]
  else tagsOfLines 0 query.described

theorem describeLines_eq (query : Query) :
    query.describeLines = query.described.map fun line => describeLine line.1 line.2 := by
  rw [describeLines, described]
  cases query.connectives.isEmpty with
  | true => cases query.freeText? <;> simp [Function.comp_def]
  | false => cases query.freeText? <;> simp [Function.comp_def]

def linePieces (line : Text × Text) : List Markup.Piece :=
  .tag 0 "[bold]".toList ::
    (scan (line.1 ++ [':']) ++ .tag 0 "[/bold]".toList :: scan (' ' :: line.2))

def linesPieces : List (Text × Text) → List Markup.Piece
  | [] => []
  | [line] => linePieces line
  | line :: rest => linePieces line ++ .plain '\n' :: linesPieces rest

/-- Neither the name nor the text of the line has a tag in force. -/
structure IsQuietLine (line : Text × Text) : Prop where
  name : IsQuiet (line.1 ++ [':'])
  shown : IsQuiet (' ' :: line.2)

theorem isTag_bold : IsTag "[bold]".toList :=
  @IsTag.intro 'b' "old".toList (by decide) (by simp)

theorem isTag_unbold : IsTag "[/bold]".toList :=
  @IsTag.intro '/' "bold".toList (by decide) (by simp)

theorem sources_linePieces (line : Text × Text) :
    sources (linePieces line) = describeLine line.1 line.2 := by
  simp [linePieces, source, sources_scan, describeLine, Markup.styled, Markup.backslashes]

theorem sources_linesPieces (lines : List (Text × Text)) :
    sources (linesPieces lines) =
      Text.join ['\n'] (lines.map fun line => describeLine line.1 line.2) := by
  fun_induction linesPieces lines with
  | case1 => rfl
  | case2 line => exact sources_linePieces line
  | case3 line rest nonempty ih =>
    obtain ⟨next, rest, rfl⟩ := List.exists_cons_of_ne_nil nonempty
    rw [Markup.Piece.sources_append, Markup.Piece.sources_cons, ih, sources_linePieces]
    simp [source, Text.join]

theorem isScan_linePieces_append {pieces : List Markup.Piece} (line : Text × Text)
    (isScan : IsScan pieces) (isSealed : IsSealed (sources pieces))
    (first : ∀ piece ∈ pieces.head?, piece.isTag = false) : IsScan (linePieces line ++ pieces) := by
  have last : (line.1 ++ [':']).getLast? ≠ some '\\' := by simp
  have behind :=
    ((isScan_scan (' ' :: line.2)).append isScan isSealed fun _ => first).styled isTag_bold
      isTag_unbold last
  simpa [linePieces] using behind

/-- The lines are scanned one by one. -/
theorem isScan_linesPieces (lines : List (Text × Text)) : IsScan (linesPieces lines) := by
  fun_induction linesPieces lines with
  | case1 => exact .nil
  | case2 line =>
    have alone := isScan_linePieces_append line .nil ⟨by simp, by simp⟩ (by simp)
    rwa [List.append_nil] at alone
  | case3 line rest nonempty ih =>
    refine isScan_linePieces_append line
      (.plain (fun same => absurd same (by decide)) (fun same => absurd same (by decide)) ih)
      ⟨?_, ?_⟩ ?_
    · rintro c ⟨⟩
      decide
    · obtain ⟨next, rest, rfl⟩ := List.exists_cons_of_ne_nil nonempty
      rw [Markup.Piece.sources_cons, sources_linesPieces, List.map_cons, Text.join_cons]
      simp [source, describeLine, Markup.styled, Markup.isBracket]
    · rintro piece ⟨⟩
      rfl

theorem activeFrom_linePieces_append {line : Text × Text} (quiet : IsQuietLine line) (start : Nat)
    (pieces : List Markup.Piece) :
    activeFrom start (linePieces line ++ pieces) =
      (start, "[bold]".toList) ::
        (start + ("[bold]".toList ++ line.1 ++ [':']).length, "[/bold]".toList) ::
        activeFrom (start + (describeLine line.1 line.2).length) pieces := by
  rw [activeFrom_append, sources_linePieces, linePieces, activeFrom, activeFrom_append,
    activeFrom_of_inactive quiet.name, sources_scan, activeFrom, activeFrom_of_inactive quiet.shown]
  simp
  omega

theorem activeFrom_linesPieces {lines : List (Text × Text)}
    (quiet : ∀ line ∈ lines, IsQuietLine line) (start : Nat) :
    activeFrom start (linesPieces lines) = tagsOfLines start lines := by
  fun_induction linesPieces lines generalizing start with
  | case1 => rfl
  | case2 line =>
    have alone := activeFrom_linePieces_append (quiet line (List.mem_singleton_self _)) start []
    rwa [List.append_nil] at alone
  | case3 line rest nonempty ih =>
    obtain ⟨own, others⟩ := List.forall_mem_cons.mp quiet
    rw [activeFrom_linePieces_append own, activeFrom, ih others]
    rfl

theorem describe_eq (query : Query) : query.describe =
    if query.described = [] then Markup.styled "dim" emptyNote
      else sources (linesPieces query.described) := by
  rw [describe, describeLines_eq, sources_linesPieces]
  cases query.described with
  | nil => rfl
  | cons line rest => rfl

end Query

theorem Connective.isPlain_name (connective : Connective) : IsPlain connective.name := by
  cases connective <;> simp [IsPlain, name]

namespace DateFilter.IsWellFormed

variable {filter : DateFilter}

theorem isPlain_field (proper : filter.IsWellFormed) : IsPlain filter.field := by
  have dated := proper.field
  rw [dateFields, List.mem_pair] at dated
  rcases dated with same | same
  all_goals simp [same, IsPlain]

theorem isPlain_operator (proper : filter.IsWellFormed) : IsPlain filter.operator := by
  intro c member
  rcases Query.eq_of_isOperatorChar (proper.operator_chars c member) with rfl | rfl | rfl | rfl
  all_goals decide

end DateFilter.IsWellFormed

namespace Query

/-- A line of a query: a field, a date filter, the connectives or the free text. -/
theorem mem_described_cases {query : Query} {line : Text × Text} (stands : line ∈ query.described) :
    (∃ member ∈ query.fields,
        line = (Markup.escape member.1, Markup.escape (shownValue member.2))) ∨
      (∃ filter ∈ query.dateFilters,
        line = (filter.field, Markup.escape filter.operator ++ ' ' :: Markup.escape filter.value)) ∨
      line = ("Connectives".toList, Text.join [' '] query.connectives) ∨
      ∃ text ∈ query.freeText?, line = ("Full text".toList, Markup.escape text) := by
  simp only [described, List.mem_append, List.mem_map, Option.mem_toList,
    Option.map_eq_some_iff] at stands
  rcases stands
    with ((⟨member, inside, rfl⟩ | ⟨filter, inside, rfl⟩) | connectives) | ⟨text, full, rfl⟩
  · exact .inl ⟨member, inside, rfl⟩
  · exact .inr (.inl ⟨filter, inside, rfl⟩)
  · split at connectives
    · contradiction
    · exact .inr (.inr (.inl (List.mem_singleton.mp connectives)))
  · exact .inr (.inr (.inr ⟨text, full, rfl⟩))

theorem IsQuietLine.of_isQuiet {name shown : Text} (name_quiet : IsQuiet name)
    (shown_quiet : IsQuiet shown) : IsQuietLine (name, shown) := by
  have colon : IsPlain [':'] := by simp [IsPlain]
  have colon_sealed : IsSealed [':'] := ⟨by simp [Markup.beginsTag], by simp [Markup.isBracket]⟩
  refine ⟨name_quiet.append colon.isQuiet colon_sealed fun _ => ?_, shown_quiet.space_cons⟩
  rintro piece ⟨⟩
  rfl

/-- What is not escaped in a description is plain. -/
theorem IsWellFormed.isQuietLine {query : Query} (wellFormed : query.IsWellFormed)
    {line : Text × Text} (stands : line ∈ query.described) : IsQuietLine line := by
  rcases mem_described_cases stands
    with ⟨member, -, rfl⟩ | ⟨filter, inside, rfl⟩ | rfl | ⟨text, -, rfl⟩
  · exact .of_isQuiet (isQuiet_escape _) (isQuiet_escape _)
  · have proper := wellFormed.dates filter inside
    refine .of_isQuiet proper.isPlain_field.isQuiet ?_
    rw [proper.isPlain_operator.escape_eq]
    exact (isQuiet_escape _).space_cons.plain_append proper.isPlain_operator
  · have plain : IsPlain (Text.join [' '] query.connectives) := by
      intro c inside
      rcases Text.mem_join inside with gap | ⟨word, member, inside⟩
      · obtain rfl := List.mem_singleton.mp gap
        decide
      · obtain ⟨connective, rfl⟩ := wellFormed.connectives word member
        exact connective.isPlain_name c inside
    exact .of_isQuiet (IsPlain.isQuiet (by simp [IsPlain])) plain.isQuiet
  · exact .of_isQuiet (IsPlain.isQuiet (by simp [IsPlain])) (isQuiet_escape _)

theorem dropOpeningQuote_sublist (text : Text) : (dropOpeningQuote text).Sublist text := by
  cases text with
  | nil => exact .slnil
  | cons c rest =>
    rw [dropOpeningQuote]
    split
    · exact List.sublist_cons_self c rest
    · exact List.Sublist.refl _

theorem stripQuotes_sublist (text : Text) : (stripQuotes text).Sublist text := by
  have closing := (dropOpeningQuote_sublist (dropOpeningQuote text).reverse).reverse
  rw [List.reverse_reverse] at closing
  exact closing.trans (dropOpeningQuote_sublist text)

/-- A value is shown with the characters that its clause has and with commas and spaces between its
pieces. -/
theorem Part.mem_of_field {name other value : Text} {content : Value} {c : Char}
    (stated : ofClause? name value = some (.field other content))
    (inside : c ∈ shownValue content) : c ∈ value ∨ c ∈ ", ".toList := by
  rcases ofClause?_cases stated with ⟨-, _, _, -, date⟩ | ⟨-, -, -, list⟩ | ⟨-, -, single⟩
  · contradiction
  · obtain ⟨rfl, rfl⟩ := field.inj list
    rcases Text.mem_join inside with gap | ⟨item, member, inside⟩
    · exact .inr gap
    · obtain ⟨piece, between, rfl⟩ := List.mem_map.mp member
      have whole := Text.mem_join_of_mem [','] between ((Text.trim_isInfix piece).subset inside)
      rw [Text.join_splitAt] at whole
      exact .inl whole
  · obtain ⟨rfl, rfl⟩ := field.inj single
    exact .inl inside

theorem Part.mem_of_date {name value : Text} {filter : DateFilter} {c : Char}
    (stated : ofClause? name value = some (.date filter))
    (inside : c ∈ filter.operator ++ filter.value) : c ∈ value := by
  rcases ofClause?_cases stated
    with ⟨-, operator, target, split, date⟩ | ⟨-, -, -, list⟩ | ⟨-, -, single⟩
  · obtain rfl := Part.date.inj date
    rw [append_of_splitOperator? split]
    rcases List.mem_append.mp inside with own | own
    · exact List.mem_append_left _ own
    · exact List.mem_append_right _ ((Text.trim_isInfix target).subset own)
  · contradiction
  · contradiction

theorem newline_notMem_normalize (text : Text) : '\n' ∉ Text.normalize text := by
  intro inside
  have space := Text.eq_space_of_mem_normalize inside (by decide)
  contradiction

theorem newline_notMem_escape {text : Text} (free : '\n' ∉ text) : '\n' ∉ Markup.escape text := by
  intro inside
  rcases Markup.mem_escape inside with own | slash
  · exact free own
  · contradiction

/-- No line of a parsed query is broken. -/
theorem newline_notMem_described {text : Text} {line : Text × Text}
    (stands : line ∈ (parse text).described) : '\n' ∉ line.1 ∧ '\n' ∉ line.2 := by
  have free := newline_notMem_normalize text
  have named {clause : Clause} (found : clause ∈ Clause.scan (Text.normalize text)) :
      '\n' ∉ clause.name :=
    fun own => free (Clause.mem_of_mem_source found (by simp [Clause.source, own]))
  have stated {clause : Clause} (found : clause ∈ Clause.scan (Text.normalize text)) :
      '\n' ∉ stripQuotes clause.value :=
    fun own => free (Clause.mem_of_mem_source found
      (by simp [Clause.source, (stripQuotes_sublist clause.value).subset own]))
  rcases mem_described_cases stands
    with ⟨member, inside, rfl⟩ | ⟨filter, inside, rfl⟩ | rfl | ⟨full, here, rfl⟩
  · obtain ⟨clause, found, name, -⟩ := exists_clause_of_mem_fields inside
    obtain ⟨other, other_found, part⟩ := exists_clause_stating_field inside
    refine ⟨newline_notMem_escape (name ▸ named found), newline_notMem_escape fun own => ?_⟩
    rcases Part.mem_of_field part own with own | gap
    · exact stated other_found own
    · contradiction
  · obtain ⟨clause, found, name, -⟩ := exists_clause_of_mem_dateFilters inside
    obtain ⟨other, other_found, part⟩ := exists_clause_stating_date inside
    have both : '\n' ∉ filter.operator ++ filter.value :=
      fun own => stated other_found (Part.mem_of_date part own)
    rw [List.mem_append, not_or] at both
    exact ⟨name ▸ named found, by simp [newline_notMem_escape both.1, newline_notMem_escape both.2]⟩
  · refine ⟨by simp, fun inside => ?_⟩
    rcases Text.mem_join inside with gap | ⟨word, member, own⟩
    · contradiction
    · obtain ⟨connective, rfl⟩ := connectives_parse member
      have solid := connective.isWord_name.free '\n' own
      contradiction
  · refine ⟨by simp, newline_notMem_escape fun own => ?_⟩
    rw [freeText?_parse] at here
    have kept := ((fullText_sublist_residue text).trans (residue_sublist _ _)).subset (a := '\n')
    rw [here] at kept
    exact free (kept own)

def lines (query : Query) : List Text :=
  if query.described = [] then [Markup.styled "dim" emptyNote]
  else query.described.map fun line => describeLine line.1 line.2

theorem splitAt_describe_parse (text : Text) :
    Text.splitAt (· == '\n') (describe (parse text)) = (parse text).lines := by
  rw [describe_eq, lines]
  split
  · decide +kernel
  · next nonempty =>
    rw [sources_linesPieces]
    refine Text.splitAt_join (by simpa using nonempty) fun shown stands => ?_
    obtain ⟨line, inside, rfl⟩ := List.mem_map.mp stands
    obtain ⟨name, own⟩ := newline_notMem_described inside
    simp [describeLine, Markup.styled, name, own]

theorem length_tagsOfLines (start : Nat) (lines : List (Text × Text)) :
    (tagsOfLines start lines).length = 2 * lines.length := by
  induction lines generalizing start with
  | nil => rfl
  | cons line rest ih =>
    rw [tagsOfLines, List.length_cons, List.length_cons, List.length_cons, ih]
    omega

theorem length_writtenTags (query : Query) : query.writtenTags.length = 2 * query.lines.length := by
  rw [writtenTags, lines]
  split
  · rfl
  · rw [length_tagsOfLines, List.length_map]

/-- The tags in force in the description of a query are those that it writes, whatever the text of
the query: a pair on each line, which has the name of the line in bold, or a single pair around the
note that the query is empty. -/
theorem isActiveAt_describe_parse_iff (text : Text) :
    let query := parse text
    (∀ place tag, IsActiveAt query.describe place tag ↔ (place, tag) ∈ query.writtenTags) ∧
      Text.splitAt (· == '\n') query.describe = query.lines ∧
        query.writtenTags.length = 2 * query.lines.length := by
  intro query
  refine ⟨fun place tag => ?_, splitAt_describe_parse text, length_writtenTags query⟩
  rw [isActiveAt_iff]
  suffices same : activeTags query.describe = query.writtenTags by rw [same]
  rw [describe_eq, writtenTags]
  split
  · decide +kernel
  · rw [activeTags, (isScan_linesPieces _).scan_eq]
    exact activeFrom_linesPieces (fun line stands => (isWellFormed_parse text).isQuietLine stands) 0

/-- Tags, brackets and backslashes that a query has are none of the description. -/
example : activeTags (describe (parse "title:[/bold]x\\ tags:[dim,[/ y\\[b".toList)) =
    [(0, "[bold]".toList), (12, "[/bold]".toList), (32, "[bold]".toList),
        (43, "[/bold]".toList)] := by
  decide +kernel

end Query
end RecordSearch
