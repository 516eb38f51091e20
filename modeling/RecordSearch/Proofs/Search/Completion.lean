import RecordSearch.Proofs.Search.Leading
import RecordSearch.Proofs.Search.Part
import RecordSearch.Proofs.Text.Case
import RecordSearch.Search.Suggestion

/-! What a completion finds. A completion names a title, a tag or a kind of some record. Read as a
query it asks for that value by its first clause, which every record with the value satisfies, and
besides for whatever words of the value are read as something else. -/
namespace RecordSearch

inductive Completion where
  | title (value : Text)
  | tag (value : Text)
  | kind (type : ContentType)

namespace Completion

def name : Completion → Text
  | .title _ => "title".toList
  | .tag _ => "tags".toList
  | .kind _ => "type".toList

def text : Completion → Text
  | .title value => '\x22' :: value ++ ['\x22']
  | .tag value => value
  | .kind type => type.name

def toText (completion : Completion) : Text := completion.name ++ ':' :: completion.text

/-- The record has the value, character by character. -/
def IsCarriedBy : Completion → Record → Prop
  | .title value, record => record.title = value
  | .tag value, record => value ∈ record.tags
  | .kind type, record => record.kind.name = type.name

end Completion

theorem exists_record_of_mem_kindNames {records : List Record} {names : List Text} {name : Text}
    (read : kindNames records = .ok names) (member : name ∈ names) :
    ∃ record ∈ records, ∃ type : ContentType, name = type.name ∧ record.kind.name = type.name := by
  induction records generalizing names with
  | nil =>
    obtain rfl := Except.ok.inj read
    contradiction
  | cons record rest ih =>
    rw [kindNames] at read
    cases kind : record.kind with
    | other name => simp [Filters.contentTypeOf, kind, bind, Except.bind] at read
    | known type =>
      cases later : kindNames rest with
      | error fault => simp [Filters.contentTypeOf, kind, later, bind, Except.bind] at read
      | ok others =>
        simp only [Filters.contentTypeOf, kind, later, bind, Except.bind, pure, Except.pure,
          Except.ok.injEq] at read
        subst read
        rcases List.mem_cons.mp member with rfl | inside
        · exact ⟨record, List.mem_cons_self, type, rfl, by rw [kind]; rfl⟩
        · obtain ⟨carrier, stands, found⟩ := ih later inside
          exact ⟨carrier, List.mem_cons_of_mem _ stands, found⟩

theorem mem_of_mem_completions {token value : Text} {values : List Text}
    (member : value ∈ completions token values) : value ∈ values :=
  List.mem_eraseDups.mp (List.mem_filter.mp member).1

theorem takeLimit_sublist {α : Type} (limit : Option Int) (values : List α) :
    (takeLimit limit values).Sublist values := by
  cases limit with
  | none => exact List.Sublist.refl _
  | some limit =>
    cases limit with
    | ofNat count => exact List.take_sublist _ _
    | negSucc count => exact List.take_sublist _ _

/-- Every completion names a value of a record. -/
theorem exists_completion_of_mem_suggestions {partialQuery text : Text} {records : List Record}
    {limit : Option Int} {offered : List Text}
    (returns : suggestions partialQuery records limit = .ok offered) (member : text ∈ offered) :
    ∃ completion : Completion, text = completion.toText ∧ ∃ record ∈ records,
      completion.IsCarriedBy record := by
  rw [suggestions] at returns
  split at returns
  · obtain rfl := Except.ok.inj returns
    contradiction
  · cases read : kindNames records with
    | error fault =>
      rw [read] at returns
      contradiction
    | ok kinds =>
      rw [read] at returns
      obtain rfl := Except.ok.inj returns
      have listed := (takeLimit_sublist _ _).subset member
      rcases List.mem_append.mp listed with earlier | from_kind
      · rcases List.mem_append.mp earlier with from_title | from_tag
        · obtain ⟨value, completed, rfl⟩ := List.mem_map.mp from_title
          obtain ⟨record, stands, carried⟩ := List.mem_map.mp (mem_of_mem_completions completed)
          exact ⟨.title value, rfl, record, stands, carried⟩
        · obtain ⟨value, completed, rfl⟩ := List.mem_map.mp from_tag
          obtain ⟨record, stands, carried⟩ := List.mem_flatMap.mp (mem_of_mem_completions completed)
          exact ⟨.tag value, rfl, record, stands, carried⟩
      · obtain ⟨value, completed, rfl⟩ := List.mem_map.mp from_kind
        obtain ⟨record, stands, type, rfl, carried⟩ :=
          exists_record_of_mem_kindNames read (mem_of_mem_completions completed)
        exact ⟨.kind type, rfl, record, stands, carried⟩

theorem Text.casedFirst_tail_append {gap : Text} (rest : List Text) (blanks : IsGap gap) :
    casedFirst (Clause.tail rest ++ gap) = false := by
  cases rest with
  | nil => exact casedFirst_gap blanks
  | cons word rest => exact casedFirst_cons_blank (by decide) _

namespace Query

theorem isCaseless_of_quotes {text : Text} (quotes : ∀ c ∈ text, isQuote c = true) :
    Text.IsCaseless text := by
  intro c inside
  have quote := quotes c inside
  rw [isQuote, Bool.or_eq_true, beq_iff_eq, beq_iff_eq] at quote
  rcases quote with rfl | rfl
  · decide
  · decide

theorem exists_quotes_dropOpeningQuote (text : Text) :
    ∃ front, text = front ++ dropOpeningQuote text ∧ ∀ c ∈ front, isQuote c = true := by
  cases text with
  | nil => exact ⟨[], rfl, by simp⟩
  | cons c rest =>
    rw [dropOpeningQuote]
    split
    · next quote => exact ⟨[c], rfl, by simpa using quote⟩
    · exact ⟨[], rfl, by simp⟩

theorem exists_quotes_dropClosingQuote (text : Text) :
    ∃ back, text = (dropOpeningQuote text.reverse).reverse ++ back ∧
      ∀ c ∈ back, isQuote c = true := by
  obtain ⟨front, whole, quotes⟩ := exists_quotes_dropOpeningQuote text.reverse
  refine ⟨front.reverse, ?_, by simpa using quotes⟩
  rw [← List.reverse_append, ← whole, List.reverse_reverse]

/-- Only quotes are stripped. -/
theorem exists_quotes_stripQuotes (text : Text) :
    ∃ front back, text = front ++ (stripQuotes text ++ back) ∧ (∀ c ∈ front, isQuote c = true) ∧
      ∀ c ∈ back, isQuote c = true := by
  obtain ⟨front, opening, front_quotes⟩ := exists_quotes_dropOpeningQuote text
  obtain ⟨back, closing, back_quotes⟩ := exists_quotes_dropClosingQuote (dropOpeningQuote text)
  refine ⟨front, back, ?_, front_quotes, back_quotes⟩
  rw [stripQuotes, ← closing, ← opening]

/-- A tag with its first value taken out: what stands in front of the value has no case, and no
letter of its last word follows it. -/
theorem exists_value_cut {text value : Text} (opened : text.IsOpenValue)
    (whole : Text.normalize text = value ++ Clause.tail text.wordsBehind) :
    ∃ front behind, text = front ++ stripQuotes value ++ behind ∧ Text.IsCaseless front ∧
      Text.casedFirst behind = false := by
  obtain ⟨before, gap, blanks, others, split⟩ := Text.exists_gaps_trim text
  obtain ⟨opening, closing, stripped, opening_quotes, closing_quotes⟩ :=
    exists_quotes_stripQuotes value
  refine ⟨before ++ opening, closing ++ (Clause.tail text.wordsBehind ++ gap), ?_, ?_, ?_⟩
  · calc text = before ++ (Text.trim text ++ gap) := split
      _ = before ++ (value ++ Clause.tail text.wordsBehind ++ gap) := by
        rw [← opened.spacing, whole]
      _ = before ++
        (opening ++ (stripQuotes value ++ closing) ++ Clause.tail text.wordsBehind ++ gap) := by
        rw [← stripped]
      _ = _ := by simp
  · exact blanks.isCaseless.append (isCaseless_of_quotes opening_quotes)
  · exact (isCaseless_of_quotes closing_quotes).casedFirst_append
      (Text.casedFirst_tail_append _ others)

/-- The first piece of a list stands in front of a comma. -/
theorem exists_first_piece {text : Text} (comma : ',' ∈ text) :
    ∃ piece others rest,
      Text.splitAt (· == ',') text = piece :: others ∧ text = piece ++ ',' :: rest := by
  have several : 2 ≤ (Text.splitAt (· == ',') text).length :=
    Text.two_le_length_splitAt comma (by decide)
  have whole := Text.join_splitAt ',' text
  cases pieces : Text.splitAt (· == ',') text with
  | nil => simp [pieces] at several
  | cons piece others =>
    obtain ⟨next, others, rfl⟩ : ∃ next later, others = next :: later := by
      apply List.exists_cons_of_ne_nil
      rintro rfl
      simp [pieces] at several
    rw [pieces, Text.join_cons] at whole
    exact ⟨piece, next :: others, _, rfl, whole.symm⟩

/-- A tag satisfies the value that is read from its beginning, be it a list or not. -/
theorem tagged_of_value {tag value : Text} {own : Value} {tags : List Text} (carried : tag ∈ tags)
    (opened : tag.IsOpenValue) (whole : Text.normalize tag = value ++ Clause.tail tag.wordsBehind)
    (stated : Part.ofClause? "tags".toList (stripQuotes value) = some (.field "tags".toList own)) :
    ∃ values, Condition.ofField? "tags".toList own = some (.tags values) ∧
      Condition.tagged values tags = true := by
  obtain ⟨front, behind, spelled, caseless, ends⟩ := exists_value_cut opened whole
  rcases Part.ofClause?_cases stated with ⟨-, _, _, -, date⟩ | ⟨-, -, comma, list⟩ | ⟨-, -, single⟩
  · contradiction
  · obtain ⟨-, rfl⟩ := Part.field.inj list
    obtain ⟨piece, others, rest, pieces, cut⟩ := exists_first_piece comma
    obtain ⟨before, gap, blanks, between, split⟩ := Text.exists_gaps_trim piece
    have held : Text.holds (Text.trim piece) tag = true := by
      have part : tag = front ++ before ++ Text.trim piece ++ (gap ++ ',' :: (rest ++ behind)) := by
        calc tag = front ++ (piece ++ ',' :: rest) ++ behind := by rw [← cut, ← spelled]
          _ = front ++ (before ++ (Text.trim piece ++ gap) ++ ',' :: rest) ++ behind := by
            rw [← split]
          _ = _ := by simp
      rw [part]
      exact Text.holds_between (caseless.append blanks.isCaseless)
        (between.isCaseless.casedFirst_append (by rfl)) _
    refine ⟨_, by rw [Condition.ofField?, if_pos rfl], ?_⟩
    rw [pieces]
    simp only [Condition.tagged, List.map_cons, List.any_cons, Bool.or_eq_true, List.any_eq_true]
    exact .inl ⟨tag, carried, held⟩
  · obtain ⟨-, rfl⟩ := Part.field.inj single
    have held : Text.holds (stripQuotes value) tag = true := by
      rw [spelled]
      exact Text.holds_between caseless ends _
    refine ⟨[stripQuotes value], by rfl, ?_⟩
    simp only [Condition.tagged, List.any_cons, Bool.or_eq_true, List.any_eq_true]
    exact .inl ⟨tag, carried, held⟩

/-- A title satisfies the value that is read from the beginning of its quoted form: the title
itself, or a part of it from its beginning on. -/
theorem holds_of_quoted_value {title value : Text} {rest : List Text}
    (whole : '\x22' :: title ++ ['\x22'] = value ++ Clause.tail rest) (nonempty : value ≠ []) :
    Text.holds (stripQuotes value) title = true := by
  cases rest with
  | nil =>
    have complete : value = '\x22' :: title ++ ['\x22'] := by simpa using whole.symm
    rw [complete, stripQuotes_quoted]
    exact Text.holds_self title
  | cons word rest =>
    obtain ⟨c, part, rfl⟩ := List.exists_cons_of_ne_nil nonempty
    obtain rfl : '\x22' = c := (List.cons.inj whole).1
    have split : title ++ ['\x22'] = part ++ Clause.tail (word :: rest) := (List.cons.inj whole).2
    obtain ⟨back, closed, quotes⟩ := exists_quotes_dropClosingQuote part
    -- The quote at the end of the title stands behind the blank that ends the value.
    obtain ⟨behind, ends⟩ : ∃ behind, title = part ++ ' ' :: behind := by
      rw [Clause.tail_cons] at split
      rcases List.eq_nil_or_concat (Text.join [' '] (word :: rest))
        with none | ⟨behind, last, joined⟩
      · rw [none] at split
        have same := (List.append_inj' split rfl).2
        contradiction
      · rw [joined, List.concat_eq_append, ← List.cons_append, ← List.append_assoc] at split
        exact ⟨behind, (List.append_inj' split rfl).1⟩
    have stripped : stripQuotes ('\x22' :: part) = (dropOpeningQuote part.reverse).reverse := rfl
    have cut : title = [] ++ stripQuotes ('\x22' :: part) ++ (back ++ ' ' :: behind) := by
      rw [ends, List.nil_append, stripped, ← List.append_assoc, ← closed]
    rw [cut]
    exact Text.holds_between (by simp [Text.IsCaseless])
      ((isCaseless_of_quotes quotes).casedFirst_append (Text.casedFirst_cons_blank (by decide) _)) _

end Query

namespace Completion

theorem isFieldName_name (completion : Completion) : Query.IsFieldName completion.name := by
  cases completion with
  | title value => exact (by decide : Query.IsFieldName "title".toList)
  | tag value => exact (by decide : Query.IsFieldName "tags".toList)
  | kind type => exact (by decide : Query.IsFieldName "type".toList)

/-- A kind is one word without quotes. -/
theorem isOpenValue_kind (type : ContentType) :
    type.name.IsOpenValue ∧ type.name.wordsBehind = [] ∧ Text.normalize type.name = type.name ∧
      Query.stripQuotes type.name = type.name := by
  cases type with
  | document => decide
  | image => decide
  | video => decide
  | note => decide
  | link => decide

theorem trim_quoted (text : Text) :
    Text.trim ('\x22' :: text ++ ['\x22']) = '\x22' :: text ++ ['\x22'] := by
  apply Text.trim_of_isTrimmed
  constructor
  · intro c first
    obtain rfl : '\x22' = c := by simpa using first
    decide
  · intro c last
    rw [List.getLast?_concat] at last
    obtain rfl := Option.some.inj last
    decide

/-- The record satisfies the clause in front of a completion of one of its values. -/
theorem satisfied {completion : Completion} {record : Record}
    (carried : completion.IsCarriedBy record) (opened : completion.text.IsOpenValue) {value : Text}
    {own : Value}
    (whole : Text.normalize completion.text = value ++ Clause.tail completion.text.wordsBehind)
    (stated : Query.Part.ofClause? completion.name (Query.stripQuotes value) =
      some (.field completion.name own)) :
    ∀ condition ∈ Condition.ofField? completion.name own, condition.holds record = .ok true := by
  cases completion with
  | title title =>
    have quoted :
        '\x22' :: title ++ ['\x22'] = value ++ Clause.tail (text (.title title)).wordsBehind := by
      rw [← whole, opened.spacing]
      exact (trim_quoted title).symm
    have nonempty : value ≠ [] := by
      rintro rfl
      rw [List.nil_append] at quoted
      have blank := Clause.head?_tail (text (.title title)).wordsBehind '\x22' (by simp [← quoted])
      contradiction
    rcases Query.Part.ofClause?_cases stated
      with ⟨-, _, _, -, date⟩ | ⟨-, tags, -, -⟩ | ⟨-, -, single⟩
    · contradiction
    · exact absurd tags (by decide : "title".toList ≠ "tags".toList)
    · obtain ⟨-, rfl⟩ := Query.Part.field.inj single
      intro condition here
      obtain rfl : Condition.title (Query.stripQuotes value) = condition := Option.some.inj here
      have held := Query.holds_of_quoted_value quoted nonempty
      rw [Condition.holds, show record.title = title from carried, held]
  | tag tag =>
    obtain ⟨values, asks, holds⟩ := Query.tagged_of_value carried opened whole stated
    intro condition here
    obtain rfl := Option.some.inj (asks.symm.trans here)
    rw [Condition.holds, holds]
  | kind type =>
    obtain ⟨-, alone, normal, quoteless⟩ := isOpenValue_kind type
    obtain rfl : type.name = value := by simpa [text, alone, normal] using whole
    rcases Query.Part.ofClause?_cases stated
      with ⟨-, _, _, -, date⟩ | ⟨-, tags, -, -⟩ | ⟨-, -, single⟩
    · contradiction
    · exact absurd tags (by decide : "type".toList ≠ "tags".toList)
    · obtain ⟨-, rfl⟩ := Query.Part.field.inj single
      rw [quoteless]
      intro condition here
      obtain rfl : Condition.kind type.name = condition := Option.some.inj here
      rw [Condition.holds, show record.kind.name = type.name from carried, beq_self_eq_true]

/-- The text of the completion is read as a value up to a word that ends it. Kinds always are. -/
def IsOpen : Completion → Prop
  | .kind _ => True
  | completion => completion.text.IsOpenValue

/-- What is read from the words of the completion that do not belong to its value. -/
def rest (completion : Completion) : Query := Query.behind completion.text.wordsBehind

theorem IsOpen.isOpenValue {completion : Completion} (opened : completion.IsOpen) :
    completion.text.IsOpenValue := by
  cases completion with
  | title value => exact opened
  | tag value => exact opened
  | kind type => exact (isOpenValue_kind type).1

theorem matches?_parse_toText_iff {completion : Completion} {record : Record}
    (opened : completion.IsOpen) (carried : completion.IsCarriedBy record) :
    (Query.parse completion.toText).matches? record = .ok true ↔
      completion.rest.matches? record = .ok true :=
  Query.matches?_name_append_iff completion.isFieldName_name opened.isOpenValue
    fun _ _ whole stated =>
    satisfied carried opened.isOpenValue whole stated

/-- The whole text of the completion is read as one value. Kinds always are. -/
def IsWhole : Completion → Prop
  | .kind _ => True
  | completion => completion.text.IsOpenValue ∧ completion.text.wordsBehind = []

theorem IsWhole.isOpen {completion : Completion} (whole : completion.IsWhole) :
    completion.IsOpen ∧ completion.text.wordsBehind = [] := by
  cases completion with
  | title value => exact whole
  | tag value => exact whole
  | kind type => exact ⟨trivial, (isOpenValue_kind type).2.1⟩

/-- A completion that is read as one value finds every record with the value. -/
theorem IsWhole.select_parse_toText {completion : Completion} (whole : completion.IsWhole)
    (records : List Record) :
    ∃ found, (Query.parse completion.toText).select records = .ok found ∧
      ∀ record ∈ records, completion.IsCarriedBy record → record ∈ found := by
  obtain ⟨opened, alone⟩ := whole.isOpen
  have dateless : (Query.parse completion.toText).dateFilters = [] := by
    obtain ⟨_, _, -, -, -, dates, -⟩ :=
      Query.exists_parse_name_append completion.isFieldName_name opened.isOpenValue
    rw [alone, Query.behind_nil] at dates
    exact dates
  refine ⟨_, Query.select_of_dateless dateless records, ?_⟩
  intro record member carried
  refine List.mem_filter.mpr
    ⟨member, decide_eq_true ((matches?_parse_toText_iff opened carried).mpr ?_)⟩
  rw [rest, alone, Query.behind_nil]
  rfl

end Completion

/-- Every completion names a value of a record. Unless a colon or doubled blanks keep its value from
being read, a record with the value is found exactly if it answers what is read from the words
behind the value; if there are none, every record with the value is found. -/
theorem select_parse_of_mem_suggestions {partialQuery text : Text} {records : List Record}
    {limit : Option Int} {offered : List Text}
    (returns : suggestions partialQuery records limit = .ok offered) (member : text ∈ offered) :
    (∃ completion : Completion, completion.toText = text ∧ ∃ record ∈ records,
        completion.IsCarriedBy record) ∧
      ∀ completion : Completion, completion.toText = text →
        (completion.IsOpen → ∀ found, (Query.parse text).select records = .ok found →
          ∀ record ∈ records, completion.IsCarriedBy record →
            (record ∈ found ↔ completion.rest.matches? record = .ok true)) ∧
        (completion.IsWhole → ∃ found, (Query.parse text).select records = .ok found ∧
          ∀ record ∈ records, completion.IsCarriedBy record → record ∈ found) := by
  constructor
  · obtain ⟨completion, offered_as, carried⟩ := exists_completion_of_mem_suggestions returns member
    exact ⟨completion, offered_as.symm, carried⟩
  · rintro completion rfl
    constructor
    · intro opened found finds record stands carried
      rw [Query.mem_select_iff finds, ← Completion.matches?_parse_toText_iff opened carried]
      exact and_iff_right stands
    · intro whole
      exact whole.select_parse_toText records

/-- A tag with a final sigma, a pair of quotes and a comma, which is read as a list. -/
theorem select_parse_of_mem_suggestions_list :
    let stamp := Stamp.read ⟨63839664000000000, by decide, none⟩
    let tag := "\x22ΟΔΟΣ\x22 ,hand made".toList
    let record : Record :=
      { id := ['1'], title := "cat".toList, kind := .known .note, tags := [tag], created := stamp,
        updated := stamp }
    let text := "tags:\x22ΟΔΟΣ\x22 ,hand made".toList
    suggestions "type:note HAND".toList [record] (some 10) = .ok [text] ∧ text ∈ [text] ∧
      ∃ found, (Query.parse text).select [record] = .ok found ∧ record ∈ found := by
  intro stamp tag record text
  have returns : suggestions "type:note HAND".toList [record] (some 10) = .ok [text] := by
    decide +kernel
  have member : text ∈ [text] := List.mem_singleton.mpr rfl
  have whole : (Completion.tag tag).IsWhole := by
    have opened : Text.IsOpenValue tag := by decide +kernel
    have alone : Text.wordsBehind tag = [] := by decide +kernel
    exact ⟨opened, alone⟩
  obtain ⟨found, finds, contained⟩ :=
    ((select_parse_of_mem_suggestions returns member).2 (.tag tag) rfl).2 whole
  exact ⟨returns, member, found, finds,
    contained record (List.mem_singleton.mpr rfl) List.mem_cons_self⟩

/-- The value of a completed title ends in front of a connective, and what stands behind it is
looked for as free text together with the closing quote. -/
theorem suggested_title_not_found :
    let stamp := Stamp.read ⟨63839664000000000, by decide, none⟩
    let record : Record :=
      { id := ['1'], title := "R AND D handbook".toList, kind := .known .note, created := stamp,
        updated := stamp }
    let text := "title:\x22R AND D handbook\x22".toList
    suggestions "hand".toList [record] (some 10) = .ok [text] ∧
      (Completion.title record.title).toText = text ∧
      (Query.parse text).select [record] = .ok [] := by
  intro stamp record text
  have dateless : (Query.parse text).dateFilters = [] := by decide +kernel
  have missed : (Query.parse text).matches? record ≠ .ok true := by decide +kernel
  refine ⟨by decide +kernel, by decide, ?_⟩
  rw [Query.select_of_dateless dateless, List.filter_cons_of_neg (by simpa using missed),
    List.filter_nil]

end RecordSearch
