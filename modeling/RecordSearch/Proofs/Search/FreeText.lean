import RecordSearch.Proofs.Query.Restated
import RecordSearch.Proofs.Search.Conjunction

/-! Free text in front of a clause. A text without colons is free text as it stands. In front of a
clause the connectives among its words are taken out of it, and what is left of it is asked for
together with the clause. -/
namespace RecordSearch.Query

variable {text name value : Text}

def leftText (text : Text) : Text := Text.trim (withoutConnectives (Text.normalize text))

theorem colonless_leftText (colonless : ':' ∉ text) : ':' ∉ leftText text := by
  intro inside
  have kept := (withoutConnectives_sublist _).subset ((Text.trim_isInfix _).subset inside)
  exact Text.colonless_normalize colonless kept

theorem leftText_of_none (free : connectivesIn (Text.normalize text) = []) :
    leftText text = Text.normalize text := by
  rw [leftText, withoutConnectives_of_none free,
    Text.trim_of_isTrimmed (Text.isTrimmed_normalize text)]

/-- A clause with a value of one word that is stored as it is written. -/
structure IsPlainClause (name value : Text) : Prop where
  name : name ∈ recordFields
  word : Text.IsWord value
  quoteless : ∀ c ∈ value, isQuote c = false
  commaless : ',' ∉ value

instance (name value : Text) : Decidable (IsPlainClause name value) :=
  decidable_of_iff (recordFields.contains name = true ∧ Text.IsWord value ∧
      value.all (!isQuote ·) = true ∧ ',' ∉ value)
    ⟨fun ⟨known, word, quoteless, commaless⟩ =>
      ⟨by simpa using known, word, by simpa using quoteless, commaless⟩,
      fun plain =>
          ⟨by simpa using plain.name, plain.word, by simpa using plain.quoteless, plain.commaless⟩⟩

theorem isFieldName_of_mem_recordFields (known : name ∈ recordFields) : IsFieldName name := by
  have all : ∀ name ∈ recordFields, IsFieldName name := by decide
  exact all name known

namespace IsPlainClause

variable (plain : IsPlainClause name value)
include plain

theorem isProper : Clause.IsProper ⟨name, false, value, []⟩ where
  name_nonempty := (isFieldName_of_mem_recordFields plain.name).nonempty
  name_chars := (isFieldName_of_mem_recordFields plain.name).chars
  first_nonempty := plain.word.nonempty
  first_spaceless := plain.word.spaceless
  further := by simp

theorem isWord : Text.IsWord (name ++ ':' :: value) :=
  Text.isWord_name_append (isFieldName_of_mem_recordFields plain.name).chars plain.word.free

theorem parts_eq : parts [⟨name, false, value, []⟩] = [.field name (.single value)] := by
  have unlisted : ¬ (name = "tags".toList ∧ ',' ∈ value) := fun both => plain.commaless both.2
  have stated : Part.ofClause? name value = some (.field name (.single value)) := by
    rw [Part.ofClause?, if_neg (isFieldName_of_mem_recordFields plain.name).noDate, if_neg unlisted]
  have single : Clause.value ⟨name, false, value, []⟩ = value := rfl
  rw [parts, List.filterMap_cons, single, stripQuotes_of_quoteless plain.quoteless, stated]
  rfl

/-- The clause stands behind the text as its last piece. -/
theorem scan_append (colonless : ':' ∉ text) :
    Piece.scan (text ++ ' ' :: (name ++ ':' :: value)) =
      text.map .plain ++ [.plain ' ', .clause ⟨name, false, value, []⟩] := by
  let clause : Clause := ⟨name, false, value, []⟩
  have ends : Clause.EndsBefore [] := ⟨by simp, by simp⟩
  have found : Clause.at? (clause.source ++ []) = some clause :=
    plain.isProper.at?_source_append ends
  have last : Piece.Scanned [.plain ' ', .clause clause] (' ' :: (clause.source ++ [])) :=
    .plain (Clause.at?_space_cons _) (.clause found .nil)
  rw [List.append_nil] at last
  exact (last.plain_append colonless (by simp)).scan_eq

theorem normalize_append (text : Text) :
    Text.normalize (text ++ ' ' :: (name ++ ':' :: value)) =
      if Text.words text = [] then name ++ ':' :: value
        else Text.normalize text ++ ' ' :: (name ++ ':' :: value) := by
  rw [Text.normalize, Text.words_append_blank (by decide), Text.words_word plain.isWord]
  split
  · next wordless => rw [wordless, List.nil_append, Text.join]
  · next words =>
    rw [Text.join_append _ _ _ words, Text.normalize]
    simp

theorem parse_alone : parse (name ++ ':' :: value) = { fields := [(name, .single value)] } := by
  have canonical : IsCanonical { fields := [(name, .single value)] } := by
    have written : Text.IsPlain value := by
      refine ⟨⟨plain.word.nonempty, Text.normalize_word plain.word, ?_⟩, plain.quoteless⟩
      rw [Text.words_word plain.word]
      simp
    refine ⟨by simp [Named.names], ?_, ?_, by simp, rfl⟩
    · simpa [Named.names] using isFieldName_of_mem_recordFields plain.name
    · simpa using Value.IsCanonical.single written fun _ => plain.commaless
  have whole : toText { fields := [(name, .single value)] } = name ++ ':' :: value := by
    have spaceless := plain.word.spaceless
    simp [toText, fieldText, freeText?, Text.join, spaceless]
  have read := parse_toText canonical
  rwa [whole] at read

/-- A text in front of the clause: its connectives are kept apart, and the rest of it is the free
text. -/
theorem parse_append (colonless : ':' ∉ text) :
    parse (text ++ ' ' :: (name ++ ':' :: value)) =
      { fields := [(name, .single value)]
        connectives := (connectivesIn (Text.normalize text)).map Connective.name
        fullText := asFullText (leftText text) } := by
  rw [parse, plain.normalize_append text]
  split
  · next wordless =>
    have nothing : Text.normalize text = [] := by rw [Text.normalize, wordless, Text.join]
    have alone := plain.parse_alone
    rw [parse, Text.normalize_word plain.isWord] at alone
    rw [alone, leftText, nothing]
    rfl
  · let clause : Clause := ⟨name, false, value, []⟩
    have scanned := plain.scan_append (Text.colonless_normalize colonless)
    have clauses : Clause.scan (Text.normalize text ++ ' ' :: (name ++ ':' :: value)) =
        [clause] := by
      rw [clauses_eq_of_scan, scanned, List.filterMap_append, filterMap_clause?_plain]
      rfl
    have outside :
        Piece.outside (Piece.scan (Text.normalize text ++ ' ' :: (name ++ ':' :: value))) =
        Text.normalize text ++ [' '] := by
      rw [scanned, Sentence.outside_append, Sentence.outside_plain]
      rfl
    have rest : residue (Text.normalize text ++ ' ' :: (name ++ ':' :: value)) [clause] =
        Text.normalize text ++ [' '] := by
      rw [← clauses, ← outside]
      refine residue_eq_outside (Piece.inPlaceBehind_of_colonless ?_ ?_)
      · rw [List.nil_append, outside]
        simp [Text.colonless_normalize colonless]
      · rw [← clauses_eq_of_scan, clauses]
        intro found member colon
        obtain rfl := List.mem_singleton.mp member
        have named := plain.isProper.name_chars ':' colon
        contradiction
    have stated := plain.parts_eq
    have connectives : connectivesIn (Text.normalize text ++ [' ']) =
        connectivesIn (Text.normalize text) := by
      rw [connectivesIn_append_space]
      exact List.append_nil _
    have free : Text.trim (withoutConnectives (Text.normalize text ++ [' '])) = leftText text := by
      rw [withoutConnectives_append_space, leftText]
      exact Text.trim_append_blanks Text.isGap_space
    rw [ofNormalized_of_clauses (by simp [clauses]), clauses, stated, rest, connectives, free]
    rfl

end IsPlainClause

/-- The text and the clause together ask for what is left of the text and for the clause. -/
theorem joins_text_clause (colonless : ':' ∉ text) (plain : IsPlainClause name value)
    (normal : Text.normalize (leftText text) = leftText text) :
    (parse (text ++ ' ' :: (name ++ ':' :: value))).Joins (parse (leftText text))
    (parse (name ++ ':' :: value)) := by
  have left := parse_of_colonless (colonless_leftText colonless)
  rw [normal] at left
  constructor
  · rw [plain.parse_append colonless, plain.parse_alone, left]
    exact List.Perm.refl _
  · rw [plain.parse_append colonless, plain.parse_alone, left]
    exact List.Perm.refl _
  · rw [freeText?_parse (name ++ ':' :: value), plain.parse_alone]
    exact .inr rfl
  · rw [freeText?_parse, freeText?_parse, freeText?_parse, plain.parse_append colonless,
      plain.parse_alone, left]
    exact (Option.or_none ..).symm

/-- In front of a clause a text means what it means without its connectives, which are kept apart,
unless taking them out leaves more than one space between words. A text in which no connective
stands means what it means alone, so that the clause and the text find what both of them find. -/
theorem select_text_clause (colonless : ':' ∉ text) (plain : IsPlainClause name value)
    (records : List Record) :
    (parse (text ++ ' ' :: (name ++ ':' :: value))).connectives =
        (connectivesIn (Text.normalize text)).map Connective.name ∧
      (connectivesIn (Text.normalize text) = [] →
        Text.normalize (leftText text) = leftText text ∧ parse (leftText text) = parse text) ∧
      (Text.normalize (leftText text) = leftText text → ∃ free stated both,
        (parse (leftText text)).select records = .ok free ∧
        (parse (name ++ ':' :: value)).select records = .ok stated ∧
        (parse (text ++ ' ' :: (name ++ ':' :: value))).select records = .ok both ∧
        (parse (name ++ ':' :: value)).select free = .ok both ∧
        (parse (leftText text)).select stated = .ok both ∧
        ∀ record, record ∈ both ↔ record ∈ free ∧ record ∈ stated) := by
  refine ⟨by rw [plain.parse_append colonless], ?_, ?_⟩
  · intro none
    have whole :=
      Text.normalize_join_words fun word (member : word ∈ Text.words text) =>
        Text.isWord_of_mem_words member
    rw [leftText_of_none none]
    exact ⟨whole, by rw [parse, Text.normalize, Text.words_normalize, ← Text.normalize, ← parse]⟩
  · intro normal
    have joins := joins_text_clause colonless plain normal
    have free_dateless : (parse (leftText text)).dateFilters = [] := by
      rw [parse_of_colonless (colonless_leftText colonless)]
    have clause_dateless : (parse (name ++ ':' :: value)).dateFilters = [] := by
      rw [plain.parse_alone]
    have both_dateless : (parse (text ++ ' ' :: (name ++ ':' :: value))).dateFilters = [] := by
      rw [plain.parse_append colonless]
    have answers (record : Record) :
        (parse (text ++ ' ' :: (name ++ ':' :: value))).matches? record = .ok true ↔
        (parse (leftText text)).matches? record = .ok true ∧
        (parse (name ++ ':' :: value)).matches? record = .ok true :=
      joins.matches?_iff (by simp [IsInYears, free_dateless]) (by simp [IsInYears, clause_dateless])
    refine ⟨_, _, _, select_of_dateless free_dateless records,
      select_of_dateless clause_dateless records,
      select_of_dateless both_dateless records, ?_, ?_, ?_⟩
    · rw [select_of_dateless clause_dateless, List.filter_filter]
      refine congrArg Except.ok (List.filter_congr ?_)
      intro record _
      simp [answers, Bool.and_comm]
    · rw [select_of_dateless free_dateless, List.filter_filter]
      refine congrArg Except.ok (List.filter_congr ?_)
      intro record _
      simp [answers]
    · intro record
      simp only [List.mem_filter, decide_eq_true_eq, answers]
      exact and_and_left

/-- Connectives at both ends of a text, which leave nothing behind. A date of the record cannot be
converted. -/
theorem select_text_clause_ends :
    let text := " And big\tcats  OR".toList
    let clause := "tags:x:y".toList
    let stamp := Stamp.read ⟨0, by decide, some 1⟩
    let note : Record :=
      { id := ['1'], title := "Big Cats".toList, kind := .known .note, tags := ["X:Yz".toList],
        created := stamp, updated := stamp }
    let link : Record :=
      { id := ['2'], title := "big cats".toList, kind := .known .link, created := stamp,
        updated := stamp }
    ':' ∉ text ∧ IsPlainClause "tags".toList "x:y".toList ∧
      Text.normalize (leftText text) = leftText text ∧
      (parse (text ++ ' ' :: clause)).connectives = ["AND".toList, "OR".toList] ∧
      ∃ free both, (parse (leftText text)).select [note, link] = .ok free ∧
        (parse (text ++ ' ' :: clause)).select [note, link] = .ok both ∧
        (parse clause).select free = .ok both ∧
        free.map Record.id = [['1'], ['2']] ∧ both.map Record.id = [['1']] := by
  intro text clause stamp note link
  have plain : IsPlainClause "tags".toList "x:y".toList := by decide
  have colonless : ':' ∉ text := by decide
  have normal : Text.normalize (leftText text) = leftText text := by decide +kernel
  obtain ⟨connectives, -, meet⟩ := select_text_clause colonless plain [note, link]
  obtain ⟨free, stated, both, free_found, -, both_found, within, -⟩ := meet normal
  have known : (connectivesIn (Text.normalize text)).map Connective.name =
      ["AND".toList, "OR".toList] := by decide +kernel
  have free_ids : ((parse (leftText text)).select [note, link]).map (List.map Record.id) =
      .ok [['1'], ['2']] := by
    decide +kernel
  have both_ids : ((parse (text ++ ' ' :: clause)).select [note, link]).map (List.map Record.id) =
      .ok [['1']] := by
    decide +kernel
  have both_named : (parse (text ++ ' ' :: clause)).select [note, link] = .ok both := both_found
  rw [free_found] at free_ids
  rw [both_named] at both_ids
  exact ⟨colonless, plain, normal, connectives.trans known, free, both, free_found,
    both_named, within,
    Except.ok.inj free_ids, Except.ok.inj both_ids⟩

/-- A record that the text alone does not find is found by the text in front of a clause, where its
last word is a connective. Another is found by the text and by the clause, and not by both
together. -/
theorem connectives_leave_text_in_front_of_clause :
    let stamp := Stamp.read ⟨0, by decide, none⟩
    let hooks : Record :=
      { id := ['1'], title := "React hooks".toList, kind := .known .note, tags := ["react".toList],
        created := stamp, updated := stamp }
    let rock : Record :=
      { id := ['2'], title := "Rock and roll".toList, kind := .known .note, tags :=
          ["react".toList], created := stamp, updated := stamp }
    let found (text : String) := ((parse text.toList).select [hooks, rock]).map (List.map Record.id)
    ':' ∉ "hooks and".toList ∧ ':' ∉ "rock and roll".toList ∧
      IsPlainClause "tags".toList "react".toList ∧
      found "tags:react" = .ok [['1'], ['2']] ∧
      found "hooks and" = .ok [] ∧ found "hooks and tags:react" = .ok [['1']] ∧
      found "rock and roll" = .ok [['2']] ∧ found "rock and roll tags:react" = .ok [] := by
  intro stamp hooks rock found
  exact ⟨by decide, by decide, by decide, by decide +kernel, by decide +kernel, by decide +kernel,
    by decide +kernel,
    by decide +kernel⟩

end RecordSearch.Query
