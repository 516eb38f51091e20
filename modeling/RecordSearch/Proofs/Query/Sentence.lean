import RecordSearch.Proofs.Query.Parts
import RecordSearch.Proofs.Query.Residue
import RecordSearch.Proofs.Text.Chunks

/-! Sentences of the query language: free words, and then clauses, each with connectives behind it.
A sentence may be written with any blanks between its words, and is read back part by part. -/
namespace RecordSearch

namespace Clause

/-- The words of the clause. The name with its colon is a word of its own where a space stands
behind it. -/
def words (clause : Clause) : List Text :=
  (if clause.spaced then [clause.name ++ [':'], clause.first]
    else [clause.name ++ ':' :: clause.first]) ++ clause.more

/-- A clause that is read back as it is written: no further word of its value has a colon or is a
connective. -/
structure IsWritten (clause : Clause) : Prop where
  name_nonempty : clause.name ≠ []
  name_chars : ∀ c ∈ clause.name, isNameChar c = true
  first_word : Text.IsWord clause.first
  more_words : ∀ word ∈ clause.more, Text.IsWord word
  more_colonless : ∀ word ∈ clause.more, ':' ∉ word
  more_noConnective : ∀ word ∈ clause.more, ∀ connective : Connective, word ≠ connective.name

end Clause

/-- Free words, and then clauses, each with the connectives behind it. -/
structure Sentence where
  free : List Text
  stated : List (Clause × List Connective)

namespace Sentence

def statedWords (stated : List (Clause × List Connective)) : List Text :=
  stated.flatMap fun (clause, behind) => clause.words ++ behind.map Connective.name

def words (sentence : Sentence) : List Text := sentence.free ++ statedWords sentence.stated

/-- A sentence that is read back as it is written: it has a clause, and no connective stands in the
free words. -/
structure IsProper (sentence : Sentence) : Prop where
  free_words : ∀ word ∈ sentence.free, Text.IsWord word
  free_colonless : ∀ word ∈ sentence.free, ':' ∉ word
  free_noConnective : Query.connectivesIn (Text.join [' '] sentence.free) = []
  stated_nonempty : sentence.stated ≠ []
  stated_written : ∀ member ∈ sentence.stated, member.1.IsWritten

def parts (sentence : Sentence) : List Query.Part :=
  sentence.stated.filterMap fun (clause, _) =>
    Query.Part.ofClause? clause.name
      (Query.stripQuotes (Text.join [' '] (clause.first :: clause.more)))

def query (sentence : Sentence) : Query where
  fields := Named.ofList (sentence.parts.filterMap Query.Part.field?)
  dateFilters := sentence.parts.filterMap Query.Part.date?
  connectives := (sentence.stated.flatMap Prod.snd).map Connective.name
  fullText := if sentence.free = [] then none else some (Text.join [' '] sentence.free)

end Sentence

namespace Connective

theorem ofName?_name (connective : Connective) : ofName? connective.name = some connective := by
  cases connective <;> decide +kernel

theorem isWord_name (connective : Connective) : Text.IsWord connective.name := by
  cases connective <;> exact Text.isWord_of_all (by decide) (by decide)

theorem colonless_name (connective : Connective) : ':' ∉ connective.name := by
  cases connective <;> decide

theorem ofName?_eq_none {word : Text}
    (different : ∀ connective : Connective, word ≠ connective.name) : ofName? word = none := by
  rw [ofName?, List.find?_eq_none]
  intro connective _
  simpa using Ne.symm (different connective)

end Connective

theorem Text.isWord_name_append {name rest : Text} (chars : ∀ c ∈ name, isNameChar c = true)
    (free : ∀ c ∈ rest, isBlank c = false) : IsWord (name ++ ':' :: rest) := by
  refine ⟨by simp, fun c inside => ?_⟩
  rw [List.mem_append, List.mem_cons] at inside
  rcases inside with named | rfl | behind
  · cases blank : isBlank c with
    | false => rfl
    | true =>
      have outside := isNameChar_of_isBlank blank
      rw [chars c named] at outside
      contradiction
  · decide
  · exact free c behind

namespace Clause

variable {clause : Clause}

theorem IsWritten.isProper (written : clause.IsWritten) : clause.IsProper where
  name_nonempty := written.name_nonempty
  name_chars := written.name_chars
  first_nonempty := written.first_word.nonempty
  first_spaceless := written.first_word.spaceless
  further word member :=
    ⟨(written.more_words word member).nonempty, (written.more_words word member).spaceless,
      written.more_colonless word member,
          Connective.ofName?_eq_none (written.more_noConnective word member)⟩

theorem IsWritten.isWord_of_mem (written : clause.IsWritten) {word : Text}
    (member : word ∈ clause.words) : Text.IsWord word := by
  rw [words, List.mem_append] at member
  rcases member with front | further
  · cases spaced : clause.spaced with
    | false =>
      rw [spaced] at front
      obtain rfl : word = clause.name ++ ':' :: clause.first := by simpa using front
      exact Text.isWord_name_append written.name_chars written.first_word.free
    | true =>
      rw [spaced] at front
      have split : word = clause.name ++ [':'] ∨ word = clause.first := by simpa using front
      rcases split with rfl | rfl
      · exact Text.isWord_name_append written.name_chars (by simp)
      · exact written.first_word
  · exact written.more_words word further

/-- The words of a clause with single spaces between them are its source. -/
theorem tail_words (clause : Clause) (rest : List Text) :
    tail (clause.words ++ rest) = ' ' :: (clause.source ++ tail rest) := by
  cases spaced : clause.spaced with
  | false => simp [tail, words, source, spaced, value_eq]
  | true => simp [tail, words, source, spaced, value_eq]

/-- A clause ends the value before it. -/
theorem endsValue_head_words (nonempty : clause.name ≠ [])
    (chars : ∀ c ∈ clause.name, isNameChar c = true) (rest : List Text) :
    ∀ word ∈ (clause.words ++ rest).head?, endsValue word = true := by
  have opening (behind : Text) : opens (clause.name ++ ':' :: behind) = true := by
    have colon : isNameChar ':' = false := by decide
    rw [opens, List.takeWhile_append_of_pos chars, List.dropWhile_append_of_pos chars,
      List.takeWhile_cons_of_neg (by simp [colon]), List.dropWhile_cons_of_neg (by simp [colon])]
    simp [nonempty]
  cases spaced : clause.spaced with
  | false => simp [words, spaced, endsValue, opening]
  | true => simp [words, spaced, endsValue, opening]

end Clause

namespace Sentence

def statedPieces (stated : List (Clause × List Connective)) : List Piece :=
  stated.flatMap fun (clause, behind) =>
    .plain ' ' :: .clause clause :: (Clause.tail (behind.map Connective.name)).map .plain

theorem isWord_of_mem_statedWords {stated : List (Clause × List Connective)}
    (written : ∀ member ∈ stated, member.1.IsWritten) {word : Text}
    (member : word ∈ statedWords stated) : Text.IsWord word := by
  obtain ⟨⟨clause, behind⟩, stands, inside⟩ := List.mem_flatMap.mp member
  rcases List.mem_append.mp inside with inside | inside
  · exact (written _ stands).isWord_of_mem inside
  · obtain ⟨connective, -, rfl⟩ := List.mem_map.mp inside
    exact connective.isWord_name

/-- What stands behind a clause ends its value. -/
theorem endsBefore_statedWords {stated : List (Clause × List Connective)} (behind : List Connective)
    (written : ∀ member ∈ stated, member.1.IsWritten) :
    Clause.EndsBefore (behind.map Connective.name ++ statedWords stated) := by
  constructor
  · intro word member
    rcases List.mem_append.mp member with member | member
    · obtain ⟨connective, -, rfl⟩ := List.mem_map.mp member
      exact connective.isWord_name.spaceless
    · exact (isWord_of_mem_statedWords written member).spaceless
  · cases behind with
    | cons connective behind =>
      simp [Clause.endsValue_eq_of_colonless connective.colonless_name, Connective.ofName?_name]
    | nil =>
      cases stated with
      | nil => simp [statedWords]
      | cons member rest =>
        obtain ⟨clause, others⟩ := member
        have proper := written _ List.mem_cons_self
        rw [statedWords, List.flatMap_cons, List.map_nil, List.nil_append, List.append_assoc]
        exact Clause.endsValue_head_words proper.name_nonempty proper.name_chars _

theorem scanned_statedPieces {stated : List (Clause × List Connective)}
    (written : ∀ member ∈ stated, member.1.IsWritten) :
    Piece.Scanned (statedPieces stated) (Clause.tail (statedWords stated)) := by
  induction stated with
  | nil => exact .nil
  | cons member rest ih =>
    obtain ⟨clause, behind⟩ := member
    have others := fun member inside => written member (List.mem_cons_of_mem _ inside)
    have names : ∀ word ∈ behind.map Connective.name, ':' ∉ word := by
      simp [Connective.colonless_name]
    have connectives := (ih others).plain_append (Clause.colonless_tail names) (Clause.head?_tail _)
    rw [← Clause.tail_append] at connectives
    have found := (written _ List.mem_cons_self).isProper.at?_source_append
        (endsBefore_statedWords behind others)
    have whole : Clause.tail (statedWords ((clause, behind) :: rest)) =
        ' ' :: (clause.source ++ Clause.tail (behind.map Connective.name ++ statedWords rest)) := by
      rw [← Clause.tail_words, statedWords, List.flatMap_cons, List.append_assoc]
      rfl
    rw [whole]
    exact .plain (Clause.at?_space_cons _) (.clause found connectives)

/-- What stands outside of the clauses, as words: each clause leaves an empty one. -/
def statedRest (stated : List (Clause × List Connective)) : List Text :=
  stated.flatMap fun (_, behind) => [] :: behind.map Connective.name

theorem filterMap_clause?_statedPieces (stated : List (Clause × List Connective)) :
    (statedPieces stated).filterMap Piece.clause? = stated.map Prod.fst := by
  induction stated with
  | nil => rfl
  | cons member rest ih =>
    rw [statedPieces, List.flatMap_cons, List.filterMap_append, ← statedPieces, ih]
    simp [List.filterMap_cons, Piece.clause?]

theorem outside_plain (text : Text) : Piece.outside (text.map .plain) = text := by
  rw [Piece.outside, List.filterMap_map]
  exact List.filterMap_some

theorem outside_append (pieces rest : List Piece) :
    Piece.outside (pieces ++ rest) = Piece.outside pieces ++ Piece.outside rest :=
  List.filterMap_append ..

theorem outside_statedPieces (stated : List (Clause × List Connective)) :
    Piece.outside (statedPieces stated) = Clause.tail (statedRest stated) := by
  induction stated with
  | nil => rfl
  | cons member rest ih =>
    obtain ⟨clause, behind⟩ := member
    have first :
        Piece.outside
        (.plain ' ' :: .clause clause :: (Clause.tail (behind.map Connective.name)).map .plain) =
        Clause.tail ([] :: behind.map Connective.name) :=
      congrArg (' ' :: ·) (outside_plain _)
    have whole : statedRest ((clause, behind) :: rest) = ([] :: behind.map Connective.name) ++
        statedRest rest := rfl
    rw [statedPieces, List.flatMap_cons, outside_append, ← statedPieces, ih, first, whole,
      ← Clause.tail_append]

/-- The pieces of a sentence. The words begin with a space in `tail`, which the sentence does not
have. -/
theorem scan_join_words {sentence : Sentence} (proper : sentence.IsProper) :
    Piece.plain ' ' :: Piece.scan (Text.join [' '] sentence.words) =
      (Clause.tail sentence.free).map .plain ++ statedPieces sentence.stated := by
  have stated := scanned_statedPieces proper.stated_written
  have scanned := stated.plain_append (Clause.colonless_tail proper.free_colonless)
      (Clause.head?_tail _)
  rw [← Clause.tail_append] at scanned
  obtain ⟨⟨clause, behind⟩, rest, whole⟩ := List.exists_cons_of_ne_nil proper.stated_nonempty
  obtain ⟨first, others, listed⟩ : ∃ first others, sentence.words = first :: others := by
    apply List.exists_cons_of_ne_nil
    cases spaced : clause.spaced with
    | false => simp [words, statedWords, whole, Clause.words, spaced]
    | true => simp [words, statedWords, whole, Clause.words, spaced]
  rw [← words, listed, Clause.tail_cons, ← listed] at scanned
  rw [← scanned.scan_eq, Piece.scan_cons (Clause.at?_space_cons _)]

theorem clauseScan_join_words {sentence : Sentence} (proper : sentence.IsProper) :
    Clause.scan (Text.join [' '] sentence.words) = sentence.stated.map Prod.fst := by
  have pieces := congrArg (List.filterMap Piece.clause?) (scan_join_words proper)
  have characters (text : Text) : (text.map Piece.plain).filterMap Piece.clause? = [] := by
    rw [List.filterMap_map]
    exact List.filterMap_eq_nil_iff.mpr fun _ _ => rfl
  rw [List.filterMap_append, characters, filterMap_clause?_statedPieces] at pieces
  exact pieces

/-- The free words and the connectives are what stands outside of the clauses. -/
theorem outside_scan_join_words {sentence : Sentence} (proper : sentence.IsProper) :
    Piece.outside (Piece.scan (Text.join [' '] sentence.words)) =
      Text.join [' '] (sentence.free ++ statedRest sentence.stated) := by
  have pieces := congrArg Piece.outside (scan_join_words proper)
  rw [outside_append, outside_plain, outside_statedPieces, ← Clause.tail_append] at pieces
  obtain ⟨member, rest, whole⟩ := List.exists_cons_of_ne_nil proper.stated_nonempty
  obtain ⟨first, others, listed⟩ : ∃ first others,
      sentence.free ++ statedRest sentence.stated = first :: others := by
    apply List.exists_cons_of_ne_nil
    simp [statedRest, whole]
  rw [listed, Clause.tail_cons] at pieces
  rw [listed]
  exact List.tail_eq_of_cons_eq pieces

theorem colonless_rest {sentence : Sentence} (proper : sentence.IsProper) :
    ':' ∉ Text.join [' '] (sentence.free ++ statedRest sentence.stated) := by
  intro inside
  rcases Text.mem_join inside with gap | ⟨piece, member, inside⟩
  · contradiction
  · rcases List.mem_append.mp member with free | rest
    · exact proper.free_colonless piece free inside
    · obtain ⟨⟨_, behind⟩, -, listed⟩ := List.mem_flatMap.mp rest
      rcases List.mem_cons.mp listed with rfl | listed
      · contradiction
      · obtain ⟨connective, -, rfl⟩ := List.mem_map.mp listed
        exact connective.colonless_name inside

/-- Removing the clauses leaves what stands outside of them. -/
theorem residue_join_words {sentence : Sentence} (proper : sentence.IsProper) :
    Query.residue (Text.join [' '] sentence.words) (sentence.stated.map Prod.fst) =
      Text.join [' '] (sentence.free ++ statedRest sentence.stated) := by
  have inPlace : Piece.InPlace (Piece.scan (Text.join [' '] sentence.words)) := by
    refine Piece.inPlaceBehind_of_colonless ?_ ?_
    · rw [List.nil_append, outside_scan_join_words proper]
      exact colonless_rest proper
    · intro found member
      rw [← Query.clauses_eq_of_scan, clauseScan_join_words proper] at member
      obtain ⟨stated, inside, rfl⟩ := List.mem_map.mp member
      intro colon
      have named := (proper.stated_written stated inside).name_chars ':' colon
      contradiction
  rw [← clauseScan_join_words proper, Query.residue_eq_outside inPlace,
    outside_scan_join_words proper]

theorem connectivesIn_statedRest (stated : List (Clause × List Connective)) :
    (statedRest stated).flatMap Query.connectivesIn = stated.flatMap Prod.snd := by
  rw [statedRest, List.flatMap_assoc]
  congr 1
  funext ⟨clause, behind⟩
  have names : (behind.map Connective.name).flatMap Query.connectivesIn = behind := by
    simp [List.flatMap_map, Query.connectivesIn_name]
  rw [List.flatMap_cons, names]
  rfl

theorem connectivesIn_rest {sentence : Sentence} (proper : sentence.IsProper) :
    Query.connectivesIn (Text.join [' '] (sentence.free ++ statedRest sentence.stated)) =
      sentence.stated.flatMap Prod.snd := by
  have free := proper.free_noConnective
  rw [Query.connectivesIn_join] at free ⊢
  rw [List.flatMap_append, free, connectivesIn_statedRest, List.nil_append]

theorem withoutConnectives_statedRest {stated : List (Clause × List Connective)} :
    ∀ piece ∈ (statedRest stated).map Query.withoutConnectives, piece = [] := by
  intro piece member
  obtain ⟨word, rest, rfl⟩ := List.mem_map.mp member
  obtain ⟨⟨_, behind⟩, -, listed⟩ := List.mem_flatMap.mp rest
  rcases List.mem_cons.mp listed with rfl | listed
  · rfl
  · obtain ⟨connective, -, rfl⟩ := List.mem_map.mp listed
    exact Query.withoutConnectives_name connective

/-- The connectives leave blanks behind the free words. -/
theorem trim_withoutConnectives_rest {sentence : Sentence} (proper : sentence.IsProper) :
    Text.trim (Query.withoutConnectives
      (Text.join [' '] (sentence.free ++ statedRest sentence.stated))) =
      Text.join [' '] sentence.free := by
  have free : sentence.free.map Query.withoutConnectives = sentence.free := by
    have none := proper.free_noConnective
    rw [Query.connectivesIn_join, List.flatMap_eq_nil_iff] at none
    rw [List.map_congr_left fun word member => Query.withoutConnectives_of_none (none word member),
      List.map_id']
  rw [Query.withoutConnectives_join, List.map_append, free]
  exact Text.trim_join_empty proper.free_words withoutConnectives_statedRest

theorem parts_stated (sentence : Sentence) :
    Query.parts (sentence.stated.map Prod.fst) = sentence.parts := by
  rw [Query.parts, List.filterMap_map]
  rfl

theorem isWord_of_mem_words {sentence : Sentence} (proper : sentence.IsProper) :
    ∀ word ∈ sentence.words, Text.IsWord word := by
  intro word member
  rcases List.mem_append.mp member with free | stated
  · exact proper.free_words word free
  · exact isWord_of_mem_statedWords proper.stated_written stated

end Sentence

/-- A proper sentence is read back, however the gaps between its words are written. -/
theorem Query.parse_of_writes {sentence : Sentence} {text : Text} (proper : sentence.IsProper)
    (written : Text.Writes sentence.words text) : parse text = sentence.query := by
  have normal : Text.normalize text = Text.join [' '] sentence.words := by
    rw [Text.normalize, written.words_eq (Sentence.isWord_of_mem_words proper)]
  have clauses : Clause.scan (Text.normalize text) = sentence.stated.map Prod.fst := by
    rw [normal, Sentence.clauseScan_join_words proper]
  have stated : Clause.scan (Text.normalize text) ≠ [] := by
    simpa [clauses] using proper.stated_nonempty
  have full : asFullText (Text.join [' '] sentence.free) =
      if sentence.free = [] then none else some (Text.join [' '] sentence.free) := by
    cases free : sentence.free with
    | nil => rfl
    | cons word rest =>
      have nonempty := (proper.free_words word (by simp [free])).nonempty
      simp [asFullText, Text.join_cons, nonempty]
  rw [parse, ofNormalized_of_clauses stated, clauses, normal, Sentence.residue_join_words proper,
    Sentence.connectivesIn_rest proper, Sentence.trim_withoutConnectives_rest proper,
    Sentence.parts_stated, full]
  rfl

/-- A sentence with a free word, two clauses and a connective, with tabs and repeated spaces between
the words. -/
theorem Query.parse_of_writes_tabs :
    parse "\told title: big\t\tcat  AND tags:a,b ".toList =
      { fields := [("title".toList, .single "big cat".toList),
          ("tags".toList, .list ["a".toList, "b".toList])]
        connectives := ["AND".toList]
        fullText := some "old".toList } := by
  let title : Clause := ⟨"title".toList, true, "big".toList, ["cat".toList]⟩
  let tags : Clause := ⟨"tags".toList, false, "a,b".toList, []⟩
  let sentence : Sentence := ⟨["old".toList], [(title, [.and]), (tags, [])]⟩
  have title_written : title.IsWritten := by
    refine ⟨by decide, List.all_eq_true.mp (by decide), Text.isWord_of_all (by decide) (by decide),
      ?_, by decide, ?_⟩
    · have cat : Text.IsWord "cat".toList := Text.isWord_of_all (by decide) (by decide)
      simpa [title] using cat
    · rintro _ member (_ | _ | _) <;> simp_all [title, Connective.name]
  have tags_written : tags.IsWritten :=
    ⟨by decide, List.all_eq_true.mp (by decide), Text.isWord_of_all (by decide) (by decide),
      by simp [tags],
      by simp [tags], by simp [tags]⟩
  have proper : sentence.IsProper := by
    refine ⟨?_, by decide, by decide +kernel, by simp [sentence], ?_⟩
    · have old : Text.IsWord "old".toList := Text.isWord_of_all (by decide) (by decide)
      simpa [sentence] using old
    · simpa [sentence] using ⟨title_written, tags_written⟩
  have gap (text : Text) (blanks : text.all isBlank = true) : Text.IsGap text :=
    (Text.isGap_iff text).mp blanks
  have written : Text.Writes sentence.words "\told title: big\t\tcat  AND tags:a,b ".toList :=
    .cons (gap ['\t'] (by decide)) (gap [' '] (by decide)) (by simp) <|
    .cons (gap [] (by decide)) (gap [' '] (by decide)) (by simp) <|
    .cons (gap [] (by decide)) (gap ['\t', '\t'] (by decide)) (by simp) <|
    .cons (gap [] (by decide)) (gap [' ', ' '] (by decide)) (by simp) <|
    .cons (gap [] (by decide)) (gap [' '] (by decide)) (by simp) <|
    .last (gap [] (by decide)) (gap [' '] (by decide))
  exact (parse_of_writes proper written).trans (by decide +kernel)

end RecordSearch
