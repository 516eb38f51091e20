import RecordSearch.Proofs.Query.Restated
import RecordSearch.Proofs.Search.Conjunction

/-! A clause in front of other words. Its value runs up to the first word that ends it, and the
words from there on are read as if they stood alone behind a blank, so that a record that satisfies
the clause answers the whole query if it answers what these words ask for. -/
namespace RecordSearch

namespace Text

/-- The words of a text from the first on that would end the value of a clause; the first word of
the text never does. -/
def wordsBehind (text : Text) : List Text :=
  (words text).tail.dropWhile fun word => !Clause.endsValue word

/-- A text that can be read as a value up to a word that ends it: it has words with single spaces
between them, and no colon stands in the way. -/
structure IsOpenValue (text : Text) : Prop where
  nonempty : words text ≠ []
  spacing : normalize text = trim text
  colonless : ∀ word ∈ (words text).tail.takeWhile fun word => !Clause.endsValue word, ':' ∉ word

instance (text : Text) : Decidable (IsOpenValue text) :=
  decidable_of_iff (words text ≠ [] ∧ normalize text = trim text ∧
      ∀ word ∈ (words text).tail.takeWhile fun word => !Clause.endsValue word, ':' ∉ word)
    ⟨fun ⟨nonempty, spacing, colonless⟩ => ⟨nonempty, spacing, colonless⟩,
      fun opened => ⟨opened.nonempty, opened.spacing, opened.colonless⟩⟩

theorem endsBefore_wordsBehind (text : Text) : Clause.EndsBefore text.wordsBehind where
  spaceless word member := by
    have inside := (List.dropWhile_sublist _).subset member
    exact (isWord_of_mem_words (List.mem_of_mem_tail inside)).spaceless
  ends word first := by
    have stop := List.head?_dropWhile_not (fun word => !Clause.endsValue word) (words text).tail
    rw [wordsBehind] at first
    rw [Option.mem_def.mp first] at stop
    simpa using stop

theorem IsOpenValue.exists_words {text : Text} (opened : text.IsOpenValue) :
    ∃ first more, words text = first :: (more ++ text.wordsBehind) ∧ IsWord first ∧
      ∀ word ∈ more, Clause.IsFurther word := by
  obtain ⟨first, others, whole⟩ := List.exists_cons_of_ne_nil opened.nonempty
  have proper : ∀ word ∈ words text, IsWord word := fun word member => isWord_of_mem_words member
  have colonless := opened.colonless
  rw [wordsBehind]
  rw [whole] at proper colonless ⊢
  refine ⟨first, others.takeWhile fun word => !Clause.endsValue word, ?_,
    proper first List.mem_cons_self, ?_⟩
  · rw [List.tail_cons, List.takeWhile_append_dropWhile]
  · intro word member
    have isWord := proper word (List.mem_cons_of_mem _ ((List.takeWhile_sublist _).subset member))
    have going : Clause.endsValue word = false := by simpa using List.mem_takeWhile_imp member
    have free := colonless word member
    rw [Clause.endsValue_eq_of_colonless free] at going
    exact ⟨isWord.nonempty, isWord.spaceless, free, by simpa using going⟩

/-- Behind a name and its colon the blanks at the ends of the text come down to one space in front
of it. -/
theorem normalize_name_append {name text : Text} (word : IsWord (name ++ [':']))
    (nonempty : words text ≠ []) (spacing : normalize text = trim text) :
    normalize (name ++ ':' :: text) =
      name ++ ':' :: ((if startsBlank text then [' '] else []) ++ normalize text) := by
  have normal : normalize (normalize text) = normalize text := by
    rw [normalize, words_normalize, ← normalize]
  obtain ⟨before, behind, front, back, whole⟩ := exists_gaps_trim text
  rw [← spacing] at whole
  cases before with
  | nil =>
    have written : normalize text ≠ [] := by
      intro none
      rw [← words_normalize, none] at nonempty
      exact nonempty rfl
    obtain ⟨c, rest, begins⟩ := List.exists_cons_of_ne_nil written
    have solid : startsBlank text = false := by
      have other := (isTrimmed_normalize text).1 c (by simp [begins])
      rw [whole, List.nil_append, begins, List.cons_append, startsBlank, other]
    have words_eq : words (name ++ ':' :: text) = words (name ++ [':'] ++ normalize text) := by
      have apart := words_append_gap back (name ++ [':'] ++ normalize text)
      rw [List.append_assoc, ← List.nil_append (normalize text ++ behind), ← whole] at apart
      simpa using apart
    rw [normalize, words_eq, ← normalize, normalize_append (normalize_word word) normal, solid]
    simp
  | cons c before =>
    have blank : startsBlank text = true := by
      rw [whole, List.cons_append, startsBlank]
      exact front c List.mem_cons_self
    have words_eq : words (name ++ ':' :: text) = (name ++ [':']) :: words text := by
      have apart := words_word_append word front (by simp) (normalize text ++ behind)
      rw [← whole, words_append_gap back, words_normalize] at apart
      simpa using apart
    rw [normalize, words_eq, join_cons, ← Clause.tail, ← List.cons_head_tail nonempty,
      Clause.tail_cons, List.cons_head_tail nonempty, ← normalize, blank]
    simp

end Text

namespace Query

/-- What the words behind a clause ask for: their clauses, and as free text what is left of them
without these and without connectives. -/
def behind (rest : List Text) : Query :=
  let clauses := Clause.scan (Clause.tail rest)
  { fields := Named.ofList ((parts clauses).filterMap Part.field?)
    dateFilters := (parts clauses).filterMap Part.date?
    fullText := asFullText (Text.trim (withoutConnectives (residue (Clause.tail rest) clauses))) }

theorem behind_nil : behind [] = {} := by rfl

variable {name text : Text}

/-- A name with an open value behind it is a clause in front of the words behind the value. -/
theorem exists_parse_name_append (field : IsFieldName name) (opened : text.IsOpenValue) :
    ∃ value own, Text.normalize text = value ++ Clause.tail text.wordsBehind ∧
      Part.ofClause? name (stripQuotes value) = some (.field name own) ∧
      (parse (name ++ ':' :: text)).fields = Named.ofList
        ((name, own) ::
          (parts (Clause.scan (Clause.tail text.wordsBehind))).filterMap Part.field?) ∧
      (parse (name ++ ':' :: text)).dateFilters = (behind text.wordsBehind).dateFilters ∧
      (parse (name ++ ':' :: text)).fullText = (behind text.wordsBehind).fullText := by
  obtain ⟨first, more, words, first_word, further⟩ := opened.exists_words
  let clause : Clause := ⟨name, Text.startsBlank text, first, more⟩
  have proper : clause.IsProper :=
    ⟨field.nonempty, field.chars, first_word.nonempty, first_word.spaceless, further⟩
  have ends := Text.endsBefore_wordsBehind text
  have value : Text.normalize text = clause.value ++ Clause.tail text.wordsBehind := by
    rw [Text.normalize, words, Clause.join_eq_value_append clause]
  have word : Text.IsWord (name ++ [':']) := Text.isWord_name_append field.chars (by simp)
  have written : Text.normalize (name ++ ':' :: text) =
      clause.source ++ Clause.tail text.wordsBehind := by
    rw [Text.normalize_name_append word opened.nonempty opened.spacing, Clause.source_append,
      Clause.join_eq_value_append, ← value]
  have scanned : Clause.scan (clause.source ++ Clause.tail text.wordsBehind) =
      clause :: Clause.scan (Clause.tail text.wordsBehind) :=
    Clause.scan_source_append (proper.at?_source_append ends)
  obtain ⟨own, stated⟩ : ∃ own,
      Part.ofClause? name (stripQuotes clause.value) = some (.field name own) := by
    rw [Part.ofClause?, if_neg field.noDate]
    split
    · exact ⟨_, rfl⟩
    · exact ⟨_, rfl⟩
  have stated_parts : parts (clause :: Clause.scan (Clause.tail text.wordsBehind)) =
      .field name own :: parts (Clause.scan (Clause.tail text.wordsBehind)) :=
    List.filterMap_cons_some stated
  have left : residue (clause.source ++ Clause.tail text.wordsBehind)
      (clause :: Clause.scan (Clause.tail text.wordsBehind)) =
        residue (Clause.tail text.wordsBehind) (Clause.scan (Clause.tail text.wordsBehind)) := by
    rw [residue_cons, Text.eraseFirst_append_self clause.source_ne_nil]
  have found : Clause.scan (clause.source ++ Clause.tail text.wordsBehind) ≠ [] := by simp [scanned]
  have read := ofNormalized_of_clauses found
  rw [scanned, stated_parts, left] at read
  refine ⟨clause.value, own, value, stated, ?_⟩
  rw [parse, written, read]
  exact ⟨rfl, rfl, rfl⟩

/-- A record that satisfies the clause in front answers the query if it answers what stands
behind. -/
theorem matches?_name_append_iff {record : Record} (field : IsFieldName name)
    (opened : text.IsOpenValue)
    (satisfied : ∀ value own, Text.normalize text = value ++ Clause.tail text.wordsBehind →
      Part.ofClause? name (stripQuotes value) = some (.field name own) →
      ∀ condition ∈ Condition.ofField? name own, condition.holds record = .ok true) :
    (parse (name ++ ':' :: text)).matches? record = .ok true ↔
      (behind text.wordsBehind).matches? record = .ok true := by
  obtain ⟨value, own, whole, stated, fields, dates, free⟩ := exists_parse_name_append field opened
  have holds := satisfied value own whole stated
  have same_years : (parse (name ++ ':' :: text)).IsInYears ↔
      (behind text.wordsBehind).IsInYears := by
    rw [IsInYears, dates, IsInYears]
  have same_text : (parse (name ++ ':' :: text)).freeText? =
      (behind text.wordsBehind).freeText? := by
    rw [freeText?, free, freeText?]
  constructor
  · intro answered
    have inYears := isInYears_of_matches? answered
    rw [matches?_eq_true_iff inYears, dates, same_text] at answered
    refine (matches?_eq_true_iff (same_years.mp inYears)).mpr ⟨?_, answered.2⟩
    intro member inside
    apply answered.1
    rw [fields]
    exact (Named.mem_ofList_cons ..).mpr (.inl inside)
  · intro answered
    have inYears := isInYears_of_matches? answered
    rw [matches?_eq_true_iff inYears] at answered
    rw [matches?_eq_true_iff (same_years.mpr inYears), dates, same_text]
    refine ⟨?_, answered.2⟩
    intro member inside
    rw [fields] at inside
    rcases (Named.mem_ofList_cons ..).mp inside with later | ⟨rfl, -⟩
    · exact answered.1 member later
    · exact holds

end Query
end RecordSearch
