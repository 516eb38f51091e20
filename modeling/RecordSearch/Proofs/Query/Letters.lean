import RecordSearch.Proofs.Query.Clauses
import RecordSearch.Proofs.Query.Connectives
import RecordSearch.Proofs.Query.Parts

/-! The letters of a text: what is neither a blank nor a quote. A clause states the letters of its
value, whatever quotes and blanks it has besides, and a connective that is taken out of a text costs
letters. -/
namespace RecordSearch
namespace Query

/-- The characters that a value has before and after it is taken apart: neither blanks nor
quotes. -/
def letters (text : Text) : Text := (Text.solid text).filter fun c => !isQuote c

theorem letters_append (text rest : Text) :
    letters (text ++ rest) = letters text ++ letters rest := by
  rw [letters, Text.solid_append, List.filter_append]
  rfl

theorem letters_trim (text : Text) : letters (Text.trim text) = letters text := by
  rw [letters, Text.solid_trim, letters]

theorem letters_quote_cons {c : Char} (quote : isQuote c = true) (rest : Text) :
    letters (c :: rest) = letters rest := by
  rw [letters, letters, Text.solid, Text.solid, List.filter_filter, List.filter_filter,
    List.filter_cons_of_neg (by simp [quote])]

theorem letters_stripQuotes (text : Text) : letters (stripQuotes text) = letters text := by
  have front (other : Text) : letters (dropOpeningQuote other) = letters other := by
    cases other with
    | nil => rfl
    | cons c rest =>
      rw [dropOpeningQuote]
      split
      · next quote => exact (letters_quote_cons quote rest).symm
      · rfl
  have turned (other : Text) : letters other.reverse = (letters other).reverse := by
    rw [letters, Text.solid, List.filter_reverse, List.filter_reverse]
    rfl
  rw [stripQuotes, turned, front, turned, front, List.reverse_reverse]

theorem letters_join (gap : Text) (pieces : List Text) :
    letters (Text.join gap pieces) = Text.join (letters gap) (pieces.map letters) := by
  fun_induction Text.join gap pieces with
  | case1 => rfl
  | case2 piece => rfl
  | case3 piece rest nonempty ih =>
    obtain ⟨next, others, rfl⟩ := List.exists_cons_of_ne_nil nonempty
    rw [letters_append, letters_append, ih]
    rfl

/-- What a clause states has its letters, whatever quotes and blanks its value has besides. -/
theorem Part.letters_eq {name other value content : Text} {part : Part}
    (stated : ofClause? name value = some part) (restated : ofClause? other content = some part) :
    name = other ∧ letters value = letters content := by
  rcases ofClause?_cases stated
    with ⟨-, operator, target, split, rfl⟩ | ⟨-, -, -, rfl⟩ | ⟨-, -, rfl⟩
  · rcases ofClause?_cases restated
      with ⟨-, _, behind, again, same⟩ | ⟨-, -, -, same⟩ | ⟨-, -, same⟩
    · obtain ⟨rfl, rfl, trimmed⟩ := DateFilter.mk.inj (date.inj same)
      rw [append_of_splitOperator? split, append_of_splitOperator? again, letters_append,
        letters_append, ← letters_trim target, trimmed, letters_trim]
      exact ⟨rfl, rfl⟩
    · contradiction
    · contradiction
  · rcases ofClause?_cases restated with ⟨-, _, _, -, same⟩ | ⟨-, -, -, same⟩ | ⟨-, -, same⟩
    · contradiction
    · obtain ⟨names, values⟩ := field.inj same
      have members (text : Text) : letters text =
          Text.join (letters [','])
            (((Text.splitAt (· == ',') text).map Text.trim).map letters) := by
        have trimmed : letters ∘ Text.trim = letters := funext letters_trim
        rw [List.map_map, trimmed, ← letters_join, Text.join_splitAt]
      rw [members value, Value.list.inj values, ← members]
      exact ⟨names, rfl⟩
    · obtain ⟨-, values⟩ := field.inj same
      contradiction
  · rcases ofClause?_cases restated with ⟨-, _, _, -, same⟩ | ⟨-, -, -, same⟩ | ⟨-, -, same⟩
    · contradiction
    · obtain ⟨-, values⟩ := field.inj same
      contradiction
    · obtain ⟨names, values⟩ := field.inj same
      rw [Value.single.inj values]
      exact ⟨names, rfl⟩

/-- Clauses that state the same have the same letters. -/
theorem letters_source_eq {clause other : Clause} {part : Part}
    (stated : Part.ofClause? clause.name (stripQuotes clause.value) = some part)
    (restated : Part.ofClause? other.name (stripQuotes other.value) = some part) :
    clause.name = other.name ∧ letters clause.source = letters other.source := by
  have source (clause : Clause) :
      letters clause.source = letters clause.name ++ ':' :: letters clause.value := by
    have space : letters clause.space = [] := by
      cases spaced : clause.spaced <;> simp [Clause.space, spaced, letters]
    rw [Clause.source, letters_append, ← List.singleton_append, letters_append,
      letters_append, space]
    rfl
  obtain ⟨name, value⟩ := Part.letters_eq stated restated
  rw [letters_stripQuotes, letters_stripQuotes] at value
  exact ⟨name, by rw [source, source, name, value]⟩

theorem toUpper_of_isNameChar {c : Char} (other : isNameChar c = false) : c.toUpper = c := by
  have same : ¬ ('a'.val ≤ c.val ∧ c.val ≤ 'z'.val) := by
    delta isNameChar Char.isAlphanum Char.isAlpha Char.isLower at other
    simp only [Bool.or_eq_false_iff, Bool.and_eq_false_iff, decide_eq_false_iff_not] at other
    tauto
  exact dif_neg same

theorem letters_ne_nil_of_ofWord? {word : Text} {connective : Connective}
    (spelled : Connective.ofWord? word = some connective) : letters word ≠ [] := by
  intro none
  have same := Connective.name_of_ofWord? spelled
  have named : ∀ c ∈ connective.name, isNameChar c = true := by
    cases connective <;> exact List.all_eq_true.mp (by decide)
  cases word with
  | nil => cases connective <;> exact absurd same (by decide)
  | cons c rest =>
    -- A blank or a quote is its own capital, and no connective has one.
    have unnamed : isNameChar c = false := by
      have outside := List.filter_eq_nil_iff.mp none c
      rw [Text.mem_solid] at outside
      by_cases blank : isBlank c = true
      · exact isNameChar_of_isBlank blank
      · have quote : isQuote c = true := by simpa [blank] using outside
        simp only [isQuote, Bool.or_eq_true, beq_iff_eq] at quote
        rcases quote with rfl | rfl <;> decide
    have upper := named c.toUpper (by simp [same])
    rw [toUpper_of_isNameChar unnamed, unnamed] at upper
    contradiction

/-- Every connective that is taken out has letters. -/
theorem length_letters_withoutConnectives (text : Text) :
    (letters (withoutConnectives text)).length + (connectivesIn text).length ≤
    (letters text).length := by
  have whole := Text.ofChunks_chunks isWordChar text
  rw [withoutConnectives, connectivesIn]
  conv => rhs; rw [← whole]
  generalize Text.chunks isWordChar text = chunks
  induction chunks with
  | nil => exact Nat.le_refl 0
  | cons chunk rest ih =>
    have step : letters (Text.ofChunks (chunk :: rest)) =
        letters chunk.text ++ letters (Text.ofChunks rest) :=
      letters_append _ _
    cases found : connective? chunk with
    | none =>
      have kept :
          letters (Text.ofChunks (chunk :: rest.filter fun chunk => (connective? chunk).isNone)) =
          letters chunk.text ++
            letters (Text.ofChunks (rest.filter fun chunk => (connective? chunk).isNone)) :=
        letters_append _ _
      rw [List.filter_cons_of_pos (by rw [found]; rfl), List.filterMap_cons_none found, step, kept,
        List.length_append, List.length_append]
      omega
    | some connective =>
      have some_letter : 0 < (letters chunk.text).length := by
        cases chunk with
        | other c => contradiction
        | run word => exact List.length_pos_iff.mpr (letters_ne_nil_of_ofWord? found)
      rw [List.filter_cons_of_neg (by rw [found]; simp), List.filterMap_cons_some found, step,
        List.length_append, List.length_cons]
      omega

end Query
end RecordSearch
