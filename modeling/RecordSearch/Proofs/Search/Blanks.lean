import RecordSearch.Proofs.Search.Listing
import RecordSearch.Proofs.Text.Solid

/-! Blanks in a query. Parsing normalizes the text first, and the check reads it as it was typed.
All the same both see no more of it than its words: a blank is neither a character of a name nor a
colon nor a quote, so that none can cut a name from its colon, join two names, or hide a quote. -/
namespace RecordSearch

namespace Text

variable {text other : Text}

theorem normalize_normalize (text : Text) : normalize (normalize text) = normalize text := by
  rw [normalize, words_normalize, normalize]

theorem isBlankText_iff (text : Text) : isBlankText text = true ↔ words text = [] := by
  constructor
  · intro blank
    exact words_gap ((isGap_iff text).mp blank)
  · intro empty
    have nothing : solid text = [] := by rw [← solid_normalize, normalize, empty, join, solid_nil]
    simpa [isBlankText, solid] using nothing

theorem isBlankText_normalize (text : Text) : isBlankText (normalize text) = isBlankText text := by
  rw [Bool.eq_iff_iff, isBlankText_iff, isBlankText_iff, words_normalize]

/-- Normalizing keeps every character that is not blank as often as it stands in the text. -/
theorem count_normalize {c : Char} (letter : isBlank c = false) (text : Text) :
    (normalize text).count c = text.count c := by
  have counted (text : Text) : (solid text).count c = text.count c :=
    List.count_filter (by simp [letter])
  rw [← counted, solid_normalize, counted]

theorem normalize_congr (same : words other = words text) : normalize other = normalize text := by
  rw [normalize, same, normalize]

end Text

open Text

variable {text other : Text}

namespace Query

theorem validate_normalize (text : Text) : validate (normalize text) = validate text := by
  have quotes : (normalize text).count '\x22' = text.count '\x22' :=
    count_normalize (by decide) text
  simp only [validate, isBlankText_normalize, quotes, markers_normalize]

theorem validate_congr (same : words other = words text) : validate other = validate text := by
  rw [← validate_normalize other, normalize_congr same, validate_normalize]

theorem parse_normalize (text : Text) : parse (normalize text) = parse text := by
  rw [parse, normalize_normalize, parse]

theorem parse_congr (same : words other = words text) : parse other = parse text := by
  rw [parse, normalize_congr same, parse]

end Query

namespace Service

theorem search_congr (same : words other = words text) (service : Service)
    (request : SearchRequest) :
    service.search { request with text := other } =
      service.search { request with text := text } := by
  simp only [search, refuses, queryOf_eq_parse, Query.validate_congr same, Query.parse_congr same]

/-- A query and its normalized text are checked and read alike, and so are any two queries with the
same words. What the check finds is one value, of which the reason, the message, the unknown names
and the hints are parts. -/
theorem blanks_never_matter (text : Text) :
    normalize (normalize text) = normalize text ∧
      Query.validate (normalize text) = Query.validate text ∧
      Query.parse (normalize text) = Query.parse text ∧
      ∀ other, words other = words text →
        Query.validate other = Query.validate text ∧
          ∀ (service : Service) (request : SearchRequest),
            service.search { request with text := other } =
              service.search { request with text := text } := by
  refine ⟨normalize_normalize text, Query.validate_normalize text, Query.parse_normalize text,
    fun other same => ?_⟩
  refine ⟨Query.validate_congr same, fun service request => ?_⟩
  exact search_congr same service request

/-- An ideographic space, a line separator and a unit separator in the place of spaces, and a strict
search. -/
theorem blanks_never_matter_separators :
    let text := " title:x AND\tbogus: \"y\" ".toList
    let other := "title:x\u3000AND\u2028\x1fbogus:\xa0\"y\"".toList
    words other = words text ∧ Query.validate other = .unknownFields ["bogus".toList] ∧
      ∀ service : Service, service.search { text := other, strict := true } =
        service.search { text := text, strict := true } := by
  intro text other
  have same : words other = words text := by decide +kernel
  obtain ⟨-, -, -, alike⟩ := blanks_never_matter text
  obtain ⟨checked, found⟩ := alike other same
  refine ⟨same, ?_, fun service => found service { text := text, strict := true }⟩
  rw [checked]
  decide +kernel

end Service
end RecordSearch
