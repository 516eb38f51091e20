import RecordSearch.Proofs.Text.Words
import RecordSearch.Search.Suggestion

/-! The token that is being typed. A text has its tokens between its longest runs of blanks, and a
completion that is applied takes the place of the last of them. The tokens in front of it stay what
they are, so that the next completion finds them again. -/
namespace RecordSearch

namespace Text

/-- The pieces of a text between its longest runs of blanks. A piece is empty only where a run
stands at an end. -/
inductive IsTokens : List Text → Text → Prop
  | last {token : Text} : (∀ c ∈ token, isBlank c = false) → IsTokens [token] token
  | cons {token gap rest : Text} {others : List Text} : (∀ c ∈ token, isBlank c = false) →
      IsGap gap → gap ≠ [] →
      startsBlank rest = false → IsTokens others rest →
        IsTokens (token :: others) (token ++ (gap ++ rest))

variable {text rest gap token : Text} {pieces others : List Text}

theorem startsBlank_append (nonempty : token ≠ []) (free : ∀ c ∈ token, isBlank c = false)
    (rest : Text) : startsBlank (token ++ rest) = false := by
  obtain ⟨c, more, rfl⟩ := List.exists_cons_of_ne_nil nonempty
  exact free c List.mem_cons_self

theorem startsBlank_gap (nonempty : gap ≠ []) (blanks : IsGap gap) (rest : Text) :
    startsBlank (gap ++ rest) = true := by
  obtain ⟨c, more, rfl⟩ := List.exists_cons_of_ne_nil nonempty
  exact blanks c List.mem_cons_self

theorem IsTokens.ne_nil (split : IsTokens pieces text) : pieces ≠ [] := by
  cases split <;> simp

theorem tokens_token_append (free : ∀ c ∈ token, isBlank c = false) {first : Text}
    (split : tokens rest = first :: others) :
    tokens (token ++ rest) = (token ++ first) :: others := by
  induction token with
  | nil => exact split
  | cons c token ih =>
    obtain ⟨letter, free⟩ := List.forall_mem_cons.mp free
    simp [tokens, letter, ih free, consFirst]

theorem tokens_gap_append (blanks : IsGap gap) (nonempty : gap ≠ [])
    (begins : startsBlank rest = false) : tokens (gap ++ rest) = [] :: tokens rest := by
  induction gap with
  | nil => contradiction
  | cons c gap ih =>
    obtain ⟨blank, blanks⟩ := List.forall_mem_cons.mp blanks
    by_cases single : gap = []
    · simp [single, tokens, blank, begins]
    · simp [tokens, blank, startsBlank_gap single blanks, ih blanks single]

theorem IsTokens.tokens_eq (split : IsTokens pieces text) : tokens text = pieces := by
  induction split with
  | @last token free =>
    have single : tokens [] = [[]] := rfl
    simpa using tokens_token_append free single
  | cons free blanks nonempty begins _ ih =>
    simpa [ih] using tokens_token_append free (tokens_gap_append blanks nonempty begins)

theorem IsTokens.consFirst {c : Char} (letter : isBlank c = false) (split : IsTokens pieces text) :
    IsTokens (consFirst c pieces) (c :: text) := by
  cases split with
  | last free => exact .last (List.forall_mem_cons.mpr ⟨letter, free⟩)
  | @cons token gap rest _ free blanks nonempty begins more =>
    have longer : ∀ d ∈ c :: token, isBlank d = false := List.forall_mem_cons.mpr ⟨letter, free⟩
    exact .cons longer blanks nonempty begins more

/-- A blank in front of a run of blanks belongs to the run. -/
theorem IsTokens.blank_cons {c : Char} (blank : isBlank c = true) (begins : startsBlank text = true)
    (split : IsTokens pieces text) : IsTokens pieces (c :: text) := by
  cases split with
  | last free =>
    cases text with
    | nil => contradiction
    | cons d more => simp [startsBlank, free d List.mem_cons_self] at begins
  | @cons token gap rest others free blanks nonempty ends more =>
    cases token with
    | nil =>
      have longer : IsGap (c :: gap) := List.forall_mem_cons.mpr ⟨blank, blanks⟩
      exact .cons free longer (by simp) ends more
    | cons d token => simp [startsBlank, free d List.mem_cons_self] at begins

theorem isTokens_tokens (text : Text) : IsTokens (tokens text) text := by
  have none : ∀ c ∈ ([] : Text), isBlank c = false := by simp
  induction text with
  | nil => exact .last none
  | cons c rest ih =>
    by_cases blank : isBlank c = true
    · by_cases begins : startsBlank rest = true
      · simpa [tokens, blank, begins] using ih.blank_cons blank begins
      · rw [Bool.not_eq_true] at begins
        have gap : IsGap [c] := by simpa [IsGap] using blank
        simpa [tokens, blank, begins] using IsTokens.cons none gap (by simp) begins ih
    · rw [Bool.not_eq_true] at blank
      simpa [tokens, blank] using ih.consFirst blank

/-- Splitting gives the pieces between the longest runs of blanks, and only one way to split has
that property. -/
theorem tokens_eq_iff : tokens text = pieces ↔ IsTokens pieces text :=
  ⟨fun split => split ▸ isTokens_tokens text, IsTokens.tokens_eq⟩

/-- The tokens in front of the last one stay apart when single spaces stand between them, whatever
comes behind. -/
theorem IsTokens.replaceLast (split : IsTokens pieces text)
    (written : IsTokens others (join [' '] others))
    (begins : startsBlank (join [' '] others) = false) :
    IsTokens (pieces.dropLast ++ others) (join [' '] (pieces.dropLast ++ others)) ∧
      (startsBlank text = false →
          startsBlank (join [' '] (pieces.dropLast ++ others)) = false) := by
  induction split with
  | last => exact ⟨written, fun _ => begins⟩
  | @cons token gap rest more free blanks nonempty ends split ih =>
    obtain ⟨later, solid⟩ := ih
    have space : IsGap [' '] := by simp [IsGap, isBlank]
    have front : (token :: more).dropLast = token :: more.dropLast :=
      List.dropLast_cons_of_ne_nil split.ne_nil
    have behind : more.dropLast ++ others ≠ [] :=
      List.append_ne_nil_of_right_ne_nil _ written.ne_nil
    have whole : join [' '] (token :: (more.dropLast ++ others)) =
        token ++ ([' '] ++ join [' '] (more.dropLast ++ others)) := by
      obtain ⟨next, last, cut⟩ := List.exists_cons_of_ne_nil behind
      simp [cut, join]
    rw [front, List.cons_append, whole]
    refine ⟨.cons free space (by simp) (solid ends) later, fun starts => ?_⟩
    -- An empty first token would leave the text to begin with the blanks behind it.
    have full : token ≠ [] := by
      rintro rfl
      simp [startsBlank_gap nonempty blanks] at starts
    exact startsBlank_append full free _

end Text

open Text

variable {query text : Text}

def completed (text : Text) (kind : HintKind) : List Text :=
  text :: if kind = .field then [] else [[]]

theorem applySuggestion_eq (query text : Text) (kind : HintKind) :
    applySuggestion query text kind =
      join [' '] ((tokens query).dropLast ++ completed text kind) := by
  by_cases field : kind = .field
  · simp [applySuggestion, completed, field]
  · have behind := join_append [' '] ((tokens query).dropLast ++ [text]) [[]] (by simp)
    simpa [applySuggestion, completed, field] using behind.symm

theorem isTokens_completed (proper : IsWord text) (kind : HintKind) :
    IsTokens (completed text kind) (join [' '] (completed text kind)) ∧
      startsBlank (join [' '] (completed text kind)) = false := by
  have alone : IsTokens [text] text := .last proper.free
  have space : IsGap [' '] := by simp [IsGap, isBlank]
  have spaced : IsTokens [text, []] (text ++ ([' '] ++ [])) :=
    .cons proper.free space (by simp) rfl (.last (by simp))
  by_cases field : kind = .field
  · have starts := startsBlank_append proper.nonempty proper.free []
    simpa [completed, field, join] using And.intro alone starts
  · have starts := startsBlank_append proper.nonempty proper.free [' ']
    simpa [completed, field, join] using And.intro spaced starts

theorem isTokens_applySuggestion (proper : IsWord text) (query : Text) (kind : HintKind) :
    IsTokens ((tokens query).dropLast ++ completed text kind)
      (applySuggestion query text kind) := by
  obtain ⟨written, begins⟩ := isTokens_completed proper kind
  rw [applySuggestion_eq]
  exact ((isTokens_tokens query).replaceLast written begins).1

/-- The tokens in front of the last one are still there behind any number of completed field
names. -/
theorem dropLast_tokens_applied {names : List Text} (proper : ∀ name ∈ names, IsWord name)
    (query : Text) :
    (tokens (names.foldl (applySuggestion · · .field) query)).dropLast =
    (tokens query).dropLast := by
  induction names generalizing query with
  | nil => rfl
  | cons name rest ih =>
    obtain ⟨first, later⟩ := List.forall_mem_cons.mp proper
    have step := (isTokens_applySuggestion first query .field).tokens_eq
    rw [List.foldl_cons, ih later, step]
    simp [completed]

/-- A completion takes the place of the last token. Behind anything but a field name a new, empty
token begins. Field names that are completed one after the other replace each other. -/
theorem applySuggestion_replaces_last_token (proper : IsWord text) (query : Text)
    (kind : HintKind) :
    tokens (applySuggestion query text kind) =
        (tokens query).dropLast ++ text :: (if kind = .field then [] else [[]]) ∧
      lastToken (applySuggestion query text kind) = (if kind = .field then text else []) ∧
      ∀ names : List Text, (∀ name ∈ names, IsWord name) →
        applySuggestion (names.foldl (applySuggestion · · .field) query) text kind =
          applySuggestion query text kind := by
  have split := (isTokens_applySuggestion proper query kind).tokens_eq
  refine ⟨split, ?_, fun names words => ?_⟩
  · rw [lastToken, split]
    by_cases field : kind = .field
    · simp [completed, field]
    · simp [completed, field]
  · rw [applySuggestion_eq, applySuggestion_eq, dropLast_tokens_applied words]

/-- Blanks at both ends and between the tokens, and two field names one after the other. -/
theorem applySuggestion_replaces_last_token_blanks :
    let query := "\t tags:a\u3000 \x1f ti".toList
    IsWord "content:".toList ∧ (∀ name ∈ ["title:".toList, "type:".toList], IsWord name) ∧
      tokens (applySuggestion query "content:".toList .field) =
        [[], "tags:a".toList, "content:".toList] ∧
      applySuggestion
        (applySuggestion (applySuggestion query "title:".toList .field) "type:".toList .field)
        "content:".toList .field = " tags:a content:".toList := by
  intro query
  have proper : IsWord "content:".toList := by decide
  have words : ∀ name ∈ ["title:".toList, "type:".toList], IsWord name := by decide
  obtain ⟨split, -, replaced⟩ := applySuggestion_replaces_last_token proper query .field
  have front : (tokens query).dropLast = [[], "tags:a".toList] := by decide +kernel
  refine ⟨proper, words, by rw [split, front]; rfl, ?_⟩
  have last := replaced ["title:".toList, "type:".toList] words
  rw [List.foldl_cons, List.foldl_cons, List.foldl_nil] at last
  rw [last]
  decide +kernel

end RecordSearch
