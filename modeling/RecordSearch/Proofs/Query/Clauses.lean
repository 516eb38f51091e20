import Mathlib.Data.List.TakeWhile
import RecordSearch.Proofs.Text.Words
import RecordSearch.Query.Clause

/-! Where clauses are found. `Clause.at?_eq_some_iff` says which clause stands at the beginning of a
text, and `Piece.Scanned` which pieces a whole text is taken apart into; proofs about scanned
queries go by induction on it. -/
namespace RecordSearch

namespace Clause

/-- A word that continues a value: it has no colon and is no connective. -/
structure IsFurther (word : Text) : Prop where
  nonempty : word ≠ []
  spaceless : ' ' ∉ word
  colonless : ':' ∉ word
  noConnective : Connective.ofName? word = none

structure IsProper (clause : Clause) : Prop where
  name_nonempty : clause.name ≠ []
  name_chars : ∀ c ∈ clause.name, isNameChar c = true
  first_nonempty : clause.first ≠ []
  first_spaceless : ' ' ∉ clause.first
  further : ∀ word ∈ clause.more, IsFurther word

/-- The words behind a clause: none, or first one that ends its value. -/
structure EndsBefore (rest : List Text) : Prop where
  spaceless : ∀ word ∈ rest, ' ' ∉ word
  ends : ∀ word ∈ rest.head?, endsValue word = true

abbrev tail (rest : List Text) : Text := rest.flatMap ([' '] ++ ·)

theorem tail_append (words rest : List Text) : tail (words ++ rest) = tail words ++ tail rest :=
  List.flatMap_append

theorem tail_cons (word : Text) (rest : List Text) :
    tail (word :: rest) = ' ' :: Text.join [' '] (word :: rest) := by
  rw [Text.join_cons, tail, List.flatMap_cons]
  rfl

theorem head?_tail (words : List Text) : ∀ c ∈ (tail words).head?, c = ' ' := by
  cases words with
  | nil => simp
  | cons word rest => simp

theorem colonless_tail {words : List Text} (colonless : ∀ word ∈ words, ':' ∉ word) :
    ':' ∉ tail words := by
  simpa using colonless

theorem endsValue_eq_of_colonless {word : Text} (colonless : ':' ∉ word) :
    endsValue word = (Connective.ofName? word).isSome := by
  have closed : opens word = false := by
    rw [opens, Bool.and_eq_false_iff]
    right
    rw [beq_eq_false_iff_ne]
    intro head
    exact colonless (List.dropWhile_sublist _ |>.subset (List.mem_of_head? head))
  simp [endsValue, closed]

theorem IsFurther.endsValue_eq {word : Text} (proper : IsFurther word) :
    endsValue word = false := by
  simp [endsValue_eq_of_colonless proper.colonless, proper.noConnective]

/-- A value takes further words up to the first that ends it. -/
theorem furtherWords?_append {more rest : List Text} (further : ∀ word ∈ more, IsFurther word)
    (ends : ∀ word ∈ rest.head?, endsValue word = true) :
    furtherWords? (more ++ rest) = some more := by
  induction more with
  | nil =>
    cases rest with
    | nil => rfl
    | cons word rest => simp [furtherWords?, ends word rfl]
  | cons word more ih =>
    have proper := further word List.mem_cons_self
    have later := ih fun other member => further other (List.mem_cons_of_mem _ member)
    simp [furtherWords?, proper.endsValue_eq, proper.nonempty, proper.colonless, later]

theorem append_of_furtherWords? {words more : List Text} (spaceless : ∀ word ∈ words, ' ' ∉ word)
    (found : furtherWords? words = some more) :
    (∀ word ∈ more, IsFurther word) ∧ ∃ rest, words = more ++ rest ∧ EndsBefore rest := by
  induction words generalizing more with
  | nil =>
    obtain rfl : [] = more := by simpa [furtherWords?] using found
    exact ⟨by simp, [], rfl, by simp, by simp⟩
  | cons word words ih =>
    simp only [furtherWords?] at found
    split at found
    · next ending =>
      obtain rfl := Option.some.inj found
      exact ⟨by simp, word :: words, rfl, spaceless, by simpa using ending⟩
    · next going =>
      split at found
      · contradiction
      · next allowed =>
        obtain ⟨later, later_found, rfl⟩ := Option.map_eq_some_iff.mp found
        obtain ⟨further, rest, rfl, ends⟩ :=
          ih (fun other member => spaceless other (List.mem_cons_of_mem _ member)) later_found
        simp only [Bool.or_eq_true, List.isEmpty_iff, List.contains_eq_mem, decide_eq_true_eq,
          not_or] at allowed
        refine ⟨?_, rest, rfl, ends⟩
        simp only [List.mem_cons, forall_eq_or_imp]
        refine ⟨⟨allowed.1, spaceless word List.mem_cons_self, allowed.2, ?_⟩, further⟩
        simpa [endsValue_eq_of_colonless allowed.2] using going

theorem value_eq (clause : Clause) : clause.value = clause.first ++ tail clause.more :=
  Text.join_cons ..

theorem join_eq_value_append (clause : Clause) (rest : List Text) :
    Text.join [' '] (clause.first :: (clause.more ++ rest)) = clause.value ++ tail rest :=
  Text.join_append [' '] (clause.first :: clause.more) rest (by simp)

abbrev space (clause : Clause) : Text := if clause.spaced then [' '] else []

theorem source_append (clause : Clause) (rest : List Text) :
    clause.source ++ tail rest =
      clause.name ++ ':' ::
        (clause.space ++ Text.join [' '] (clause.first :: (clause.more ++ rest))) := by
  simp [source, join_eq_value_append]

/-- A clause behind its name and the colon is read from the words of its value. -/
theorem at?_name_append {name value : Text} (nonempty : name ≠ [])
    (chars : ∀ c ∈ name, isNameChar c = true) (spaced : Bool)
    (begins : spaced = false → value.head? ≠ some ' ') :
    at? (name ++ ':' :: ((if spaced then [' '] else []) ++ value)) =
      match Text.splitAt (· == ' ') value with
      | [] => none
      | first :: rest =>
        if first.isEmpty then none
        else (furtherWords? rest).map (⟨name, spaced, first, ·⟩) := by
  have colon : isNameChar ':' = false := by decide
  have takes (behind : Text) : (name ++ ':' :: behind).takeWhile isNameChar = name := by
    rw [List.takeWhile_append_of_pos chars, List.takeWhile_cons_of_neg (by simp [colon]),
      List.append_nil]
  have leaves (behind : Text) : (name ++ ':' :: behind).dropWhile isNameChar = ':' :: behind := by
    rw [List.dropWhile_append_of_pos chars, List.dropWhile_cons_of_neg (by simp [colon])]
  have reads (behind : Text) : at? (name ++ ':' :: behind) =
      match Text.splitAt (· == ' ')
          (if behind.head? == some ' ' then behind.drop 1 else behind) with
      | [] => none
      | first :: rest =>
        if first.isEmpty then
          none else (furtherWords? rest).map (⟨name, behind.head? == some ' ', first, ·⟩) := by
    obtain ⟨c, others, rfl⟩ := List.exists_cons_of_ne_nil nonempty
    rw [at?, takes, leaves]
    rfl
  rw [reads]
  cases spaced with
  | true => rfl
  | false =>
    have bare : (if false = true then [' '] else []) ++ value = value := rfl
    have different : (value.head? == some ' ') = false := beq_eq_false_iff_ne.mpr (begins rfl)
    rw [bare, different]
    rfl

theorem text_of_at? {text : Text} {clause : Clause} (found : at? text = some clause) :
    ∃ name spaced value,
      name ≠ [] ∧ (∀ c ∈ name, isNameChar c = true) ∧ (spaced = false → value.head? ≠ some ' ') ∧
      text = name ++ ':' :: ((if spaced then [' '] else []) ++ value) := by
  simp only [at?] at found
  split at found
  next behind nameless colon =>
    have named := List.takeWhile_append_dropWhile (p := isNameChar) (l := text)
    rw [colon] at named
    have nonempty : text.takeWhile isNameChar ≠ [] := by simpa using nameless
    refine ⟨text.takeWhile isNameChar, behind.head? == some ' ',
      if behind.head? == some ' ' then behind.drop 1 else behind, nonempty,
      fun c inside => List.mem_takeWhile_imp inside, ?_, ?_⟩
    · intro spaceless
      have different := beq_eq_false_iff_ne.mp spaceless
      rwa [if_neg (by simpa using different)]
    · refine named.symm.trans (congrArg (text.takeWhile isNameChar ++ ':' :: ·) ?_)
      cases behind with
      | nil => rfl
      | cons c behind => by_cases blank : c = ' ' <;> simp [blank]
  next => contradiction

/-- A proper clause is found where words follow that end its value. -/
theorem IsProper.at?_source_append {clause : Clause} {rest : List Text} (proper : clause.IsProper)
    (ends : EndsBefore rest) : at? (clause.source ++ tail rest) = some clause := by
  have spaceless : ∀ word ∈ clause.first :: (clause.more ++ rest), ' ' ∉ word := by
    simp only [List.mem_cons, List.mem_append, forall_eq_or_imp]
    refine ⟨proper.first_spaceless, fun word member => ?_⟩
    rcases member with member | member
    · exact (proper.further word member).spaceless
    · exact ends.spaceless word member
  have begins : (Text.join [' '] (clause.first :: (clause.more ++ rest))).head? ≠ some ' ' := by
    have first_spaceless := proper.first_spaceless
    obtain ⟨c, others, whole⟩ := List.exists_cons_of_ne_nil proper.first_nonempty
    rw [whole, List.mem_cons, not_or] at first_spaceless
    simpa [Text.join_cons, whole] using Ne.symm first_spaceless.1
  rw [source_append,
    at?_name_append proper.name_nonempty proper.name_chars clause.spaced fun _ => begins,
    Text.splitAt_join (by simp) spaceless]
  simp [furtherWords?_append proper.further ends.ends, proper.first_nonempty]

theorem source_append_of_at? {text : Text} {clause : Clause} (found : at? text = some clause) :
    clause.IsProper ∧ ∃ rest, text = clause.source ++ tail rest ∧ EndsBefore rest := by
  obtain ⟨name, spaced, value, nonempty, chars, begins, rfl⟩ := text_of_at? found
  rw [at?_name_append nonempty chars spaced begins] at found
  split at found
  · contradiction
  · next first words cut =>
    split at found
    · contradiction
    · next firstless =>
      have spaceless : ∀ word ∈ first :: words, ' ' ∉ word :=
        fun word member => Text.notMem_of_mem_splitAt (cut ▸ member)
      obtain ⟨more, further_found, rfl⟩ := Option.map_eq_some_iff.mp found
      obtain ⟨further, rest, rfl, ends⟩ :=
        append_of_furtherWords? (fun word member => spaceless word (List.mem_cons_of_mem _ member))
          further_found
      have proper : IsProper ⟨name, spaced, first, more⟩ :=
        ⟨nonempty, chars, by simpa using firstless, spaceless first List.mem_cons_self, further⟩
      refine ⟨proper, rest, ?_, ends⟩
      rw [source_append, ← cut, Text.join_splitAt]

/-- The clause at the beginning of a text, by what the text is made of. -/
theorem at?_eq_some_iff (text : Text) (clause : Clause) :
    at? text = some clause ↔
      clause.IsProper ∧ ∃ rest, text = clause.source ++ tail rest ∧ EndsBefore rest := by
  constructor
  · exact source_append_of_at?
  · rintro ⟨proper, rest, rfl, ends⟩
    exact proper.at?_source_append ends

/-- Where no clause begins with a run of name characters, none begins inside of the run. -/
theorem at?_eq_none_of_cons {c : Char} {rest : Text} (inside : isNameChar c = true)
    (none : at? (c :: rest) = none) : at? rest = Option.none := by
  rw [Option.eq_none_iff_forall_ne_some]
  intro clause found
  obtain ⟨⟨_, chars, nonempty, spaceless, further⟩, words, rfl, ends⟩ :=
    (at?_eq_some_iff _ _).mp found
  have longer : at? (c :: (clause.source ++ tail words)) =
      some { clause with name := c :: clause.name } := by
    refine (at?_eq_some_iff _ _).mpr ⟨⟨by simp, ?_, nonempty, spaceless, further⟩, words, rfl, ends⟩
    simpa [inside] using chars
  rw [longer] at none
  contradiction

/-- No clause begins where no colon follows the name characters. -/
theorem at?_eq_none_of_colonless {text : Text}
    (colonless : (text.dropWhile isNameChar).head? ≠ some ':') : at? text = none := by
  rw [Option.eq_none_iff_forall_ne_some]
  intro clause found
  obtain ⟨proper, words, rfl, _⟩ := (at?_eq_some_iff _ _).mp found
  rw [source_append, List.dropWhile_append_of_pos proper.name_chars,
    List.dropWhile_cons_of_neg (by decide)] at colonless
  exact colonless rfl

theorem at?_space_cons (rest : Text) : at? (' ' :: rest) = none :=
  at?_eq_none_of_colonless (by simp [show isNameChar ' ' = false by decide])

theorem head?_dropWhile_ne_colon {text rest : Text} (colonless : ':' ∉ text)
    (ends : ∀ c ∈ rest.head?, c = ' ') :
    ((text ++ rest).dropWhile isNameChar).head? ≠ some ':' := by
  induction text with
  | nil =>
    cases rest with
    | nil => simp
    | cons c rest =>
      obtain rfl := ends c rfl
      simp [show isNameChar ' ' = false by decide]
  | cons c text ih =>
    rw [List.mem_cons, not_or] at colonless
    by_cases inside : isNameChar c = true
    · rw [List.cons_append, List.dropWhile_cons_of_pos inside]
      exact ih colonless.2
    · rw [List.cons_append, List.dropWhile_cons_of_neg inside]
      simpa using Ne.symm colonless.1

theorem source_ne_nil (clause : Clause) : clause.source ≠ [] := by simp [source]

end Clause

namespace Piece

theorem filterMap_clause?_plain (c : Char) (rest : List Piece) :
    (Piece.plain c :: rest).filterMap clause? = rest.filterMap clause? := rfl

theorem filterMap_clause?_clause (found : Clause) (rest : List Piece) :
    (Piece.clause found :: rest).filterMap clause? = found :: rest.filterMap clause? := rfl

/-- The pieces of a text: where a clause begins it is a piece, and elsewhere one character is. -/
inductive Scanned : List Piece → Text → Prop
  | nil : Scanned [] []
  | clause {found : Clause} {pieces : List Piece}
      {rest : Text} : Clause.at? (found.source ++ rest) = some found →
      Scanned pieces rest → Scanned (.clause found :: pieces) (found.source ++ rest)
  | plain {c : Char} {pieces : List Piece} {rest : Text} : Clause.at? (c :: rest) = none →
      Scanned pieces rest → Scanned (.plain c :: pieces) (c :: rest)

theorem scanAfter_eq_scan_drop (skip : Nat) (text : Text) :
    scanAfter skip text = scan (text.drop skip) := by
  induction text generalizing skip with
  | nil => cases skip <;> rfl
  | cons c rest ih =>
    cases skip with
    | zero => rfl
    | succ skip => exact ih skip

theorem scan_source_append {found : Clause} {rest : Text}
    (here : Clause.at? (found.source ++ rest) = some found) :
    scan (found.source ++ rest) = .clause found :: scan rest := by
  obtain ⟨c, others, source⟩ := List.exists_cons_of_ne_nil found.source_ne_nil
  rw [source, List.cons_append] at here ⊢
  simp only [scan, scanAfter, here]
  rw [scanAfter_eq_scan_drop, source]
  simp [scan]

theorem scan_cons {c : Char} {rest : Text} (nowhere : Clause.at? (c :: rest) = none) :
    scan (c :: rest) = .plain c :: scan rest := by
  rw [scan, scanAfter, nowhere]
  rfl

theorem scanned_scan (text : Text) : Scanned (scan text) text := by
  induction length : text.length using Nat.strongRecOn generalizing text with
  | ind n ih =>
    cases text with
    | nil => exact .nil
    | cons c rest =>
      cases found : Clause.at? (c :: rest) with
      | none =>
        rw [scan_cons found]
        exact .plain found (ih rest.length (by simp [← length]) rest rfl)
      | some clause =>
        obtain ⟨-, words, whole, -⟩ := (Clause.at?_eq_some_iff _ _).mp found
        rw [whole] at found length ⊢
        have shorter := List.length_pos_iff.mpr clause.source_ne_nil
        rw [List.length_append] at length
        rw [scan_source_append found]
        exact .clause found (ih _ (by omega) _ rfl)

/-- There is one way to take a text apart. -/
theorem Scanned.scan_eq {pieces : List Piece} {text : Text} (scanned : Scanned pieces text) :
    scan text = pieces := by
  induction scanned with
  | nil => rfl
  | clause here _ ih => rw [scan_source_append here, ih]
  | plain nowhere _ ih => rw [scan_cons nowhere, ih]

/-- The pieces put together are the text. -/
theorem flatMap_source_scan (text : Text) : (scan text).flatMap source = text := by
  have scanned := scanned_scan text
  generalize scan text = pieces at scanned
  induction scanned with
  | nil => rfl
  | clause _ _ ih => rw [List.flatMap_cons, ih]; rfl
  | plain _ _ ih => rw [List.flatMap_cons, ih]; rfl

/-- Every clause that is found is proper. -/
theorem Scanned.isProper {pieces : List Piece} {text : Text} (scanned : Scanned pieces text) :
    ∀ found ∈ pieces.filterMap clause?, found.IsProper := by
  induction scanned with
  | nil => simp
  | clause here _ ih =>
    rw [filterMap_clause?_clause]
    exact List.forall_mem_cons.mpr ⟨((Clause.at?_eq_some_iff _ _).mp here).1, ih⟩
  | plain _ _ ih => exact ih

/-- What stands at the end of a scanned text behind a clause: nothing, or words from a space on. -/
theorem tail_of_at? {found : Clause} {rest : Text}
    (here : Clause.at? (found.source ++ rest) = some found) :
    ∃ words, rest = Clause.tail words ∧ Clause.EndsBefore words := by
  obtain ⟨-, words, whole, ends⟩ := (Clause.at?_eq_some_iff _ _).mp here
  exact ⟨words, List.append_cancel_left whole, ends⟩

/-- A text without colons before the next space or the end is scanned character by character. -/
theorem Scanned.plain_append {pieces : List Piece} {text rest : Text}
    (scanned : Scanned pieces rest) (colonless : ':' ∉ text) (ends : ∀ c ∈ rest.head?, c = ' ') :
    Scanned (text.map .plain ++ pieces) (text ++ rest) := by
  induction text with
  | nil => exact scanned
  | cons c text ih =>
    rw [List.mem_cons, not_or] at colonless
    refine .plain (Clause.at?_eq_none_of_colonless ?_) (ih colonless.2)
    exact @Clause.head?_dropWhile_ne_colon (c :: text) _ (by simpa using colonless) ends

end Piece

theorem Clause.isProper_of_mem_scan {text : Text} {clause : Clause} (member : clause ∈ scan text) :
    clause.IsProper :=
  (Piece.scanned_scan text).isProper clause member

/-- A clause that is found stands in the text. -/
theorem Clause.mem_of_mem_source {text : Text} {clause : Clause} (member : clause ∈ scan text)
    {c : Char} (inside : c ∈ clause.source) : c ∈ text := by
  obtain ⟨piece, found, shown⟩ := List.mem_filterMap.mp member
  cases piece with
  | plain d => contradiction
  | clause other =>
    obtain rfl := Option.some.inj shown
    rw [← Piece.flatMap_source_scan text]
    exact List.mem_flatMap.mpr ⟨_, found, inside⟩

end RecordSearch
