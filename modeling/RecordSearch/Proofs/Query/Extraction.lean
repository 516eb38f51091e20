import Mathlib.Data.List.Induction
import Mathlib.Data.List.Sort
import RecordSearch.Proofs.Query.Clauses
import RecordSearch.Proofs.Query.Parts
import RecordSearch.Proofs.Text.Places

/-! Which stretches of a text the scan takes for clauses, said of their offsets alone: the leftmost
and shortest stretches of the shape of a clause in front of what may end one, and all of them. -/
namespace RecordSearch

namespace Clause

/-- A run without spaces, and words without colons, each behind one space. -/
inductive IsValueText : Text → Prop
  | first {run : Text} : run ≠ [] → ' ' ∉ run → IsValueText run
  | further {value word : Text} : IsValueText value → word ≠ [] → ' ' ∉ word → ':' ∉ word →
      IsValueText (value ++ ' ' :: word)

/-- What a clause ends in front of: nothing, a field name with its colon, or a connective. -/
inductive IsEnding : Text → Prop
  | nothing : IsEnding []
  | marker {name rest : Text} : name ≠ [] → (∀ c ∈ name, isNameChar c = true) →
      IsEnding (' ' :: (name ++ ':' :: rest))
  | connective (connective : Connective) {rest : Text} : (∀ c ∈ rest.head?, c = ' ') →
      IsEnding (' ' :: (connective.name ++ rest))

/-- The text has the shape of a clause: a field name, a colon, at most one space and a value. -/
inductive IsClauseText : Text → Prop
  | intro {name gap value : Text} : name ≠ [] → (∀ c ∈ name, isNameChar c = true) →
      gap = [] ∨ gap = [' '] →
      IsValueText value → IsClauseText (name ++ ':' :: (gap ++ value))

/-- The characters from one offset up to another can be read as a clause where they stand. -/
structure Reads (text : Text) (start stop : Nat) : Prop where
  within : stop ≤ text.length
  free : ∀ c ∈ (text.take start).getLast?, isNameChar c = false
  shape : IsClauseText (text.slice start stop)
  ends : IsEnding (text.drop stop)

/-- The stretches of a text that are taken for clauses: apart from each other and in order, each as
short as it can be, and no place outside of them where another could begin. -/
structure IsExtraction (text : Text) (spans : List (Nat × Nat)) : Prop where
  apart : spans.Pairwise fun span later => span.2 ≤ later.1
  reads : ∀ span ∈ spans, Reads text span.1 span.2
  shortest : ∀ span ∈ spans, ∀ stop < span.2, ¬ Reads text span.1 stop
  complete : ∀ start, (∀ span ∈ spans, start < span.1 ∨ span.2 ≤ start) → ∀ stop,
    ¬ Reads text start stop

theorem isValueText_iff {value : Text} :
    IsValueText value ↔ ∃ first more, value = Text.join [' '] (first :: more) ∧
    first ≠ [] ∧ ' ' ∉ first ∧ ∀ word ∈ more, word ≠ [] ∧ ' ' ∉ word ∧ ':' ∉ word := by
  constructor
  · intro shape
    induction shape with
    | first nonempty spaceless => exact ⟨_, [], rfl, nonempty, spaceless, by simp⟩
    | @further value word _ nonempty spaceless colonless ih =>
      obtain ⟨first, more, rfl, first_nonempty, first_spaceless, further⟩ := ih
      refine ⟨first, more ++ [word], ?_, first_nonempty, first_spaceless, ?_⟩
      · rw [← List.cons_append, Text.join_append _ _ _ (List.cons_ne_nil first more)]
        simp
      · intro other member
        rcases List.mem_append.mp member with member | member
        · exact further other member
        · obtain rfl := List.mem_singleton.mp member
          exact ⟨nonempty, spaceless, colonless⟩
  · rintro ⟨first, more, rfl, nonempty, spaceless, further⟩
    induction more using List.reverseRecOn with
    | nil => exact .first nonempty spaceless
    | append_singleton more word ih =>
      obtain ⟨word_nonempty, word_spaceless, colonless⟩ := further word (by simp)
      have value := ih fun other member => further other (List.mem_append_left _ member)
      rw [← List.cons_append, Text.join_append _ _ _ (List.cons_ne_nil first more)]
      simpa using value.further word_nonempty word_spaceless colonless

/-- A text without spaces begins the first word of what it stands in front of. -/
theorem exists_splitAt_append {text : Text} (spaceless : ' ' ∉ text) (rest : Text) :
    ∃ first others, Text.splitAt (· == ' ') (text ++ rest) = (text ++ first) :: others := by
  induction text with
  | nil =>
    obtain ⟨first, others, cut⟩ := List.exists_cons_of_ne_nil (Text.splitAt_ne_nil (· == ' ') rest)
    exact ⟨first, others, cut⟩
  | cons c text ih =>
    rw [List.mem_cons, not_or] at spaceless
    obtain ⟨first, others, cut⟩ := ih spaceless.2
    refine ⟨first, others, ?_⟩
    simp [Text.splitAt, Ne.symm spaceless.1, cut, Text.consFirst]

theorem tail_splitAt (rest : Text) : tail (Text.splitAt (· == ' ') rest) = ' ' :: rest := by
  obtain ⟨first, others, cut⟩ := List.exists_cons_of_ne_nil (Text.splitAt_ne_nil (· == ' ') rest)
  rw [cut, tail_cons, ← cut, Text.join_splitAt]

theorem opens_name_append {name : Text} (nonempty : name ≠ [])
    (chars : ∀ c ∈ name, isNameChar c = true) (rest : Text) :
    opens (name ++ ':' :: rest) = true := by
  have colon : ¬ isNameChar ':' = true := by decide
  rw [opens, List.takeWhile_append_of_pos chars, List.dropWhile_append_of_pos chars,
    List.takeWhile_cons_of_neg colon, List.dropWhile_cons_of_neg colon]
  simpa using nonempty

theorem exists_name_of_opens {word : Text} (open_ : opens word = true) :
    ∃ name rest, word = name ++ ':' :: rest ∧ name ≠ [] ∧ ∀ c ∈ name, isNameChar c = true := by
  simp only [opens, Bool.and_eq_true, Bool.not_eq_true', List.isEmpty_eq_false_iff,
    beq_iff_eq] at open_
  obtain ⟨rest, behind⟩ : ∃ rest, word.dropWhile isNameChar = ':' :: rest := by
    cases shown : word.dropWhile isNameChar with
    | nil => simp [shown] at open_
    | cons c rest =>
      obtain rfl : c = ':' := by simpa [shown] using open_.2
      exact ⟨rest, rfl⟩
  refine ⟨word.takeWhile isNameChar, rest, ?_, open_.1,
    fun c inside => List.mem_takeWhile_imp inside⟩
  rw [← behind, List.takeWhile_append_dropWhile]

theorem isEnding_iff {rest : Text} :
    IsEnding rest ↔ ∃ words, rest = tail words ∧ EndsBefore words := by
  constructor
  · intro ending
    cases ending with
    | nothing => exact ⟨[], rfl, by simp, by simp⟩
    | @marker name rest nonempty chars =>
      have spaceless : ' ' ∉ name ++ [':'] := by
        intro inside
        rcases List.mem_append.mp inside with inside | inside
        · have space := chars ' ' inside
          contradiction
        · simp at inside
      obtain ⟨first, others, cut⟩ := exists_splitAt_append spaceless rest
      rw [List.append_assoc, List.singleton_append] at cut
      refine ⟨_, (tail_splitAt _).symm, fun word => Text.notMem_of_mem_splitAt, ?_⟩
      rw [cut]
      rintro word ⟨⟩
      rw [endsValue, List.append_assoc, List.singleton_append,
        opens_name_append nonempty chars, Bool.true_or]
    | @connective connective rest begins =>
      refine ⟨_, (tail_splitAt _).symm, fun word => Text.notMem_of_mem_splitAt, ?_⟩
      have named : (Connective.ofName? connective.name).isSome = true := by
        cases connective <;> decide
      have alone : Text.splitAt (· == ' ') connective.name = [connective.name] := by
        cases connective <;> decide
      have first : ∃ others,
          Text.splitAt (· == ' ') (connective.name ++ rest) = connective.name :: others := by
        cases rest with
        | nil => exact ⟨[], by rw [List.append_nil, alone]⟩
        | cons c rest =>
          obtain rfl := begins c rfl
          exact ⟨_, by rw [Text.splitAt_append_separator (by decide), alone]; rfl⟩
      obtain ⟨others, cut⟩ := first
      rw [cut]
      rintro word ⟨⟩
      rw [endsValue, named, Bool.or_true]
  · rintro ⟨words, rfl, -, ends⟩
    cases words with
    | nil => exact .nothing
    | cons word rest =>
      have ending := ends word rfl
      rw [endsValue, Bool.or_eq_true] at ending
      rcases ending with opened | named
      · obtain ⟨name, behind, rfl, nonempty, chars⟩ := exists_name_of_opens opened
        simpa [tail] using @IsEnding.marker name (behind ++ tail rest) nonempty chars
      · obtain ⟨connective, found⟩ := Option.isSome_iff_exists.mp named
        obtain rfl : connective.name = word := by simpa using List.find?_some found
        simpa [tail] using IsEnding.connective connective (head?_tail rest)

theorem exists_of_at? {text : Text} {clause : Clause} (found : at? text = some clause) :
    IsClauseText clause.source ∧ ∃ rest, text = clause.source ++ rest ∧ IsEnding rest := by
  obtain ⟨proper, words, whole, ends⟩ := (at?_eq_some_iff _ _).mp found
  have value : IsValueText clause.value := by
    refine isValueText_iff.mpr ⟨clause.first, clause.more, rfl, proper.first_nonempty,
        proper.first_spaceless, ?_⟩
    intro word member
    have further := proper.further word member
    exact ⟨further.nonempty, further.spaceless, further.colonless⟩
  have gap : clause.space = [] ∨ clause.space = [' '] := by
    rw [space]
    split
    · exact .inr rfl
    · exact .inl rfl
  exact ⟨.intro proper.name_nonempty proper.name_chars gap value, _, whole,
    isEnding_iff.mpr ⟨words, rfl, ends⟩⟩

/-- Where a stretch of the shape of a clause stands in front of an ending, a clause is found that is
no longer. -/
theorem exists_at?_append {text rest : Text} (shape : IsClauseText text) (ending : IsEnding rest) :
    ∃ clause, at? (text ++ rest) = some clause ∧ clause.source.length ≤ text.length := by
  obtain ⟨nonempty, chars, gap, value⟩ := shape
  rename_i name gap_text value_text
  obtain ⟨first, more, rfl, first_nonempty, first_spaceless, further⟩ := isValueText_iff.mp value
  obtain ⟨words, rfl, ends⟩ := isEnding_iff.mp ending
  -- The value stops at the first of its words that ends a value.
  obtain ⟨front, back, rfl, going, stops⟩ : ∃ front back,
      more = front ++ back ∧ (∀ word ∈ front, endsValue word = false) ∧
      ∀ word ∈ back.head?, endsValue word = true := by
    refine ⟨more.takeWhile (!endsValue ·), more.dropWhile (!endsValue ·),
      List.takeWhile_append_dropWhile.symm, ?_, ?_⟩
    · intro word member
      simpa using List.mem_takeWhile_imp member
    · intro word head
      have stop := List.head?_dropWhile_not (!endsValue ·) more
      rw [Option.mem_def.mp head] at stop
      simpa using stop
  obtain ⟨spaced, rfl⟩ : ∃ spaced, gap_text = if spaced = true then [' '] else [] := by
    rcases gap with rfl | rfl
    · exact ⟨false, rfl⟩
    · exact ⟨true, rfl⟩
  have proper : IsProper ⟨name, spaced, first, front⟩ := by
    refine ⟨nonempty, chars, first_nonempty, first_spaceless, fun word member => ?_⟩
    obtain ⟨word_nonempty, spaceless, colonless⟩ := further word (List.mem_append_left _ member)
    refine ⟨word_nonempty, spaceless, colonless, ?_⟩
    simpa [endsValue_eq_of_colonless colonless] using going word member
  have behind : EndsBefore (back ++ words) := by
    constructor
    · intro word member
      rcases List.mem_append.mp member with member | member
      · exact (further word (List.mem_append_right _ member)).2.1
      · exact ends.spaceless word member
    · cases back with
      | nil => exact ends.ends
      | cons word back => exact stops
  have whole : name ++ ':' :: ((if spaced = true then [' '] else []) ++
      Text.join [' '] (first :: (front ++ back))) =
        source ⟨name, spaced, first, front⟩ ++ tail back :=
    (source_append ⟨name, spaced, first, front⟩ back).symm
  refine ⟨⟨name, spaced, first, front⟩, ?_, ?_⟩
  · rw [whole, List.append_assoc, ← tail_append]
    exact proper.at?_source_append behind
  · rw [whole, List.length_append]
    omega

end Clause

namespace Piece

def clausesPlaced : Nat → List Piece → List (Clause × Nat)
  | _, [] => []
  | start, .plain _ :: rest => clausesPlaced (start + 1) rest
  | start, .clause found :: rest =>
    (found, start) :: clausesPlaced (start + found.source.length) rest

variable {pieces : List Piece} {rest : Text}

theorem map_fst_clausesPlaced (start : Nat) (pieces : List Piece) :
    (clausesPlaced start pieces).map Prod.fst = pieces.filterMap clause? := by
  induction pieces generalizing start with
  | nil => rfl
  | cons piece rest ih =>
    cases piece with
    | plain c => exact ih _
    | clause found => exact congrArg (found :: ·) (ih _)

theorem le_of_mem_clausesPlaced {start : Nat} {placed : Clause × Nat}
    (member : placed ∈ clausesPlaced start pieces) : start ≤ placed.2 := by
  induction pieces generalizing start with
  | nil => simp [clausesPlaced] at member
  | cons piece rest ih =>
    cases piece with
    | plain c =>
      have later := ih member
      omega
    | clause found =>
      rcases List.mem_cons.mp member with rfl | member
      · exact Nat.le_refl start
      · have later := ih member
        omega

theorem pairwise_clausesPlaced (start : Nat) (pieces : List Piece) :
    (clausesPlaced start pieces).Pairwise fun first later =>
      first.2 + first.1.source.length ≤ later.2 := by
  induction pieces generalizing start with
  | nil => exact .nil
  | cons piece rest ih =>
    cases piece with
    | plain c => exact ih _
    | clause found => exact .cons (fun _ member => le_of_mem_clausesPlaced member) (ih _)

theorem Scanned.at?_drop_of_mem (scanned : Scanned pieces rest) (before : Text)
    {placed : Clause × Nat} (member : placed ∈ clausesPlaced before.length pieces) :
    Clause.at? ((before ++ rest).drop placed.2) = some placed.1 := by
  -- The induction is on the pieces still to come; `before` is the text of the pieces so far.
  induction scanned generalizing before with
  | nil => simp [clausesPlaced] at member
  | @plain c pieces rest _ _ ih =>
    have later := ih (before ++ [c]) (by simpa [clausesPlaced] using member)
    simpa using later
  | @clause found pieces rest here _ ih =>
    rcases List.mem_cons.mp member with rfl | member
    · rw [List.drop_left, here]
    · have later := ih (before ++ found.source) (by rwa [List.length_append])
      rwa [List.append_assoc] at later

/-- A clause that is found begins with the first of the name characters that stand there. -/
theorem Scanned.free_of_mem (scanned : Scanned pieces rest) (before : Text)
    (begins : Clause.at? rest ≠ none → ∀ c ∈ before.getLast?, isNameChar c = false)
    {placed : Clause × Nat} (member : placed ∈ clausesPlaced before.length pieces) :
    ∀ c ∈ ((before ++ rest).take placed.2).getLast?, isNameChar c = false := by
  induction scanned generalizing before with
  | nil => simp [clausesPlaced] at member
  | @plain c pieces rest nowhere _ ih =>
    have later := ih (before ++ [c]) ?_ (by simpa [clausesPlaced] using member)
    · simpa using later
    · intro found d last
      obtain rfl : c = d := by simpa using last
      by_contra inside
      exact found (Clause.at?_eq_none_of_cons (by simpa using inside) nowhere)
  | @clause found pieces rest here _ ih =>
    rcases List.mem_cons.mp member with rfl | member
    · rw [List.take_left]
      exact begins (by simp [here])
    · have later := ih (before ++ found.source) ?_ (by rwa [List.length_append])
      · rwa [List.append_assoc] at later
      · intro behind
        obtain ⟨words, rfl, -⟩ := tail_of_at? here
        cases words with
        | nil => exact absurd rfl behind
        | cons word words =>
          rw [Clause.tail_cons] at behind
          exact absurd (Clause.at?_space_cons _) behind

theorem Scanned.at?_drop_eq_none (scanned : Scanned pieces rest) (before : Text) {place : Nat}
    (behind : before.length ≤ place)
    (outside : ∀ placed ∈ clausesPlaced before.length pieces,
      place < placed.2 ∨ placed.2 + placed.1.source.length ≤ place) :
    Clause.at? ((before ++ rest).drop place) = none := by
  induction scanned generalizing before with
  | nil =>
    rw [List.append_nil, List.drop_of_length_le behind]
    rfl
  | @plain c pieces rest nowhere _ ih =>
    by_cases here : place = before.length
    · rw [here, List.drop_left, nowhere]
    · have later := ih (before ++ [c]) (by simp; omega) (by simpa [clausesPlaced] using outside)
      simpa using later
  | @clause found pieces rest _ _ ih =>
    obtain ⟨first, others⟩ := List.forall_mem_cons.mp outside
    have behind_found : before.length + found.source.length ≤ place := by
      have apart : place < before.length ∨ before.length + found.source.length ≤ place := first
      omega
    have later :=
      ih (before ++ found.source) (by rwa [List.length_append]) (by rwa [List.length_append])
    rwa [List.append_assoc] at later

end Piece

namespace Clause

def scanPlaced (text : Text) : List (Clause × Nat) := Piece.clausesPlaced 0 (Piece.scan text)

def spans (text : Text) : List (Nat × Nat) :=
  (scanPlaced text).map fun placed => (placed.2, placed.2 + placed.1.source.length)

theorem map_fst_scanPlaced (text : Text) : (scanPlaced text).map Prod.fst = scan text :=
  Piece.map_fst_clausesPlaced 0 (Piece.scan text)

variable {text : Text} {start stop : Nat}

theorem reads_of_at? {clause : Clause} (found : at? (text.drop start) = some clause)
    (free : ∀ c ∈ (text.take start).getLast?, isNameChar c = false) :
    text.slice start (start + clause.source.length) = clause.source ∧
      Reads text start (start + clause.source.length) := by
  obtain ⟨shape, rest, whole, ends⟩ := exists_of_at? found
  have slice : text.slice start (start + clause.source.length) = clause.source := by
    rw [Text.slice_eq_take_drop, whole, Nat.add_sub_cancel_left, List.take_left]
  have length := congrArg List.length whole
  have nonempty := List.length_pos_iff.mpr clause.source_ne_nil
  simp only [List.length_drop, List.length_append] at length
  refine ⟨slice, by omega, free, by rwa [slice], ?_⟩
  rwa [← List.drop_drop, whole, List.drop_left]

theorem Reads.start_lt_stop (reads : Reads text start stop) : start < stop := by
  have nonempty : text.slice start stop ≠ [] := by
    have shape := reads.shape
    intro empty
    rw [empty] at shape
    generalize none : ([] : Text) = other at shape
    cases shape
    simp at none
  by_contra behind
  exact nonempty (by rw [Text.slice_eq_take_drop, Nat.sub_eq_zero_of_le (by omega), List.take_zero])

theorem exists_at?_of_reads (reads : Reads text start stop) :
    ∃ clause, at? (text.drop start) = some clause ∧ start + clause.source.length ≤ stop := by
  have before := reads.start_lt_stop
  obtain ⟨clause, found, shorter⟩ := exists_at?_append reads.shape reads.ends
  have whole : text.slice start stop ++ text.drop stop = text.drop start := by
    rw [Text.slice_eq_take_drop, show text.drop stop = (text.drop start).drop (stop - start) by
      rw [List.drop_drop, Nat.add_sub_cancel' (by omega)], List.take_append_drop]
  rw [whole] at found
  rw [Text.slice_eq_take_drop, List.length_take] at shorter
  exact ⟨clause, found, by omega⟩

theorem isExtraction_spans (text : Text) : IsExtraction text (spans text) := by
  have scanned := Piece.scanned_scan text
  have found {placed : Clause × Nat} (member : placed ∈ scanPlaced text) :
      at? (text.drop placed.2) = some placed.1 :=
    scanned.at?_drop_of_mem [] member
  constructor
  · rw [spans, List.pairwise_map]
    exact Piece.pairwise_clausesPlaced 0 (Piece.scan text)
  · intro span member
    obtain ⟨placed, inside, rfl⟩ := List.mem_map.mp member
    exact (reads_of_at? (found inside) (scanned.free_of_mem [] (by simp) inside)).2
  · intro span member stop shorter reads
    obtain ⟨placed, inside, rfl⟩ := List.mem_map.mp member
    obtain ⟨clause, other, short⟩ := exists_at?_of_reads reads
    obtain rfl := Option.some.inj ((found inside).symm.trans other)
    omega
  · intro start outside stop reads
    obtain ⟨clause, other, -⟩ := exists_at?_of_reads reads
    have nowhere : at? (text.drop start) = none := by
      refine scanned.at?_drop_eq_none [] (Nat.zero_le start) fun placed member => ?_
      exact outside _ (List.mem_map_of_mem member)
    rw [nowhere] at other
    contradiction

variable {spans others : List (Nat × Nat)}

theorem IsExtraction.le_of_lt (extraction : IsExtraction text spans) {span later : Nat × Nat}
    (member : span ∈ spans) (inside : later ∈ spans) (before : span.1 < later.1) :
    span.2 ≤ later.1 := by
  have forward : spans.Pairwise fun span later => span.1 < later.1 → span.2 ≤ later.1 := by
    refine extraction.apart.imp ?_
    intro _ _ apart _
    exact apart
  have backward : spans.Pairwise (flip fun span later => span.1 < later.1 → span.2 ≤ later.1) := by
    refine extraction.apart.imp_of_mem fun {first second} here _ apart before => ?_
    have proper := (extraction.reads first here).start_lt_stop
    omega
  have reflexive : ∀ span ∈ spans, span.1 < span.1 → span.2 ≤ span.1 := by
    intro span _ before
    omega
  exact forward.forall_of_forall_of_flip reflexive backward member inside before

/-- What one extraction takes, another takes as well. Otherwise a stretch of the other holds its
beginning, and that stretch either begins with it and is as short as it can be, or begins earlier
and belongs to both. -/
theorem IsExtraction.mem_of_earlier (first : IsExtraction text spans)
    (second : IsExtraction text others) {span : Nat × Nat} (member : span ∈ spans)
    (earlier : ∀ other ∈ others, other.1 < span.1 → other ∈ spans) : span ∈ others := by
  have reads := first.reads span member
  obtain ⟨other, inside, holds⟩ : ∃ other ∈ others, other.1 ≤ span.1 ∧ span.1 < other.2 := by
    by_contra none
    refine second.complete span.1 (fun other inside => ?_) span.2 reads
    by_contra overlaps
    exact none ⟨other, inside, by omega⟩
  rcases Nat.lt_or_eq_of_le holds.1 with before | same
  · have apart := first.le_of_lt (earlier other inside before) member before
    omega
  · have other_reads := second.reads other inside
    have no_longer : ¬ other.2 < span.2 := by
      intro shorter
      exact first.shortest span member other.2 shorter (same ▸ other_reads)
    have no_shorter : ¬ span.2 < other.2 := by
      intro shorter
      exact second.shortest other inside span.2 shorter (same ▸ reads)
    have equal : span = other := Prod.ext same.symm (by omega)
    rwa [equal]

theorem IsExtraction.pairwise_lt (extraction : IsExtraction text spans) :
    spans.Pairwise fun span later => span.1 < later.1 := by
  refine extraction.apart.imp_of_mem fun {span _} here _ apart => ?_
  have proper := (extraction.reads span here).start_lt_stop
  omega

theorem IsExtraction.unique (first : IsExtraction text spans) (second : IsExtraction text others) :
    spans = others := by
  have same (start : Nat) :
      ∀ span : Nat × Nat, span.1 = start → (span ∈ spans ↔ span ∈ others) := by
    -- What begins earlier is the same by induction, which is what `mem_of_earlier` asks for.
    induction start using Nat.strongRecOn with
    | ind start ih =>
      rintro span rfl
      constructor
      · intro member
        refine first.mem_of_earlier second member fun other inside before => ?_
        exact (ih other.1 before other rfl).mpr inside
      · intro member
        refine second.mem_of_earlier first member fun other inside before => ?_
        exact (ih other.1 before other rfl).mp inside
  have irreflexive : Std.Irrefl fun span later : Nat × Nat => span.1 < later.1 :=
    ⟨fun span => Nat.lt_irrefl span.1⟩
  have antisymmetric : Std.Antisymm fun span later : Nat × Nat => span.1 < later.1 :=
    ⟨fun _ _ before behind => absurd before (Nat.lt_asymm behind)⟩
  exact first.pairwise_lt.eq_of_mem_iff second.pairwise_lt fun span => same span.1 span rfl

/-- A parsed query takes its clauses from the stretches that `IsExtraction` describes and from no
others: these are determined by the normalized text, and each is the text of its clause. -/
theorem spans_eq_iff_isExtraction (text : Text) :
    let normal := Text.normalize text
    let clauses := (scanPlaced normal).map Prod.fst
    (Query.parse text).fields = Named.ofList ((Query.parts clauses).filterMap Query.Part.field?) ∧
      (Query.parse text).dateFilters = (Query.parts clauses).filterMap Query.Part.date? ∧
      (∀ placed ∈ scanPlaced normal,
          normal.slice placed.2 (placed.2 + placed.1.source.length) = placed.1.source) ∧
      ∀ stretches, Clause.spans normal = stretches ↔ IsExtraction normal stretches := by
  intro normal clauses
  have same : clauses = scan normal := map_fst_scanPlaced normal
  refine ⟨?_, ?_, fun placed member => ?_, fun stretches => ⟨?_, fun extraction => ?_⟩⟩
  · rw [same, Query.fields_parse]
  · rw [same, Query.dateFilters_parse]
  · have scanned := Piece.scanned_scan normal
    exact (reads_of_at? (scanned.at?_drop_of_mem [] member)
        (scanned.free_of_mem [] (by simp) member)).1
  · rintro rfl
    exact isExtraction_spans normal
  · exact (isExtraction_spans normal).unique extraction

/-- A clause whose value takes in the name of another field, and a name behind it that stands in
front of no clause. -/
theorem spans_eq_iff_isExtraction_marker :
    let text := "rock  tags: type:note and roll OR title:x :y".toList
    let normal := Text.normalize text
    Clause.spans normal = [(5, 29)] ∧ IsExtraction normal [(5, 29)] ∧
      ∀ stop, ¬ Reads normal 33 stop := by
  intro text normal
  have found : Clause.spans normal = [(5, 29)] := by decide +kernel
  have extraction := ((spans_eq_iff_isExtraction text).2.2.2 [(5, 29)]).mp found
  exact ⟨found, extraction, extraction.complete 33 (by simp)⟩

end Clause
end RecordSearch
