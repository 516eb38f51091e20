import Mathlib.Combinatorics.Enumerative.DoubleCounting
import Mathlib.Order.Bounds.Basic
import RecordSearch.Proofs.Text.Places
import RecordSearch.Search.Highlight

/-! Where a term is found in a text, and the text that has a marker around these places. The search
goes on behind each place it finds, which leaves out no occurrence but those that overlap one, and
no choice of places finds more. -/
namespace RecordSearch

def OccursAt (term text : Text) (start : Nat) : Prop :=
  CaseMatches term (text.slice start (start + term.length))

/-- Occurrences of a term of which no two overlap. -/
structure ArePacked (term text : Text) (places : Finset Nat) : Prop where
  occur : ∀ place ∈ places, OccursAt term text place
  apart : ∀ place ∈ places, ∀ later ∈ places, place < later → place + term.length ≤ later

/-- A span tells where an occurrence begins and ends, and which characters stand there. -/
structure Span.Fits (term text : Text) (span : Span) : Prop where
  slice : text.slice span.start span.stop = span.text
  stop : span.stop = span.start + term.length
  within : span.stop ≤ text.length
  characters : CaseMatches term span.text

namespace Segment

/-- A text and the segments it is cut into: each hit has the term, which begins at none of the other
characters. -/
inductive IsScan (term : Text) : List Segment → Text → Prop
  | nil : IsScan term [] []
  | plain {c : Char} {rest : Text} {segments : List Segment} : beginsWith term (c :: rest) = false →
      IsScan term segments rest → IsScan term (.plain c :: segments) (c :: rest)
  | hit {found rest : Text} {segments : List Segment} : CaseMatches term found →
      IsScan term segments rest →
      IsScan term (.hit found :: segments) (found ++ rest)

def shown (marker : Marker) : Segment → Text
  | .hit found => marker.opening ++ found ++ marker.closing
  | .plain c => [c]

end Segment

namespace Marker

/-- A text from an offset on, copied but for the marker around each of the spans. -/
def around (marker : Marker) (text : Text) : Nat → List Span → Text
  | place, [] => text.drop place
  | place, span :: rest =>
    text.slice place span.start ++ (marker.opening ++ span.text ++ marker.closing) ++
      marker.around text span.stop rest

def width (marker : Marker) : Nat := marker.opening.length + marker.closing.length

/-- Where the two parts of the marker around a span stand behind the markers of so many others. -/
def placesAround (marker : Marker) (span : Span) (number : Nat) : List (Nat × Nat) :=
  let opening := span.start + number * marker.width
  let closing := span.stop + number * marker.width + marker.opening.length
  [(opening, opening + marker.opening.length), (closing, closing + marker.closing.length)]

def insertedFrom (marker : Marker) (number : Nat) (spans : List Span) : List (Nat × Nat) :=
  (spans.zipIdx number).flatMap fun numbered => marker.placesAround numbered.1 numbered.2

def inserted (marker : Marker) (spans : List Span) : List (Nat × Nat) := marker.insertedFrom 0 spans

end Marker

/-- A text from an offset on, without the stretches at the given offsets. -/
def Text.without (text : Text) : Nat → List (Nat × Nat) → Text
  | place, [] => text.drop place
  | place, (start, stop) :: rest => text.slice place start ++ text.without stop rest

variable {term text found rest : Text} {segments : List Segment} {spans : List Span} {span : Span}
  {marker : Marker}

theorem beginsWith_iff :
    beginsWith term text = true ↔ CaseMatches term (text.take term.length) := by
  induction term generalizing text with
  | nil => simp [beginsWith, CaseMatches]
  | cons c term ih =>
    cases text with
    | nil => simp [beginsWith, CaseMatches]
    | cons d text =>
      rw [beginsWith, Bool.and_eq_true, ih, List.length_cons, List.take_succ_cons, CaseMatches,
        CaseMatches, List.forall₂_cons]

theorem occursAt_iff {start : Nat} :
    OccursAt term text start ↔ beginsWith term (text.drop start) = true := by
  rw [beginsWith_iff, OccursAt, Text.slice_eq_take_drop, Nat.add_sub_cancel_left]

theorem OccursAt.le_length {start : Nat} (nonempty : term ≠ [])
    (occurs : OccursAt term text start) : start + term.length ≤ text.length := by
  have size := occurs.length_eq
  have proper := List.length_pos_iff.mpr nonempty
  rw [Text.slice_eq_take_drop, List.length_take, List.length_drop] at size
  omega

theorem Span.Fits.occursAt (fits : span.Fits term text) : OccursAt term text span.start := by
  rw [OccursAt, ← fits.stop, fits.slice]
  exact fits.characters

namespace Segment

theorem scanAfter_eq_drop (term : Text) (skip : Nat) (text : Text) :
    scanAfter term skip text = scan term (text.drop skip) := by
  induction text generalizing skip with
  | nil => simp [scan, scanAfter]
  | cons c rest ih =>
    cases skip with
    | zero => rfl
    | succ skip => exact ih skip

theorem isScan_scan (nonempty : term ≠ []) (text : Text) : IsScan term (scan term text) text := by
  -- The rest of the text that a hit leaves is no direct part of it, so the induction is on the
  -- length.
  induction size : text.length using Nat.strong_induction_on generalizing text with
  | _ size ih =>
    subst size
    cases text with
    | nil => exact .nil
    | cons c rest =>
      rw [scan, scanAfter]
      split
      · next begins =>
        obtain ⟨letter, term, rfl⟩ := List.exists_cons_of_ne_nil nonempty
        have shorter : (rest.drop term.length).length < (c :: rest).length := by
          rw [List.length_drop, List.length_cons]
          omega
        have later := IsScan.hit (beginsWith_iff.mp begins) (ih _ shorter _ rfl)
        rw [scanAfter_eq_drop]
        rwa [show rest.drop term.length = (c :: rest).drop (letter :: term).length from rfl,
          List.take_append_drop] at later
      · next other => exact .plain (by simpa using other) (ih rest.length (by simp) rest rfl)

theorem le_of_mem_spansFrom {start : Nat} (member : span ∈ spansFrom start segments) :
    start ≤ span.start := by
  induction segments generalizing start with
  | nil => simp [spansFrom] at member
  | cons segment rest ih =>
    cases segment with
    | plain c => exact Nat.le_of_succ_le (ih member)
    | hit found =>
      rcases List.mem_cons.mp member with rfl | member
      · exact Nat.le_refl start
      · exact Nat.le_trans (Nat.le_add_right ..) (ih member)

theorem pairwise_spansFrom (start : Nat) (segments : List Segment) :
    (spansFrom start segments).Pairwise fun span later => span.stop ≤ later.start := by
  induction segments generalizing start with
  | nil => exact .nil
  | cons segment rest ih =>
    cases segment with
    | plain c => exact ih _
    | hit found => exact .cons (fun _ member => le_of_mem_spansFrom member) (ih _)

theorem IsScan.fits_of_mem (isScan : IsScan term segments text) (before : Text)
    (member : span ∈ spansFrom before.length segments) : span.Fits term (before ++ text) := by
  induction isScan generalizing before with
  | nil => simp [spansFrom] at member
  | @plain c rest segments _ _ ih =>
    have later := ih (before ++ [c])
    rw [List.length_append, List.append_assoc] at later
    exact later member
  | @hit found rest segments characters _ ih =>
    rcases List.mem_cons.mp member with rfl | member
    · refine ⟨Text.slice_between .., by rw [characters.length_eq], ?_, characters⟩
      simp only [List.length_append]
      omega
    · have later := ih (before ++ found)
      rw [List.length_append, List.append_assoc] at later
      exact later member

theorem IsScan.exists_mem_of_occursAt (nonempty : term ≠ []) (isScan : IsScan term segments text)
    (before : Text) {place : Nat} (lower : before.length ≤ place)
    (occurs : OccursAt term (before ++ text) place) :
    ∃ span ∈ spansFrom before.length segments, span.start ≤ place ∧ place < span.stop := by
  induction isScan generalizing before with
  | nil =>
    have proper := List.length_pos_iff.mpr nonempty
    have within := occurs.le_length nonempty
    rw [List.append_nil] at within
    omega
  | @plain c rest segments other _ ih =>
    have beyond : before.length ≠ place := by
      rintro rfl
      rw [occursAt_iff, List.drop_left, other] at occurs
      contradiction
    have later := ih (before ++ [c])
    rw [List.length_append, List.append_assoc] at later
    exact later (by simp; omega) occurs
  | @hit found rest segments _ _ ih =>
    by_cases inside : place < before.length + found.length
    · exact ⟨_, List.mem_cons_self, lower, inside⟩
    · have later := ih (before ++ found)
      rw [List.length_append, List.append_assoc] at later
      obtain ⟨span, member, around⟩ := later (by omega) occurs
      exact ⟨span, List.mem_cons_of_mem _ member, around⟩

end Segment

theorem findHighlights_eq_spansFrom (nonempty : term ≠ []) (text : Text) :
    findHighlights text term = Segment.spansFrom 0 (Segment.scan term text) := by
  rw [findHighlights, if_neg (by simpa using nonempty)]

theorem fits_of_mem_findHighlights (nonempty : term ≠ [])
    (member : span ∈ findHighlights text term) : span.Fits term text := by
  rw [findHighlights_eq_spansFrom nonempty] at member
  exact (Segment.isScan_scan nonempty text).fits_of_mem [] member

theorem exists_mem_findHighlights (nonempty : term ≠ []) {place : Nat}
    (occurs : OccursAt term text place) :
    ∃ span ∈ findHighlights text term, span.start ≤ place ∧ place < span.stop := by
  rw [findHighlights_eq_spansFrom nonempty]
  exact (Segment.isScan_scan nonempty text).exists_mem_of_occursAt nonempty []
    (Nat.zero_le _) occurs

theorem pairwise_findHighlights (text term : Text) :
    (findHighlights text term).Pairwise fun span later => span.stop ≤ later.start := by
  rw [findHighlights]
  split
  · exact .nil
  · exact Segment.pairwise_spansFrom ..

/-- Each of the places lies in a span, and no two of them in the same one. -/
theorem ArePacked.card_le {places : Finset Nat} (nonempty : term ≠ [])
    (packed : ArePacked term text places) : places.card ≤ (findHighlights text term).length := by
  classical
  refine Nat.le_trans ?_ (findHighlights text term).toFinset_card_le
  apply Finset.card_le_card_of_forall_subsingleton fun place span =>
    span.start ≤ place ∧ place < span.stop
  · intro place member
    obtain ⟨span, found, around⟩ := exists_mem_findHighlights nonempty (packed.occur place member)
    exact ⟨span, List.mem_toFinset.mpr found, around⟩
  · rintro span found place ⟨member, lower, upper⟩ other ⟨other_member, other_lower, other_upper⟩
    have stop := (fits_of_mem_findHighlights nonempty (List.mem_toFinset.mp found)).stop
    by_contra differ
    rcases Nat.lt_or_gt_of_ne differ with before | behind
    · have := packed.apart place member other other_member before
      omega
    · have := packed.apart other other_member place member behind
      omega

theorem arePacked_starts (nonempty : term ≠ []) (text : Text) :
    ArePacked term text ((findHighlights text term).map Span.start).toFinset ∧
      ((findHighlights text term).map Span.start).toFinset.card =
      (findHighlights text term).length := by
  have proper := List.length_pos_iff.mpr nonempty
  have apart : ((findHighlights text term).map Span.start).Pairwise fun place later =>
      place + term.length ≤ later := by
    refine List.pairwise_map.mpr ((pairwise_findHighlights text term).imp_of_mem
        fun {span later} member _ before => ?_)
    rwa [← (fits_of_mem_findHighlights nonempty member).stop]
  refine ⟨⟨fun place member => ?_, ?_⟩, ?_⟩
  · obtain ⟨span, found, rfl⟩ := List.mem_map.mp (List.mem_toFinset.mp member)
    exact (fits_of_mem_findHighlights nonempty found).occursAt
  · intro place member later later_member before
    obtain ⟨i, first, rfl⟩ := List.mem_iff_getElem.mp (List.mem_toFinset.mp member)
    obtain ⟨j, second, rfl⟩ := List.mem_iff_getElem.mp (List.mem_toFinset.mp later_member)
    rcases Nat.lt_trichotomy i j with lower | rfl | higher
    · exact List.pairwise_iff_getElem.mp apart i j first second lower
    · omega
    · have := List.pairwise_iff_getElem.mp apart j i second first higher
      omega
  · rw [List.toFinset_card_of_nodup (apart.imp fun before => by omega), List.length_map]

/-- The spans of a term are occurrences of it from left to right. Every occurrence begins inside of
one, and they are as many as occurrences without an overlap can be. -/
theorem findHighlights_complete (nonempty : term ≠ []) (text : Text) :
    (∀ span ∈ findHighlights text term, span.Fits term text) ∧
      ((findHighlights text term).Pairwise fun span later => span.stop ≤ later.start) ∧
      (∀ place, OccursAt term text place → ∃ span ∈ findHighlights text term,
          span.start ≤ place ∧ place < span.stop) ∧
      IsGreatest {count | ∃ places, ArePacked term text places ∧ places.card = count}
        (findHighlights text term).length := by
  refine ⟨fun span => fits_of_mem_findHighlights nonempty, pairwise_findHighlights text term,
    fun place => exists_mem_findHighlights nonempty, ⟨_, arePacked_starts nonempty text⟩, ?_⟩
  rintro _ ⟨places, packed, rfl⟩
  exact packed.card_le nonempty

theorem findHighlights_complete_overlapping :
    let text := "ſ.S.s.S".toList
    let term := "s.s".toList
    findHighlights text term = [⟨"ſ.S".toList, 0, 3⟩, ⟨"s.S".toList, 4, 7⟩] ∧ OccursAt term text 2 ∧
      (∃ span ∈ findHighlights text term, span.start ≤ 2 ∧ 2 < span.stop) ∧
      IsGreatest {count | ∃ places, ArePacked term text places ∧ places.card = count} 2 := by
  intro text term
  have found : findHighlights text term = [⟨"ſ.S".toList, 0, 3⟩, ⟨"s.S".toList, 4, 7⟩] := by
    decide +kernel
  have occurs : OccursAt term text 2 := occursAt_iff.mpr (by decide +kernel)
  obtain ⟨-, -, covered, greatest⟩ := @findHighlights_complete term (by decide) text
  rw [found] at greatest
  exact ⟨found, occurs, covered 2 occurs, greatest⟩

namespace Segment

theorem IsScan.around (isScan : IsScan term segments text) (marker : Marker) (before : Text)
    {place : Nat} (lower : place ≤ before.length) :
    marker.around (before ++ text) place (spansFrom before.length segments) =
      before.drop place ++ segments.flatMap (shown marker) := by
  induction isScan generalizing before place with
  | nil => simp [spansFrom, Marker.around]
  | @plain c rest segments _ _ ih =>
    have within : place ≤ (before ++ [c]).length := Nat.le_trans lower (by simp)
    have later := ih (before ++ [c]) within
    rw [List.length_append, List.append_assoc, List.drop_append_of_le_length lower] at later
    rw [spansFrom, List.flatMap_cons, ← List.append_assoc]
    exact later
  | @hit found rest segments _ _ ih =>
    have later := ih (before ++ found) (Nat.le_refl _)
    rw [List.length_append, List.append_assoc, ← List.length_append, List.drop_length,
      List.nil_append] at later
    rw [spansFrom, Marker.around, Text.slice_append_length, List.flatMap_cons, ← List.length_append,
      later, shown, List.append_assoc]

theorem insertedFrom_hit {start number place : Nat} (found : Text) (spans : List Span)
    (size : place = start + number * marker.width) :
    let behind := place + marker.opening.length + found.length
    marker.insertedFrom number (⟨found, start, start + found.length⟩ :: spans) =
      (place, place + marker.opening.length) :: (behind, behind + marker.closing.length) ::
        marker.insertedFrom (number + 1) spans := by
  intro behind
  have closing : start + found.length + number * marker.width + marker.opening.length = behind := by
    omega
  rw [Marker.insertedFrom, List.zipIdx_cons, List.flatMap_cons, Marker.placesAround,
    closing, ← size]
  rfl

/-- Taking the markers out again leaves the text that was looked through. -/
theorem IsScan.without (isScan : IsScan term segments text) (marker : Marker) {start number : Nat}
    (done : Text) (size : done.length = start + number * marker.width) {place : Nat}
    (lower : place ≤ done.length) :
    let written := done ++ segments.flatMap (shown marker)
    let places := marker.insertedFrom number (spansFrom start segments)
    written.without place places = done.drop place ++ text ∧
      written.slices places = (spansFrom start segments).flatMap
        fun _ => [marker.opening, marker.closing] := by
  -- The characters written so far count those of the text and one marker for each span.
  induction isScan generalizing start number done place with
  | nil => simp [spansFrom, Marker.insertedFrom, Text.without, Text.slices]
  | @plain c rest segments _ _ ih =>
    have longer : (done ++ [c]).length = start + 1 + number * marker.width := by
      rw [List.length_append, List.length_singleton]
      omega
    have within : place ≤ (done ++ [c]).length := Nat.le_trans lower (by simp)
    have later := ih (done ++ [c]) longer within
    rw [List.append_assoc, List.drop_append_of_le_length lower, List.append_assoc] at later
    exact later
  | @hit found rest segments _ _ ih =>
    have longer : (done ++ marker.opening ++ found ++ marker.closing).length =
        start + found.length + (number + 1) * marker.width := by
      have more := Nat.add_one_mul number marker.width
      have width : marker.width = marker.opening.length + marker.closing.length := rfl
      simp only [List.length_append]
      omega
    obtain ⟨left, cut⟩ := ih _ longer (Nat.le_refl _)
    rw [List.drop_length, List.nil_append] at left
    rw [spansFrom, insertedFrom_hit found _ size, List.flatMap_cons, List.flatMap_cons, shown]
    generalize segments.flatMap (shown marker) = tail at left cut
    have opened := Text.slice_between done marker.opening (found ++ (marker.closing ++ tail))
    have kept := Text.slice_between (done ++ marker.opening) found (marker.closing ++ tail)
    have closed := Text.slice_between (done ++ marker.opening ++ found) marker.closing tail
    simp only [List.append_assoc, List.length_append,
      ← Nat.add_assoc] at opened kept closed left cut ⊢
    constructor
    · rw [Text.without, Text.without, Text.slice_append_length, kept, left]
    · rw [Text.slices, List.map_cons, List.map_cons, opened, closed, ← Text.slices, cut]
      rfl

end Segment

theorem le_of_mem_insertedFrom {number : Nat} {place : Nat × Nat}
    (ordered : ∀ span ∈ spans, span.start ≤ span.stop)
    (member : place ∈ marker.insertedFrom number spans) :
    ∃ span ∈ spans, span.start + number * marker.width ≤ place.1 := by
  obtain ⟨⟨span, index⟩, numbered, around⟩ := List.mem_flatMap.mp member
  have inside : span ∈ spans := List.fst_mem_of_mem_zipIdx numbered
  have proper := ordered span inside
  have wider : number * marker.width ≤ index * marker.width :=
    Nat.mul_le_mul_right _ (List.le_snd_of_mem_zipIdx numbered)
  refine ⟨span, inside, ?_⟩
  rcases List.mem_pair.mp around with rfl | rfl
  · exact Nat.add_le_add_left wider _
  · dsimp only
    omega

theorem pairwise_insertedFrom (ordered : ∀ span ∈ spans, span.start ≤ span.stop)
    (apart : spans.Pairwise fun span later => span.stop ≤ later.start) (number : Nat) :
    (marker.insertedFrom number spans).Pairwise fun place later => place.2 ≤ later.1 := by
  induction spans generalizing number with
  | nil => exact .nil
  | cons span spans ih =>
    obtain ⟨here, ordered⟩ := List.forall_mem_cons.mp ordered
    obtain ⟨before, apart⟩ := List.pairwise_cons.mp apart
    have more := Nat.add_one_mul number marker.width
    have width : marker.width = marker.opening.length + marker.closing.length := rfl
    have behind : ∀ place ∈ marker.insertedFrom (number + 1) spans,
        span.stop + (number + 1) * marker.width ≤ place.1 := by
      intro place member
      obtain ⟨later, inside, lower⟩ := le_of_mem_insertedFrom ordered member
      exact Nat.le_trans (Nat.add_le_add_right (before later inside) _) lower
    rw [Marker.insertedFrom, List.zipIdx_cons, List.flatMap_cons, ← Marker.insertedFrom]
    refine List.pairwise_append.mpr ⟨List.pairwise_pair.mpr ?_, ih ordered apart _, ?_⟩
    · exact Nat.add_le_add_right (Nat.add_le_add_right here _) _
    · intro place around later member
      have lower := behind later member
      rcases List.mem_pair.mp around with rfl | rfl
      · dsimp only
        omega
      · dsimp only
        omega

theorem highlight_eq_flatMap (nonempty : term ≠ []) (marker : Marker) (text : Text) :
    highlight marker text term = (Segment.scan term text).flatMap (Segment.shown marker) := by
  rw [highlight, if_neg (by simpa using nonempty)]
  apply List.flatMap_congr
  rintro (found | c) - <;> rfl

/-- The text with the markers is the text with the marker of the tag around each span and nothing
else changed. The markers stand where the offsets of the spans tell, and the text comes back when
they are taken out from there. -/
theorem highlight_eq_around (text term tag : Text) (cssClass : Option Text) :
    let marker := Marker.ofTag tag cssClass
    let spans := findHighlights text term
    let written := highlight marker text term
    written = marker.around text 0 spans ∧
      ((marker.inserted spans).Pairwise fun place later => place.2 ≤ later.1) ∧
      written.slices (marker.inserted spans) =
        spans.flatMap (fun _ => [marker.opening, marker.closing]) ∧
      written.without 0 (marker.inserted spans) = text := by
  intro marker spans written
  by_cases empty : term = []
  · have none : spans = [] := by simp only [spans, findHighlights, empty]; rfl
    have same : written = text := by simp only [written, highlight, empty]; rfl
    rw [none, same]
    exact ⟨rfl, .nil, rfl, rfl⟩
  · have isScan := Segment.isScan_scan empty text
    have shown : written = (Segment.scan term text).flatMap (Segment.shown marker) :=
      highlight_eq_flatMap empty marker text
    have found : spans = Segment.spansFrom 0 (Segment.scan term text) :=
      findHighlights_eq_spansFrom empty text
    have around := isScan.around marker [] (Nat.le_refl 0)
    have nothing : List.length ([] : Text) = 0 + 0 * marker.width := by rw [Nat.zero_mul]; rfl
    obtain ⟨left, cut⟩ := isScan.without marker [] nothing (Nat.le_refl 0)
    have ordered : ∀ span ∈ spans, span.start ≤ span.stop := by
      intro span member
      rw [(fits_of_mem_findHighlights empty member).stop]
      exact Nat.le_add_right ..
    refine ⟨?_, pairwise_insertedFrom ordered (pairwise_findHighlights text term) 0, ?_⟩
    · rw [shown, found]
      exact around.symm
    · rw [shown, found]
      exact ⟨cut, left⟩

end RecordSearch
