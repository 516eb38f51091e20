import Mathlib.Data.List.Nodup
import Mathlib.Data.List.Perm.Subperm
import RecordSearch.Proofs.Query.Clauses
import RecordSearch.Query.Parse

/-! What is left of a query when its clauses have been removed. Removal looks for the characters of
a clause, so it may take them from an earlier place; with the offset of every character kept beside
it, the places that were taken can be told apart. -/
namespace RecordSearch

abbrev Placed := Char × Nat

def Text.eraseFirstPlaced (piece : Text) : List Placed → List Placed
  | [] => []
  | c :: rest =>
    if piece.isPrefixOf ((c :: rest).map Prod.fst) then (c :: rest).drop piece.length
    else c :: eraseFirstPlaced piece rest

def Query.residuePlaced (text : Text) (clauses : List Clause) : List Placed :=
  clauses.foldl (fun rest clause => Text.eraseFirstPlaced clause.source rest) text.zipIdx

namespace Piece

def plain? : Piece → Option Char
  | .clause _ => none
  | .plain c => some c

def outside (pieces : List Piece) : Text := pieces.filterMap plain?

def outsidePlaced : Nat → List Piece → List Placed
  | _, [] => []
  | start, .plain c :: rest => (c, start) :: outsidePlaced (start + 1) rest
  | start, .clause found :: rest => outsidePlaced (start + found.source.length) rest

/-- No clause can be found before its own place, in what has been kept before it and as much of
itself as leaves out its last character. -/
def InPlaceBehind : Text → List Piece → Prop
  | _, [] => True
  | kept, .plain c :: rest => InPlaceBehind (kept ++ [c]) rest
  | kept, .clause found :: rest =>
    ¬ found.source <:+: kept ++ found.source.dropLast ∧ InPlaceBehind kept rest

/-- Every clause is found first in its own place when the clauses before it have been removed. -/
def InPlace (pieces : List Piece) : Prop := InPlaceBehind [] pieces

theorem map_fst_outsidePlaced (start : Nat) (pieces : List Piece) :
    (outsidePlaced start pieces).map Prod.fst = outside pieces := by
  induction pieces generalizing start with
  | nil => rfl
  | cons piece rest ih =>
    cases piece with
    | plain c => exact congrArg (c :: ·) (ih _)
    | clause found => exact ih _

/-- A clause cannot be found behind colonless characters: its own colon would come too early. -/
theorem not_infix_of_colonless {found : Clause} {kept : Text} (colonless : ':' ∉ kept)
    (name : ':' ∉ found.name) : ¬ found.source <:+: kept ++ found.source.dropLast := by
  rintro ⟨before, after, whole⟩
  have shorter : before.length < kept.length := by
    have lengths := congrArg List.length whole
    have := List.length_pos_iff.mpr found.source_ne_nil
    simp only [List.length_append, List.length_dropLast] at lengths
    omega
  obtain ⟨value, source⟩ : ∃ value, found.source = found.name ++ ':' :: value := ⟨_, rfl⟩
  have early : before ++ found.name ++ [':'] <+: kept ++ found.source := by
    have begins : before ++ found.name ++ [':'] <+: before ++ found.source ++ after := by
      simp [source]
    rw [whole] at begins
    exact begins.trans ((List.prefix_append_right_inj kept).mpr (List.dropLast_prefix _))
  have front : kept ++ found.name <+: kept ++ found.source := by simp [source]
  have inside := List.prefix_of_prefix_length_le early front (by simp; omega)
  have member : ':' ∈ kept ++ found.name := inside.subset (by simp)
  rcases List.mem_append.mp member with member | member
  · exact colonless member
  · exact name member

theorem inPlaceBehind_of_colonless {kept : Text} {pieces : List Piece}
    (colonless : ':' ∉ kept ++ outside pieces)
    (names : ∀ found ∈ pieces.filterMap clause?, ':' ∉ found.name) : InPlaceBehind kept pieces := by
  induction pieces generalizing kept with
  | nil => trivial
  | cons piece rest ih =>
    cases piece with
    | plain c =>
      refine ih ?_ names
      simpa [outside, plain?, List.filterMap_cons] using colonless
    | clause found =>
      have rest_names := fun other member => names other (List.mem_cons_of_mem found member)
      refine ⟨not_infix_of_colonless ?_ (names found List.mem_cons_self), ih colonless rest_names⟩
      exact fun member => colonless (List.mem_append_left _ member)

theorem length_outsidePlaced (start : Nat) (pieces : List Piece) :
    (outsidePlaced start pieces).length +
    ((pieces.filterMap clause?).flatMap Clause.source).length =
      (pieces.flatMap source).length := by
  induction pieces generalizing start with
  | nil => rfl
  | cons piece rest ih =>
    cases piece with
    | plain c =>
      have later := ih (start + 1)
      simp only [outsidePlaced, filterMap_clause?_plain, source, List.length_cons,
        List.flatMap_cons, List.length_append, List.length_nil]
      omega
    | clause found =>
      have later := ih (start + found.source.length)
      simp only [outsidePlaced, filterMap_clause?_clause, source, List.flatMap_cons,
        List.length_append]
      omega

end Piece

namespace Text

/-- The offsets do not change what is removed. -/
theorem map_fst_eraseFirstPlaced (piece : Text) (placed : List Placed) :
    (eraseFirstPlaced piece placed).map Prod.fst = eraseFirst piece (placed.map Prod.fst) := by
  induction placed with
  | nil => rfl
  | cons c rest ih =>
    simp only [eraseFirstPlaced, eraseFirst, List.map_cons]
    split
    · rw [List.map_drop, List.map_cons]
    · rw [List.map_cons, ih]

theorem eraseFirstPlaced_sublist (piece : Text) (placed : List Placed) :
    (eraseFirstPlaced piece placed).Sublist placed := by
  induction placed with
  | nil => exact .slnil
  | cons c rest ih =>
    simp only [eraseFirstPlaced]
    split
    · exact List.drop_sublist _ _
    · exact ih.cons_cons c

/-- At most the characters of the piece are lost. -/
theorem length_le_eraseFirstPlaced (piece : Text) (placed : List Placed) :
    placed.length ≤ (eraseFirstPlaced piece placed).length + piece.length := by
  induction placed with
  | nil => simp
  | cons c rest ih =>
    simp only [eraseFirstPlaced]
    split
    · rw [List.length_drop]
      omega
    · simp only [List.length_cons]
      omega

/-- Whether a piece begins a text that goes on with the piece is seen without its last character. -/
theorem prefix_append_self_iff {piece before : Text} (nonempty : before ≠ []) (rest : Text) :
    piece <+: before ++ (piece ++ rest) ↔ piece <+: before ++ piece.dropLast := by
  have shorter : before ++ piece.dropLast <+: before ++ (piece ++ rest) :=
    (List.prefix_append_right_inj before).mpr
    ((List.dropLast_prefix piece).trans (List.prefix_append piece rest))
  constructor
  · intro begins
    refine List.prefix_of_prefix_length_le begins shorter ?_
    have := List.length_pos_iff.mpr nonempty
    simp only [List.length_append, List.length_dropLast]
    omega
  · intro begins
    exact begins.trans shorter

variable {piece : Text} {kept hit rest : List Placed}

theorem eraseFirstPlaced_append (nonempty : piece ≠ []) (same : hit.map Prod.fst = piece) :
    eraseFirstPlaced piece (hit ++ rest) = rest := by
  subst same
  cases hit with
  | nil => contradiction
  | cons c hit => simp [eraseFirstPlaced]

/-- A piece is taken from what stands up to its own place. -/
theorem exists_eraseFirstPlaced_append (nonempty : piece ≠ []) (same : hit.map Prod.fst = piece)
    (kept rest : List Placed) : ∃ front taken back,
      kept ++ hit = front ++ (taken ++ back) ∧ taken.map Prod.fst = piece ∧
        eraseFirstPlaced piece (kept ++ (hit ++ rest)) = front ++ (back ++ rest) := by
  induction kept with
  | nil => exact ⟨[], hit, [], by simp, same, eraseFirstPlaced_append nonempty same⟩
  | cons c kept ih =>
    simp only [List.cons_append, eraseFirstPlaced]
    split
    · next begins =>
      -- The piece begins here, and it ends at the latest where its own place ends.
      have whole : c :: (kept ++ (hit ++ rest)) = c :: (kept ++ hit) ++ rest := by simp
      have longer : piece.length ≤ (c :: (kept ++ hit)).length := by
        rw [List.length_cons, List.length_append, ← same, List.length_map]
        omega
      have here : ((c :: (kept ++ hit)).take piece.length).map Prod.fst = piece := by
        rw [List.isPrefixOf_iff_prefix, whole, List.prefix_iff_eq_take] at begins
        rw [← List.take_append_of_le_length longer, List.map_take]
        exact begins.symm
      refine ⟨[], _, _, (List.take_append_drop piece.length _).symm, here, ?_⟩
      rw [whole, List.drop_append_of_le_length longer, List.nil_append]
    · obtain ⟨front, taken, back, split, found, left⟩ := ih
      exact ⟨c :: front, taken, back, by simp [split], found, by rw [left, List.cons_append]⟩

/-- A piece that cannot be found earlier is removed in its own place. -/
theorem eraseFirstPlaced_in_place (nonempty : piece ≠ []) (same : hit.map Prod.fst = piece)
    (first : ¬ piece <:+: kept.map Prod.fst ++ piece.dropLast) :
    eraseFirstPlaced piece (kept ++ (hit ++ rest)) = kept ++ rest := by
  induction kept with
  | nil => exact eraseFirstPlaced_append nonempty same
  | cons c kept ih =>
    rw [List.map_cons, List.cons_append, List.infix_cons_iff, not_or] at first
    have later : ¬ piece <+: (c :: (kept ++ (hit ++ rest))).map Prod.fst := by
      simp only [List.map_cons, List.map_append, same]
      exact fun begins => first.1 ((prefix_append_self_iff (List.cons_ne_nil _ _) _).mp begins)
    rw [← List.isPrefixOf_iff_prefix] at later
    rw [List.cons_append, eraseFirstPlaced, if_neg later, ih first.2]
    rfl

/-- A piece that can be found earlier is not removed in its own place: a character before it is
lost. -/
theorem eraseFirstPlaced_out_of_place (nonempty : piece ≠ []) (same : hit.map Prod.fst = piece)
    (earlier : piece <:+: kept.map Prod.fst ++ piece.dropLast) :
    ∃ before lost after, kept = before ++ lost :: after ∧
      (eraseFirstPlaced piece (kept ++ (hit ++ rest))).Sublist
      (before ++ (after ++ (hit ++ rest))) := by
  induction kept with
  | nil =>
    have longer := earlier.length_le
    have := List.length_pos_iff.mpr nonempty
    simp only [List.map_nil, List.nil_append, List.length_dropLast] at longer
    omega
  | cons c kept ih =>
    by_cases begins : piece.isPrefixOf ((c :: (kept ++ (hit ++ rest))).map Prod.fst) = true
    · refine ⟨[], c, kept, rfl, ?_⟩
      rw [List.cons_append, eraseFirstPlaced, if_pos begins]
      obtain ⟨d, others, rfl⟩ := List.exists_cons_of_ne_nil nonempty
      exact List.drop_sublist others.length (kept ++ (hit ++ rest))
    · have later : ¬ piece <+: (c :: kept).map Prod.fst ++ piece.dropLast := by
        rw [List.isPrefixOf_iff_prefix] at begins
        simp only [List.map_cons, List.map_append, same] at begins
        exact fun here => begins ((prefix_append_self_iff (List.cons_ne_nil _ _) _).mpr here)
      rw [List.map_cons, List.cons_append, List.infix_cons_iff] at earlier
      obtain ⟨before, lost, after, rfl, shorter⟩ := ih (earlier.resolve_left later)
      refine ⟨c :: before, lost, after, rfl, ?_⟩
      rw [List.cons_append, eraseFirstPlaced, if_neg begins]
      exact shorter.cons_cons c

end Text

namespace Query

theorem foldl_eraseFirstPlaced_sublist (clauses : List Clause) (placed : List Placed) :
    (clauses.foldl (fun rest clause => Text.eraseFirstPlaced clause.source rest)
      placed).Sublist placed := by
  induction clauses generalizing placed with
  | nil => exact List.Sublist.refl _
  | cons clause clauses ih => exact (ih _).trans (Text.eraseFirstPlaced_sublist _ _)

theorem length_le_foldl_eraseFirstPlaced (clauses : List Clause) (placed : List Placed) :
    placed.length ≤
      (clauses.foldl (fun rest clause => Text.eraseFirstPlaced clause.source rest)
        placed).length + (clauses.flatMap Clause.source).length := by
  induction clauses generalizing placed with
  | nil => simp
  | cons clause clauses ih =>
    have first := Text.length_le_eraseFirstPlaced clause.source placed
    have others := ih (Text.eraseFirstPlaced clause.source placed)
    simp only [List.foldl_cons, List.flatMap_cons, List.length_append]
    omega

theorem map_fst_foldl_eraseFirstPlaced (clauses : List Clause) (placed : List Placed) :
    (clauses.foldl (fun rest clause => Text.eraseFirstPlaced clause.source rest)
      placed).map Prod.fst = residue (placed.map Prod.fst) clauses := by
  induction clauses generalizing placed with
  | nil => rfl
  | cons clause clauses ih =>
    rw [List.foldl_cons, ih, Text.map_fst_eraseFirstPlaced]
    rfl

theorem map_fst_residuePlaced (text : Text) (clauses : List Clause) :
    (residuePlaced text clauses).map Prod.fst = residue text clauses := by
  rw [residuePlaced, map_fst_foldl_eraseFirstPlaced, List.zipIdx_map_fst]

/-- The characters of the pieces with their offsets, cut behind a clause. -/
theorem zipIdx_clause_cons (found : Clause) (rest : List Piece) (start : Nat) :
    ((Piece.clause found :: rest).flatMap Piece.source).zipIdx start =
      found.source.zipIdx start ++
        (rest.flatMap Piece.source).zipIdx (start + found.source.length) := by
  rw [List.flatMap_cons, Piece.source, List.zipIdx_append]

/-- Clauses found in their own places are removed there. The induction is on the pieces still to
come; `kept` holds the characters outside of the clauses so far. -/
theorem foldl_eraseFirstPlaced_in_place (pieces : List Piece) (start : Nat) (kept : List Placed)
    (inPlace : Piece.InPlaceBehind (kept.map Prod.fst) pieces) :
    (pieces.filterMap Piece.clause?).foldl (fun rest clause =>
        Text.eraseFirstPlaced clause.source rest)
        (kept ++ (pieces.flatMap Piece.source).zipIdx start) =
          kept ++ Piece.outsidePlaced start pieces := by
  induction pieces generalizing start kept with
  | nil => simp [Piece.outsidePlaced]
  | cons piece rest ih =>
    cases piece with
    | plain c =>
      have step :=
        ih (start + 1) (kept ++ [(c, start)]) (by simpa [Piece.InPlaceBehind] using inPlace)
      rw [Piece.filterMap_clause?_plain]
      simpa [Piece.source, Piece.outsidePlaced] using step
    | clause found =>
      rw [zipIdx_clause_cons, Piece.filterMap_clause?_clause, List.foldl_cons, Piece.outsidePlaced,
        Text.eraseFirstPlaced_in_place found.source_ne_nil (List.zipIdx_map_fst ..) inPlace.1]
      exact ih _ kept inPlace.2

/-- A clause that is found before its own place costs a character outside of the clauses. Since no
place occurs twice, what is lost with the first such clause does not come back. -/
theorem inPlaceBehind_of_subset (pieces : List Piece) (start : Nat) (kept : List Placed)
    (distinct : (kept ++ (pieces.flatMap Piece.source).zipIdx start).Nodup)
    (nothingLost : kept ++ Piece.outsidePlaced start pieces ⊆
      (pieces.filterMap Piece.clause?).foldl
        (fun rest clause => Text.eraseFirstPlaced clause.source rest)
        (kept ++ (pieces.flatMap Piece.source).zipIdx start)) :
    Piece.InPlaceBehind (kept.map Prod.fst) pieces := by
  induction pieces generalizing start kept with
  | nil => trivial
  | cons piece rest ih =>
    cases piece with
    | plain c =>
      rw [Piece.filterMap_clause?_plain] at nothingLost
      have step := ih (start + 1) (kept ++ [(c, start)]) (by simpa [Piece.source] using distinct)
        (by simpa [Piece.source, Piece.outsidePlaced] using nothingLost)
      simpa [Piece.InPlaceBehind] using step
    | clause found =>
      have same : (found.source.zipIdx start).map Prod.fst = found.source := List.zipIdx_map_fst ..
      rw [zipIdx_clause_cons] at distinct nothingLost
      rw [Piece.filterMap_clause?_clause, List.foldl_cons, Piece.outsidePlaced] at nothingLost
      by_cases first : ¬ found.source <:+: kept.map Prod.fst ++ found.source.dropLast
      · rw [Text.eraseFirstPlaced_in_place found.source_ne_nil same first] at nothingLost
        have fewer := distinct.sublist ((List.sublist_append_right _ _).append_left kept)
        exact ⟨first, ih _ kept fewer nothingLost⟩
      · obtain ⟨before, lost, after, rfl, shorter⟩ :=
          @Text.eraseFirstPlaced_out_of_place _ _ _
            ((rest.flatMap Piece.source).zipIdx (start + found.source.length))
            found.source_ne_nil same (not_not.mp first)
        have left := (foldl_eraseFirstPlaced_sublist (rest.filterMap Piece.clause?) _).trans shorter
        have member := left.subset (nothingLost (a := lost) (by simp))
        rw [List.append_assoc, List.cons_append, List.nodup_middle, List.nodup_cons] at distinct
        exact absurd member distinct.1

theorem clauses_eq_of_scan (text : Text) :
    Clause.scan text = (Piece.scan text).filterMap Piece.clause? :=
  rfl

/-- Where all clauses are found in their own places, the rest is what stands outside of them. -/
theorem residuePlaced_eq_outsidePlaced {text : Text} (inPlace : Piece.InPlace (Piece.scan text)) :
    residuePlaced text (Clause.scan text) = Piece.outsidePlaced 0 (Piece.scan text) := by
  have step := foldl_eraseFirstPlaced_in_place (Piece.scan text) 0 [] inPlace
  rwa [Piece.flatMap_source_scan] at step

theorem residue_eq_outside {text : Text} (inPlace : Piece.InPlace (Piece.scan text)) :
    residue text (Clause.scan text) = Piece.outside (Piece.scan text) := by
  rw [← map_fst_residuePlaced, residuePlaced_eq_outsidePlaced inPlace, Piece.map_fst_outsidePlaced]

theorem nodup_zipIdx (text : Text) : text.zipIdx.Nodup := by
  apply List.Nodup.of_map Prod.snd
  rw [List.zipIdx_map_snd]
  exact List.nodup_range'

/-- Elsewhere something outside of them is lost. -/
theorem inPlace_of_outsidePlaced_subset {text : Text}
    (nothingLost : Piece.outsidePlaced 0 (Piece.scan text) ⊆
      residuePlaced text (Clause.scan text)) :
    Piece.InPlace (Piece.scan text) := by
  refine inPlaceBehind_of_subset (Piece.scan text) 0 [] ?_ ?_
  · rw [List.nil_append, Piece.flatMap_source_scan]
    exact nodup_zipIdx text
  · rwa [List.nil_append, List.nil_append, Piece.flatMap_source_scan]

/-- And something inside of them is kept, since no more characters are removed than the clauses
have. -/
theorem inPlace_of_residuePlaced_subset {text : Text}
    (nothingKept : residuePlaced text (Clause.scan text) ⊆
      Piece.outsidePlaced 0 (Piece.scan text)) :
    Piece.InPlace (Piece.scan text) := by
  have removed := length_le_foldl_eraseFirstPlaced (Clause.scan text) text.zipIdx
  have outside := Piece.length_outsidePlaced 0 (Piece.scan text)
  rw [List.length_zipIdx] at removed
  rw [← clauses_eq_of_scan, Piece.flatMap_source_scan] at outside
  have longer : (Piece.outsidePlaced 0 (Piece.scan text)).length ≤
      (residuePlaced text (Clause.scan text)).length := by
    rw [residuePlaced]
    omega
  have distinct := (nodup_zipIdx text).sublist (foldl_eraseFirstPlaced_sublist (Clause.scan text) _)
  have same := (List.subperm_of_subset distinct nothingKept).perm_of_length_le longer
  exact inPlace_of_outsidePlaced_subset same.symm.subset

/-- Exactly the places of the clauses are removed from a query if and only if every clause is found
first in its own place, and then the rest is the text outside of the clauses. Otherwise a character
outside of them is lost and one inside of them is kept. -/
theorem removed_places_exact_iff (text : Text) :
    let normal := Text.normalize text
    let kept := residuePlaced normal (Clause.scan normal)
    let outside := Piece.outsidePlaced 0 (Piece.scan normal)
    kept.map Prod.fst = residue normal (Clause.scan normal) ∧
      (kept = outside ↔ Piece.InPlace (Piece.scan normal)) ∧
      (kept ⊆ outside ↔ Piece.InPlace (Piece.scan normal)) ∧
      (outside ⊆ kept ↔ Piece.InPlace (Piece.scan normal)) ∧
      (Piece.InPlace (Piece.scan normal) →
        residue normal (Clause.scan normal) = Piece.outside (Piece.scan normal)) := by
  intro normal kept outside
  have both (same : kept = outside) : kept ⊆ outside ∧ outside ⊆ kept := by
    rw [same]
    exact ⟨List.Subset.refl _, List.Subset.refl _⟩
  refine ⟨map_fst_residuePlaced _ _, ⟨fun same => ?_, residuePlaced_eq_outsidePlaced⟩,
    ⟨inPlace_of_residuePlaced_subset, fun inPlace => ?_⟩,
      ⟨inPlace_of_outsidePlaced_subset, fun inPlace => ?_⟩,
    residue_eq_outside⟩
  · exact inPlace_of_residuePlaced_subset (both same).1
  · exact (both (residuePlaced_eq_outsidePlaced inPlace)).1
  · exact (both (residuePlaced_eq_outsidePlaced inPlace)).2

/-- A clause whose characters stand earlier, in front of a word that no value may hold, takes that
place with it: the text in front of the clause is lost from the free text, and the clause itself
becomes part of it. -/
theorem residue_takes_earlier_place :
    Clause.scan "title:x :y title:x".toList = [⟨"title".toList, false, "x".toList, []⟩] ∧
      residue "title:x :y title:x".toList (Clause.scan "title:x :y title:x".toList) =
        " :y title:x".toList ∧
      Piece.outside (Piece.scan "title:x :y title:x".toList) = "title:x :y ".toList ∧
      (parse "title:x :y title:x".toList).fullText = some ":y title:x".toList := by
  decide +kernel

end Query
end RecordSearch
