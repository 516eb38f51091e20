import RecordSearch.Proofs.Query.Residue

/-! No character is lost without being removed for a clause. Each removal finds its clause, since it
leaves alone what stands behind the place of the clause, so that what is left and the clauses have
the characters of the query. -/
namespace RecordSearch

/-- A piece is removed from what stands up to its own place, and what follows that place stays. -/
theorem Text.eraseFirst_append {piece : Text} (nonempty : piece ≠ []) (before rest : Text) :
    ∃ kept, eraseFirst piece (before ++ (piece ++ rest)) = kept ++ rest ∧
      (kept ++ piece).Perm (before ++ piece) := by
  have places (text : Text) : text.zipIdx.map Prod.fst = text := List.zipIdx_map_fst ..
  obtain ⟨front, taken, back, split, found, left⟩ :=
    exists_eraseFirstPlaced_append nonempty (places piece) before.zipIdx rest.zipIdx
  have whole := congrArg (List.map Prod.fst) split
  have removed := congrArg (List.map Prod.fst) left
  simp only [map_fst_eraseFirstPlaced, List.map_append, places, found] at whole removed
  refine ⟨front.map Prod.fst ++ back.map Prod.fst, by rw [removed, List.append_assoc], ?_⟩
  rw [whole, List.append_assoc]
  exact List.perm_append_comm.append_left _

namespace Query

theorem residue_nil (text : Text) : residue text [] = text := rfl

theorem residue_cons (text : Text) (clause : Clause) (rest : List Clause) :
    residue text (clause :: rest) = residue (Text.eraseFirst clause.source text) rest := rfl

theorem residue_append (text : Text) (clauses rest : List Clause) :
    residue text (clauses ++ rest) = residue (residue text clauses) rest := List.foldl_append

/-- The clauses of the pieces still to come are found behind whatever has been kept in front of
them. -/
theorem residue_pieces_perm (pieces : List Piece) (kept : Text) :
    (residue (kept ++ pieces.flatMap Piece.source) (pieces.filterMap Piece.clause?) ++
      (pieces.filterMap Piece.clause?).flatMap Clause.source).Perm
        (kept ++ pieces.flatMap Piece.source) := by
  induction pieces generalizing kept with
  | nil => simp [residue_nil]
  | cons piece rest ih =>
    cases piece with
    | plain c =>
      have step := ih (kept ++ [c])
      rw [List.append_assoc] at step
      exact step
    | clause found =>
      -- `others` is what the removal of this clause leaves of what has been kept and of the clause.
      obtain ⟨others, left, same⟩ :=
        Text.eraseFirst_append found.source_ne_nil kept (rest.flatMap Piece.source)
      have later := ih others
      rw [Piece.filterMap_clause?_clause, residue_cons, List.flatMap_cons, List.flatMap_cons,
        Piece.source, left]
      generalize rest.flatMap Piece.source = behind at later ⊢
      generalize (rest.filterMap Piece.clause?).flatMap Clause.source = removed at later ⊢
      generalize residue (others ++ behind) (rest.filterMap Piece.clause?) = last at later ⊢
      calc List.Perm (last ++ (found.source ++ removed)) (found.source ++ (last ++ removed)) :=
          List.perm_append_comm_assoc ..
        List.Perm _ (found.source ++ (others ++ behind)) := later.append_left _
        List.Perm _ (others ++ (found.source ++ behind)) := List.perm_append_comm_assoc ..
        _ = others ++ found.source ++ behind := (List.append_assoc ..).symm
        List.Perm _ (kept ++ found.source ++ behind) := same.append_right _
        _ = kept ++ (found.source ++ behind) := List.append_assoc ..

/-- What is left and the clauses have the characters of the text. -/
theorem residue_perm (text : Text) :
    (residue text (Clause.scan text) ++ (Clause.scan text).flatMap Clause.source).Perm text := by
  have account := residue_pieces_perm (Piece.scan text) []
  rwa [List.nil_append, Piece.flatMap_source_scan] at account

end Query
end RecordSearch
