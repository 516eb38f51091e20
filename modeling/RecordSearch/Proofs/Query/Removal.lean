import RecordSearch.Proofs.Query.Account
import RecordSearch.Proofs.Query.Connectives
import RecordSearch.Proofs.Query.Extraction
import RecordSearch.Proofs.Query.Residue
import RecordSearch.Proofs.Query.Shape

/-! The steps by which the clauses are removed from a query. Every step finds its clause in front of
what follows the clause's own place, and takes nothing of the clauses that are still to be removed;
so the clauses, the connectives and the free text have the characters of the query between them. -/
namespace RecordSearch

theorem Text.solid_perm {text other : Text} (same : text.Perm other) :
    (solid text).Perm (solid other) :=
  same.filter _

namespace Query

/-- A step that takes a clause out of what is left of a query: the later clauses stand behind what
is taken, each character where it stood in the query. -/
inductive RemovalStep (clause : Clause) (later : List (Clause × Nat)) :
    List Placed → List Placed → Prop
  | take {front taken back : List Placed} : taken.map Prod.fst = clause.source →
      (∀ other ∈ later, other.1.source.zipIdx other.2 <:+: back) →
      RemovalStep clause later (front ++ (taken ++ back)) (front ++ back)

def connectiveWords (text : Text) : List Text :=
  ((Text.chunks isWordChar text).filter fun chunk => (connective? chunk).isSome).map Chunk.text

def writtenConnectives (text : Text) : List Text :=
  match Clause.scan text with
  | [] => []
  | clauses => connectiveWords (residue text clauses)

end Query

theorem Piece.infix_of_mem_clausesPlaced {pieces : List Piece} {start : Nat} {placed : Clause × Nat}
    (member : placed ∈ clausesPlaced start pieces) :
    placed.1.source.zipIdx placed.2 <:+: (pieces.flatMap source).zipIdx start := by
  induction pieces generalizing start with
  | nil => simp [clausesPlaced] at member
  | cons piece rest ih =>
    cases piece with
    | plain c => exact List.infix_cons (ih member)
    | clause found =>
      rw [Query.zipIdx_clause_cons]
      rcases List.mem_cons.mp member with rfl | member
      · exact (List.prefix_append _ _).isInfix
      · exact (ih member).trans (List.suffix_append _ _).isInfix

namespace Query

theorem removalStep_of_hit {clause : Clause} {later : List (Clause × Nat)} {hit : List Placed}
    (same : hit.map Prod.fst = clause.source) (kept rest : List Placed)
    (behind : ∀ other ∈ later, other.1.source.zipIdx other.2 <:+: rest) :
    RemovalStep clause later (kept ++ (hit ++ rest))
      (Text.eraseFirstPlaced clause.source (kept ++ (hit ++ rest))) := by
  obtain ⟨front, taken, back, split, found, left⟩ :=
    Text.exists_eraseFirstPlaced_append clause.source_ne_nil same kept rest
  rw [left, ← List.append_assoc, split, List.append_assoc, List.append_assoc]
  refine .take found fun other member => ?_
  exact (behind other member).trans (List.suffix_append _ _).isInfix

theorem removalStep_pieces (pieces : List Piece) (start : Nat) (kept : List Placed)
    {before later : List (Clause × Nat)} {placed : Clause × Nat}
    (split : Piece.clausesPlaced start pieces = before ++ placed :: later) :
    let rest :=
      (before.map Prod.fst).foldl (fun rest clause => Text.eraseFirstPlaced clause.source rest)
      (kept ++ (pieces.flatMap Piece.source).zipIdx start)
    RemovalStep placed.1 later rest (Text.eraseFirstPlaced placed.1.source rest) := by
  -- Whatever has been kept in front of the pieces still to come, the clauses among them stand in
  -- their own places.
  induction pieces generalizing start kept before with
  | nil => simp [Piece.clausesPlaced] at split
  | cons piece pieces ih =>
    cases piece with
    | plain c =>
      have step := ih (start + 1) (kept ++ [(c, start)]) split
      rwa [List.append_assoc] at step
    | clause found =>
      have same : (found.source.zipIdx start).map Prod.fst = found.source := List.zipIdx_map_fst ..
      rw [zipIdx_clause_cons]
      cases before with
      | nil =>
        obtain ⟨rfl, rfl⟩ := List.cons.inj split
        exact removalStep_of_hit same kept _ fun other member =>
          Piece.infix_of_mem_clausesPlaced member
      | cons first before =>
        obtain ⟨rfl, others⟩ := List.cons.inj split
        obtain ⟨front, taken, back, -, -, left⟩ :=
          Text.exists_eraseFirstPlaced_append found.source_ne_nil same kept
          ((pieces.flatMap Piece.source).zipIdx (start + found.source.length))
        rw [← List.append_assoc front] at left
        rw [List.map_cons, List.foldl_cons, left]
        exact ih _ (front ++ back) others

theorem residuePlaced_append (text : Text) (clauses : List Clause) (clause : Clause) :
    residuePlaced text (clauses ++ [clause]) =
      Text.eraseFirstPlaced clause.source (residuePlaced text clauses) := by
  simp [residuePlaced]

theorem removalStep_scan {text : Text} {before later : List (Clause × Nat)} {placed : Clause × Nat}
    (split : Clause.scanPlaced text = before ++ placed :: later) :
    RemovalStep placed.1 later (residuePlaced text (before.map Prod.fst))
      (residuePlaced text ((before ++ [placed]).map Prod.fst)) := by
  have step := removalStep_pieces (Piece.scan text) 0 [] split
  rw [List.map_append, List.map_singleton, residuePlaced_append]
  rwa [List.nil_append, Piece.flatMap_source_scan] at step

theorem residue_sublist (text : Text) (clauses : List Clause) :
    (residue text clauses).Sublist text := by
  have fewer := (foldl_eraseFirstPlaced_sublist clauses text.zipIdx).map Prod.fst
  rwa [← residuePlaced, map_fst_residuePlaced, List.zipIdx_map_fst] at fewer

theorem connectiveWords_eq_filter (text : Text) :
    connectiveWords text = (Text.runs isWordChar text).filter
      fun word => (Connective.ofWord? word).isSome := by
  rw [connectiveWords, Text.runs]
  induction Text.chunks isWordChar text with
  | nil => rfl
  | cons chunk rest ih =>
    cases chunk with
    | other c => exact ih
    | run word =>
      cases spelled : Connective.ofWord? word with
      | none => simpa [connective?, Chunk.run?, spelled] using ih
      | some connective => simpa [connective?, Chunk.run?, Chunk.text, spelled] using ih

theorem map_toUpper_connectiveWords (text : Text) :
    (connectiveWords text).map (List.map Char.toUpper) =
    (connectivesIn text).map Connective.name := by
  rw [connectiveWords_eq_filter, connectivesIn_eq_filterMap]
  induction Text.runs isWordChar text with
  | nil => rfl
  | cons word rest ih =>
    cases spelled : Connective.ofWord? word with
    | none => simpa [spelled] using ih
    | some connective => simpa [spelled, Connective.name_of_ofWord? spelled] using ih

theorem writtenConnectives_of_clauses {text : Text} (clauses : Clause.scan text ≠ []) :
    writtenConnectives text = connectiveWords (residue text (Clause.scan text)) := by
  rw [writtenConnectives]
  split
  · contradiction
  · rfl

theorem map_toUpper_writtenConnectives (text : Text) :
    (writtenConnectives (Text.normalize text)).map (List.map Char.toUpper) =
    (parse text).connectives := by
  by_cases clauseless : Clause.scan (Text.normalize text) = []
  · rw [parse, ofNormalized_of_clauseless clauseless, writtenConnectives, clauseless]
    rfl
  · rw [parse, ofNormalized_of_clauses clauseless, writtenConnectives_of_clauses clauseless,
      map_toUpper_connectiveWords]

theorem withoutConnectives_perm (text : Text) :
    (withoutConnectives text ++ (connectiveWords text).flatten).Perm text := by
  have parts := List.filter_append_perm (fun chunk => (connective? chunk).isNone)
      (Text.chunks isWordChar text)
  have taken : (Text.chunks isWordChar text).filter (fun chunk => !(connective? chunk).isNone) =
      (Text.chunks isWordChar text).filter fun chunk => (connective? chunk).isSome := by simp
  have whole := parts.flatMap_right Chunk.text
  have kept := Text.ofChunks_chunks isWordChar text
  rw [Text.ofChunks] at kept
  rw [taken, List.flatMap_append, kept] at whole
  rwa [withoutConnectives, connectiveWords, ← List.flatMap_def]

theorem getD_asFullText (text : Text) : (asFullText text).getD [] = text := by
  rw [asFullText]
  cases text with
  | nil => rfl
  | cons c rest => rfl

theorem fullText_sublist_residue (text : Text) :
    ((parse text).fullText.getD []).Sublist
    (residue (Text.normalize text) (Clause.scan (Text.normalize text))) := by
  by_cases clauseless : Clause.scan (Text.normalize text) = []
  · rw [parse, ofNormalized_of_clauseless clauseless, getD_asFullText, clauseless]
    exact List.Sublist.refl _
  · rw [parse, ofNormalized_of_clauses clauseless, getD_asFullText]
    exact (Text.trim_isInfix _).sublist.trans (withoutConnectives_sublist _)

theorem solid_normalize_perm (text : Text) :
    let normal := Text.normalize text
    (Text.solid normal).Perm (Text.solid ((Clause.scan normal).flatMap Clause.source ++
      ((writtenConnectives normal).flatten ++ (parse text).fullText.getD []))) := by
  intro normal
  by_cases clauseless : Clause.scan normal = []
  · rw [parse, ofNormalized_of_clauseless clauseless, getD_asFullText,
      writtenConnectives, clauseless]
    exact List.Perm.refl _
  · rw [parse, ofNormalized_of_clauses clauseless, getD_asFullText,
      writtenConnectives_of_clauses clauseless, Text.solid_append, Text.solid_append,
      Text.solid_trim]
    have removed := Text.solid_perm (residue_perm normal)
    have taken := Text.solid_perm (withoutConnectives_perm (residue normal (Clause.scan normal)))
    rw [Text.solid_append] at removed taken
    calc (Text.solid normal).Perm _ := removed.symm
      List.Perm _ _ := List.perm_append_comm
      List.Perm _ _ := (taken.symm.trans List.perm_append_comm).append_left _

/-- Parsing accounts for every character. Every step of the removal finds its clause and leaves
alone the clauses that are still to be removed, what is left stands in the same order in the
normalized query, and the clauses, the connectives as they are written and the free text have its
characters between them, blanks left out. -/
theorem parse_accounts (text : Text) :
    let normal := Text.normalize text
    let left := residue normal (Clause.scan normal)
    let full := (parse text).fullText.getD []
    (∀ before placed later, Clause.scanPlaced normal = before ++ placed :: later →
      RemovalStep placed.1 later (residuePlaced normal (before.map Prod.fst))
        (residuePlaced normal ((before ++ [placed]).map Prod.fst))) ∧
      (Clause.scanPlaced normal).map Prod.fst = Clause.scan normal ∧
      (residuePlaced normal (Clause.scan normal)).map Prod.fst = left ∧
      left.Sublist normal ∧ full.Sublist left ∧
      (writtenConnectives normal).map (List.map Char.toUpper) = (parse text).connectives ∧
      (Text.solid normal).Perm
        (Text.solid ((Clause.scan normal).flatMap Clause.source ++
            ((writtenConnectives normal).flatten ++ full))) :=
  ⟨fun _ _ _ split => removalStep_scan split, Clause.map_fst_scanPlaced _,
    map_fst_residuePlaced _ _,
    residue_sublist _ _, fullText_sublist_residue text, map_toUpper_writtenConnectives text,
        solid_normalize_perm text⟩

/-- A clause taken from an earlier place, in front of another and of connectives in either case. -/
theorem parse_accounts_earlier_place :
    let text := "title:x :y title:x AND or tags:b".toList
    let first : Clause := ⟨"title".toList, false, ['x'], []⟩
    let tags : Clause := ⟨"tags".toList, false, ['b'], []⟩
    Clause.scanPlaced text = [(first, 11), (tags, 26)] ∧
      RemovalStep first [(tags, 26)] text.zipIdx (residuePlaced text [first]) ∧
      writtenConnectives text = ["AND".toList, "or".toList] := by
  intro text first tags
  have found : Clause.scanPlaced text = [(first, 11), (tags, 26)] := by decide +kernel
  have normal : Text.normalize text = text := by decide +kernel
  have step := (parse_accounts text).1 [] (first, 11) [(tags, 26)]
  rw [normal] at step
  exact ⟨found, step found, by decide +kernel⟩

end Query
end RecordSearch
