import RecordSearch.Proofs.Markup.Tags

/-! Escaped text has no tag in force, and keeps none when it is put between other texts. -/
namespace RecordSearch.Markup

open Piece

/-- No tag of the text is in force. -/
def IsQuiet (text : Text) : Prop := ∀ piece ∈ scan text, piece.isActive = false

namespace Piece

def plainly : Piece → Piece
  | .tag count found => .tag (2 * count + 1) found
  | .plain c => .plain c

variable {pieces others : List Piece}

theorem source_plainly (piece : Piece) : piece.plainly.source = piece.escape := by
  cases piece with
  | tag count found => rfl
  | plain c => rfl

theorem isActive_plainly (piece : Piece) : piece.plainly.isActive = false := by
  cases piece with
  | tag count found =>
    rw [plainly, isActive, beq_eq_false_iff_ne]
    omega
  | plain c => rfl

theorem find?_isBracket_map_plainly (isScan : IsScan pieces) :
    (sources (pieces.map plainly)).find? isBracket = (sources pieces).find? isBracket := by
  induction isScan with
  | nil => rfl
  | @tag count found rest isTag _ _ =>
    rw [List.map_cons, sources_cons, sources_cons, plainly, source, source, List.append_assoc,
      List.append_assoc, isTag.find?_isBracket, isTag.find?_isBracket]
  | @plain c rest _ _ _ ih =>
    rw [List.map_cons, sources_cons, sources_cons, plainly, source, List.find?_append,
      List.find?_append, ih]

/-- A backslash more in front of tags makes no tag of an opening bracket that stands before them. -/
theorem closes_of_map_plainly (isScan : IsScan pieces)
    (closes : Closes (sources (pieces.map plainly))) : Closes (sources pieces) := by
  obtain ⟨⟨c, first, begins⟩, bracket⟩ := closes
  rw [find?_isBracket_map_plainly isScan] at bracket
  refine ⟨⟨c, ?_, begins⟩, bracket⟩
  cases pieces with
  | nil => contradiction
  | cons piece rest =>
    cases piece with
    | plain d => exact first
    | tag count found =>
      obtain rfl : '\\' = c := Option.some.inj first
      contradiction

theorem IsScan.map_plainly (isScan : IsScan pieces) : IsScan (pieces.map plainly) := by
  induction isScan with
  | nil => exact .nil
  | tag isTag _ ih => exact .tag isTag ih
  | @plain c rest unclosed alone isScan ih =>
    refine .plain (fun opening closes => unclosed opening (closes_of_map_plainly isScan closes))
      (fun same => ?_) ih
    rw [List.head?_map]
    intro piece first
    obtain ⟨own, here, rfl⟩ := Option.map_eq_some_iff.mp first
    have untagged := alone same own here
    cases own with
    | plain d => rfl
    | tag count found => contradiction

end Piece

variable {text first second : Text}

/-- An escaped text is a scan in which every tag has an odd number of backslashes, and maybe one
backslash more at the end. -/
theorem exists_isScan_escape (text : Text) :
    ∃ pieces, IsScan pieces ∧ sources pieces = escape text ∧ ∀ piece ∈ pieces,
      piece.isActive = false := by
  have isScan := (isScan_scan text).map_plainly
  have whole : sources ((scan text).map plainly) = (scan text).flatMap Piece.escape := by
    simp only [sources, List.flatMap_map, source_plainly]
  have inactive : ∀ piece ∈ (scan text).map plainly, piece.isActive = false := by
    intro piece inside
    obtain ⟨own, -, rfl⟩ := List.mem_map.mp inside
    exact isActive_plainly own
  rw [escape, ← whole]
  split
  · refine ⟨(scan text).map plainly ++ [.plain '\\'], ?_, by simp [source], ?_⟩
    · have last : IsScan [.plain '\\'] :=
        .plain (fun same => absurd same (by decide)) (by simp) .nil
      refine isScan.append last ⟨?_, by decide⟩ ?_
      · rintro c ⟨⟩
        decide
      · rintro - piece ⟨⟩
        rfl
    · intro piece inside
      rcases List.mem_append.mp inside with inside | inside
      · exact inactive piece inside
      · obtain rfl := List.mem_singleton.mp inside
        rfl
  · exact ⟨_, isScan, rfl, inactive⟩

theorem isQuiet_escape (text : Text) : IsQuiet (escape text) := by
  obtain ⟨pieces, isScan, whole, inactive⟩ := exists_isScan_escape text
  rw [IsQuiet, ← whole, isScan.scan_eq]
  exact inactive

theorem IsQuiet.append (quiet : IsQuiet first) (second_quiet : IsQuiet second)
    (isSealed : IsSealed second)
    (apart : first.getLast? = some '\\' → ∀ piece ∈ (scan second).head?, piece.isTag = false) :
    IsQuiet (first ++ second) := by
  rw [IsQuiet, scan_append isSealed apart]
  intro piece inside
  exact (List.mem_append.mp inside).elim (quiet piece) (second_quiet piece)

/-- Plain text may stand in front. -/
theorem IsQuiet.plain_append (quiet : IsQuiet second) (plain : IsPlain first) :
    IsQuiet (first ++ second) := by
  rw [IsQuiet, scan_append_plain plain]
  intro piece inside
  rcases List.mem_append.mp inside with inside | inside
  · obtain ⟨c, -, rfl⟩ := List.mem_map.mp inside
    rfl
  · exact quiet piece inside

theorem IsQuiet.space_cons (quiet : IsQuiet text) : IsQuiet (' ' :: text) :=
  @plain_append [' '] text quiet (by simp [IsPlain])

theorem isQuiet_nil : IsQuiet [] := by
  intro piece inside
  contradiction

theorem IsPlain.isQuiet (plain : IsPlain text) : IsQuiet text := by
  have alone := isQuiet_nil.plain_append plain
  rwa [List.append_nil] at alone

/-- A text without brackets and backslashes is its own escaped form. -/
theorem IsPlain.escape_eq (plain : IsPlain text) : escape text = text := by
  have pieces : scan text = text.map .plain := by
    have alone := scan_append_plain plain []
    rwa [List.append_nil, show scan [] = [] from rfl, List.append_nil] at alone
  have same : (scan text).flatMap Piece.escape = text := by
    rw [pieces, List.flatMap_map]
    exact List.flatMap_singleton' text
  have last : endsWithLoneBackslash text = false := by
    rw [endsWithLoneBackslash]
    cases reversed : text.reverse with
    | nil => rfl
    | cons c rest =>
      have other := (plain c (by rw [← List.mem_reverse, reversed]; exact List.mem_cons_self)).2
      split
      · next same => exact absurd (List.cons.inj same).1 other
      · next same => exact absurd (List.cons.inj same).1 other
      · rfl
  rw [escape, same, last]
  rfl

theorem mem_escape {c : Char} (inside : c ∈ escape text) : c ∈ text ∨ c = '\\' := by
  have pieces : c ∈ (scan text).flatMap Piece.escape → c ∈ text ∨ c = '\\' := by
    intro inside
    obtain ⟨piece, stands, inside⟩ := List.mem_flatMap.mp inside
    have source_inside : ∀ d ∈ piece.source, d ∈ text := by
      intro d own
      rw [← sources_scan text]
      exact List.mem_flatMap.mpr ⟨piece, stands, own⟩
    cases piece with
    | plain d => exact .inl (source_inside c inside)
    | tag count found =>
      rcases List.mem_append.mp inside with slash | own
      · exact .inr (List.eq_of_mem_replicate slash)
      · exact .inl (source_inside c (List.mem_append_right _ own))
  rw [escape] at inside
  split at inside
  · rcases List.mem_append.mp inside with inside | inside
    · exact pieces inside
    · exact .inr (List.mem_singleton.mp inside)
  · exact pieces inside

namespace Piece

theorem activeFrom_append (start : Nat) (pieces others : List Piece) :
    activeFrom start (pieces ++ others) =
      activeFrom start pieces ++ activeFrom (start + (sources pieces).length) others := by
  induction pieces generalizing start with
  | nil => rfl
  | cons piece rest ih =>
    cases piece with
    | plain c =>
      rw [List.cons_append, activeFrom, activeFrom, ih, sources_cons, List.length_append,
        ← Nat.add_assoc]
      rfl
    | tag count found =>
      have length : (source (.tag count found)).length = count + found.length := by
        simp [source, backslashes]
      rw [List.cons_append, activeFrom, activeFrom, ih, sources_cons, List.length_append, length,
        List.append_assoc]
      simp only [Nat.add_assoc]

theorem activeFrom_of_inactive {pieces : List Piece}
    (inactive : ∀ piece ∈ pieces, piece.isActive = false) (start : Nat) :
    activeFrom start pieces = [] := by
  induction pieces generalizing start with
  | nil => rfl
  | cons piece rest ih =>
    obtain ⟨own, later⟩ := List.forall_mem_cons.mp inactive
    cases piece with
    | plain c => exact ih later _
    | tag count found =>
      rw [isActive, beq_eq_false_iff_ne] at own
      rw [activeFrom, if_neg own, ih later, List.append_nil]

/-- A text between two tags, unless its end would take the force from the second. -/
theorem IsScan.styled {body opening closing : Text} {rest : List Piece} (isScan : IsScan rest)
    (opens : IsTag opening) (closes : IsTag closing) (last : body.getLast? ≠ some '\\') :
    IsScan (.tag 0 opening :: (scan body ++ .tag 0 closing :: rest)) := by
  refine .tag opens ((isScan_scan body).append (.tag closes isScan) ?_ fun other => ?_)
  · rw [sources_cons, source, List.append_assoc]
    exact closes.isSealed 0 _
  · have own := getLast?_sources other
    rw [sources_scan] at own
    exact absurd own last

end Piece

end RecordSearch.Markup
