import Mathlib.Data.List.TakeWhile
import RecordSearch.Markup.Basic

/-! Where the tags of marked text stand. The pieces of a scan are the only ones that can be put
together to the text, so a text that is put together from others has their tags and no further ones,
as long as what follows a text neither goes on with a tag that was begun nor closes one. -/
namespace RecordSearch.Markup

/-- The text is a tag: an opening bracket, one of the characters that begin a tag, characters other
than brackets, and a closing bracket. -/
inductive IsTag : Text → Prop
  | intro {c : Char} {inner : Text} : beginsTag c = true → (∀ d ∈ inner, d ≠ '[' ∧ d ≠ ']') →
      IsTag ('[' :: c :: (inner ++ [']']))

/-- A tag stands at a place of a text behind an even number of backslashes, so that it is in
force. -/
def IsActiveAt (text : Text) (place : Nat) (tag : Text) : Prop :=
  IsTag tag ∧ ∃ before count after, text = before ++ backslashes (2 * count) ++ tag ++ after ∧
    before.getLast? ≠ some '\\' ∧ place = (before ++ backslashes (2 * count)).length

def isBracket (c : Char) : Bool := c == ']' || c == '['

/-- What stands behind an opening bracket makes a tag of it. -/
def Closes (rest : Text) : Prop :=
  (∃ c ∈ rest.head?, beginsTag c = true) ∧ rest.find? isBracket = some ']'

/-- No character of the text begins a tag or takes the force from one. -/
def IsPlain (text : Text) : Prop := ∀ c ∈ text, c ≠ '[' ∧ c ≠ '\\'

/-- The text in front of which no opening bracket becomes one of a tag. -/
structure IsSealed (text : Text) : Prop where
  head : ∀ c ∈ text.head?, beginsTag c = false
  bracket : text.find? isBracket ≠ some ']'

namespace Piece

def source : Piece → Text
  | .tag count found => backslashes count ++ found
  | .plain c => [c]

def isActive : Piece → Bool
  | .tag count _ => count % 2 == 0
  | .plain _ => false

def isTag : Piece → Bool
  | .tag _ _ => true
  | .plain _ => false

def sources (pieces : List Piece) : Text := pieces.flatMap source

/-- The pieces are those of a scan: no opening bracket outside of tags would make a tag, and the
backslashes in front of a tag belong to it. -/
inductive IsScan : List Piece → Prop
  | nil : IsScan []
  | tag {count : Nat} {found : Text} {rest : List Piece} : IsTag found → IsScan rest →
      IsScan (.tag count found :: rest)
  | plain {c : Char} {rest : List Piece} : (c = '[' → ¬ Closes (sources rest)) →
      (c = '\\' → ∀ piece ∈ rest.head?, piece.isTag = false) → IsScan rest →
        IsScan (.plain c :: rest)

end Piece

open Piece

variable {text found : Text} {pieces others : List Piece} {c : Char}

theorem ne_of_beginsTag (begins : beginsTag c = true) : c ≠ '[' ∧ c ≠ ']' ∧ c ≠ '\\' := by
  refine ⟨?_, ?_, ?_⟩
  all_goals
    rintro rfl
    contradiction

theorem isBracket_eq_false (plain : c ≠ '[' ∧ c ≠ ']') : isBracket c = false := by
  simp [isBracket, plain.1, plain.2]

theorem find?_isBracket_cons (begins : beginsTag c = true) (rest : Text) :
    (c :: rest).find? isBracket = (rest.dropWhile fun d => d != ']' && d != '[').head? := by
  have outer := ne_of_beginsTag begins
  have same : (fun d => !isBracket d) = fun d => d != ']' && d != '[' := by
    funext d
    rw [isBracket, Bool.not_or]
    rfl
  rw [List.find?_cons_of_neg (by simp [isBracket_eq_false ⟨outer.1, outer.2.1⟩]),
    List.find?_eq_head?_dropWhile_not, same]

/-- What makes a tag of an opening bracket is found as one. -/
theorem exists_tag_of_closes {rest : Text} (closes : Closes rest) :
    ∃ found after, tag? ('[' :: rest) = some ('[' :: found) ∧ IsTag ('[' :: found) ∧
      rest = found ++ after := by
  obtain ⟨⟨c, first, begins⟩, bracket⟩ := closes
  obtain ⟨rest, rfl⟩ := List.head?_eq_some_iff.mp first
  rw [find?_isBracket_cons begins] at bracket
  obtain ⟨after, closed⟩ := List.head?_eq_some_iff.mp bracket
  have inner : ∀ d ∈ rest.takeWhile (fun d => d != ']' && d != '['), d ≠ '[' ∧ d ≠ ']' := by
    intro d inside
    have plain := List.mem_takeWhile_imp inside
    rw [Bool.and_eq_true, bne_iff_ne, bne_iff_ne] at plain
    exact plain.symm
  refine ⟨_, after, ?_, .intro begins inner, ?_⟩
  · simp only [tag?, begins, if_true, closed]
    rfl
  · have whole := List.takeWhile_append_dropWhile (p := fun d => d != ']' && d != '[') (l := rest)
    rw [closed] at whole
    simpa using whole.symm

theorem tag?_eq_none_of_not_closes {rest : Text} (open_ : ¬ Closes rest) :
    tag? ('[' :: rest) = none := by
  cases rest with
  | nil => rfl
  | cons c rest =>
    rw [tag?]
    split
    · next begins =>
      split
      · next after closed =>
        refine absurd ⟨⟨c, rfl, begins⟩, ?_⟩ open_
        rw [find?_isBracket_cons begins, closed]
        rfl
      · rfl
    · rfl

theorem tag?_of_ne (other : c ≠ '[') (rest : Text) : tag? (c :: rest) = none := by
  rw [tag?.eq_def]
  split
  · next same => exact absurd (List.cons.inj same).1 other
  · rfl

/-- A tag at the beginning of a text is found whatever follows. -/
theorem IsTag.tag?_append (isTag : IsTag found) (after : Text) :
    tag? (found ++ after) = some found := by
  obtain @⟨c, inner, begins, plain⟩ := isTag
  have inside : ∀ d ∈ inner, (d != ']' && d != '[') = true := by
    intro d member
    rw [Bool.and_eq_true, bne_iff_ne, bne_iff_ne]
    exact (plain d member).symm
  have behind : (inner ++ [']']) ++ after = inner ++ ']' :: after := by simp
  rw [List.cons_append, List.cons_append, behind, tag?, if_pos begins,
    List.dropWhile_append_of_pos inside, List.takeWhile_append_of_pos inside]
  simp

theorem IsTag.exists_cons (isTag : IsTag found) : ∃ rest, found = '[' :: rest := by
  cases isTag
  exact ⟨_, rfl⟩

theorem IsTag.getLast?_eq (isTag : IsTag found) : found.getLast? = some ']' := by
  obtain @⟨c, inner, -, -⟩ := isTag
  rw [← List.cons_append, ← List.cons_append, List.getLast?_concat]

/-- The first bracket of a text that begins with a tag opens it. -/
theorem IsTag.find?_isBracket (isTag : IsTag found) (count : Nat) (rest : Text) :
    (backslashes count ++ (found ++ rest)).find? isBracket = some '[' := by
  obtain ⟨inner, rfl⟩ := isTag.exists_cons
  have slashes : (backslashes count).find? isBracket = none := by
    rw [List.find?_eq_none]
    intro d inside
    obtain rfl := List.eq_of_mem_replicate inside
    decide
  rw [List.find?_append, slashes]
  rfl

/-- No opening bracket in front of a tag becomes one of a tag itself. -/
theorem IsTag.isSealed (isTag : IsTag found) (count : Nat) (rest : Text) :
    IsSealed (backslashes count ++ (found ++ rest)) := by
  refine ⟨?_, by simp [isTag.find?_isBracket]⟩
  obtain ⟨inner, rfl⟩ := isTag.exists_cons
  cases count with
  | zero =>
    rintro c ⟨⟩
    decide
  | succ count =>
    rintro c ⟨⟩
    decide

theorem IsTag.closes (isTag : IsTag ('[' :: text)) (after : Text) : Closes (text ++ after) := by
  by_contra unclosed
  have read := isTag.tag?_append after
  rw [List.cons_append, tag?_eq_none_of_not_closes unclosed] at read
  contradiction

/-- A tag that is found stands at the beginning of the text. -/
theorem isTag_of_tag? (read : tag? text = some found) :
    IsTag found ∧ ∃ after, text = found ++ after := by
  cases text with
  | nil => contradiction
  | cons c rest =>
    by_cases opening : c = '['
    · subst opening
      by_cases closes : Closes rest
      · obtain ⟨inner, after, same, isTag, split⟩ := exists_tag_of_closes closes
        obtain rfl := Option.some.inj (same.symm.trans read)
        exact ⟨isTag, after, congrArg _ split⟩
      · rw [tag?_eq_none_of_not_closes closes] at read
        contradiction
    · rw [tag?_of_ne opening] at read
      contradiction

theorem tag?_eq_none_iff {rest : Text} : tag? (c :: rest) = none ↔ (c = '[' → ¬ Closes rest) := by
  constructor
  · rintro read rfl closes
    obtain ⟨_, _, same, -⟩ := exists_tag_of_closes closes
    rw [read] at same
    contradiction
  · intro unclosed
    by_cases opening : c = '['
    · subst opening
      exact tag?_eq_none_of_not_closes (unclosed rfl)
    · exact tag?_of_ne opening rest

namespace Piece

@[simp] theorem sources_nil : sources [] = [] := rfl

@[simp] theorem sources_cons (piece : Piece) (rest : List Piece) :
    sources (piece :: rest) = piece.source ++ sources rest :=
  rfl

@[simp] theorem sources_append : sources (pieces ++ others) = sources pieces ++ sources others :=
  List.flatMap_append

@[simp] theorem sources_map_plain (text : Text) : sources (text.map .plain) = text := by
  induction text with
  | nil => rfl
  | cons c text ih => rw [List.map_cons, sources_cons, ih, source, List.singleton_append]

theorem scanAfter_skip (skip pending : Nat) (text : Text) :
    scanAfter skip pending text = scanAfter 0 pending (text.drop skip) := by
  induction text generalizing skip with
  | nil => rw [List.drop_nil, scanAfter, scanAfter]
  | cons c text ih =>
    cases skip with
    | zero => rfl
    | succ skip => rw [scanAfter, ih, List.drop_succ_cons]

theorem backslashes_succ (count : Nat) : backslashes (count + 1) = '\\' :: backslashes count :=
  List.replicate_succ

theorem backslashes_append (count other : Nat) :
    backslashes count ++ backslashes other = backslashes (count + other) :=
  List.replicate_append_replicate

theorem IsScan.afterBackslashes (isScan : IsScan pieces)
    (first : ∀ piece ∈ pieces.head?, piece.isTag = false) (count : Nat) :
    IsScan ((backslashes count).map .plain ++ pieces) := by
  induction count with
  | zero => exact isScan
  | succ count ih =>
    rw [backslashes_succ, List.map_cons, List.cons_append]
    refine .plain (fun same => absurd same (by decide)) (fun _ => ?_) ih
    cases count with
    | zero => exact first
    | succ count =>
      rintro piece ⟨⟩
      rfl

/-- A scan gives the text back, behind the backslashes that were read in front of it. -/
theorem scanAfter_spec (skip pending : Nat) (text : Text) :
    sources (scanAfter skip pending text) = backslashes pending ++ text.drop skip ∧
      IsScan (scanAfter skip pending text) := by
  induction text generalizing skip pending with
  | nil =>
    have alone := IsScan.nil.afterBackslashes (by simp) pending
    rw [List.append_nil] at alone
    rw [scanAfter, sources_map_plain, List.drop_nil, List.append_nil]
    exact ⟨rfl, alone⟩
  | cons c rest ih =>
    cases skip with
    | succ skip => exact ih skip pending
    | zero =>
      rw [scanAfter, List.drop_zero]
      split
      · next same =>
        obtain rfl := eq_of_beq same
        obtain ⟨whole, isScan⟩ := ih 0 (pending + 1)
        refine ⟨?_, isScan⟩
        rw [whole, List.drop_zero, ← backslashes_append pending 1, List.append_assoc]
        rfl
      next other =>
        split
        · next found read =>
          obtain ⟨isTag, after, split⟩ := isTag_of_tag? read
          obtain ⟨whole, isScan⟩ := ih (found.length - 1) 0
          refine ⟨?_, .tag isTag isScan⟩
          obtain ⟨inner, rfl⟩ := isTag.exists_cons
          obtain ⟨rfl, same⟩ := List.cons.inj split
          obtain rfl : rest = inner ++ after := same
          rw [sources_cons, whole, source, List.length_cons, Nat.add_sub_cancel, List.drop_left,
            List.append_assoc]
          rfl
        · next read =>
          obtain ⟨whole, isScan⟩ := ih 0 0
          have inner : IsScan (.plain c :: scanAfter 0 0 rest) := by
            refine .plain ?_ (fun same => absurd same (by simpa using other)) isScan
            rw [whole]
            exact tag?_eq_none_iff.mp read
          refine ⟨?_, inner.afterBackslashes (by rintro piece ⟨⟩; rfl) pending⟩
          rw [sources_append, sources_map_plain, sources_cons, whole]
          rfl

theorem scanAfter_backslashes (pending count : Nat) (rest : Text) :
    scanAfter 0 pending (backslashes count ++ rest) = scanAfter 0 (pending + count) rest := by
  induction count generalizing pending with
  | zero => rfl
  | succ count ih =>
    rw [backslashes_succ, List.cons_append, scanAfter, if_pos (beq_self_eq_true _), ih,
      Nat.add_assoc, Nat.add_comm 1 count]

/-- The pieces behind so many backslashes, which belong to a tag that follows and else stand
alone. -/
def behind (pending : Nat) : List Piece → List Piece
  | .tag count found :: rest => .tag (pending + count) found :: rest
  | pieces => (backslashes pending).map .plain ++ pieces

theorem behind_of_first (first : ∀ piece ∈ pieces.head?, piece.isTag = false) (pending : Nat) :
    behind pending pieces = (backslashes pending).map .plain ++ pieces := by
  cases pieces with
  | nil => rfl
  | cons piece rest =>
    cases piece with
    | plain c => rfl
    | tag count found => exact absurd (first _ rfl) (by simp [isTag])

theorem behind_zero (pieces : List Piece) : behind 0 pieces = pieces := by
  cases pieces with
  | nil => rfl
  | cons piece rest =>
    cases piece with
    | plain c => rfl
    | tag count found => rw [behind, Nat.zero_add]

/-- The pieces of a scan are found again. -/
theorem IsScan.scanAfter_eq (isScan : IsScan pieces) (pending : Nat) :
    scanAfter 0 pending (sources pieces) = behind pending pieces := by
  induction isScan generalizing pending with
  | nil => rw [sources_nil, scanAfter, behind_of_first (by simp), List.append_nil]
  | @tag count found rest isTag isScan ih =>
    obtain ⟨inner, rfl⟩ := isTag.exists_cons
    have read := isTag.tag?_append (sources rest)
    rw [List.cons_append] at read
    rw [sources_cons, source, List.append_assoc, scanAfter_backslashes, List.cons_append, scanAfter,
      if_neg (by decide), read]
    simp only [List.length_cons, Nat.add_sub_cancel]
    rw [scanAfter_skip, List.drop_left, ih, behind_zero]
    rfl
  | @plain c rest unclosed alone isScan ih =>
    rw [sources_cons, source, List.singleton_append, scanAfter]
    split
    · next same =>
      obtain rfl := eq_of_beq same
      rw [ih (pending + 1), behind_of_first (alone rfl), behind_of_first (by rintro _ ⟨⟩; rfl),
        ← backslashes_append pending 1, List.map_append, List.append_assoc]
      rfl
    · rw [tag?_eq_none_iff.mpr unclosed, ih, behind_zero]
      rfl

theorem IsScan.scan_eq (isScan : IsScan pieces) : scan (sources pieces) = pieces := by
  rw [scan, isScan.scanAfter_eq, behind_zero]

theorem sources_scan (text : Text) : sources (scan text) = text := (scanAfter_spec 0 0 text).1

theorem isScan_scan (text : Text) : IsScan (scan text) := (scanAfter_spec 0 0 text).2

theorem getLast?_sources (last : pieces.getLast? = some (.plain c)) :
    (sources pieces).getLast? = some c := by
  obtain ⟨front, rfl⟩ := List.getLast?_eq_some_iff.mp last
  rw [sources_append, sources_cons, sources_nil, source, List.append_nil, List.getLast?_concat]

theorem closes_of_append {rest after : Text} (isSealed : IsSealed after)
    (closes : Closes (rest ++ after)) : Closes rest := by
  obtain ⟨⟨c, first, begins⟩, bracket⟩ := closes
  rw [List.find?_append] at bracket
  cases own : rest.find? isBracket with
  | none =>
    rw [own] at bracket
    exact absurd bracket isSealed.bracket
  | some d =>
    rw [own] at bracket
    refine ⟨⟨c, ?_, begins⟩, own.trans bracket⟩
    cases rest with
    | nil => contradiction
    | cons other rest => exact first

/-- Two texts have the tags of both, if what follows the first does not go on with a tag begun in
it, and no tag behind takes backslashes from its end. -/
theorem IsScan.append (isScan : IsScan pieces) (other_isScan : IsScan others)
    (isSealed : IsSealed (sources others))
    (apart : pieces.getLast? = some (.plain '\\') → ∀ piece ∈ others.head?, piece.isTag = false) :
    IsScan (pieces ++ others) := by
  have later {piece : Piece} {rest : List Piece} (last : rest.getLast? = some (.plain '\\')) :
      (piece :: rest).getLast? = some (.plain '\\') := by
    rw [List.getLast?_cons, last]
    rfl
  induction isScan with
  | nil => exact other_isScan
  | tag isTag isScan ih => exact .tag isTag (ih fun last => apart (later last))
  | @plain c rest unclosed alone isScan ih =>
    rw [List.cons_append]
    refine .plain (fun opening closes => ?_) (fun same => ?_) (ih fun last => apart (later last))
    · rw [sources_append] at closes
      exact unclosed opening (closes_of_append isSealed closes)
    · cases rest with
      | nil =>
        rw [same] at apart
        exact apart rfl
      | cons piece rest => exact alone same

theorem scan_append {first second : Text} (isSealed : IsSealed second)
    (apart : first.getLast? = some '\\' → ∀ piece ∈ (scan second).head?, piece.isTag = false) :
    scan (first ++ second) = scan first ++ scan second := by
  have joined :=
    ((isScan_scan first).append (isScan_scan second) (by rwa [sources_scan]) fun last => apart (by
    rw [← sources_scan first]
    exact getLast?_sources last)).scan_eq
  rwa [sources_append, sources_scan, sources_scan] at joined

theorem scan_cons_plain (other : c ≠ '[' ∧ c ≠ '\\') (rest : Text) :
    scan (c :: rest) = .plain c :: scan rest := by
  rw [scan, scanAfter, if_neg (by simpa using other.2), tag?_of_ne other.1]
  rfl

theorem scan_append_plain {front : Text} (plain : IsPlain front) (rest : Text) :
    scan (front ++ rest) = front.map .plain ++ scan rest := by
  induction front with
  | nil => rfl
  | cons c front ih =>
    obtain ⟨first, others⟩ := List.forall_mem_cons.mp plain
    rw [List.cons_append, scan_cons_plain first, ih others]
    rfl

def activeFrom (start : Nat) : List Piece → List (Nat × Text)
  | [] => []
  | .tag count found :: rest =>
    (if count % 2 = 0 then [(start + count, found)] else []) ++
      activeFrom (start + count + found.length) rest
  | .plain _ :: rest => activeFrom (start + 1) rest

theorem mem_activeFrom_iff {start place : Nat} {tag : Text} :
    (place, tag) ∈ activeFrom start pieces ↔
    ∃ before count after, pieces = before ++ .tag (2 * count) tag :: after ∧
      place = start + (sources before).length + 2 * count := by
  induction pieces generalizing start with
  | nil => simp [activeFrom]
  | cons piece rest ih =>
    have inside : (place, tag) ∈ activeFrom start (piece :: rest) ↔
        (∃ count, piece = .tag (2 * count) tag ∧ place = start + 2 * count) ∨
          (place, tag) ∈ activeFrom (start + piece.source.length) rest := by
      cases piece with
      | plain c => simp [activeFrom, source]
      | tag count found =>
        rw [activeFrom, List.mem_append, source, List.length_append, backslashes,
          List.length_replicate, Nat.add_assoc]
        refine or_congr_left ?_
        constructor
        · intro here
          split at here
          · next even =>
            obtain ⟨rfl, rfl⟩ := Prod.mk.inj (List.mem_singleton.mp here)
            exact ⟨count / 2, by rw [Nat.mul_div_cancel' (Nat.dvd_of_mod_eq_zero even)], by omega⟩
          · contradiction
        · rintro ⟨half, same, rfl⟩
          obtain ⟨rfl, rfl⟩ := Piece.tag.inj same
          rw [if_pos (Nat.mul_mod_right 2 half)]
          exact List.mem_singleton_self _
    rw [inside, ih]
    constructor
    · rintro (⟨count, rfl, rfl⟩ | ⟨before, count, after, rfl, rfl⟩)
      · exact ⟨[], count, rest, rfl, rfl⟩
      · refine ⟨piece :: before, count, after, rfl, ?_⟩
        rw [sources_cons, List.length_append, Nat.add_assoc start]
    · rintro ⟨before, count, after, whole, rfl⟩
      cases before with
      | nil =>
        obtain ⟨rfl, rfl⟩ := List.cons.inj whole
        exact .inl ⟨count, rfl, rfl⟩
      | cons first before =>
        obtain ⟨rfl, rfl⟩ := List.cons.inj whole
        refine .inr ⟨before, count, after, rfl, ?_⟩
        rw [sources_cons, List.length_append]
        omega

theorem IsScan.of_append {before after : List Piece} {count : Nat} {found : Text}
    (isScan : IsScan (before ++ .tag count found :: after)) :
    IsTag found ∧ before.getLast? ≠ some (.plain '\\') := by
  induction before with
  | nil =>
    cases isScan with
    | tag isTag _ => exact ⟨isTag, by simp⟩
  | cons piece before ih =>
    have own : IsScan (before ++ .tag count found :: after) := by
      cases isScan with
      | tag _ rest => exact rest
      | plain _ _ rest => exact rest
    refine ⟨(ih own).1, fun last => ?_⟩
    cases before with
    | nil =>
      obtain rfl := Option.some.inj last
      cases isScan with
      | plain _ alone _ => exact absurd (alone rfl _ rfl) (by simp [isTag])
    | cons next before =>
      rw [List.getLast?_cons_cons] at last
      exact (ih own).2 last

/-- No further backslash stands in front of those that belong to a tag. -/
theorem IsScan.getLast?_sources_ne {before after : List Piece} {count : Nat} {found : Text}
    (isScan : IsScan (before ++ .tag count found :: after)) :
    (sources before).getLast? ≠ some '\\' := by
  rcases List.eq_nil_or_concat before with rfl | ⟨front, piece, rfl⟩
  · simp
  · rw [List.concat_eq_append] at isScan ⊢
    cases piece with
    | plain c =>
      have last := isScan.of_append.2
      rw [List.getLast?_concat] at last
      rw [sources_append, sources_cons, sources_nil, source, List.append_nil, List.getLast?_concat]
      rintro ⟨⟩
      exact last rfl
    | tag other own =>
      rw [List.append_assoc] at isScan
      have last := isScan.of_append.1.getLast?_eq
      rw [sources_append, sources_cons, sources_nil, source, List.append_nil, List.getLast?_append,
        List.getLast?_append, last]
      simp

end Piece

def activeTags (text : Text) : List (Nat × Text) := Piece.activeFrom 0 (Piece.scan text)

/-- The tags in force are those that a scan finds behind an even number of backslashes. -/
theorem isActiveAt_iff {place : Nat} {tag : Text} :
    IsActiveAt text place tag ↔ (place, tag) ∈ activeTags text := by
  rw [activeTags, mem_activeFrom_iff]
  constructor
  · rintro ⟨isTag, before, count, after, rfl, last, rfl⟩
    have isScan : IsScan (scan before ++ .tag (2 * count) tag :: scan after) := by
      refine (isScan_scan before).append (.tag isTag (isScan_scan after)) ?_ fun other => ?_
      · rw [sources_cons, source, List.append_assoc]
        exact isTag.isSealed _ _
      · have own := getLast?_sources other
        rw [sources_scan] at own
        exact absurd own last
    refine ⟨scan before, count, scan after, ?_, ?_⟩
    · rw [← isScan.scan_eq]
      simp [source, sources_scan]
    · simp [sources_scan, backslashes]
  · rintro ⟨before, count, after, whole, rfl⟩
    have isScan := isScan_scan text
    rw [whole] at isScan
    refine ⟨isScan.of_append.1, sources before, count, sources after, ?_,
      isScan.getLast?_sources_ne, ?_⟩
    · rw [← sources_scan text, whole]
      simp [source]
    · simp [backslashes]

end RecordSearch.Markup
