import RecordSearch.Proofs.Text.Chunks

/-! What blanks around and between words do not change: the words of a text, and its characters that
are not blank. Normalizing and trimming keep these all, so that what a text has lost besides blanks
can be counted. -/
namespace RecordSearch

namespace Text

def solid (text : Text) : Text := text.filter fun c => !isBlank c

@[simp] theorem solid_nil : solid [] = [] := rfl

@[simp] theorem solid_append (text rest : Text) : solid (text ++ rest) = solid text ++ solid rest :=
  List.filter_append ..

theorem solid_cons_blank {c : Char} (blank : isBlank c = true) (rest : Text) :
    solid (c :: rest) = solid rest := by
  rw [solid, List.filter_cons_of_neg (by simp [blank]), solid]

@[simp] theorem solid_space_cons (rest : Text) : solid (' ' :: rest) = solid rest :=
  solid_cons_blank (by decide) rest

theorem mem_solid {text : Text} {c : Char} : c ∈ solid text ↔ c ∈ text ∧ isBlank c = false := by
  simp [solid]

theorem solid_gap {gap : Text} (blanks : IsGap gap) : solid gap = [] := by
  simpa [solid, IsGap] using blanks

theorem solid_join (pieces : List Text) : solid (join [' '] pieces) = pieces.flatMap solid :=
  flatMap_join rfl (fun before rest => by simp) pieces

theorem solid_normalize (text : Text) : solid (normalize text) = solid text := by
  rw [normalize, solid_join]
  refine flatMap_words rfl ?_ text
  intro before c rest blank
  rw [solid_append, solid_cons_blank blank]

theorem isGap_space : IsGap [' '] := by simp [IsGap, isBlank]

theorem isGap_append {gap rest : Text} (blanks : IsGap gap) (others : IsGap rest) :
    IsGap (gap ++ rest) :=
  List.forall_mem_append.mpr ⟨blanks, others⟩

theorem words_join (pieces : List Text) : words (join [' '] pieces) = pieces.flatMap words :=
  flatMap_join rfl (fun before rest => words_append_blank (by decide) before rest) pieces

theorem words_append_gap {gap : Text} (blanks : IsGap gap) (text : Text) :
    words (text ++ gap) = words text := by
  cases gap with
  | nil => rw [List.append_nil]
  | cons c gap =>
    have rest : IsGap gap := fun d inside => blanks d (List.mem_cons_of_mem _ inside)
    rw [words_append_blank (blanks c List.mem_cons_self), words_gap rest, List.append_nil]

theorem exists_gaps_trim (text : Text) :
    ∃ before behind, IsGap before ∧ IsGap behind ∧ text = before ++ (trim text ++ behind) := by
  have front : IsGap (text.takeWhile isBlank) := fun c inside => List.mem_takeWhile_imp inside
  have back : IsGap ((text.dropWhile isBlank).reverse.takeWhile isBlank).reverse := by
    intro c inside
    exact List.mem_takeWhile_imp (List.mem_reverse.mp inside)
  refine ⟨_, _, front, back, ?_⟩
  rw [trim, dropWhileEnd, ← List.reverse_append, List.takeWhile_append_dropWhile,
    List.reverse_reverse, List.takeWhile_append_dropWhile]

theorem words_trim (text : Text) : words (trim text) = words text := by
  obtain ⟨before, behind, front, back, whole⟩ := exists_gaps_trim text
  have same := words_gap_append front (trim text ++ behind)
  rw [← whole, words_append_gap back] at same
  exact same.symm

theorem solid_trim (text : Text) : solid (trim text) = solid text := by
  obtain ⟨before, behind, front, back, whole⟩ := exists_gaps_trim text
  have same := solid_append before (trim text ++ behind)
  rw [← whole, solid_append, solid_gap front, solid_gap back, List.nil_append,
    List.append_nil] at same
  exact same.symm

theorem trim_gap_append {gap : Text} (blanks : IsGap gap) (text : Text) :
    trim (gap ++ text) = trim text := by
  rw [trim, List.dropWhile_append_of_pos blanks, trim]

/-- Blanks behind a text are trimmed with those that it has itself. -/
theorem trim_append_blanks {text gap : Text} (blanks : IsGap gap) :
    trim (text ++ gap) = trim text := by
  have back (front : Text) : dropWhileEnd isBlank (front ++ gap) = dropWhileEnd isBlank front := by
    rw [dropWhileEnd, List.reverse_append,
      List.dropWhile_append_of_pos (by simpa [IsGap] using blanks), dropWhileEnd]
  rw [trim, List.dropWhile_append]
  split
  · next empty =>
    have rest : gap.dropWhile isBlank = [] := List.dropWhile_eq_nil_iff.mpr blanks
    rw [trim, List.isEmpty_iff.mp empty, rest]
  · rw [back, trim]

/-- Normalizing brings in no characters but blanks. -/
theorem mem_of_mem_normalize {text : Text} {c : Char} (inside : c ∈ normalize text)
    (other : isBlank c = false) : c ∈ text := by
  have member := mem_solid.mpr ⟨inside, other⟩
  rw [solid_normalize] at member
  exact (mem_solid.mp member).1

theorem mem_of_mem_words {text word : Text} {c : Char} (member : word ∈ words text)
    (inside : c ∈ word) : c ∈ text := by
  have other := (isWord_of_mem_words member).free c inside
  have solid_words : c ∈ (words text).flatMap solid :=
    List.mem_flatMap.mpr ⟨word, member, mem_solid.mpr ⟨inside, other⟩⟩
  rw [← solid_join, ← normalize, solid_normalize] at solid_words
  exact (mem_solid.mp solid_words).1

theorem colonless_normalize {text : Text} (colonless : ':' ∉ text) : ':' ∉ normalize text := by
  intro inside
  exact colonless (mem_of_mem_normalize inside (by decide))

end Text

end RecordSearch
