import RecordSearch.Search.Sql

/-! How a reader of SQL takes a statement apart. A quote inside a value is written twice, which the
reader undoes in front of everything that does not begin with a quote itself. Fragments that keep to
this are read one by one. -/
namespace RecordSearch.Sql

/-- What a reader meets: a character of the language, or a whole literal. -/
inductive Token where
  | symbol (c : Char)
  | literal (value : Text)
  deriving DecidableEq, Repr

mutual

/-- The tokens of a text. There are none if a literal is not closed. -/
def tokens? : Text → Option (List Token)
  | [] => some []
  | c :: rest =>
    if c = singleQuote then (literal? rest).map fun (value, later) => .literal value :: later
    else (tokens? rest).map (.symbol c :: ·)

/-- The value of a literal whose opening quote has been read, and the tokens behind it. A quote that
is written twice stands for one, any other closes the literal. -/
def literal? : Text → Option (Text × List Token)
  | [] => none
  | c :: rest =>
    if c = singleQuote then
      match rest with
      | [] => some ([], [])
      | d :: behind =>
        if d = singleQuote then (literal? behind).map fun (value, later) => (d :: value, later)
        else (tokens? (d :: behind)).map fun later => ([], later)
    else (literal? rest).map fun (value, later) => (c :: value, later)

end

namespace Token

def value? : Token → Option Text
  | .symbol _ => none
  | .literal value => some value

def symbol? : Token → Option Char
  | .symbol c => some c
  | .literal _ => none

end Token

def doubled : Text → Text
  | [] => []
  | c :: rest => if c = singleQuote then c :: c :: doubled rest else c :: doubled rest

theorem quote_append (value rest : Text) :
    quote value ++ rest = singleQuote :: (doubled value ++ singleQuote :: rest) := by
  have body : value.flatMap (fun c => if c == singleQuote then [c, c] else [c]) =
      doubled value := by
    induction value with
    | nil => rfl
    | cons c value ih =>
      by_cases quoted : c = singleQuote
      · rw [List.flatMap_cons, if_pos (by simpa using quoted), ih, doubled, if_pos quoted]
        rfl
      · rw [List.flatMap_cons, if_neg (by simpa using quoted), ih, doubled, if_neg quoted]
        rfl
  rw [quote, body]
  simp

theorem literal?_cons {c : Char} (other : c ≠ singleQuote) (rest : Text) :
    literal? (c :: rest) = (literal? rest).map fun (value, later) => (c :: value, later) := by
  cases rest with
  | nil => simp [literal?, other]
  | cons d behind => simp only [literal?, if_neg other]

theorem literal?_doubled {rest : Text} (value : Text) (ends : rest.head? ≠ some singleQuote) :
    literal? (doubled value ++ singleQuote :: rest) = (tokens? rest).map fun later =>
      (value, later) := by
  induction value with
  | nil =>
    cases rest with
    | nil => simp [doubled, literal?, tokens?]
    | cons d behind =>
      have other : d ≠ singleQuote := by simpa using ends
      simp [doubled, literal?, other]
  | cons c value ih =>
    by_cases quoted : c = singleQuote
    · simp only [doubled, if_pos quoted, List.cons_append, literal?, ih, Option.map_map]
      rfl
    · rw [doubled, if_neg quoted, List.cons_append, literal?_cons quoted, ih, Option.map_map]
      rfl

theorem tokens?_quote {rest : Text} (value : Text) (ends : rest.head? ≠ some singleQuote) :
    tokens? (quote value ++ rest) = (tokens? rest).map (.literal value :: ·) := by
  rw [quote_append, tokens?, if_pos rfl, literal?_doubled value ends, Option.map_map]
  rfl

theorem tokens?_code {text : Text} (quoteless : singleQuote ∉ text) (rest : Text) :
    tokens? (text ++ rest) = (tokens? rest).map (text.map .symbol ++ ·) := by
  induction text with
  | nil => simp
  | cons c text ih =>
    rw [List.mem_cons, not_or] at quoteless
    rw [List.cons_append, tokens?, if_neg (Ne.symm quoteless.1), ih quoteless.2, Option.map_map]
    rfl

def Fragment.tokens : Fragment → List Token
  | .code text => text.map .symbol
  | .literal value => [.literal value]

/-- Code has no quotes, and no quote follows a literal. -/
def IsReadable : Fragments → Prop
  | [] => True
  | .code text :: rest => singleQuote ∉ text ∧ IsReadable rest
  | .literal _ :: rest => (render rest).head? ≠ some singleQuote ∧ IsReadable rest

theorem tokens?_render {fragments : Fragments} (readable : IsReadable fragments) :
    tokens? (render fragments) = some (fragments.flatMap Fragment.tokens) := by
  induction fragments with
  | nil => simp [render, tokens?]
  | cons fragment rest ih =>
    cases fragment with
    | code text =>
      have later := ih readable.2
      have read := tokens?_code readable.1 (render rest)
      rw [later] at read
      exact read
    | literal value =>
      have later := ih readable.2
      have read := tokens?_quote value readable.1
      rw [later] at read
      exact read

theorem render_append (front back : Fragments) :
    render (front ++ back) = render front ++ render back :=
  List.flatMap_append

theorem render_code (text : String) : render (code text) = text.toList := by
  simp [render, code, Fragment.text]

structure IsPart (fragments : Fragments) : Prop where
  readable : IsReadable fragments
  opening : (render fragments).head? ≠ some singleQuote

namespace IsPart

theorem append {front back : Fragments} (first : IsPart front) (second : IsPart back) :
    IsPart (front ++ back) := by
  have head?_append {start : Text} (other : start.head? ≠ some singleQuote) :
      (start ++ render back).head? ≠ some singleQuote := by
    cases start with
    | nil => exact second.opening
    | cons c rest => exact other
  obtain ⟨readable, opening⟩ := first
  constructor
  · clear opening
    induction front with
    | nil => exact second.readable
    | cons fragment rest ih =>
      cases fragment with
      | code text => exact ⟨readable.1, ih readable.2⟩
      | literal value =>
        refine ⟨?_, ih readable.2⟩
        have apart := head?_append readable.1
        rwa [← render_append] at apart
  · rw [render_append]
    exact head?_append opening

theorem opening_of_code {text : Text} (quoteless : singleQuote ∉ text) :
    text.head? ≠ some singleQuote := by
  intro opens
  exact quoteless (List.mem_of_mem_head? opens)

theorem ofCode {text : Text} (quoteless : singleQuote ∉ text) : IsPart [.code text] := by
  have opens := opening_of_code quoteless
  exact ⟨⟨quoteless, trivial⟩, by simpa [render, Fragment.text] using opens⟩

/-- A literal behind the column and the operator that it is compared by. -/
theorem comparison {text : Text} (quoteless : singleQuote ∉ text) (nonempty : text ≠ [])
    (value : Text) : IsPart [.code text, .literal value] := by
  have opens := opening_of_code quoteless
  obtain ⟨c, rest, rfl⟩ := List.exists_cons_of_ne_nil nonempty
  exact ⟨⟨quoteless, by simp [render], trivial⟩, by simpa [render, Fragment.text] using opens⟩

theorem join {gap : String} (quoteless : singleQuote ∉ gap.toList) {parts : List Fragments}
    (each : ∀ part ∈ parts, IsPart part) : IsPart (joinWith gap parts) := by
  induction parts using joinWith.induct with
  | case1 => exact ⟨trivial, by simp [joinWith, render]⟩
  | case2 part => exact each part List.mem_cons_self
  | case3 part rest several ih =>
    have later := ih fun other member => each other (List.mem_cons_of_mem _ member)
    rw [joinWith]
    · exact ((each part List.mem_cons_self).append (ofCode quoteless)).append later
    · exact several

end IsPart

end RecordSearch.Sql
