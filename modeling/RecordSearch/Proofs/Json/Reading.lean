import RecordSearch.Proofs.Json.Written

/-! The reader accepts the texts of documents and no others. At any place before the text stops
being JSON, the tokens read so far are those of the containers that are open there, up to the same
place in them. -/
namespace RecordSearch.Json

/-- Whether a token that stands for a document is all that writes it. -/
def Token.IsProper : Token → Prop
  | .scalar document => document.tokens = [.scalar document]
  | _ => True

theorem Token.isProper_first (text : Text) : (Token.first text).1.IsProper := by
  unfold Token.first
  split <;> try trivial
  all_goals split <;> trivial

theorem Token.isProper_of_mem_scanAfter {skip : Nat} {text : Text} {token : Token}
    (inside : token ∈ scanAfter skip text) : token.IsProper := by
  induction text generalizing skip with
  | nil => simp [scanAfter] at inside
  | cons c rest ih =>
    cases skip with
    | succ skip => exact ih inside
    | zero =>
      rw [scanAfter] at inside
      have first := isProper_first (c :: rest)
      split at inside
      · exact ih inside
      · split at inside
        · obtain rfl := List.mem_singleton.mp inside
          trivial
        · next next count read =>
          rw [read] at first
          rcases List.mem_cons.mp inside with rfl | later
          · exact first
          · exact ih later

theorem isWhole_of_isProper {document : Document} (proper : (Token.scalar document).IsProper) :
    document.isWhole = true := by
  cases document <;> simp_all [Token.IsProper, Document.tokens, Document.isWhole]

def itemsBefore (items : List Document) : List Token :=
  items.flatMap fun item => item.tokens ++ [.comma]

def membersBefore (members : List (Text × Document)) : List Token :=
  members.flatMap fun member =>
    .scalar (.string member.1) :: .colon :: (member.2.tokens ++ [.comma])

theorem itemTokens_false {items : List Document} (nonempty : items ≠ []) :
    itemTokens false items = .comma :: itemTokens true items := by
  cases items with
  | nil => contradiction
  | cons => rfl

theorem memberTokens_false {members : List (Text × Document)} (nonempty : members ≠ []) :
    memberTokens false members = .comma :: memberTokens true members := by
  cases members with
  | nil => contradiction
  | cons => rfl

theorem itemTokens_concat (items : List Document) (last : Document) :
    itemTokens true (items ++ [last]) = itemsBefore items ++ (last.tokens ++ [.closeArray]) := by
  induction items with
  | nil => simp [itemTokens, itemsBefore]
  | cons item rest ih => simp [itemTokens, itemTokens_false, ih, itemsBefore]

theorem memberTokens_concat (members : List (Text × Document)) (name : Text) (last : Document) :
    memberTokens true (members ++ [(name, last)]) =
      membersBefore members ++
        (.scalar (.string name) :: .colon :: (last.tokens ++ [.closeObject])) := by
  induction members with
  | nil => simp [memberTokens, membersBefore]
  | cons member rest ih => simp [memberTokens, memberTokens_false, ih, membersBefore]

/-- The tokens up to the place of the next value in an open container. -/
def Frame.tokens : Frame → List Token
  | .array items => .openArray :: itemsBefore items.reverse
  | .object members name =>
    .openObject :: (membersBefore members.reverse ++ [.scalar (.string name), .colon])

def Frame.isWhole : Frame → Bool
  | .array items => items.all Document.isWhole
  | .object members _ => members.all fun member => member.2.isWhole

@[simp] theorem Frame.isWhole_array (items : List Document) :
    (Frame.array items).isWhole = items.all Document.isWhole :=
  rfl

@[simp] theorem Frame.isWhole_object (members : List (Text × Document)) (name : Text) :
    (Frame.object members name).isWhole = members.all fun member => member.2.isWhole := rfl

theorem allWhole_eq_all (items : List Document) :
    Document.allWhole items = items.all Document.isWhole := by
  induction items with
  | nil => rfl
  | cons item rest ih => simp [Document.allWhole, ih]

theorem membersWhole_eq_all (members : List (Text × Document)) :
    Document.membersWhole members = members.all fun member => member.2.isWhole := by
  induction members with
  | nil => rfl
  | cons member rest ih => simp [Document.membersWhole, ih]

def tokensBefore (frames : List Frame) : List Token := frames.reverse.flatMap Frame.tokens

namespace Progress

/-- The tokens are those of what has been read. -/
inductive Accounts : List Token → Progress → Prop
  | value (frames : List Frame) : frames.all Frame.isWhole →
      Accounts (tokensBefore frames) (.reading frames .value)
  | firstItem (outer : List Frame) : outer.all Frame.isWhole →
      Accounts (tokensBefore outer ++ [.openArray]) (.reading (.array [] :: outer) .firstItem)
  | item (last : Document) (items : List Document)
      (outer : List Frame) : (Frame.array (last :: items) :: outer).all Frame.isWhole →
      Accounts (tokensBefore outer ++ (.openArray :: (itemsBefore items.reverse ++ last.tokens)))
        (.reading (.array (last :: items) :: outer) .commaOrClose)
  | firstName (pending : Text) (outer : List Frame) : outer.all Frame.isWhole →
      Accounts (tokensBefore outer ++ [.openObject])
        (.reading (.object [] pending :: outer) .firstName)
  | name (members : List (Text × Document)) (pending : Text) (outer : List Frame) :
      (Frame.object members pending :: outer).all Frame.isWhole →
      Accounts (tokensBefore outer ++ (.openObject :: membersBefore members.reverse))
        (.reading (.object members pending :: outer) .name)
  | colon (members : List (Text × Document)) (name : Text) (outer : List Frame) :
      (Frame.object members name :: outer).all Frame.isWhole →
      Accounts (tokensBefore outer ++
          (.openObject :: (membersBefore members.reverse ++ [.scalar (.string name)])))
        (.reading (.object members name :: outer) .colon)
  | member (name : Text) (last : Document) (members : List (Text × Document)) (pending : Text)
      (outer : List Frame) :
      (Frame.object ((name, last) :: members) pending :: outer).all Frame.isWhole →
      Accounts (tokensBefore outer ++
          (.openObject ::
              (membersBefore members.reverse ++ (.scalar (.string name) :: .colon :: last.tokens))))
        (.reading (.object ((name, last) :: members) pending :: outer) .commaOrClose)
  | finished (document : Document) : document.isWhole →
      Accounts document.tokens (.finished document)
  | broken (tokens : List Token) (document : Document) : Accounts tokens (.broken document)

variable {frames outer : List Frame} {document : Document} {token : Token} {tokens : List Token}
  {progress : Progress}

theorem Accounts.put (whole : frames.all Frame.isWhole = true) (own : document.isWhole = true) :
    Accounts (tokensBefore frames ++ document.tokens) (put document frames) := by
  cases frames with
  | nil => exact .finished document own
  | cons frame outer =>
    cases frame with
    | array items =>
      have read := Accounts.item document items outer (by simpa [own] using whole)
      simpa [Progress.put, tokensBefore, Frame.tokens] using read
    | object members name =>
      have read := Accounts.member name document members [] outer (by simpa [own] using whole)
      simpa [Progress.put, tokensBefore, Frame.tokens] using read

theorem Accounts.beginValue (proper : token.IsProper) (whole : frames.all Frame.isWhole = true) :
    Accounts (tokensBefore frames ++ [token]) (beginValue frames token) := by
  cases token with
  | openArray => exact .firstItem frames whole
  | openObject => exact .firstName [] frames whole
  | scalar document =>
    have read := Accounts.put whole (isWhole_of_isProper proper)
    rwa [proper] at read
  | _ => exact .broken _ _

theorem Accounts.beginMember (members : List (Text × Document)) (pending : Text)
    (whole : (Frame.object members pending :: outer).all Frame.isWhole = true) (token : Token) :
    Accounts (tokensBefore outer ++ (.openObject :: (membersBefore members.reverse ++ [token])))
      (beginMember (.object members pending :: outer) token) := by
  cases token with
  | scalar document =>
    cases document with
    | string name => exact .colon members name outer whole
    | _ => exact .broken _ _
  | _ => exact .broken _ _

theorem Accounts.closeArray (last : Document) (items : List Document)
    (whole : (Frame.array (last :: items) :: outer).all Frame.isWhole = true) :
    Accounts (tokensBefore outer ++
        (.openArray :: (itemsBefore items.reverse ++ (last.tokens ++ [.closeArray]))))
      (Progress.put (.array (last :: items).reverse) outer) := by
  obtain ⟨here, later⟩ := Bool.and_eq_true_iff.mp whole
  have own : (Document.array (last :: items).reverse).isWhole = true := by
    simpa [Document.isWhole, allWhole_eq_all, and_comm] using here
  simpa [Document.tokens, itemTokens_concat] using Accounts.put later own

theorem Accounts.closeObject (name : Text) (last : Document) (members : List (Text × Document))
    (pending : Text)
    (whole : (Frame.object ((name, last) :: members) pending :: outer).all Frame.isWhole = true) :
    Accounts (tokensBefore outer ++
        (.openObject :: (membersBefore members.reverse ++
            (.scalar (.string name) :: .colon :: (last.tokens ++ [.closeObject])))))
      (Progress.put (.object ((name, last) :: members).reverse) outer) := by
  obtain ⟨here, later⟩ := Bool.and_eq_true_iff.mp whole
  have own : (Document.object ((name, last) :: members).reverse).isWhole = true := by
    simpa [Document.isWhole, membersWhole_eq_all, and_comm] using here
  simpa [Document.tokens, memberTokens_concat] using Accounts.put later own

/-- One more token keeps the account. -/
theorem Accounts.step (accounts : Accounts tokens progress) (proper : token.IsProper) :
    Accounts (tokens ++ [token]) (step progress token) := by
  cases accounts with
  | value frames whole => exact .beginValue proper whole
  | firstItem outer whole =>
    have begun : Accounts (tokensBefore (.array [] :: outer) ++ [token])
        (Progress.beginValue (.array [] :: outer) token) :=
      .beginValue proper (by simpa using whole)
    cases token with
    | closeArray =>
      have read : Accounts (tokensBefore outer ++ (Document.array []).tokens) _ := .put whole rfl
      simpa [Progress.step, endContainer, Document.tokens, itemTokens] using read
    | _ => simpa [Progress.step, tokensBefore, Frame.tokens, itemsBefore] using begun
  | item last items outer whole =>
    cases token with
    | comma =>
      have read := Accounts.value (.array (last :: items) :: outer) whole
      simpa [Progress.step, tokensBefore, Frame.tokens, itemsBefore] using read
    | closeArray => simpa [Progress.step, endContainer] using Accounts.closeArray last items whole
    | _ => exact .broken _ _
  | firstName pending outer whole =>
    have begun := Accounts.beginMember [] pending (by simpa using whole) token
    cases token with
    | closeObject =>
      have read : Accounts (tokensBefore outer ++ (Document.object []).tokens) _ := .put whole rfl
      simpa [Progress.step, endContainer, Document.tokens, memberTokens] using read
    | _ => simpa [Progress.step, membersBefore] using begun
  | name members pending outer whole =>
    simpa [Progress.step] using Accounts.beginMember members pending whole token
  | colon members name outer whole =>
    cases token with
    | colon =>
      have read := Accounts.value (.object members name :: outer) whole
      simpa [Progress.step, tokensBefore, Frame.tokens] using read
    | _ => exact .broken _ _
  | member name last members pending outer whole =>
    cases token with
    | comma =>
      have read := Accounts.name ((name, last) :: members) pending outer whole
      simpa [Progress.step, membersBefore] using read
    | closeObject =>
      simpa [Progress.step, endContainer] using Accounts.closeObject name last members pending whole
    | _ => exact .broken _ _
  | finished document whole => exact .broken _ _
  | broken document => exact .broken _ _

theorem Accounts.foldl (more : List Token) (proper : ∀ token ∈ more, token.IsProper)
    (accounts : Accounts tokens progress) :
    Accounts (tokens ++ more) (more.foldl Progress.step progress) := by
  induction more generalizing tokens progress with
  | nil => simpa using accounts
  | cons token rest ih =>
    obtain ⟨first, later⟩ := List.forall_mem_cons.mp proper
    simpa using ih later (accounts.step first)

end Progress

/-- Exactly the texts with the tokens of a whole document are read as one. -/
theorem read_eq_iff {text : Text} {document : Document} :
    read text = (document, true) ↔ document.isWhole = true ∧ Token.scan text = document.tokens := by
  constructor
  · intro done
    have accounts := Progress.Accounts.foldl (Token.scan text)
        (fun _ => Token.isProper_of_mem_scanAfter) (.value [] rfl)
    rw [read] at done
    generalize (Token.scan text).foldl Progress.step (.reading [] .value) =
      progress at accounts done
    cases progress with
    | reading => simp [Progress.result] at done
    | broken => simp [Progress.result] at done
    | finished found =>
      obtain rfl : found = document := congrArg Prod.fst done
      generalize shown : tokensBefore [] ++ Token.scan text = whole at accounts
      cases accounts with
      | finished _ own => exact ⟨own, shown⟩
  · rintro ⟨whole, written⟩
    exact read_of_tokens whole written

theorem isWritten_iff {bytes : Bytes} {document : Document} :
    IsWritten bytes document ↔
      ∃ text, Utf8.decode bytes = (text, none) ∧ read text = (document, true) := by
  simp only [IsWritten, read_eq_iff]
  grind

end RecordSearch.Json
