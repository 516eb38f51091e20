import RecordSearch.Yaml.Scan
import RecordSearch.Yaml.Tag

/-! From the tokens of a YAML document to its tree of nodes. An alias stands for the node that its
anchor was put on before it. -/
namespace RecordSearch.Yaml

inductive Node where
  | scalar (tag : Tag) (text : Text)
  | sequence (tag : Tag) (items : List Node)
  | mapping (tag : Tag) (members : List (Node × Node))

namespace Node

/-- A place where no node stands. -/
def missing : Node := .scalar .null []

/-- The tokens still to be read, the nodes that have an anchor, and what the handles of tags
mean. -/
structure Reading where
  tokens : List Token
  anchors : List (Text × Node) := []
  handles : List (Text × Text)

abbrev Step (α : Type) := StateT Reading Option α

namespace Step

def peek : Step (Option Token) := do return (← get).tokens.head?

def pass : Step Unit := modify fun reading => { reading with tokens := reading.tokens.tail }

def expect (token : Token) : Step Unit := do
  if (← peek) = some token then pass else failure

def take (token : Token) : Step Bool := do
  if (← peek) = some token then
    pass
    return true
  else return false

def sees (tokens : List Token) : Step Bool := do return (← peek).any tokens.contains

def tagName (tagging : Tagging) : Step Text := do
  match tagging.handle with
  | none => return tagging.name
  | some handle =>
    match (← get).handles.lookup handle with
    | some meaning => return meaning ++ tagging.name
    | none => failure

/-- The anchor and the tag of a node, in either order. -/
def properties : Step (Option Text × Option Text) := do
  match ← peek with
  | some (.anchor name) =>
    pass
    match ← peek with
    | some (.tag tagging) =>
      pass
      return (some name, some (← tagName tagging))
    | _ => return (some name, none)
  | some (.tag tagging) =>
    pass
    let tag ← tagName tagging
    match ← peek with
    | some (.anchor name) =>
      pass
      return (some name, some tag)
    | _ => return (none, some tag)
  | _ => return (none, none)

/-- Puts an anchor on a node. A name is put on one node only. -/
def mark (anchor : Option Text) (node : Node) : Step Node := do
  match anchor with
  | none => return node
  | some name =>
    let reading ← get
    if (reading.anchors.lookup name).isSome then failure
    else
      set { reading with anchors := (name, node) :: reading.anchors }
      return node

end Step

/-- What a tag says, where it says more than that there is one. -/
def given? (tag : Option Text) : Option Tag :=
  match tag with
  | some ['!'] | none => none
  | some name => some (Tag.ofName name)

/-- What a scalar is: what its tag says; without one, what its form says if it is plain or has the
empty tag. -/
def scalarTag (tag : Option Text) (plain : Bool) (text : Text) : Tag :=
  match given? tag with
  | some given => given
  | none => if plain || tag.isSome then Tag.ofPlain text else .text

mutual
/-- The node that comes next. Blocks, and blocks of members without an indentation of their own, are
allowed only in some places. -/
def next (block indentless : Bool) : (fuel : Nat) → Step Node
  | 0 => failure
  | fuel + 1 => do
    match ← Step.peek with
    | some (.alias name) =>
      Step.pass
      match (← get).anchors.lookup name with
      | some node => return node
      | none => failure
    | _ =>
      let (anchor, tag) ← Step.properties
      Step.mark anchor (← content block indentless anchor tag fuel)

def content (block indentless : Bool) (anchor tag : Option Text) : (fuel : Nat) → Step Node
  | 0 => failure
  | fuel + 1 => do
    let listTag := (given? tag).getD .list
    let mapTag := (given? tag).getD .map
    match ← Step.peek with
    | some .entry =>
      if indentless then return .sequence listTag (← entries fuel)
      else absent anchor tag
    | some (.scalar text plain) =>
      Step.pass
      return .scalar (scalarTag tag plain text) text
    | some .openSequence =>
      Step.pass
      return .sequence listTag (← flowItems true fuel)
    | some .openMapping =>
      Step.pass
      return .mapping mapTag (← flowMembers true fuel)
    | some .beginSequence =>
      if block then do
        Step.pass
        let items ← entries fuel
        Step.expect .endBlock
        return .sequence listTag items
      else absent anchor tag
    | some .beginMapping =>
      if block then do
        Step.pass
        let members ← blockMembers fuel
        Step.expect .endBlock
        return .mapping mapTag members
      else absent anchor tag
    | _ => absent anchor tag

/-- A node of which only the anchor or the tag stands there. -/
def absent (anchor tag : Option Text) : Step Node :=
  if anchor.isSome || tag.isSome then return .scalar (scalarTag tag true []) [] else failure

def nextUnless (stops : List Token) (block indentless : Bool) : (fuel : Nat) → Step Node
  | 0 => failure
  | fuel + 1 => do if ← Step.sees stops then return missing else next block indentless fuel

def entries : (fuel : Nat) → Step (List Node)
  | 0 => failure
  | fuel + 1 => do
    if ← Step.take .entry then
      let item ← nextUnless [.entry, .key, .value, .endBlock] true false fuel
      return item :: (← entries fuel)
    else return []

def blockMembers : (fuel : Nat) → Step (List (Node × Node))
  | 0 => failure
  | fuel + 1 => do
    let stops := [Token.key, .value, .endBlock]
    if ← Step.take .key then
      let name ← nextUnless stops true true fuel
      let value ← if ← Step.take .value then nextUnless stops true true fuel else pure missing
      return (name, value) :: (← blockMembers fuel)
    else return []

def flowValue (close : Token) : (fuel : Nat) → Step Node
  | 0 => failure
  | fuel + 1 => do
    if ← Step.take .value then nextUnless [.comma, close] false false fuel else return missing

/-- The members in square brackets. A member with a name is a mapping of its own. -/
def flowItems (first : Bool) : (fuel : Nat) → Step (List Node)
  | 0 => failure
  | fuel + 1 => do
    if ← Step.take .closeSequence then return []
    else
      if !first then Step.expect .comma
      if ← Step.take .closeSequence then return []
      else if ← Step.take .key then
        let name ← nextUnless [.value, .comma, .closeSequence] false false fuel
        let value ← flowValue .closeSequence fuel
        return .mapping .map [(name, value)] :: (← flowItems false fuel)
      else
        let item ← next false false fuel
        return item :: (← flowItems false fuel)

def flowMembers (first : Bool) : (fuel : Nat) → Step (List (Node × Node))
  | 0 => failure
  | fuel + 1 => do
    if ← Step.take .closeMapping then return []
    else
      if !first then Step.expect .comma
      if ← Step.take .closeMapping then return []
      else if ← Step.take .key then
        let name ← nextUnless [.value, .comma, .closeMapping] false false fuel
        let value ← flowValue .closeMapping fuel
        return (name, value) :: (← flowMembers false fuel)
      else
        let name ← next false false fuel
        return (name, missing) :: (← flowMembers false fuel)
end

/-- What the directives say about the handles of tags. There is at most one version, which is 1, and
each handle has one meaning. -/
def handlesOf? : (versioned : Bool) → List (Text × Text) → List Directive →
    Option (List (Text × Text))
  | _, handles, [] => some handles
  | versioned, handles, .version major :: rest =>
    if versioned || major != 1 then none else handlesOf? true handles rest
  | versioned, handles, .handle handle meaning :: rest =>
    if (handles.lookup handle).isSome then none
    else handlesOf? versioned ((handle, meaning) :: handles) rest
  | versioned, handles, .other :: rest => handlesOf? versioned handles rest

def commonHandles : List (Text × Text) := [(['!'], ['!']), (['!', '!'], Tag.common)]

def directives : List Token → List Directive × List Token
  | .directive directive :: rest =>
    let (others, behind) := directives rest
    (directive :: others, behind)
  | tokens => ([], tokens)

/-- The node of the document that begins with some tokens. The document ends with the tokens, but
for its own end markers. -/
def ofContent? (handles : List (Text × Text)) (tokens : List Token) : Option Node :=
  let isEnd : List Token → Bool
    | [] | .directive _ :: _ | .documentStart :: _ | .documentEnd :: _ => true
    | _ => false
  let fuel := 5 * tokens.length + 16
  let content : Step Node := if isEnd tokens then pure missing else next true false fuel
  match content.run { tokens := tokens, handles := handles ++ commonHandles } with
  | some (node, reading) =>
    if (reading.tokens.dropWhile (· = .documentEnd)).isEmpty then some node else none
  | none => none

/-- The node of the only document that some tokens make up; none of none at all is nothing. -/
def ofTokens? (tokens : List Token) : Option Node :=
  match tokens with
  | [] => some missing
  | .directive _ :: _ | .documentStart :: _ => do
    let (said, rest) := directives tokens
    match rest with
    | .documentStart :: behind => ofContent? (← handlesOf? false [] said) behind
    | _ => none
  | .documentEnd :: _ => none
  | _ => ofContent? [] tokens

end Node
end RecordSearch.Yaml
