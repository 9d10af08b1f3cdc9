import OrgStacks.Yaml.Token.Stream

/-!
# Node trees of YAML

The grammar over tokens. A missing node is an empty plain scalar. Tags are complete here: handles
have been replaced by what they stand for. Each function takes tokens and gives the rest; its first
argument bounds the depth of the calls and is larger than any text needs.
-/

set_option autoImplicit false

namespace OrgStacks.Yaml

/-- The anchor and the tag of a node; `α` is what anchors are called. -/
structure Properties (α : Type) where
  anchor : Option α := none
  tag : Option ByteArray := none

inductive Node (α : Type) where
  | scalar (mark : Mark) (properties : Properties α) (text : String) (plain : Bool)
  | seq (properties : Properties α) (items : List (Node α))
  | map (properties : Properties α) (pairs : List (Node α × Node α))
  | aliasOf (name : α)

namespace Node

/-- A node that was read, and the tokens after it. -/
abbrev Step := Option (Node String × List Placed)

abbrev Handles := List (String × String)

def empty (mark : Mark) (properties : Properties String := {}) : Node String :=
  .scalar mark properties "" true

def markOf : List Placed → Mark
  | [] => default
  | t :: _ => t.mark

/-- A tag without handle is its suffix. -/
def expandTag (handles : Handles) (handle : String) (suffix : ByteArray) : Option ByteArray :=
  if handle.isEmpty then some suffix
  else (handles.find? fun h => h.1 == handle).map fun h => h.2.toUTF8 ++ suffix

/-- An anchor and a tag, in either order. -/
def properties (handles : Handles) : List Placed → Option (Properties String × List Placed)
  | ⟨_, .anchor a⟩ :: ⟨_, .tag h s⟩ :: rest =>
    (expandTag handles h s).map fun tag => ({ anchor := a, tag := tag }, rest)
  | ⟨_, .tag h s⟩ :: ⟨_, .anchor a⟩ :: rest =>
    (expandTag handles h s).map fun tag => ({ anchor := a, tag := tag }, rest)
  | ⟨_, .anchor a⟩ :: rest => some ({ anchor := a }, rest)
  | ⟨_, .tag h s⟩ :: rest => (expandTag handles h s).map fun tag => ({ tag := tag }, rest)
  | rest => some ({}, rest)

/-- Where nodes stand, which decides what tokens follow a missing one. -/
inductive Place where
  | blockItem | indentlessItem | blockPair | flowItem | flowPair

def Place.ends : Place → Token → Bool
  | blockItem, .blockEntry | blockItem, .blockEnd => true
  | indentlessItem, .blockEntry | indentlessItem, .key | indentlessItem, .value => true
  | indentlessItem, .blockEnd => true
  | blockPair, .key | blockPair, .value | blockPair, .blockEnd => true
  | flowItem, .flowEntry | flowItem, .flowSeqEnd => true
  | flowPair, .flowEntry | flowPair, .flowMapEnd => true
  | _, _ => false

def Place.inBlock : Place → Bool
  | blockItem | indentlessItem | blockPair => true
  | flowItem | flowPair => false

def Place.isPair : Place → Bool
  | blockPair => true
  | _ => false

mutual

/-- A node. In a block, block collections may start, and after a key or its colon also entries at
the column of the key. -/
def read (handles : Handles) (block indentless : Bool) : Nat → List Placed → Step
  | 0, _ => none
  | _ + 1, ⟨_, .aliasOf name⟩ :: rest => some (.aliasOf name, rest)
  | fuel + 1, tokens => do
    let mark := markOf tokens
    let (ps, tokens) ← properties handles tokens
    match tokens with
    | ⟨_, .scalar text plain⟩ :: rest => some (.scalar mark ps text plain, rest)
    | ⟨_, .flowSeqStart⟩ :: rest => flowSeq handles ps fuel true [] rest
    | ⟨_, .flowMapStart⟩ :: rest => flowMap handles ps fuel true [] rest
    | ⟨m, token⟩ :: rest =>
      match block, token with
      | _, .blockEntry =>
        if indentless then indentlessSeq handles ps fuel [] (⟨m, token⟩ :: rest)
        else missing mark ps tokens
      | true, .blockSeqStart => blockSeq handles ps fuel [] rest
      | true, .blockMapStart => blockMap handles ps fuel [] rest
      | _, _ => missing mark ps tokens
    | [] => missing mark ps tokens

def missing (mark : Mark) (ps : Properties String) (tokens : List Placed) : Step :=
  if ps.anchor.isSome || ps.tag.isSome then some (empty mark ps, tokens) else none

/-- The node of an entry, a key or a value; empty when the next token ends its place. -/
def entry (handles : Handles) (place : Place) : Nat → List Placed → Step
  | 0, _ => none
  | fuel + 1, tokens =>
    match tokens with
    | [] => none
    | t :: _ =>
      if place.ends t.token then some (empty t.mark, tokens)
      else read handles place.inBlock place.isPair fuel tokens

def blockSeq (handles : Handles) (ps : Properties String) :
    Nat → List (Node String) → List Placed → Step
  | fuel + 1, items, ⟨_, .blockEntry⟩ :: rest => do
    let (item, rest) ← entry handles .blockItem fuel rest
    blockSeq handles ps fuel (item :: items) rest
  | _ + 1, items, ⟨_, .blockEnd⟩ :: rest => some (.seq ps items.reverse, rest)
  | _, _, _ => none

def indentlessSeq (handles : Handles) (ps : Properties String) :
    Nat → List (Node String) → List Placed → Step
  | fuel + 1, items, ⟨_, .blockEntry⟩ :: rest => do
    let (item, rest) ← entry handles .indentlessItem fuel rest
    indentlessSeq handles ps fuel (item :: items) rest
  | _ + 1, items, rest => some (.seq ps items.reverse, rest)
  | 0, _, _ => none

def blockMap (handles : Handles) (ps : Properties String) :
    Nat → List (Node String × Node String) → List Placed → Step
  | fuel + 1, pairs, ⟨_, .key⟩ :: rest => do
    let (key, rest) ← entry handles .blockPair fuel rest
    let (value, rest) ← pairValue handles .blockPair fuel rest
    blockMap handles ps fuel ((key, value) :: pairs) rest
  | _ + 1, pairs, ⟨_, .blockEnd⟩ :: rest => some (.map ps pairs.reverse, rest)
  | _, _, _ => none

/-- The value of a pair, which may be missing with its colon. -/
def pairValue (handles : Handles) (place : Place) : Nat → List Placed → Step
  | fuel + 1, ⟨_, .value⟩ :: rest => entry handles place fuel rest
  | _, rest => some (empty (markOf rest), rest)

/-- The entries of a sequence in brackets. A key makes an entry that is a mapping of one pair; the
token after a missing key is passed over. -/
def flowSeq (handles : Handles) (ps : Properties String) :
    Nat → Bool → List (Node String) → List Placed → Step
  | 0, _, _, _ => none
  | fuel + 1, first, items, tokens =>
    match tokens with
    | ⟨_, .flowSeqEnd⟩ :: rest => some (.seq ps items.reverse, rest)
    | _ => do
      let tokens ← if first then some tokens else match tokens with
        | ⟨_, .flowEntry⟩ :: rest => some rest
        | _ => none
      match tokens with
      | ⟨_, .key⟩ :: ⟨mark, token⟩ :: rest =>
        let missingKey := match token with
          | .value | .flowEntry | .flowSeqEnd => true
          | _ => false
        let (key, rest) ← if missingKey then some (empty mark, rest)
          else read handles false false fuel (⟨mark, token⟩ :: rest)
        let (value, rest) ← pairValue handles .flowItem fuel rest
        flowSeq handles ps fuel false (.map {} [(key, value)] :: items) rest
      | ⟨_, .flowSeqEnd⟩ :: rest => some (.seq ps items.reverse, rest)
      | _ =>
        let (item, rest) ← read handles false false fuel tokens
        flowSeq handles ps fuel false (item :: items) rest

/-- The pairs of a mapping in braces. A node without a key indicator or a colon is a key with an
empty value. -/
def flowMap (handles : Handles) (ps : Properties String) :
    Nat → Bool → List (Node String × Node String) → List Placed → Step
  | 0, _, _, _ => none
  | fuel + 1, first, pairs, tokens =>
    match tokens with
    | ⟨_, .flowMapEnd⟩ :: rest => some (.map ps pairs.reverse, rest)
    | _ => do
      let tokens ← if first then some tokens else match tokens with
        | ⟨_, .flowEntry⟩ :: rest => some rest
        | _ => none
      match tokens with
      | ⟨_, .key⟩ :: rest =>
        let missingKey := match rest with
          | ⟨_, .value⟩ :: _ | ⟨_, .flowEntry⟩ :: _ | ⟨_, .flowMapEnd⟩ :: _ => true
          | _ => false
        let (key, rest) ← if missingKey then some (empty (markOf rest), rest)
          else read handles false false fuel rest
        let (value, rest) ← pairValue handles .flowPair fuel rest
        flowMap handles ps fuel false ((key, value) :: pairs) rest
      | ⟨_, .flowMapEnd⟩ :: rest => some (.map ps pairs.reverse, rest)
      | _ =>
        let (key, rest) ← read handles false false fuel tokens
        flowMap handles ps fuel false ((key, empty (markOf rest)) :: pairs) rest

end

/-- The directives before a document; a version and a handle may be given once. -/
def directives (version : Bool) (handles : Handles) :
    List Placed → Option (Handles × List Placed)
  | ⟨_, .version major minor⟩ :: rest =>
    if version || major ≠ 1 || (minor ≠ 1 && minor ≠ 2) then none else directives true handles rest
  | ⟨_, .tagHandle handle lead⟩ :: rest =>
    if handles.any fun h => h.1 == handle then none
    else directives version (handles ++ [(handle, lead)]) rest
  | rest => some (handles, rest)

def standardHandles : Handles := [("!", "!"), ("!!", "tag:yaml.org,2002:")]

/-- Only ends of documents may follow the one document of a text. -/
def isEnded : List Placed → Bool
  | [] => true
  | ⟨_, .documentEnd⟩ :: rest => isEnded rest
  | _ => false

def content (handles : Handles) (tokens : List Placed) : Step :=
  match tokens with
  | [] => some (empty default, [])
  | ⟨_, .documentStart⟩ :: _ | ⟨_, .documentEnd⟩ :: _ | ⟨_, .version ..⟩ :: _
  | ⟨_, .tagHandle ..⟩ :: _ => some (empty default, tokens)
  | _ => read (handles ++ standardHandles) true false (8 * tokens.length + 8) tokens

/-- The tree of the one document of a text; nothing when the text has none. -/
def ofTokens? (tokens : List Placed) : Option (Option (Node String)) := do
  if tokens.isEmpty then return none
  let (handles, rest) ← directives false [] tokens
  let (node, rest) ← match rest with
    | ⟨_, .documentStart⟩ :: rest => content handles rest
    | ⟨_, .documentEnd⟩ :: _ => none
    | _ => if rest.length = tokens.length then content [] rest else none
  if isEnded rest then return some node else none

end Node

end OrgStacks.Yaml
