import ProcMeter.Yaml.Lexer

/-! From YAML tokens to nodes. Anchors are numbered as they come up, by the count of the
names before, and an alias stands for the number that its name has at that point. A
number may come to stand for a later node, when a name has been used again; then the
last node with the number counts, also for the aliases before it. -/
namespace ProcMeter.Yaml

inductive Node where
  | scalar (anchor : Option Nat) (style : ScalarStyle) (tag : Option String) (text : String)
  | sequence (anchor : Option Nat) (items : List Node)
  | mapping (anchor : Option Nat) (members : List (Node × Node))
  | «alias» (number : Nat)

namespace Node

/-- Where there is nothing. -/
def blank : Node := .scalar none .plain none ""

/-- The tokens that are left, the numbers of anchors, and the handles of tags. -/
structure Feed where
  tokens : List Token
  anchors : List (String × Nat)
  handles : List (String × String)

/-- Reading nodes from a feed. -/
abbrev Reader := StateT Feed Option

namespace Reader

/-- The next token. -/
def peek : Reader (Option Token) := return (← get).tokens.head?

/-- Passes over the next token. -/
def skip : Reader Unit := modify fun f => { f with tokens := f.tokens.tail }

/-- Numbers the anchor of a node. -/
def number (anchor : Option String) : Reader (Option Nat) := do
  match anchor with
  | none => return none
  | some name =>
    let f ← get
    let n := f.anchors.length
    set { f with anchors := (name, n) :: f.anchors.filter fun a => a.1 != name }
    return some n

/-- The tag that a handle and the rest of it write. -/
def resolve (handle rest : String) : Reader String := do
  if handle.isEmpty then return rest
  else
    match (← get).handles.lookup handle with
    | some lead => return lead ++ rest
    | none => failure

/-- The anchor and the tag before a node, in either order. -/
def properties : Reader (Option String × Option String) := do
  match ← peek with
  | some (.anchor a) =>
    skip
    match ← peek with
    | some (.tag h r) => skip; return (some a, some (← resolve h r))
    | _ => return (some a, none)
  | some (.tag h r) =>
    skip
    match ← peek with
    | some (.anchor a) => skip; return (some a, some (← resolve h r))
    | _ => return (none, some (← resolve h r))
  | _ => return (none, none)

mutual

/-- One node. In a block there may be block collections, and after a key also items
that are not indented. -/
def node : Nat → Bool → Bool → Reader Node
  | 0, _, _ => failure
  | fuel + 1, inBlock, afterKey => do
    match ← peek with
    | some (.alias name) =>
      skip
      match (← get).anchors.lookup name with
      | some n => return .alias n
      | none => failure
    | _ =>
      let (anchor, tag) ← properties
      let n ← number anchor
      match ← peek with
      | some (.scalar style text) => skip; return .scalar n style tag text
      | some .flowSequenceStart => skip; return .sequence n (← flowItems fuel true)
      | some .flowMappingStart => skip; return .mapping n (← flowMembers fuel true)
      | t =>
        if afterKey && t == some .blockEntry then return .sequence n (← looseItems fuel)
        else if inBlock && t == some .blockSequenceStart then
          skip
          return .sequence n (← blockItems fuel)
        else if inBlock && t == some .blockMappingStart then
          skip
          return .mapping n (← blockMembers fuel)
        else if anchor.isSome || tag.isSome then return .scalar n .plain tag ""
        else failure

/-- A node, or nothing before one of the given tokens. -/
def nodeUnless : Nat → List Token → Bool → Bool → Reader Node
  | 0, _, _, _ => failure
  | fuel + 1, stops, inBlock, afterKey => do
    match ← peek with
    | some t => if stops.contains t then return .blank else node fuel inBlock afterKey
    | none => node fuel inBlock afterKey

/-- The items of a block sequence. -/
def blockItems : Nat → Reader (List Node)
  | 0 => failure
  | fuel + 1 => do
    match ← peek with
    | some .blockEntry =>
      skip
      let item ← nodeUnless fuel [.blockEntry, .blockEnd] true false
      return item :: (← blockItems fuel)
    | some .blockEnd => skip; return []
    | _ => failure

/-- The items of a block sequence that is not indented. -/
def looseItems : Nat → Reader (List Node)
  | 0 => failure
  | fuel + 1 => do
    match ← peek with
    | some .blockEntry =>
      skip
      let item ← nodeUnless fuel [.blockEntry, .key, .value, .blockEnd] true false
      return item :: (← looseItems fuel)
    | _ => return []

/-- The members of a block mapping. -/
def blockMembers : Nat → Reader (List (Node × Node))
  | 0 => failure
  | fuel + 1 => do
    match ← peek with
    | some .key =>
      skip
      let key ← nodeUnless fuel [.key, .value, .blockEnd] true true
      let value ← blockValue fuel
      return (key, value) :: (← blockMembers fuel)
    | some .blockEnd => skip; return []
    | _ => failure

/-- The value after the key of a block mapping. -/
def blockValue : Nat → Reader Node
  | 0 => failure
  | fuel + 1 => do
    match ← peek with
    | some .value => skip; nodeUnless fuel [.key, .value, .blockEnd] true true
    | _ => return .blank

/-- The items of a flow sequence. An item may be a pair. -/
def flowItems : Nat → Bool → Reader (List Node)
  | 0, _ => failure
  | fuel + 1, first => do
    match ← peek with
    | some .flowSequenceEnd => skip; return []
    | t =>
      if !first then
        if t == some .flowEntry then skip else failure
      match ← peek with
      | some .flowSequenceEnd => skip; return []
      | some .key =>
        skip
        let item ← flowPair fuel
        return item :: (← flowItems fuel false)
      | _ =>
        let item ← node fuel false false
        return item :: (← flowItems fuel false)

/-- A pair in a flow sequence. Where its key is missing the token there is lost. -/
def flowPair : Nat → Reader Node
  | 0 => failure
  | fuel + 1 => do
    let stops : List Token := [.value, .flowEntry, .flowSequenceEnd]
    let key ←
      if (← peek).any stops.contains then
        skip
        pure .blank
      else node fuel false false
    match ← peek with
    | some .value =>
      skip
      return .mapping none [(key, ← nodeUnless fuel [.flowEntry, .flowSequenceEnd] false false)]
    | _ => return .mapping none [(key, .blank)]

/-- The members of a flow mapping. -/
def flowMembers : Nat → Bool → Reader (List (Node × Node))
  | 0, _ => failure
  | fuel + 1, first => do
    match ← peek with
    | some .flowMappingEnd => skip; return []
    | t =>
      if !first then
        if t == some .flowEntry then skip else failure
      match ← peek with
      | some .flowMappingEnd => skip; return []
      | some .key =>
        skip
        let key ← nodeUnless fuel [.value, .flowEntry, .flowMappingEnd] false false
        let value ← flowValue fuel
        return (key, value) :: (← flowMembers fuel false)
      | _ =>
        let key ← node fuel false false
        return (key, .blank) :: (← flowMembers fuel false)

/-- The value after the key of a flow mapping. -/
def flowValue : Nat → Reader Node
  | 0 => failure
  | fuel + 1 => do
    match ← peek with
    | some .value => skip; nodeUnless fuel [.flowEntry, .flowMappingEnd] false false
    | _ => return .blank

end

end Reader
end Node
end ProcMeter.Yaml
