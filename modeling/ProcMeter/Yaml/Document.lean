import ProcMeter.Yaml.Node

/-! A YAML text as one document. Directives may come before it; a second document is an
error, and a text without any document stands for nothing. -/
namespace ProcMeter.Yaml

namespace Node

/-- The nodes with anchors in a node, each before the nodes inside it. -/
def anchored (n : Node) : List (Nat × Node) :=
  match n with
  | .scalar anchor _ _ _ => anchor.toList.map fun a => (a, n)
  | .sequence anchor items => anchor.toList.map (fun a => (a, n)) ++ anchoredItems items
  | .mapping anchor members => anchor.toList.map (fun a => (a, n)) ++ anchoredMembers members
  | .alias _ => []
where
  anchoredItems : List Node → List (Nat × Node)
    | [] => []
    | n :: ns => anchored n ++ anchoredItems ns
  anchoredMembers : List (Node × Node) → List (Nat × Node)
    | [] => []
    | (k, v) :: ms => anchored k ++ anchored v ++ anchoredMembers ms

end Node

/-- A node, and the nodes for which the numbers of anchors stand. -/
structure Document where
  root : Node
  anchors : List (Nat × Node)

namespace Document

def ofRoot (n : Node) : Document := ⟨n, n.anchored.reverse⟩

/-- The node itself, or the one that an alias stands for. -/
def target? (d : Document) : Option Node :=
  match d.root with
  | .alias number => d.anchors.lookup number
  | n => some n

/-- A part of the document. -/
def part (d : Document) (n : Node) : Document := { d with root := n }

/-- What directives say: whether there was one with a version, and the handles of tags. -/
structure Directives where
  versioned : Bool
  handles : List (String × String)

/-- The handles that need no directive. -/
def usualHandles : List (String × String) := [("!", "!"), ("!!", "tag:yaml.org,2002:")]

/-- Reads the directives before a document. There is at most one version, 1.1 or 1.2, and
one meaning for each handle. -/
def directives? (d : Directives) : List Token → Option (Directives × List Token)
  | .versionDirective major minor :: ts =>
    if d.versioned || major != 1 || !(minor == 1 || minor == 2) then none
    else directives? { d with versioned := true } ts
  | .tagDirective handle lead :: ts =>
    if (d.handles.lookup handle).isSome then none
    else directives? { d with handles := d.handles ++ [(handle, lead)] } ts
  | ts => some (d, ts)

/-- Nothing more than marks for the end of a document. -/
def isOver (ts : List Token) : Bool := ts.all (· == .documentEnd)

/-- Reads the tokens of a document after its directives and its start. -/
def content? (handles : List (String × String)) (ts : List Token) : Option Document := do
  let (root, feed) ← (Node.Reader.node (4 * ts.length + 8) true false).run
    ⟨ts, [], handles ++ usualHandles⟩
  if isOver feed.tokens then some (ofRoot root) else none

/-- The document that tokens make up. -/
def ofTokens? (ts : List Token) : Option Document := do
  let (d, rest) ← directives? ⟨false, []⟩ ts
  match rest with
  | .documentStart :: rest =>
    if isOver rest then some (ofRoot .blank) else content? d.handles rest
  | [] => if ts.isEmpty then some (ofRoot .blank) else none
  | _ => if ts.length = rest.length then content? d.handles rest else none

/-- Reads a document. -/
def read? (cs : List Char) : Option Document := do ofTokens? (← Token.scan? cs)

end Document

end ProcMeter.Yaml
