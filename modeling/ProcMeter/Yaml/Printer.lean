import ProcMeter.Json.Basic
import ProcMeter.Yaml.Quoting

/-! Values as YAML text in blocks. Members of a mapping are indented by two columns more
than the key before them, items of a sequence by none; a collection inside an item starts
on the line of its hyphen. Empty collections stand in brackets. -/
namespace ProcMeter.Yaml

open Quoting

/-- Ends a line, unless it has ended. -/
def closeLine (cs : List Char) : List Char := if cs.getLast?.any isBreak then cs else cs ++ ['\n']

/-- A value that takes the rest of a line, or more lines that are indented. -/
def inlineText (indent : Nat) : Json → List Char
  | .null => ['n', 'u', 'l', 'l']
  | .bool true => ['t', 'r', 'u', 'e']
  | .bool false => ['f', 'a', 'l', 's', 'e']
  | .num n => n.render
  | .str s => scalar false (indent + 2) s
  | .arr _ => ['[', ']']
  | .obj _ => ['{', '}']
  | .illFormed => scalar false (indent + 2) "\uFFFD"

/-- A key with its colon. -/
def keyText (indent : Nat) (key : String) : List Char := scalar true (indent + 2) key ++ [':']

mutual

/-- A value after a key, or after a hyphen, that is indented to `indent`. -/
def after (inItem : Bool) (indent : Nat) : Json → List Char
  | .arr (v :: vs) =>
    if inItem then ' ' :: '-' :: (after true (indent + 2) v ++ items (indent + 2) vs)
    else '\n' :: (spaces indent ++ '-' :: (after true indent v ++ items indent vs))
  | .obj ((k, v) :: ms) =>
    (if inItem then [' '] else '\n' :: spaces (indent + 2)) ++ keyText (indent + 2) k ++
      after false (indent + 2) v ++ members (indent + 2) ms
  | v => ' ' :: closeLine (inlineText indent v)

/-- The items after the first. -/
def items (indent : Nat) : List Json → List Char
  | [] => []
  | v :: vs => spaces indent ++ '-' :: (after true indent v ++ items indent vs)

/-- The members after the first. -/
def members (indent : Nat) : List (String × Json) → List Char
  | [] => []
  | (k, v) :: ms => spaces indent ++ keyText indent k ++ after false indent v ++ members indent ms

end

mutual

/-- The texts in a value that are not keys, in order. -/
def texts : Json → List String
  | .str s => [s]
  | .arr vs => textsOfItems vs
  | .obj ms => textsOfMembers ms
  | _ => []

def textsOfItems : List Json → List String
  | [] => []
  | v :: vs => texts v ++ textsOfItems vs

def textsOfMembers : List (String × Json) → List String
  | [] => []
  | (_, v) :: ms => texts v ++ textsOfMembers ms

end

/-- Whether the last literal block keeps the breaks at its end. It could go on then, for
all that its lines say. -/
def isOpenEnded (v : Json) : Bool :=
  match ((texts v).filter fun s => styleOf false s == .literal).getLast? with
  | some s => keepsBreaks s.toList
  | none => false

/-- The lines of a value. -/
def lines : Json → List Char
  | .arr (v :: vs) => items 0 (v :: vs)
  | .obj (m :: ms) => members 0 (m :: ms)
  | v => closeLine (inlineText 0 v)

/-- A value as a text of its own, with a mark at its end where the text could go on. -/
def render (v : Json) : String :=
  String.ofList (lines v ++ (if isOpenEnded v then ['.', '.', '.', '\n'] else []))

end ProcMeter.Yaml
