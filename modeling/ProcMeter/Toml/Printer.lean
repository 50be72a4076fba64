import ProcMeter.Json.Basic
import ProcMeter.Toml.Quoting

/-! Values as TOML text. A table has its members on lines of their own, and below them the
tables inside it, each under its header. What is null is left out. -/
namespace ProcMeter.Toml

/-- Whether a value has a header of its own. -/
def isTable : Json → Bool
  | .obj _ => true
  | _ => false

def isNull : Json → Bool
  | .null => true
  | _ => false

/-- What stands before an item on a line of its own. -/
def margin : List Char := [' ', ' ', ' ', ' ']

mutual

/-- A value on a line, or an array over several lines when it has several items. -/
def inlineText : Json → List Char
  | .null => []
  | .bool true => ['t', 'r', 'u', 'e']
  | .bool false => ['f', 'a', 'l', 's', 'e']
  | .num n => n.render
  | .str s => Quoting.quote s
  | .arr [] => ['[', ']']
  | .arr (v :: vs) =>
    if vs.isEmpty then '[' :: (inlineText v ++ [']'])
    else ['[', '\n'] ++ margin ++ inlineText v ++ itemLines vs ++ [',', '\n', ']']
  | .obj ms => '{' :: (inlineMembers ms ++ [' ', '}'])
  | .illFormed => Quoting.quote "\uFFFD"

/-- The items after the first. -/
def itemLines : List Json → List Char
  | [] => []
  | v :: vs => [',', '\n'] ++ margin ++ inlineText v ++ itemLines vs

/-- The members of a table on one line. -/
def inlineMembers : List (String × Json) → List Char
  | [] => []
  | (k, v) :: ms =>
    ' ' :: (Quoting.key k ++ [' ', '=', ' '] ++ inlineText v ++ (if ms.isEmpty then [] else [',']) ++
      inlineMembers ms)

end

/-- The members of a table on their lines. -/
def lines (ms : List (String × Json)) : List Char :=
  ms.flatMap fun (k, v) =>
    if isTable v || isNull v then [] else Quoting.key k ++ [' ', '=', ' '] ++ inlineText v ++ ['\n']

mutual

/-- The table at a path: a header, the members, and the tables inside it. -/
def table (path : List Char) : Json → List Char
  | .obj ms => ['\n', '['] ++ path ++ [']', '\n'] ++ lines ms ++ tables (path ++ ['.']) ms
  | _ => []

/-- The tables among members, their names after the start of a path. -/
def tables (start : List Char) : List (String × Json) → List Char
  | [] => []
  | (k, v) :: ms => table (start ++ Quoting.key k) v ++ tables start ms

end

/-- A table as a text of its own. -/
def render : Json → String
  | .obj ms => String.ofList (lines ms ++ tables [] ms)
  | _ => ""

end ProcMeter.Toml
