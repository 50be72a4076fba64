import ProcMeter.Json.Basic

/-! Writing JSON, on one line or indented by two blanks. Strings escape the
quote, the reverse solidus and the control characters below U+0020, with the
short escape where there is one; every other character stands for itself. -/
namespace ProcMeter.Json

/-- The lower-case hexadecimal digit of a number below 16. -/
def hexDigit (n : Nat) : Char := Nat.digitChar n

def escapeChar (c : Char) : List Char :=
  if c = '"' then ['\\', '"']
  else if c = '\\' then ['\\', '\\']
  else if c.toNat = 8 then ['\\', 'b']
  else if c.toNat = 9 then ['\\', 't']
  else if c.toNat = 10 then ['\\', 'n']
  else if c.toNat = 12 then ['\\', 'f']
  else if c.toNat = 13 then ['\\', 'r']
  else if c.toNat < 32 then
    ['\\', 'u', '0', '0', hexDigit (c.toNat / 16), hexDigit (c.toNat % 16)]
  else [c]

def quote (s : String) : List Char := '"' :: (s.toList.flatMap escapeChar ++ ['"'])

/-- What separates the parts of a container `depth` levels deep. -/
structure Spacing where
  /-- A line break and indentation. -/
  newline : Nat → List Char
  /-- Between a name and its value. -/
  colon : List Char

def Spacing.compact : Spacing := ⟨fun _ => [], [':']⟩

def Spacing.indented : Spacing :=
  ⟨fun depth => '\n' :: List.replicate (2 * depth) ' ', [':', ' ']⟩

mutual

def write (sp : Spacing) (depth : Nat) : Json → List Char
  | .null => ['n', 'u', 'l', 'l']
  | .bool true => ['t', 'r', 'u', 'e']
  | .bool false => ['f', 'a', 'l', 's', 'e']
  | .num n => n.render
  | .str s => quote s
  | .arr [] => ['[', ']']
  | .arr (v :: vs) =>
    '[' :: (sp.newline (depth + 1) ++ write sp (depth + 1) v ++ writeItems sp (depth + 1) vs ++
      sp.newline depth ++ [']'])
  | .obj [] => ['{', '}']
  | .obj ((k, v) :: ms) =>
    '{' :: (sp.newline (depth + 1) ++ quote k ++ sp.colon ++ write sp (depth + 1) v ++
      writeMembers sp (depth + 1) ms ++ sp.newline depth ++ ['}'])
  | .illFormed => quote "\uFFFD"

/-- The items after the first. -/
def writeItems (sp : Spacing) (depth : Nat) : List Json → List Char
  | [] => []
  | v :: vs => ',' :: (sp.newline depth ++ write sp depth v ++ writeItems sp depth vs)

/-- The members after the first. -/
def writeMembers (sp : Spacing) (depth : Nat) : List (String × Json) → List Char
  | [] => []
  | (k, v) :: ms =>
    ',' :: (sp.newline depth ++ quote k ++ sp.colon ++ write sp depth v ++ writeMembers sp depth ms)

end

/-- On one line. -/
def compact (v : Json) : String := String.ofList (write .compact 0 v)

/-- Indented by two blanks a level. -/
def pretty (v : Json) : String := String.ofList (write .indented 0 v)

end ProcMeter.Json
