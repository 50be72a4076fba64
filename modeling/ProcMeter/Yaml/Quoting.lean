import ProcMeter.Yaml.Scalar
import ProcMeter.Yaml.Token
import ProcMeter.Yaml.Untyped

/-! How a text is written as a YAML scalar in a block. Quotes are used only where they are
needed: single ones where they can, double ones for what cannot stand for itself. A text
with line feeds is a literal block, if it can be one. -/
namespace ProcMeter.Yaml.Quoting

/-- The characters that can stand for themselves. -/
def isPrintable (c : Char) : Bool :=
  let n := c.toNat
  n == 10 || (0x20 ≤ n && n ≤ 0x7E) || (0xA0 ≤ n && n ≤ 0xFFFD && n != 0xFEFF) || 0x10000 ≤ n

/-- No more text, a blank or a line break. -/
def endsWord (cs : List Char) : Bool := Yaml.endsWord cs.head?

/-- Whether two neighbours satisfy `p` and `q`. -/
def hasPair (p q : Char → Bool) (cs : List Char) : Bool := (cs.zip cs.tail).any fun (a, b) => p a && q b

/-- Whether a mark of YAML stands inside a text: a colon at the end of a word, or a number
sign at the start of one. -/
def hasInnerMark : List Char → Bool
  | a :: b :: rest =>
    (b == ':' && endsWord rest) || (b == '#' && (isBlank a || isBreak a)) || hasInnerMark (b :: rest)
  | _ => false

/-- Whether a text starts like something else. -/
def hasOuterMark (cs : List Char) : Bool :=
  match cs with
  | [] => false
  | c :: rest =>
    "#,[]\x7b\x7d&*!|>'\"%@".contains c || c == '\x60' ||
      ((c == '?' || c == ':' || c == '-') && endsWord rest) ||
      cs.take 3 == ['-', '-', '-'] || cs.take 3 == ['.', '.', '.']

def isSpaceOrBreak (c : Char) : Bool := c == ' ' || isBreak c

/-- Blanks before line breaks, and characters that cannot stand for themselves. -/
def needsEscapes (cs : List Char) : Bool :=
  hasPair (· == ' ') isBreak cs || cs.any fun c => !isPrintable c

def allowsPlain (cs : List Char) : Bool :=
  !(cs.isEmpty || isSpaceOrBreak (cs.headD ' ') || isSpaceOrBreak (cs.getLastD ' ') ||
    needsEscapes cs || cs.any isBreak || hasOuterMark cs || hasInnerMark cs)

def allowsSingle (cs : List Char) : Bool := !(needsEscapes cs || hasPair isBreak (· == ' ') cs)

def allowsLiteral (cs : List Char) : Bool := !(needsEscapes cs || cs.getLastD 'x' == ' ')

/-- The style of a text. `inKey` says that it must stay on one line. -/
def styleOf (inKey : Bool) (s : String) : ScalarStyle :=
  let cs := s.toList
  let quotes := if allowsSingle cs then .singleQuoted else .doubleQuoted
  if inKey && cs.any isBreak then .doubleQuoted
  else if cs.contains '\n' then (if allowsLiteral cs then .literal else .doubleQuoted)
  else if isTyped s || !allowsPlain cs then quotes
  else .plain

/-- A space for each column of an indentation. -/
def spaces (indent : Nat) : List Char := List.replicate indent ' '

/-- The text between single quotes. A line after breaks is indented. There are no line
feeds in it. -/
def single (indent : Nat) : Bool → List Char → List Char
  | broken, [] => if broken then spaces indent else []
  | broken, c :: cs =>
    if c == ' ' then ' ' :: single indent broken cs
    else if isBreak c then c :: single indent true cs
    else
      (if broken then spaces indent else []) ++ (if c == '\'' then ['\'', '\''] else [c]) ++
        single indent false cs

/-- The upper-case hexadecimal digits of a number, of a fixed count. -/
def hexDigits (n : Nat) : Nat → List Char
  | 0 => []
  | count + 1 => hexDigits (n / 16) count ++ [(Nat.digitChar (n % 16)).toUpper]

/-- A character between double quotes. -/
def escaped (c : Char) : List Char :=
  if isPrintable c && !isBreak c && c != '"' && c != '\\' then [c]
  else
    match letterEscapes.find? fun e => e.2 == c with
    | some (letter, _) => ['\\', letter]
    | none =>
      if c.toNat < 0x100 then '\\' :: 'x' :: hexDigits c.toNat 2
      else if c.toNat < 0x10000 then '\\' :: 'u' :: hexDigits c.toNat 4
      else '\\' :: 'U' :: hexDigits c.toNat 8

/-- Whether breaks at the end of a literal block have to be kept: when there is more than
one, or nothing else. -/
def keepsBreaks (cs : List Char) : Bool :=
  match cs.reverse with
  | a :: rest => isBreak a && (rest.isEmpty || isBreak (rest.headD 'x'))
  | [] => false

/-- The marks of a literal block: an indentation where the text starts with blanks or
breaks, and what becomes of the breaks at its end. -/
def literalMarks (cs : List Char) : List Char :=
  (if isSpaceOrBreak (cs.headD 'x') then ['2'] else []) ++
    (if keepsBreaks cs then ['+'] else if isBreak (cs.getLastD 'x') then [] else ['-'])

/-- The lines of a literal block. Empty ones are not indented. -/
def literalLines (indent : Nat) : Bool → List Char → List Char
  | _, [] => []
  | broken, c :: cs =>
    if isBreak c then c :: literalLines indent true cs
    else (if broken then spaces indent else []) ++ c :: literalLines indent false cs

/-- A scalar with its first line where it stands, and the later lines indented. -/
def scalar (inKey : Bool) (indent : Nat) (s : String) : List Char :=
  let cs := s.toList
  match styleOf inKey s with
  | .plain => cs
  | .singleQuoted => '\'' :: (single indent false cs ++ ['\''])
  | .doubleQuoted => '"' :: (cs.flatMap escaped ++ ['"'])
  | .literal | .folded => '|' :: (literalMarks cs ++ '\n' :: literalLines indent true cs)

end ProcMeter.Yaml.Quoting
