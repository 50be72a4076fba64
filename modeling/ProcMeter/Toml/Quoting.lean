import ProcMeter.Toml.Token

/-! How a text is written in TOML. It stands between single quotes, three of them if it has
single quotes inside or more than one line. What cannot stand for itself is escaped
between double quotes. -/
namespace ProcMeter.Toml.Quoting

/-- The length of the longest run of single quotes. -/
def longestRun : Nat → List Char → Nat
  | run, [] => run
  | run, c :: cs => if c == '\'' then longestRun (run + 1) cs else Nat.max run (longestRun 0 cs)

/-- Whether a text can stand between single quotes. -/
def isLiteral (cs : List Char) : Bool :=
  (cs.all fun c => isTextChar c || c == '\n') && longestRun 0 cs < 3 && cs.getLast? != some '\''

/-- Four upper-case hexadecimal digits. -/
def hexDigits (n : Nat) : List Char :=
  [n / 4096, n / 256, n / 16, n].map fun d => (Nat.digitChar (d % 16)).toUpper

/-- A character between double quotes. In a text of several lines, line feeds stand for
themselves. -/
def escaped (multiline : Bool) (c : Char) : List Char :=
  if c == '\n' && multiline then [c]
  else
    match letterEscapes.find? fun e => e.2 == c with
    | some (letter, _) => ['\\', letter]
    | none => if isTextChar c then [c] else '\\' :: 'u' :: hexDigits c.toNat

def quote (s : String) : List Char :=
  let cs := s.toList
  let multiline := cs.contains '\n'
  let around (mark : List Char) (body : List Char) : List Char :=
    if multiline then mark ++ '\n' :: (body ++ mark) else mark ++ body ++ mark
  if isLiteral cs then
    around (if multiline || cs.contains '\'' then ['\'', '\'', '\''] else ['\'']) cs
  else
    around (if multiline then ['"', '"', '"'] else ['"']) (cs.flatMap (escaped multiline))

/-- A key: a word, or a text of one line between double quotes. -/
def key (s : String) : List Char :=
  let cs := s.toList
  if !cs.isEmpty && cs.all isWordChar then cs else '"' :: (cs.flatMap (escaped false) ++ ['"'])

end ProcMeter.Toml.Quoting
