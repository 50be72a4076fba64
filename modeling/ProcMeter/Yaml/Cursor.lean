/-! A place in YAML text. Lines end with a carriage return, a line feed, both, or one
of the three other line breaks of Unicode. The place knows its column, its line and
how many characters come before it. -/
namespace ProcMeter.Yaml

structure Cursor where
  rest : List Char
  column : Nat
  line : Nat
  index : Nat

/-- The characters that YAML text may hold. -/
def isAllowed (c : Char) : Bool :=
  let n := c.toNat
  n == 9 || n == 10 || n == 13 || (0x20 ≤ n && n ≤ 0x7E) || n == 0x85 ||
    (0xA0 ≤ n && n ≤ 0xFFFD) || 0x10000 ≤ n

def isBreak (c : Char) : Bool :=
  c == '\r' || c == '\n' || c == '\u0085' || c == '\u2028' || c == '\u2029'

/-- A space or a tab. -/
def isBlank (c : Char) : Bool := c == ' ' || c == '\t'

/-- No more text, a blank or a line break. -/
def endsWord (c : Option Char) : Bool :=
  match c with
  | none => true
  | some c => isBlank c || isBreak c

/-- No more text or a line break. -/
def endsLine (c : Option Char) : Bool :=
  match c with
  | none => true
  | some c => isBreak c

/-- A character of anchors and of the names of directives. -/
def isNameChar (c : Char) : Bool := c.isAlphanum || c == '_' || c == '-'

namespace Cursor

def start (cs : List Char) : Cursor := ⟨cs, 0, 0, 0⟩

/-- The next character. -/
def peek (c : Cursor) : Option Char := c.rest.head?

/-- The character after the next `n`. -/
def peekAt (c : Cursor) (n : Nat) : Option Char := c.rest[n]?

/-- Passes over `n` characters of one line. -/
def skip (c : Cursor) (n : Nat) : Cursor :=
  ⟨c.rest.drop n, c.column + n, c.line, c.index + n⟩

/-- The characters from here on that satisfy `p`, none of them a line break, and the
place after them. -/
def run (c : Cursor) (p : Char → Bool) : List Char × Cursor :=
  let cs := c.rest.takeWhile p
  (cs, c.skip cs.length)

def skipWhile (c : Cursor) (p : Char → Bool) : Cursor := (c.run p).2

/-- Passes over a line break. The text that it stands for is a line feed, unless it is
one of the two breaks that are kept as they are. -/
def lineBreak (c : Cursor) : List Char × Cursor :=
  match c.rest with
  | '\r' :: '\n' :: rest => (['\n'], ⟨rest, 0, c.line + 1, c.index + 2⟩)
  | b :: rest =>
    if isBreak b then
      (if b == '\u2028' || b == '\u2029' then [b] else ['\n'], ⟨rest, 0, c.line + 1, c.index + 1⟩)
    else ([], c)
  | [] => ([], c)

/-- The start of a line with a mark between documents: three hyphens or dots. -/
def atDocumentMark (c : Cursor) : Bool :=
  c.column == 0 && endsWord (c.peekAt 3) &&
    (c.rest.take 3 == ['-', '-', '-'] || c.rest.take 3 == ['.', '.', '.'])

/-- Passes over a comment, up to the end of the line. -/
def skipComment (c : Cursor) : Cursor :=
  if c.peek == some '#' then c.skipWhile fun b => !isBreak b else c

/-- Passes over blanks and a comment, which must end the line, and over its break. -/
def finishLine? (c : Cursor) : Option Cursor :=
  let c := (c.skipWhile isBlank).skipComment
  if endsLine c.peek then some c.lineBreak.2 else none

end Cursor

end ProcMeter.Yaml
