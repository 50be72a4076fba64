import ProcMeter.Text.Numeral

/-! From TOML text to tokens. A line break is a line feed, alone or after a carriage
return. Control characters stand nowhere but for tabs, and those not in words; the one at
the end of ASCII may stand in a comment. -/
namespace ProcMeter.Toml

inductive Token where
  /-- Spaces and tabs. -/
  | blank (cs : List Char)
  | lineEnd
  | comment
  | equals
  | period
  | comma
  | colon
  | plus
  | braceOpen
  | braceClose
  | bracketOpen
  | bracketClose
  /-- A bare key, or a part of a number or a time. -/
  | word (cs : List Char)
  /-- A string, and whether it is one of those that may have several lines. -/
  | text (cs : List Char) (multiline : Bool)
  deriving DecidableEq

/-- The characters of words. -/
def isWordChar (c : Char) : Bool := c.isAlphanum || c == '-' || c == '_'

def isBlank (c : Char) : Bool := c == ' ' || c == '\t'

def isCommentChar (c : Char) : Bool := c == '\t' || 0x20 ≤ c.toNat

/-- The characters that stand for themselves in strings. -/
def isTextChar (c : Char) : Bool := isCommentChar c && c.toNat != 0x7F

/-- Carriage returns before line feeds do not count. -/
def foldBreaks : List Char → List Char
  | '\r' :: '\n' :: cs => '\n' :: foldBreaks cs
  | c :: cs => c :: foldBreaks cs
  | [] => []

/-- The characters that single letters stand for after a reverse solidus. -/
def letterEscapes : List (Char × Char) :=
  [('"', '"'), ('\\', '\\'), ('b', '\x08'), ('f', '\x0c'), ('n', '\n'), ('r', '\r'), ('t', '\t')]

/-- The numbers of hexadecimal digits after the letters that announce them. -/
def codeEscapes : List (Char × Nat) := [('u', 4), ('U', 8)]

/-- What an escape stands for, read after its reverse solidus. In a string of several
lines the end of a line may be escaped, with all blanks and line breaks around it. -/
def escape? (multiline : Bool) : List Char → Option (List Char × List Char)
  | [] => none
  | c :: cs =>
    match letterEscapes.lookup c, codeEscapes.lookup c with
    | some value, _ => some ([value], cs)
    | none, some count => do
      let digits := cs.take count
      let n ← Text.digitsIn? 16 digits
      if digits.length = count ∧ n.isValidChar then some ([Char.ofNat n], cs.drop count) else none
    | none, none =>
      match (c :: cs).dropWhile isBlank with
      | '\n' :: rest =>
        if multiline then some ([], rest.dropWhile fun b => isBlank b || b == '\n') else none
      | _ => none

/-- The rest of a string after its opening, in reverse before `acc`. Of up to five quotes at the
end of a string of several lines, those before the last three belong to it. -/
def textFrom? (quote : Char) (multiline : Bool) :
    Nat → List Char → List Char → Option (List Char × List Char)
  | 0, _, _ => none
  | _ + 1, _, [] => none
  | fuel + 1, acc, c :: cs =>
    if c == quote then
      if !multiline then some (acc, cs)
      else
        let quotes := ((c :: cs).takeWhile (· == quote)).take 5
        let rest := (c :: cs).drop quotes.length
        if quotes.length < 3 then textFrom? quote multiline fuel (quotes ++ acc) rest
        else some (quotes.drop 3 ++ acc, rest)
    else if c == '\n' then
      if multiline then textFrom? quote multiline fuel (c :: acc) cs else none
    else if c == '\\' && quote == '"' then do
      let (value, rest) ← escape? multiline cs
      textFrom? quote multiline fuel (value ++ acc) rest
    else if isTextChar c then textFrom? quote multiline fuel (c :: acc) cs
    else none

/-- A string, read after its first quote. A line break right after the opening of a string
of several lines does not count. -/
def text? (quote : Char) (cs : List Char) : Option (Token × List Char) := do
  match cs with
  | q :: rest =>
    if q != quote then close false cs
    else if rest.head? == some quote then
      close true (match rest.tail with
        | '\n' :: body => body
        | body => body)
    else some (.text [] false, rest)
  | [] => none
where
  close (multiline : Bool) (cs : List Char) : Option (Token × List Char) :=
    (textFrom? quote multiline (cs.length + 1) [] cs).map fun (acc, rest) =>
      (.text acc.reverse multiline, rest)

/-- The tokens of one character. -/
def marks : List (Char × Token) :=
  [('\n', .lineEnd), ('=', .equals), ('.', .period), (',', .comma), (':', .colon), ('+', .plus),
    ('{', .braceOpen), ('}', .braceClose), ('[', .bracketOpen), (']', .bracketClose)]

/-- The first token of a text that starts with `c`. -/
def first? (c : Char) (cs : List Char) : Option (Token × List Char) :=
  match marks.lookup c with
  | some t => some (t, cs)
  | none =>
    if isBlank c then some (.blank (c :: cs.takeWhile isBlank), cs.dropWhile isBlank)
    else if c == '#' then some (.comment, cs.dropWhile isCommentChar)
    else if c == '"' || c == '\'' then text? c cs
    else if isWordChar c then some (.word (c :: cs.takeWhile isWordChar), cs.dropWhile isWordChar)
    else none

/-- All tokens of a text. Each has at least one character. -/
def tokens? : Nat → List Char → Option (List Token)
  | _, [] => some []
  | 0, _ => none
  | fuel + 1, c :: cs => do
    let (t, rest) ← first? c cs
    return t :: (← tokens? fuel rest)

/-- The tokens of a text. A byte order mark at its start does not count. -/
def Token.scan? (cs : List Char) : Option (List Token) :=
  let cs := foldBreaks (match cs with
    | '\uFEFF' :: rest => rest
    | _ => cs)
  tokens? cs.length cs

end ProcMeter.Toml
