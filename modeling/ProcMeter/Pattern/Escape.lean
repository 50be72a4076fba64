import ProcMeter.Pattern.Regex
import ProcMeter.Text.Blank
import ProcMeter.Text.Numeral
import ProcMeter.Unicode.Folding

/-! Flags and escapes of the pattern language. What an escape stands for depends on
the flags: on whether sets are those of Unicode or of ASCII, on whether case counts,
and on whether blanks and comments between the parts of an escape are passed over. -/
namespace ProcMeter.Pattern

/-- What can be switched on and off inside a pattern. -/
structure Flags where
  caseless : Bool
  multiLine : Bool
  dotAll : Bool
  unicode : Bool
  /-- Carriage returns end lines too. -/
  returns : Bool
  /-- Blanks and comments do not count. -/
  verbose : Bool
  deriving DecidableEq

/-- The flags at the start of a pattern. -/
def Flags.start : Flags := ⟨false, false, false, true, false, false⟩

/-- Passes over blanks and comments, each up to the end of its line. -/
def skipBlanks : List Char → List Char
  | [] => []
  | c :: cs =>
    if Text.isBlank c then skipBlanks cs
    else if c == '#' then skipComment cs
    else c :: cs
where
  skipComment : List Char → List Char
    | [] => []
    | c :: cs => if c == '\n' then skipBlanks cs else skipComment cs

/-- Passes over what does not count under the flags. -/
def Flags.skip (f : Flags) (cs : List Char) : List Char :=
  if f.verbose then skipBlanks cs else cs

/-- What one escape, or one character, stands for. -/
inductive Atom where
  /-- A character; `byte` tells that two hexadecimal digits gave it as a byte. -/
  | literal (c : Char) (byte : Bool)
  | set (s : CharSet)
  | look (l : Look)

/-- The last code of a character: byte patterns are confined to single bytes. -/
def Flags.top (f : Flags) : Nat := if f.unicode then CharSet.last else 0xFF

/-- A byte set must be ASCII, or it would match parts of characters. -/
def Flags.checked? (f : Flags) (s : CharSet) : Option CharSet :=
  if f.unicode || s.within 0x7F then some s else none

/-- Adds the other cases of a set's characters where case does not count. -/
def Flags.fold (f : Flags) (s : CharSet) : CharSet :=
  if !f.caseless then s else if f.unicode then Unicode.foldCase s else Unicode.foldAsciiCase s

/-- Folds a set, and then negates it. -/
def Flags.foldAndNegate? (f : Flags) (negated : Bool) (s : CharSet) : Option CharSet :=
  let folded := f.fold s
  f.checked? (if negated then folded.complement f.top else folded)

/-- ASCII white space. -/
def asciiBlanks : CharSet := ⟨[(9, 13), (0x20, 0x20)]⟩

def asciiDigits : CharSet := .range 0x30 0x39

/-- The sets of the letters `d`, `s`, `w`; a capital letter negates them. -/
def Flags.letterSet? (f : Flags) (letter : Char) : Option CharSet :=
  let set : CharSet :=
    if letter.toLower == 'd' then if f.unicode then Unicode.decimalDigits else asciiDigits
    else if letter.toLower == 's' then if f.unicode then Unicode.whiteSpace else asciiBlanks
    else if f.unicode then Unicode.wordChars else asciiWordChars
  f.checked? (if letter.isUpper then set.complement f.top else set)

/-- The character with a code. -/
def charOf? (n : Nat) : Option Char := if n.isValidChar then some (Char.ofNat n) else none

/-- Reads exactly `n` hexadecimal digits on from `value`. -/
def hexDigits? (f : Flags) (value : Nat) : Nat → List Char → Option (Nat × List Char)
  | 0, cs => some (value, cs)
  | _ + 1, [] => none
  | n + 1, c :: cs => do
    hexDigits? f (value * 16 + (← Text.digitIn? 16 c)) n (f.skip cs)

/-- The text up to a closing brace, and what follows the brace. Blanks that do not
count are left out; `fuel` bounds the length. -/
def braced? (f : Flags) : Nat → List Char → Option (List Char × List Char)
  | 0, _ => none
  | _ + 1, [] => none
  | _ + 1, '\x7d' :: cs => some ([], cs)
  | fuel + 1, c :: cs => (braced? f fuel (f.skip cs)).map fun (name, rest) => (c :: name, rest)

/-- The character that an escape with hexadecimal digits writes: in braces any number
of digits, or just as many as the letter says. -/
def hexEscape? (f : Flags) (letter : Char) (cs : List Char) : Option (Atom × List Char) := do
  match f.skip cs with
  | '\x7b' :: cs =>
    let (digits, rest) ← braced? f (cs.length + 1) (f.skip cs)
    if digits.isEmpty then none
    else
      let (n, _) ← hexDigits? f 0 digits.length digits
      some (.literal (← charOf? n) false, f.skip rest)
  | cs =>
    let count := if letter == 'x' then 2 else if letter == 'u' then 4 else 8
    let (n, rest) ← hexDigits? f 0 count cs
    some (.literal (← charOf? n) (letter == 'x'), rest)

/-- Splits at the first place where `sep` starts. -/
def splitAt? (sep : List Char) : List Char → Option (List Char × List Char)
  | [] => none
  | c :: cs =>
    match Text.after? sep (c :: cs) with
    | some rest => some ([], rest)
    | none => (splitAt? sep cs).map fun (x, y) => (c :: x, y)

/-- The set that a property's text names: a single name, or a property and a value. -/
def propertySet? (text : List Char) : Option CharSet :=
  match [['!', '='], [':'], ['=']].findSome? fun sep => splitAt? sep text with
  | some (property, value) => Unicode.valued? (String.ofList property) (String.ofList value)
  | none => Unicode.named? (String.ofList text)

/-- A set of Unicode characters by the name of its property. -/
def propertyEscape? (f : Flags) (negated : Bool) (cs : List Char) : Option (Atom × List Char) := do
  let (text, rest) ← match f.skip cs with
    | [] => none
    | '\x7b' :: cs => braced? f (cs.length + 1) (f.skip cs)
    | '\\' :: _ => none
    | c :: cs => some ([c], f.skip cs)
  if f.unicode then
    some (.set (← f.foldAndNegate? negated (← propertySet? text)), rest)
  else none

/-- A character in the name of a word boundary. -/
def isBoundaryName (c : Char) : Bool := c.isAlpha || c == '-'

/-- A word boundary, which may have a name in braces. What follows in braces may also
be a count, and then it is left alone. -/
def boundaryEscape? (f : Flags) (cs : List Char) : Option (Atom × List Char) :=
  match cs with
  | '\x7b' :: inner =>
    match f.skip inner with
    | [] => none
    | c :: more =>
      if isBoundaryName c then do
        let (name, rest) ← braced? f (more.length + 2) (c :: more)
        let word := String.ofList name
        let l ←
          if word == "start" then some (Look.wordStart f.unicode)
          else if word == "end" then some (Look.wordEnd f.unicode)
          else if word == "start-half" then some (Look.halfWordStart f.unicode)
          else if word == "end-half" then some (Look.halfWordEnd f.unicode)
          else none
        some (.look l, rest)
      else some (.look (.wordBoundary f.unicode), cs)
  | _ => some (.look (.wordBoundary f.unicode), cs)

/-- Punctuation and blanks of ASCII, and its control characters, stand for themselves
after a backslash. -/
def standsForItself (c : Char) : Bool :=
  c.toNat < 0x80 && !c.isAlphanum && c != '<' && c != '>'

/-- What an escape stands for, read after its backslash. -/
def escape? (f : Flags) : List Char → Option (Atom × List Char)
  | [] => none
  | c :: cs =>
    let literal (c : Char) : Option (Atom × List Char) := some (.literal c false, cs)
    let look (l : Look) : Option (Atom × List Char) := some (.look l, cs)
    if c == 'x' || c == 'u' || c == 'U' then hexEscape? f c cs
    else if c == 'p' || c == 'P' then propertyEscape? f (c == 'P') cs
    else if ['d', 's', 'w', 'D', 'S', 'W'].contains c then
      (f.letterSet? c).map fun s => (.set s, cs)
    else if standsForItself c then literal c
    else if c == 'a' then literal '\x07'
    else if c == 'f' then literal '\x0c'
    else if c == 't' then literal '\t'
    else if c == 'n' then literal '\n'
    else if c == 'r' then literal '\r'
    else if c == 'v' then literal '\x0b'
    else if c == 'A' then look .textStart
    else if c == 'z' then look .textEnd
    else if c == 'b' then boundaryEscape? f cs
    else if c == 'B' then look (.noWordBoundary f.unicode)
    else if c == '<' then look (.wordStart f.unicode)
    else if c == '>' then look (.wordEnd f.unicode)
    else none

end ProcMeter.Pattern
