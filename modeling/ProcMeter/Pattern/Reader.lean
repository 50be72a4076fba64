import ProcMeter.Pattern.Bracket
import ProcMeter.Pattern.Weight
import ProcMeter.Text.Numeral

/-! Reading patterns. A pattern is read from its start to its end with a stack of the
groups that are open, and every part is kept with its height, the number of levels of
groups, choices, sequences, repetitions and sets in it. A pattern is refused when it
is not well formed, is too high, or would take too much memory. -/
namespace ProcMeter.Pattern

/-- A part of a pattern. -/
structure Piece where
  regex : Regex
  height : Nat
  /-- Whether it may be repeated; a change of flags may not. -/
  repeatable : Bool

/-- A level of groups: the pieces of the branch that is being read, the last first,
and the branches before it, the last first. -/
structure Level where
  items : List Piece
  branches : List Piece

/-- An open group: the level around it, the flags that hold there, and whether the
group captures. -/
structure Outer where
  level : Level
  flags : Flags
  captures : Bool

/-- How far a pattern has been read. -/
structure Reading where
  rest : List Char
  flags : Flags
  level : Level
  outers : List Outer
  names : List (List Char)

def Reading.start (cs : List Char) : Reading := ⟨cs, .start, ⟨[], []⟩, [], []⟩

/-- The greatest height of some pieces. -/
def tallest (ps : List Piece) : Nat := ps.foldl (fun h p => Nat.max h p.height) 0

/-- The pieces of a branch, the last first, one after another. -/
def sequence : List Piece → Piece
  | [] => ⟨.empty, 0, false⟩
  | [p] => p
  | p :: q :: ps =>
    ⟨(q :: ps).foldl (fun r a => .seq a.regex r) p.regex, tallest (p :: q :: ps) + 1, true⟩

namespace Level

/-- The branches of a level as a choice. -/
def piece (l : Level) : Piece :=
  let final := sequence l.items
  match l.branches with
  | [] => final
  | bs => ⟨bs.foldl (fun r b => .alt b.regex r) final.regex, tallest (final :: bs) + 1, true⟩

def add (l : Level) (p : Piece) : Level := { l with items := p :: l.items }

/-- Begins a new branch. -/
def branch (l : Level) : Level := ⟨[], sequence l.items :: l.branches⟩

end Level

/-- Numbers of flags that are given one after another, after a hyphen those to switch
off. A flag may be given once, and so may the hyphen, but not at the end. -/
structure FlagList where
  seen : List Char
  flags : Flags

/-- Switches a flag. Whether repetitions are greedy does not change what is found. -/
def Flags.switch? (f : Flags) (letter : Char) (on : Bool) : Option Flags :=
  if letter == 'i' then some { f with caseless := on }
  else if letter == 'm' then some { f with multiLine := on }
  else if letter == 's' then some { f with dotAll := on }
  else if letter == 'U' then some f
  else if letter == 'u' then some { f with unicode := on }
  else if letter == 'R' then some { f with returns := on }
  else if letter == 'x' then some { f with verbose := on }
  else none

/-- Reads flags up to `:` or `)`. The answer holds the letters, the mark at the end,
and what follows it. -/
def flagList? (l : FlagList) : List Char → Option (FlagList × Char × List Char)
  | [] => none
  | c :: cs =>
    if c == ':' || c == ')' then
      if l.seen.head? == some '-' then none else some (l, c, cs)
    else if l.seen.contains c then none
    else if c == '-' then flagList? ⟨'-' :: l.seen, l.flags⟩ cs
    else
      match l.flags.switch? c (!l.seen.contains '-') with
      | some f => flagList? ⟨c :: l.seen, f⟩ cs
      | none => none

/-- Whether a character may stand in the name of a group. -/
def isNameChar (first : Bool) (c : Char) : Bool :=
  c == '_' || Unicode.letterChars.contains c ||
    (!first && (c == '.' || c == '[' || c == ']' || Unicode.numberChars.contains c))

/-- Reads the name of a group up to `>`. -/
def groupName? (cs : List Char) : Option (List Char × List Char) := do
  let (name, rest) ← Text.cut? '>' cs
  match name with
  | [] => none
  | c :: more => if isNameChar true c && more.all (isNameChar false) then some (name, rest) else none

namespace Reading

/-- Opens a group under the flags `f`. -/
def enter (r : Reading) (f : Flags) (captures : Bool) (rest : List Char) : Reading :=
  { r with
    rest := rest, flags := f, level := ⟨[], []⟩
    outers := ⟨r.level, r.flags, captures⟩ :: r.outers }

def openNamed? (r : Reading) (cs : List Char) : Option Reading := do
  let (name, rest) ← groupName? cs
  if r.names.contains name then none
  else some { r.enter r.flags true rest with names := name :: r.names }

/-- Reads what follows an opening parenthesis. -/
def openGroup? (r : Reading) (cs : List Char) : Option Reading :=
  match r.flags.skip cs with
  | '?' :: '=' :: _ | '?' :: '!' :: _ | '?' :: '<' :: '=' :: _ | '?' :: '<' :: '!' :: _ => none
  | '?' :: 'P' :: '<' :: rest | '?' :: '<' :: rest => r.openNamed? rest
  | '?' :: rest => do
    let (l, mark, rest) ← flagList? ⟨[], r.flags⟩ rest
    if mark == ':' then some (r.enter l.flags false rest)
    else if l.seen.isEmpty then none
    else
      some { r with rest := rest, flags := l.flags, level := r.level.add ⟨.empty, 0, false⟩ }
  | rest => some (r.enter r.flags true rest)

/-- Closes the innermost group. -/
def closeGroup? (r : Reading) (rest : List Char) : Option Reading :=
  match r.outers with
  | [] => none
  | outer :: outers =>
    let inner := r.level.piece
    let regex := if outer.captures then .group inner.regex else inner.regex
    some { r with
      rest := rest, flags := outer.flags, outers := outers
      level := outer.level.add ⟨regex, inner.height + 1, true⟩ }

/-- Repeats the last piece, and passes over a mark for a lazy repetition. -/
def repeat? (r : Reading) (min : Nat) (max : Option Nat) (rest : List Char) : Option Reading :=
  let rest := match rest with
    | '?' :: rest => rest
    | rest => rest
  match r.level.items with
  | [] => none
  | p :: ps =>
    if p.repeatable then
      some { r with
        rest := rest
        level := { r.level with items := ⟨.repeated min max p.regex, p.height + 1, true⟩ :: ps } }
    else none

/-- Digits, with what does not count left out between them, and the rest. -/
def digits (f : Flags) : Nat → List Char → List Char × List Char
  | fuel + 1, c :: cs =>
    if c.isDigit then
      let (ds, rest) := digits f fuel (f.skip cs)
      (c :: ds, rest)
    else ([], c :: cs)
  | _, cs => ([], cs)

/-- Drops blanks, and after each of them what does not count. -/
def dropBlanks (f : Flags) : Nat → List Char → List Char
  | fuel + 1, c :: cs => if Text.isBlank c then dropBlanks f fuel (f.skip cs) else c :: cs
  | _, cs => cs

/-- The bound of a count. -/
def maxCount : Nat := 0x100000000

/-- A number with blanks around it: none where there are no digits. -/
def count? (f : Flags) (cs : List Char) : Option (Option Nat × List Char) :=
  let (ds, rest) := digits f (cs.length + 1) (cs.dropWhile Text.isBlank)
  let rest := dropBlanks f rest.length rest
  match ds with
  | [] => some (none, rest)
  | _ => ((Text.digits? ds).filter (· < maxCount)).map fun n => (some n, rest)

/-- The bounds of a repetition, read after the opening brace. -/
def bounds? (f : Flags) (cs : List Char) : Option (Nat × Option Nat × List Char) := do
  let (first, rest) ← count? f (f.skip cs)
  let min ← first
  match rest with
  | '\x7d' :: rest => some (min, some min, f.skip rest)
  | ',' :: rest =>
    match f.skip rest with
    | '\x7d' :: rest => some (min, none, f.skip rest)
    | rest =>
      let (second, rest) ← count? f rest
      let max ← second
      match rest with
      | '\x7d' :: rest => if min ≤ max then some (min, some max, f.skip rest) else none
      | _ => none
  | _ => none

/-- Adds a piece of one character or look. -/
def addLeaf (r : Reading) (x : Regex) (rest : List Char) : Reading :=
  { r with rest := rest, level := r.level.add ⟨x, 0, true⟩ }

/-- What an atom matches on its own. Bytes that are not ASCII would match parts of
characters. -/
def atomRegex? (f : Flags) : Atom → Option Regex
  | .literal c byte =>
    if !f.unicode && byte && 0x80 ≤ c.toNat then none
    else if f.unicode || c.toNat < 0x80 then some (.char (f.fold (.ofChar c)))
    else some (.char (.ofChar c))
  | .set s => some (.char s)
  | .look l => some (.look l)

/-- All characters but line ends, or all. -/
def dot? (f : Flags) : Option Regex :=
  if !f.unicode then none
  else if f.dotAll then some (.char (.range 0 CharSet.last))
  else if f.returns then some (.char ⟨[(0, 9), (11, 12), (14, CharSet.last)]⟩)
  else some (.char ⟨[(0, 9), (11, CharSet.last)]⟩)

def lineStart (f : Flags) : Look :=
  if !f.multiLine then .textStart else if f.returns then .returnLineStart else .lineStart

def lineEnd (f : Flags) : Look :=
  if !f.multiLine then .textEnd else if f.returns then .returnLineEnd else .lineEnd

/-- Reads one part that starts with `c`. -/
def step? (r : Reading) (c : Char) (cs : List Char) : Option Reading :=
  if c == '(' then r.openGroup? cs
  else if c == ')' then r.closeGroup? cs
  else if c == '|' then some { r with rest := cs, level := r.level.branch }
  else if c == '[' then do
    let ((set, height), rest) ← bracket? r.flags cs
    some { r with rest := rest, level := r.level.add ⟨.char set, height, true⟩ }
  else if c == '?' then r.repeat? 0 (some 1) cs
  else if c == '*' then r.repeat? 0 none cs
  else if c == '+' then r.repeat? 1 none cs
  else if c == '\x7b' then do
    let (min, max, rest) ← bounds? r.flags cs
    r.repeat? min max rest
  else if c == '\\' then do
    let (a, rest) ← escape? r.flags cs
    return r.addLeaf (← atomRegex? r.flags a) rest
  else if c == '.' then return r.addLeaf (← dot? r.flags) cs
  else if c == '^' then some (r.addLeaf (.look (lineStart r.flags)) cs)
  else if c == '$' then some (r.addLeaf (.look (lineEnd r.flags)) cs)
  else return r.addLeaf (← atomRegex? r.flags (.literal c false)) cs

/-- Reads to the end, where all groups must be closed. Every step consumes at least
one character of the `fuel`. -/
def finish? : Nat → Reading → Option Piece
  | 0, _ => none
  | fuel + 1, r =>
    match r.flags.skip r.rest with
    | [] => if r.outers.isEmpty then some r.level.piece else none
    | c :: cs => do finish? fuel (← r.step? c cs)

end Reading

/-- The most levels of a pattern. -/
def maxHeight : Nat := 250

/-- Reads a pattern. -/
def read? (pattern : String) : Option Regex := do
  let cs := pattern.toList
  let p ← (Reading.start cs).finish? (cs.length + 1)
  if p.height ≤ maxHeight && p.regex.bytes ≤ maxBytes then some p.regex else none

/-- Compiles a pattern to the predicate that it is found in a name. -/
def compile? (pattern : String) : Option (String → Bool) :=
  (read? pattern).map fun r name => r.isFoundIn name.toList

end ProcMeter.Pattern
