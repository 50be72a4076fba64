import ProcMeter.Text.Numeral
import ProcMeter.Yaml.Cursor

/-! The text of YAML scalars. Line breaks inside quoted and plain scalars are folded:
a single break is a space, and of several breaks all but the first remain. Block
scalars keep their breaks, or fold those between lines that do not start with a
blank. -/
namespace ProcMeter.Yaml

/-- Blanks and line breaks inside a scalar. -/
structure Gap where
  /-- Blanks before any break. -/
  blanks : List Char
  /-- A break has been passed, or has been escaped. -/
  broken : Bool
  /-- The first break. -/
  first : List Char
  /-- All other breaks. -/
  others : List Char

namespace Gap

def empty (broken : Bool) : Gap := ⟨[], broken, [], []⟩

/-- What the gap stands for. -/
def text (g : Gap) : List Char :=
  if !g.broken then g.blanks
  else if g.first == ['\n'] then (if g.others.isEmpty then [' '] else g.others)
  else g.first ++ g.others

/-- Reads a gap. On later lines no tab may stand before the column `indent`. -/
def scan? (indent : Nat) : Nat → Gap → Cursor → Option (Gap × Cursor)
  | 0, _, _ => none
  | fuel + 1, g, c =>
    match c.peek with
    | none => some (g, c)
    | some b =>
      if isBlank b then
        if g.broken then
          if b == '\t' && c.column < indent then none else scan? indent fuel g (c.skip 1)
        else scan? indent fuel { g with blanks := g.blanks ++ [b] } (c.skip 1)
      else if isBreak b then
        let (text, c) := c.lineBreak
        if g.broken then scan? indent fuel { g with others := g.others ++ text } c
        else scan? indent fuel { g with broken := true, first := text } c
      else some (g, c)

end Gap

/-- The characters that single letters stand for after a backslash. -/
def letterEscapes : List (Char × Char) :=
  [('0', '\x00'), ('a', '\x07'), ('b', '\x08'), ('t', '\t'), ('\t', '\t'), ('n', '\n'),
    ('v', '\x0b'), ('f', '\x0c'), ('r', '\r'), ('e', '\x1b'), (' ', ' '), ('"', '"'), ('/', '/'),
    ('\\', '\\'), ('N', '\u0085'), ('_', '\u00a0'), ('L', '\u2028'), ('P', '\u2029')]

/-- The number of hexadecimal digits after the letters that announce them. -/
def codeEscapes : List (Char × Nat) := [('x', 2), ('u', 4), ('U', 8)]

/-- The character of an escape, read at its backslash. -/
def escape? (c : Cursor) : Option (Char × Cursor) := do
  let letter ← c.peekAt 1
  match letterEscapes.lookup letter with
  | some value => some (value, c.skip 2)
  | none =>
    let count ← codeEscapes.lookup letter
    let digits := (c.rest.drop 2).take count
    let n ← Text.digitsIn? 16 digits
    if digits.length = count ∧ n.isValidChar then some (Char.ofNat n, c.skip (2 + count)) else none

/-- The characters of a quoted scalar up to a blank, a break, the closing quote or an
escaped break, in reverse before `acc`; it tells whether it ended at an escaped break. -/
def quotedRun? (single : Bool) :
    Nat → List Char → Cursor → Option (List Char × Bool × Cursor)
  | 0, _, _ => none
  | fuel + 1, acc, c =>
    match c.rest with
    | [] => some (acc, false, c)
    | b :: rest =>
      if isBlank b || isBreak b then some (acc, false, c)
      else if single then
        if b == '\'' then
          if rest.head? == some '\'' then quotedRun? single fuel ('\'' :: acc) (c.skip 2)
          else some (acc, false, c)
        else quotedRun? single fuel (b :: acc) (c.skip 1)
      else if b == '"' then some (acc, false, c)
      else if b == '\\' then
        if rest.head?.any isBreak then some (acc, true, (c.skip 1).lineBreak.2)
        else do
          let (value, c) ← escape? c
          quotedRun? single fuel (value :: acc) c
      else quotedRun? single fuel (b :: acc) (c.skip 1)

/-- The rest of a quoted scalar after its opening quote, in reverse before `acc`. -/
def quotedFrom? (single : Bool) : Nat → List Char → Cursor → Option (List Char × Cursor)
  | 0, _, _ => none
  | fuel + 1, acc, c =>
    if c.atDocumentMark || c.rest.isEmpty then none
    else do
      let (acc, escaped, c) ← quotedRun? single (c.rest.length + 1) acc c
      if c.peek == some (if single then '\'' else '"') then some (acc, c.skip 1)
      else
        let (gap, c) ← Gap.scan? 0 (c.rest.length + 1) (.empty escaped) c
        quotedFrom? single fuel (gap.text.reverse ++ acc) c

/-- A quoted scalar, read at its opening quote. -/
def quoted? (single : Bool) (c : Cursor) : Option (String × Cursor) :=
  (quotedFrom? single (c.rest.length + 1) [] (c.skip 1)).map fun (acc, c) =>
    (String.ofList acc.reverse, c)

def isFlowMark (c : Char) : Bool :=
  c == ',' || c == '[' || c == ']' || c == '\x7b' || c == '\x7d'

/-- The characters of a plain scalar up to a blank, a break or a character that ends
the scalar, in reverse before `acc`. -/
def plainRun? (flow : Bool) : Nat → List Char → Cursor → Option (List Char × Cursor)
  | 0, _, _ => none
  | fuel + 1, acc, c =>
    match c.peek with
    | none => some (acc, c)
    | some b =>
      let after := c.peekAt 1
      if isBlank b || isBreak b then some (acc, c)
      else if flow && b == ':' && after.any fun a => isFlowMark a || a == '?' then none
      else if (b == ':' && endsWord after) || (flow && isFlowMark b) then some (acc, c)
      else plainRun? flow fuel (b :: acc) (c.skip 1)

/-- A plain scalar from here on, in reverse before `acc` and the gap before it. Its later
lines are indented by at least `indent`. It tells whether the place after it is on a
later line. -/
def plainFrom? (flow : Bool) (indent : Nat) :
    Nat → List Char → Gap → Cursor → Option (List Char × Bool × Cursor)
  | 0, _, _, _ => none
  | fuel + 1, acc, gap, c =>
    if c.atDocumentMark || c.peek == some '#' then some (acc, gap.broken, c)
    else do
      let (more, next) ← plainRun? flow (c.rest.length + 1) [] c
      let (acc, gap) :=
        if more.isEmpty then (acc, gap) else (more ++ (gap.text.reverse ++ acc), Gap.empty false)
      if next.peek.any fun b => isBlank b || isBreak b then
        let (gap, next) ← Gap.scan? indent (next.rest.length + 1) gap next
        if !flow && next.column < indent then some (acc, gap.broken, next)
        else plainFrom? flow indent fuel acc gap next
      else some (acc, gap.broken, next)

/-- A plain scalar, and whether the place after it is on a later line. -/
def plain? (flow : Bool) (indent : Nat) (c : Cursor) : Option (String × Bool × Cursor) :=
  (plainFrom? flow indent (c.rest.length + 1) [] (.empty false) c).map fun (acc, broken, c) =>
    (String.ofList acc.reverse, broken, c)

/-- What becomes of the line breaks at the end of a block scalar. -/
inductive Chomping where
  | strip
  | clip
  | keep
  deriving DecidableEq

def chomping? : Option Char → Option Chomping
  | some '+' => some .keep
  | some '-' => some .strip
  | _ => none

/-- The marks after the sign of a block scalar: how to chomp, and how much further its
lines are indented, in either order. -/
def blockHeader? (c : Cursor) : Option (Chomping × Nat × Cursor) :=
  let digit? (c : Cursor) : Option Nat := c.peek.bind Text.digit?
  match chomping? c.peek with
  | some chomping =>
    let c := c.skip 1
    match digit? c with
    | some 0 => none
    | some n => some (chomping, n, c.skip 1)
    | none => some (chomping, 0, c)
  | none =>
    match digit? c with
    | some 0 => none
    | some n =>
      let c := c.skip 1
      match chomping? c.peek with
      | some chomping => some (chomping, n, c.skip 1)
      | none => some (.clip, n, c)
    | none => some (.clip, 0, c)

/-- The line breaks before the next line of a block scalar with text, and the place of
that text. With `indent` zero all spaces count as indentation, and the deepest line
decides. No tab may stand in the indentation. -/
def blockBreaks? (indent : Nat) :
    Nat → Nat → List Char → Cursor → Option (List Char × Nat × Cursor)
  | 0, _, _, _ => none
  | fuel + 1, deepest, acc, c =>
    let spaces := (c.rest.takeWhile (· == ' ')).length
    let c := c.skip (if indent = 0 then spaces else Nat.min spaces (indent - c.column))
    let deepest := Nat.max deepest c.column
    if (indent = 0 || c.column < indent) && c.peek == some '\t' then none
    else if c.peek.any isBreak then
      let (text, c) := c.lineBreak
      blockBreaks? indent fuel deepest (acc ++ text) c
    else some (acc, deepest, c)

/-- The lines of a block scalar, in reverse before `acc`. `last` is the break of the line
before, and `breaks` are those after it. -/
def blockLines? (folded : Bool) (indent : Nat) :
    Nat → List Char → Bool → List Char → List Char → Cursor →
      Option (List Char × List Char × List Char × Cursor)
  | 0, _, _, _, _, _ => none
  | fuel + 1, acc, blankLed, last, breaks, c =>
    if c.column ≠ indent || c.rest.isEmpty then some (acc, last, breaks, c)
    else do
      let blankLeads := c.peek.any isBlank
      let joint :=
        if folded && last == ['\n'] && !blankLed && !blankLeads then
          (if breaks.isEmpty then [' '] else breaks)
        else last ++ breaks
      let (line, c) := c.run fun b => !isBreak b
      let (last, c) := c.lineBreak
      let (breaks, _, c) ← blockBreaks? indent (c.rest.length + 1) 0 [] c
      blockLines? folded indent fuel (line.reverse ++ (joint.reverse ++ acc)) blankLeads last breaks c

/-- A block scalar, read at its sign, inside a block that is indented to `outer`, or to
nowhere when that is negative. -/
def block? (folded : Bool) (outer : Int) (c : Cursor) : Option (String × Cursor) := do
  let (chomping, increment, c) ← blockHeader? (c.skip 1)
  let c ← c.finishLine?
  let fixed := if increment = 0 then 0 else outer.toNat + increment
  let (breaks, deepest, c) ← blockBreaks? fixed (c.rest.length + 1) 0 [] c
  let indent :=
    if fixed = 0 then Nat.max deepest (Nat.max (outer + 1).toNat 1) else fixed
  let (acc, last, breaks, c) ← blockLines? folded indent (c.rest.length + 1) [] false [] breaks c
  let tail := match chomping with
    | .strip => []
    | .clip => last
    | .keep => last ++ breaks
  some (String.ofList (acc.reverse ++ tail), c)

end ProcMeter.Yaml
