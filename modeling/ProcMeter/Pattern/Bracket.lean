import ProcMeter.Pattern.Escape

/-! Sets of characters in brackets. A set lists characters, ranges and other sets,
and may be nested; between the lists there may be operators, which all bind alike
and group to the left. Every nesting counts for the height of the set. -/
namespace ProcMeter.Pattern

/-- A list of items in brackets: what they hold together, their number, and the
greatest of their heights. -/
structure ItemList where
  set : CharSet
  count : Nat
  height : Nat

/-- A set with its height. -/
abbrev TallSet := CharSet × Nat

namespace ItemList

def empty : ItemList := ⟨.empty, 0, 0⟩

def add (l : ItemList) (t : TallSet) : ItemList :=
  ⟨l.set.union t.1, l.count + 1, Nat.max l.height t.2⟩

/-- A list of more than one item is a level of its own. -/
def tall (l : ItemList) : TallSet := (l.set, if l.count ≤ 1 then l.height else l.height + 1)

end ItemList

inductive SetOp where
  | intersection
  | difference
  | symmetricDifference
  deriving DecidableEq

/-- An open bracket: what was listed since the last operator, and the operator with
all that stands before it. -/
structure Bracket where
  negated : Bool
  left : Option (SetOp × TallSet)
  items : ItemList

/-- Applies an operator; where case does not count it does so on both sides. -/
def SetOp.apply (op : SetOp) (f : Flags) (a b : TallSet) : TallSet :=
  let x := f.fold a.1
  let y := f.fold b.1
  let set := match op with
    | intersection => x.inter y
    | difference => x.diff y
    | symmetricDifference => x.symmDiff y
  (set, Nat.max a.2 b.2 + 1)

namespace Bracket

/-- The set up to here. -/
def value (b : Bracket) (f : Flags) : TallSet :=
  match b.left with
  | none => b.items.tall
  | some (op, left) => op.apply f left b.items.tall

/-- Begins a new list after an operator. -/
def operate (b : Bracket) (f : Flags) (op : SetOp) : Bracket :=
  ⟨b.negated, some (op, b.value f), .empty⟩

def add (b : Bracket) (t : TallSet) : Bracket := { b with items := b.items.add t }

/-- The set of a bracket that closes, one level above what it holds. -/
def close? (b : Bracket) (f : Flags) : Option TallSet :=
  (f.foldAndNegate? b.negated (b.value f).1).map fun s => (s, (b.value f).2 + 1)

end Bracket

/-- Hyphens at the start of a bracket are characters. -/
def openHyphens (f : Flags) : Nat → ItemList → List Char → ItemList × List Char
  | fuel + 1, l, '-' :: cs => openHyphens f fuel (l.add (.ofChar '-', 0)) (f.skip cs)
  | _, l, cs => (l, cs)

/-- Opens a bracket, read after its `[`. A caret negates it, and a closing bracket
that comes first is a character. -/
def openBracket (f : Flags) (cs : List Char) : Bracket × List Char :=
  let cs := f.skip cs
  let negated := cs.head? == some '^'
  let cs := if negated then f.skip cs.tail else cs
  let (l, cs) := openHyphens f cs.length .empty cs
  match cs with
  | ']' :: rest =>
    if l.count = 0 then (⟨negated, none, l.add (.ofChar ']', 0)⟩, f.skip rest)
    else (⟨negated, none, l⟩, cs)
  | _ => (⟨negated, none, l⟩, cs)

/-- The named sets of ASCII. -/
def asciiClasses : List (String × CharSet) :=
  [("alnum", ⟨[(0x30, 0x39), (0x41, 0x5A), (0x61, 0x7A)]⟩),
    ("alpha", ⟨[(0x41, 0x5A), (0x61, 0x7A)]⟩),
    ("ascii", ⟨[(0, 0x7F)]⟩),
    ("blank", ⟨[(9, 9), (0x20, 0x20)]⟩),
    ("cntrl", ⟨[(0, 0x1F), (0x7F, 0x7F)]⟩),
    ("digit", asciiDigits),
    ("graph", ⟨[(0x21, 0x7E)]⟩),
    ("lower", ⟨[(0x61, 0x7A)]⟩),
    ("print", ⟨[(0x20, 0x7E)]⟩),
    ("punct", ⟨[(0x21, 0x2F), (0x3A, 0x40), (0x5B, 0x60), (0x7B, 0x7E)]⟩),
    ("space", asciiBlanks),
    ("upper", ⟨[(0x41, 0x5A)]⟩),
    ("word", asciiWordChars),
    ("xdigit", ⟨[(0x30, 0x39), (0x41, 0x46), (0x61, 0x66)]⟩)]

/-- A named set of ASCII with colons around its name, read after the bracket that
opens it: whether it is negated, the set, and the rest. -/
def asciiClass? (cs : List Char) : Option (Bool × CharSet × List Char) := do
  let cs ← Text.after? [':'] cs
  let negated := cs.head? == some '^'
  let cs := if negated then cs.tail else cs
  let (name, rest) ← Text.cut? ':' cs
  let rest ← Text.after? [']'] rest
  some (negated, ← asciiClasses.lookup (String.ofList name), rest)

/-- One item: an escape or a character. -/
def bracketAtom? (f : Flags) : List Char → Option (Atom × List Char)
  | [] => none
  | '\\' :: cs => escape? f cs
  | c :: cs => some (.literal c false, cs)

/-- A literal of a set; a set of bytes has ASCII literals only. -/
def literalIn? (f : Flags) : Atom → Option Char
  | .literal c _ => if f.unicode || c.toNat < 0x80 then some c else none
  | _ => none

/-- The first character of a comment, or of what follows blanks. -/
def peekFrom (inComment : Bool) (all : List Char) : List Char → Option Char
  | [] => all.head?
  | c :: cs =>
    if Text.isBlank c then peekFrom inComment all cs
    else if !inComment && c == '#' then peekFrom true all cs
    else some c

/-- The character that comes next, to tell whether a hyphen makes a range. -/
def Flags.peek (f : Flags) (cs : List Char) : Option Char :=
  if f.verbose then peekFrom false cs cs else cs.head?

/-- One item of a bracket, or a range. -/
def bracketItem? (f : Flags) (cs : List Char) : Option (CharSet × List Char) := do
  let (first, rest) ← bracketAtom? f cs
  let single : Option (CharSet × List Char) :=
    match first with
    | .set s => some (s, f.skip rest)
    | a => (literalIn? f a).map fun c => (.ofChar c, f.skip rest)
  match f.skip rest with
  | [] => none
  | '-' :: rest =>
    if f.peek rest == some ']' || f.peek rest == some '-' then single
    else
      let (second, rest) ← bracketAtom? f (f.skip rest)
      let lo ← literalIn? f first
      let hi ← literalIn? f second
      if lo ≤ hi then some (.range lo.toNat hi.toNat, rest) else none
  | _ => single

/-- Reads a bracket to its end. `outer` holds the open brackets around it. -/
def bracketFrom? (f : Flags) :
    Nat → List Bracket → Bracket → List Char → Option (TallSet × List Char)
  | 0, _, _, _ => none
  | fuel + 1, outer, b, cs =>
    match f.skip cs with
    | [] => none
    | '[' :: rest =>
      match asciiClass? rest with
      | some (negated, set, rest) => do
        let set ← f.foldAndNegate? negated set
        bracketFrom? f fuel outer (b.add (set, 0)) rest
      | none =>
        let (inner, rest) := openBracket f rest
        bracketFrom? f fuel (b :: outer) inner rest
    | ']' :: rest => do
      let t ← b.close? f
      match outer with
      | [] => some (t, rest)
      | parent :: outer => bracketFrom? f fuel outer (parent.add t) rest
    | '&' :: '&' :: rest => bracketFrom? f fuel outer (b.operate f .intersection) rest
    | '-' :: '-' :: rest => bracketFrom? f fuel outer (b.operate f .difference) rest
    | '~' :: '~' :: rest => bracketFrom? f fuel outer (b.operate f .symmetricDifference) rest
    | cs => do
      let (set, rest) ← bracketItem? f cs
      bracketFrom? f fuel outer (b.add (set, 0)) rest

/-- A set in brackets, read after the first `[`. -/
def bracket? (f : Flags) (cs : List Char) : Option (TallSet × List Char) :=
  let (b, rest) := openBracket f cs
  bracketFrom? f (rest.length + 1) [] b rest

end ProcMeter.Pattern
