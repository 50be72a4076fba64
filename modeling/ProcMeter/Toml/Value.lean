import ProcMeter.Toml.Number
import ProcMeter.Toml.Token

/-! Values of TOML and the lines that a text is made of. Of numbers that are not whole, and
of dates and times, only the form is kept. -/
namespace ProcMeter.Toml

inductive Value where
  | text (s : String)
  | integer (n : Int)
  | bool (b : Bool)
  | float
  /-- A date, a time or both. -/
  | moment
  | array (items : List Value)
  /-- A table; it is `dotted` when keys with dots have made it, and then they can add
  to it. -/
  | table (dotted : Bool) (members : List (String × Value))

/-- Members of a table, in the order in which they were given. -/
abbrev Members := List (String × Value)

/-- Adds a member under a key with parts. The tables on the way to it are made by such
keys alone. `fuel` is the number of parts. -/
def Members.add? : Nat → Members → List String → Value → Option Members
  | 0, _, _, _ => none
  | _ + 1, _, [], _ => none
  | _ + 1, ms, [name], v => some (ms ++ [(name, v)])
  | fuel + 1, ms, name :: more, v =>
    let (before, rest) := ms.span fun m => m.1 != name
    match rest with
    | [] => do return ms ++ [(name, .table true (← add? fuel [] more v))]
    | (_, .table true inner) :: after => do
      return before ++ (name, .table true (← add? fuel inner more v)) :: after
    | _ => none

/-- Reading values from tokens. -/
abbrev Reader := StateT (List Token) Option

namespace Reader

def peek : Reader (Option Token) := return (← get).head?

def next : Reader Token := do
  match ← get with
  | [] => failure
  | t :: ts => set ts; return t

/-- Passes over the next token if it is `t`, and tells whether it was. -/
def eat (t : Token) : Reader Bool := do
  if (← peek) == some t then
    let _ ← next
    return true
  else return false

def expect (t : Token) : Reader Unit := do if !(← eat t) then failure

def word : Reader (List Char) := do
  match ← next with
  | .word cs => return cs
  | _ => failure

def skipBlank : Reader Unit := do
  if let some (.blank _) ← peek then let _ ← next

/-- The end of a line, possibly after a comment, or the end of the text. -/
def endLine : Reader Unit := do
  skipBlank
  let _ ← eat .comment
  match ← peek with
  | none => return
  | some _ => expect .lineEnd

/-- One part of a key: a word, or a string of one line. -/
def keyPart : Reader String := do
  match ← next with
  | .word cs => return String.ofList cs
  | .text cs false => return String.ofList cs
  | _ => failure

/-- The parts of a key after the first, with dots before them. `fuel` bounds them. -/
def moreKeyParts : Nat → Reader (List String)
  | 0 => failure
  | fuel + 1 => do
    skipBlank
    if ← eat .period then
      skipBlank
      let part ← keyPart
      return part :: (← moreKeyParts fuel)
    else return []

/-- A key with its parts, and the blanks after it. -/
def key : Reader (List String) := do
  let part ← keyPart
  return part :: (← moreKeyParts ((← get).length + 1))

/-- The rest of a date or a time. A time of day may follow a date after one space. `started`
says that the first colon of a time has been passed. -/
def moment (started : Bool) : Reader Unit := do
  match ← get with
  | .blank [' '] :: .word _ :: rest => set rest
  | _ => pure ()
  if started || (← eat .colon) then
    let _ ← word
    expect .colon
    let _ ← word
    for mark in [Token.period, .plus, .colon] do
      if ← eat mark then let _ ← word

/-- The digits after a sign for an exponent. -/
def exponent (cs : List Char) : Reader (Option Digits) := do
  match cs with
  | [] => return none
  | e :: rest =>
    if e != 'e' && e != 'E' then failure
    else
      let (d, rest) ←
        if rest.isEmpty then
          let _ ← eat .plus
          Digits.take? false true 10 (← word)
        else Digits.take? true true 10 rest
      if rest.isEmpty then return some d else failure

/-- A number that is not whole. -/
def float (cs : List Char) (fraction : Option (List Char)) : Reader Value := do
  let (whole, rest) ← Digits.take? true false 10 cs
  let (part, rest) ←
    match fraction with
    | none => pure (none, rest)
    | some cs =>
      if !rest.isEmpty then failure
      let (d, rest) ← Digits.take? false true 10 cs
      pure (some d, rest)
  let exponent ← exponent rest
  if isFloat whole part exponent then return .float else failure

/-- The words for numbers that are not finite. -/
def specials : List String := ["inf", "-inf", "nan", "-nan"]

/-- A number that starts with a word. -/
def number (cs : List Char) : Reader Value := do
  match bases.findSome? fun b => (Text.after? b.1 cs).map fun ds => (b.2, ds) with
  | some (base, ds) => return .integer (← integer? false base ds)
  | none =>
    if cs.contains 'e' || cs.contains 'E' then float cs none
    else if ← eat .period then float cs (some (← word))
    else if specials.contains (String.ofList cs) then return .float
    else return .integer (← integer? true 10 cs)

/-- Whether a word starts a date: it has a sign for a time of day, or a hyphen after its
first character that is no sign of an exponent. -/
def startsDate (cs : List Char) : Bool :=
  let hasPair (p : List Char) : Bool := (cs.zip cs.tail).any fun (a, b) => [a, b] == p
  cs.contains 'T' || cs.contains 't' ||
    (cs.tail.contains '-' && !hasPair ['e', '-'] && !hasPair ['E', '-'])

/-- A value that starts with a word. -/
def bare (cs : List Char) : Reader Value := do
  let name := String.ofList cs
  if name == "true" then return .bool true
  else if name == "false" then return .bool false
  else if name == "inf" || name == "nan" || cs.head?.any fun c => c == '-' || c.isDigit then
    if startsDate cs then moment false; return .moment
    else if ← eat .colon then moment true; return .moment
    else number cs
  else failure

/-- Blanks, comments and line breaks between the items of an array. `fuel` bounds them. -/
def skipLines : Nat → Reader Unit
  | 0 => failure
  | fuel + 1 => do
    skipBlank
    if ← eat .lineEnd then skipLines fuel
    else if (← peek) == some .comment then
      endLine
      skipLines fuel

mutual

def value : Nat → Reader Value
  | 0 => failure
  | fuel + 1 => do
    match ← next with
    | .text cs _ => return .text (String.ofList cs)
    | .word cs => bare cs
    | .plus => number (← word)
    | .bracketOpen => return .array (← items fuel)
    | .braceOpen =>
      skipBlank
      if ← eat .braceClose then return .table false []
      else return .table false (← members fuel [])
    | _ => failure

/-- The items of an array. -/
def items : Nat → Reader (List Value)
  | 0 => failure
  | fuel + 1 => do
    skipLines ((← get).length + 1)
    if ← eat .bracketClose then return []
    else
      let item ← value fuel
      skipLines ((← get).length + 1)
      if ← eat .comma then return item :: (← items fuel)
      else
        expect .bracketClose
        return [item]

/-- The members of a table on one line, after those in `ms`. -/
def members : Nat → Members → Reader Members
  | 0, _ => failure
  | fuel + 1, ms => do
    let k ← key
    expect .equals
    skipBlank
    let v ← value fuel
    let ms ← ms.add? k.length k v
    skipBlank
    if ← eat .braceClose then return ms
    else
      expect .comma
      skipBlank
      members fuel ms

end

end Reader

end ProcMeter.Toml
