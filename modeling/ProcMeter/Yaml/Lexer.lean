import ProcMeter.Text.Utf8
import ProcMeter.Yaml.Scalar
import ProcMeter.Yaml.Token

/-! From YAML text to tokens. Whether a scalar is the key of a mapping shows only at the
colon after it, so the places where keys may have started are kept, one for each open
flow collection and one for the blocks around them all, and the tokens for a key are
put in afterwards. Such a key is confined to one line and 1024 characters. -/
namespace ProcMeter.Yaml

/-- A place where the key of a mapping may have started. -/
structure KeyStart where
  /-- The number of tokens before the key. -/
  before : Nat
  /-- Nothing but a key can stand there. -/
  required : Bool
  column : Nat
  line : Nat
  index : Nat

structure Lexer where
  place : Cursor
  /-- The tokens so far, the last first. -/
  done : List Token
  /-- The column of the innermost block, or -1. -/
  indent : Int
  /-- The columns of the blocks around it. -/
  outer : List Int
  /-- Where a key may have started in each open flow collection, the innermost first. -/
  flow : List (Option KeyStart)
  /-- The same for the blocks. -/
  blockKey : Option KeyStart
  /-- A key may start here. -/
  keyAllowed : Bool

namespace Lexer

def start (cs : List Char) : Lexer := ⟨.start cs, [], -1, [], [], none, true⟩

def inFlow (l : Lexer) : Bool := !l.flow.isEmpty

/-- The possible key of the innermost collection. -/
def possibleKey (l : Lexer) : Option KeyStart :=
  match l.flow with
  | [] => l.blockKey
  | k :: _ => k

def setKey (l : Lexer) (k : Option KeyStart) : Lexer :=
  match l.flow with
  | [] => { l with blockKey := k }
  | _ :: ks => { l with flow := k :: ks }

def push (l : Lexer) (t : Token) : Lexer := { l with done := t :: l.done }

/-- Puts a token in after the first `n`. -/
def insert (l : Lexer) (n : Nat) (t : Token) : Lexer :=
  let later := l.done.length - n
  { l with done := l.done.take later ++ t :: l.done.drop later }

/-- Takes a token of `n` characters. -/
def take (l : Lexer) (n : Nat) (t : Token) : Lexer :=
  { l with place := l.place.skip n, done := t :: l.done }

/-- Gives up the possible key; it is an error if a key is required there. -/
def dropKey? (l : Lexer) : Option Lexer :=
  match l.possibleKey with
  | some k => if k.required then none else some (l.setKey none)
  | none => some l

/-- Notes that a key may start here. -/
def noteKey? (l : Lexer) : Option Lexer :=
  if l.keyAllowed then do
    let l ← l.dropKey?
    let c := l.place
    return l.setKey (some ⟨l.done.length, !l.inFlow && l.indent == c.column, c.column, c.line, c.index⟩)
  else some l

/-- A key that began here must have shown itself by now. -/
def isStale (c : Cursor) (k : KeyStart) : Bool := k.line < c.line || k.index + 1024 < c.index

/-- Gives up all keys that have not shown themselves in time. -/
def dropStale? (l : Lexer) : Option Lexer :=
  let alive (k : Option KeyStart) : Option KeyStart := k.filter fun k => !isStale l.place k
  let late (k : KeyStart) : Bool := k.required && isStale l.place k
  if l.blockKey.any late || l.flow.any fun k => k.any late then none
  else some { l with blockKey := alive l.blockKey, flow := l.flow.map alive }

/-- Ends the blocks that are indented further than a column. `fuel` is their number. -/
def unrollTo (column : Int) : Nat → Lexer → Lexer
  | 0, l => l
  | fuel + 1, l =>
    if column < l.indent then
      unrollTo column fuel
        { l with done := .blockEnd :: l.done, indent := l.outer.headD (-1), outer := l.outer.tail }
    else l

def unroll (l : Lexer) (column : Int) : Lexer :=
  if l.inFlow then l else unrollTo column (l.outer.length + 1) l

/-- Begins a block at a column, unless one is there; its token comes after the first `n`. -/
def roll (l : Lexer) (column n : Nat) (t : Token) : Lexer :=
  if l.inFlow || (column : Int) ≤ l.indent then l
  else { (l.insert n t) with indent := column, outer := l.indent :: l.outer }

def allowKey (l : Lexer) (b : Bool) : Lexer := { l with keyAllowed := b }

/-- Passes over blanks, comments and line breaks. Tabs count as blanks where no key may
start. -/
def skipToToken : Nat → Lexer → Lexer
  | 0, l => l
  | fuel + 1, l =>
    let c := l.place
    let c := if c.column = 0 && c.peek == some '\uFEFF' then c.skip 1 else c
    let tabs := l.inFlow || !l.keyAllowed
    let c := (c.skipWhile fun b => b == ' ' || (tabs && b == '\t')).skipComment
    if c.peek.any isBreak then
      skipToToken fuel { l with place := c.lineBreak.2, keyAllowed := l.keyAllowed || !l.inFlow }
    else { l with place := c }

/-- A mark at the start of a line that ends all blocks. -/
def closeBlocks? (l : Lexer) : Option Lexer := do
  return (← (l.unroll (-1)).dropKey?).allowKey false

/-! Directives, anchors and tags. -/

/-- A number of a version: one to nine digits. -/
def versionNumber? (c : Cursor) : Option (Nat × Cursor) :=
  let (ds, c) := c.run Char.isDigit
  if 9 < ds.length then none else (Text.digits? ds).map fun n => (n, c)

def isTagChar (verbatim : Bool) (c : Char) : Bool :=
  isNameChar c || ";/?:@&=+$.%!~*'()".contains c || (verbatim && ",[]".contains c)

/-- The number of bytes of a character by its first byte. -/
def byteCount? (b : Nat) : Option Nat :=
  if b < 0x80 then some 1
  else if 0xC0 ≤ b ∧ b < 0xE0 then some 2
  else if 0xE0 ≤ b ∧ b < 0xF0 then some 3
  else if 0xF0 ≤ b ∧ b < 0xF8 then some 4
  else none

/-- Bytes that are written as hexadecimal digits after percent signs. -/
def percentBytes? : Nat → List Char → Option (List UInt8 × List Char)
  | 0, cs => some ([], cs)
  | n + 1, '%' :: a :: b :: cs => do
    let v ← Text.digitsIn? 16 [a, b]
    let (bs, rest) ← percentBytes? n cs
    some (UInt8.ofNat v :: bs, rest)
  | _ + 1, _ => none

/-- The character that percent signs write, byte by byte. -/
def percentChar? (cs : List Char) : Option (List Char × List Char) := do
  let (lead, _) ← percentBytes? 1 cs
  let count ← byteCount? ((lead.headD 0).toNat)
  let (bytes, rest) ← percentBytes? count cs
  if bytes.tail.all fun b => b &&& 0xC0 == 0x80 then some (Text.Utf8.decodeLossy bytes, rest)
  else none

/-- The text of a tag, with percent signs resolved. -/
def tagText? : Nat → List Char → Option (List Char)
  | _, [] => some []
  | 0, _ => none
  | fuel + 1, c :: cs =>
    if c == '%' then do
      let (text, rest) ← percentChar? (c :: cs)
      return text ++ (← tagText? fuel rest)
    else do return c :: (← tagText? fuel cs)

/-- Reads the text of a tag. -/
def tagRun? (verbatim : Bool) (c : Cursor) : Option (List Char × Cursor) := do
  let (cs, c) := c.run (isTagChar verbatim)
  return (← tagText? cs.length cs, c)

/-- The handle of a tag: an exclamation mark, and possibly a name and another one. -/
def tagHandle? (c : Cursor) : Option (List Char × Cursor) :=
  match c.rest with
  | '!' :: _ =>
    let (name, c) := (c.skip 1).run isNameChar
    if c.peek == some '!' then some ('!' :: name ++ ['!'], c.skip 1) else some ('!' :: name, c)
  | _ => none

/-- A tag, read at its exclamation mark. -/
def tag? (l : Lexer) : Option (Token × Cursor) := do
  let c := l.place
  let (handle, rest, c) ←
    if c.peekAt 1 == some '<' then do
      let (text, c) ← tagRun? true (c.skip 2)
      if text.isEmpty || c.peek != some '>' then none else some ([], text, c.skip 1)
    else do
      let (handle, c) ← tagHandle? c
      let (text, c) ← tagRun? false c
      if 2 ≤ handle.length && handle.getLast? == some '!' then
        if text.isEmpty then none else some (handle, text, c)
      else
        let text := handle.tail ++ text
        some (if text.isEmpty then ([], ['!'], c) else (['!'], text, c))
  if endsWord c.peek || (l.inFlow && c.peek == some ',') then
    some (.tag (String.ofList handle) (String.ofList rest), c)
  else none

/-- The name of an anchor or an alias, read after its sign. -/
def anchorName? (c : Cursor) : Option (String × Cursor) :=
  let (name, c) := c.run isNameChar
  let ends := endsWord c.peek || c.peek.any fun b => "?:,]\x7d%@".contains b || b == '\x60'
  if name.isEmpty || !ends then none else some (String.ofList name, c)

/-- A directive, read after its percent sign. -/
def directive? (c : Cursor) : Option (Token × Cursor) := do
  let (name, c) := c.run isNameChar
  if !endsWord c.peek then none
  else
    let c := c.skipWhile isBlank
    if name == ['Y', 'A', 'M', 'L'] then
      let (major, c) ← versionNumber? c
      if c.peek != some '.' then none
      else
        let (minor, c) ← versionNumber? (c.skip 1)
        return (.versionDirective major minor, ← c.finishLine?)
    else if name == ['T', 'A', 'G'] then
      let (handle, c) ← tagHandle? c
      if (handle != ['!'] && handle.getLast? != some '!') || !c.peek.any isBlank then none
      else
        let (lead, c) ← tagRun? true (c.skipWhile isBlank)
        if lead.isEmpty || !endsWord c.peek then none
        else return (.tagDirective (String.ofList handle) (String.ofList lead), ← c.finishLine?)
    else none

/-! One token after another. -/

/-- Takes the colon after a key. -/
def takeValue? (l : Lexer) : Option Lexer :=
  match l.possibleKey with
  | some k =>
    let l := l.insert k.before .key
    let l := l.roll k.column k.before .blockMappingStart
    some (((l.setKey none).allowKey false).take 1 .value)
  | none =>
    if l.inFlow then some ((l.allowKey false).take 1 .value)
    else if !l.keyAllowed then none
    else
      let l := l.roll l.place.column l.done.length .blockMappingStart
      some ((l.allowKey true).take 1 .value)

/-- Takes the hyphen of an item. In a flow collection it is an error for the reader of
the tokens to find. -/
def takeEntry? (l : Lexer) : Option Lexer :=
  if !l.inFlow && !l.keyAllowed then none
  else do
    let l ← (l.roll l.place.column l.done.length .blockSequenceStart).dropKey?
    return (l.allowKey true).take 1 .blockEntry

/-- Takes the question mark before a key. -/
def takeKey? (l : Lexer) : Option Lexer :=
  if !l.inFlow && !l.keyAllowed then none
  else do
    let l ← (l.roll l.place.column l.done.length .blockMappingStart).dropKey?
    return (l.allowKey (!l.inFlow)).take 1 .key

def openFlow? (l : Lexer) (t : Token) : Option Lexer := do
  let l ← l.noteKey?
  return ({ l with flow := none :: l.flow }.allowKey true).take 1 t

def closeFlow? (l : Lexer) (t : Token) : Option Lexer := do
  let l ← l.dropKey?
  return ({ l with flow := l.flow.tail }.allowKey false).take 1 t

/-- Goes on after a token that may be a key. -/
def takeNode? (l : Lexer) (read : Option (Token × Cursor)) : Option Lexer := do
  let l ← l.noteKey?
  let (t, c) ← read
  return ({ l with place := c }.allowKey false).push t

/-- The characters that no plain scalar starts with. -/
def isIndicator (c : Char) : Bool :=
  "-?:,[]\x7b\x7d#&*!|>'\"%@".contains c || c == '\x60'

/-- Whether a plain scalar starts with `c`, before the character `after`. -/
def startsPlain (l : Lexer) (c : Char) (after : Option Char) : Bool :=
  !(isIndicator c || isBlank c || isBreak c) || (c == '-' && !after.any isBlank) ||
    (!l.inFlow && (c == '?' || c == ':') && !endsWord after)

def takePlain? (l : Lexer) : Option Lexer := do
  let l ← l.noteKey?
  let (text, broken, c) ← plain? l.inFlow (l.indent + 1).toNat l.place
  return ({ l with place := c }.allowKey broken).push (.scalar .plain text)

def takeBlock? (l : Lexer) (folded : Bool) : Option Lexer := do
  let l ← l.dropKey?
  let (text, c) ← block? folded l.indent l.place
  return ({ l with place := c }.allowKey true).push (.scalar (if folded then .folded else .literal) text)

/-- Takes the token that starts with `b`. -/
def next? (l : Lexer) (b : Char) : Option Lexer :=
  let c := l.place
  let after := c.peekAt 1
  if c.column = 0 && b == '%' then do
    let l ← l.closeBlocks?
    let (t, c) ← directive? (c.skip 1)
    return { l with place := c }.push t
  else if c.atDocumentMark then do
    return (← l.closeBlocks?).take 3 (if b == '-' then .documentStart else .documentEnd)
  else if b == '[' then l.openFlow? .flowSequenceStart
  else if b == '\x7b' then l.openFlow? .flowMappingStart
  else if b == ']' then l.closeFlow? .flowSequenceEnd
  else if b == '\x7d' then l.closeFlow? .flowMappingEnd
  else if b == ',' then do return ((← l.dropKey?).allowKey true).take 1 .flowEntry
  else if b == '-' && endsWord after then l.takeEntry?
  else if b == '?' && (l.inFlow || endsWord after) then l.takeKey?
  else if b == ':' && (l.inFlow || endsWord after) then l.takeValue?
  else if b == '*' then
    l.takeNode? ((anchorName? (c.skip 1)).map fun (name, c) => (.alias name, c))
  else if b == '&' then
    l.takeNode? ((anchorName? (c.skip 1)).map fun (name, c) => (.anchor name, c))
  else if b == '!' then l.takeNode? l.tag?
  else if b == '|' && !l.inFlow then l.takeBlock? false
  else if b == '>' && !l.inFlow then l.takeBlock? true
  else if b == '\'' then
    l.takeNode? ((quoted? true c).map fun (text, c) => (.scalar .singleQuoted text, c))
  else if b == '"' then
    l.takeNode? ((quoted? false c).map fun (text, c) => (.scalar .doubleQuoted text, c))
  else if l.startsPlain b after then l.takePlain?
  else none

/-- Takes all tokens to the end of the text. Each has at least one character. -/
def finish? : Nat → Lexer → Option (List Token)
  | 0, _ => none
  | fuel + 1, l => do
    let l ← (skipToToken (l.place.rest.length + 1) l).dropStale?
    let l := l.unroll l.place.column
    match l.place.peek with
    | none => return (← l.closeBlocks?).done.reverse
    | some b => finish? fuel (← l.next? b)

end Lexer

/-- The tokens of a text. A byte order mark at its start does not count. -/
def Token.scan? (cs : List Char) : Option (List Token) :=
  let cs := match cs with
    | '\uFEFF' :: rest => rest
    | _ => cs
  if cs.all isAllowed then (Lexer.start cs).finish? (cs.length + 1) else none

end ProcMeter.Yaml
