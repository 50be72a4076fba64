import ProcMeter.Json.Basic
import ProcMeter.Text.Numeral

/-! Reading JSON text, strictly: no comments, no trailing commas, no leading
zeros, one value and nothing after it. Reading goes over the characters once
into lexemes, and over the lexemes once into a value, with the open containers
on a stack, so nesting has no limit. A number is kept as written and a string
may leave a surrogate unpaired: whether that matters is for whoever uses the
value. -/
namespace ProcMeter.Json

/-- A part of a string: a character, or a surrogate named by an escape. -/
inductive Piece where
  | char (c : Char)
  | surrogate (n : Nat)
  deriving DecidableEq

/-- The text of the parts. A high surrogate pairs with a low one right after it;
any other surrogate leaves no text. -/
def joinPieces? : List Piece → Option (List Char)
  | [] => some []
  | .char c :: ps => (joinPieces? ps).map (c :: ·)
  | .surrogate h :: .surrogate l :: ps =>
    if h < 0xDC00 ∧ 0xDC00 ≤ l then
      (joinPieces? ps).map (Char.ofNat (0x10000 + (h - 0xD800) * 0x400 + (l - 0xDC00)) :: ·)
    else none
  | .surrogate _ :: _ => none

/-- A part from the value of a `\u` escape. -/
def Piece.ofUnit (n : Nat) : Piece :=
  if 0xD800 ≤ n ∧ n < 0xE000 then .surrogate n else .char (Char.ofNat n)

/-- The character of a one-letter escape. -/
def shortEscape? (c : Char) : Option Char :=
  if c = '"' ∨ c = '\\' ∨ c = '/' then some c
  else if c = 'b' then some (Char.ofNat 8)
  else if c = 'f' then some (Char.ofNat 12)
  else if c = 'n' then some '\n'
  else if c = 'r' then some '\r'
  else if c = 't' then some '\t'
  else none

inductive Lexeme where
  | opening (object : Bool)
  | closing (object : Bool)
  | comma
  | colon
  | null
  | bool (b : Bool)
  | num (n : Numeral)
  /-- `none` when a surrogate is unpaired. -/
  | str (s : Option String)
  deriving DecidableEq

/-- The digits at the start, and what follows them. -/
def spanDigits (cs : List Char) : List Char × List Char := cs.span Char.isDigit

/-- Reads the exponent part, if there is one; none when it lacks digits or
something follows it. -/
def exponent? : List Char → Option (Option Int)
  | [] => some none
  | e :: cs =>
    if e = 'e' ∨ e = 'E' then
      match cs with
      | '-' :: ds => (Text.digits? ds).map fun n => some (-(n : Int))
      | '+' :: ds => (Text.digits? ds).map fun n => some (n : Int)
      | ds => (Text.digits? ds).map fun n => some (n : Int)
    else none

/-- A numeral without its sign. -/
def unsignedNumeral? (cs : List Char) : Option Numeral :=
  let (whole, rest) := spanDigits cs
  if whole.isEmpty ∨ (whole.head? = some '0' ∧ whole.length ≠ 1) then none
  else
    match rest with
    | '.' :: rest =>
      let (fraction, rest) := spanDigits rest
      if fraction.isEmpty then none
      else do
        let e ← exponent? rest
        let n ← Text.digits? (whole ++ fraction)
        some ⟨false, n, e.getD 0 - fraction.length, false⟩
    | rest => do
      let e ← exponent? rest
      let n ← Text.digits? whole
      some ⟨false, n, e.getD 0, e.isNone⟩

def numeral? : List Char → Option Numeral
  | '-' :: cs => (unsignedNumeral? cs).map fun n => { n with negative := true }
  | cs => unsignedNumeral? cs

def isNumberChar (c : Char) : Bool :=
  c.isDigit || c == '-' || c == '+' || c == '.' || c == 'e' || c == 'E'

def word? (cs : List Char) : Option Lexeme :=
  if cs = ['n', 'u', 'l', 'l'] then some .null
  else if cs = ['t', 'r', 'u', 'e'] then some (.bool true)
  else if cs = ['f', 'a', 'l', 's', 'e'] then some (.bool false)
  else none

/-- Where the scan stands. Collected characters and parts are in reverse. -/
inductive Scan where
  | between
  | word (cs : List Char)
  | number (cs : List Char)
  | string (ps : List Piece)
  | escape (ps : List Piece)
  /-- Inside a `\u` escape: digits still to come, and the value so far. -/
  | unit (ps : List Piece) (left : Nat) (value : Nat)

/-- What a character does between lexemes. -/
def start? (c : Char) : Option (Scan × List Lexeme) :=
  if c = ' ' ∨ c = '\t' ∨ c = '\n' ∨ c = '\r' then some (.between, [])
  else if c = '[' then some (.between, [.opening false])
  else if c = ']' then some (.between, [.closing false])
  else if c = '{' then some (.between, [.opening true])
  else if c = '}' then some (.between, [.closing true])
  else if c = ',' then some (.between, [.comma])
  else if c = ':' then some (.between, [.colon])
  else if c = '"' then some (.string [], [])
  else if c = '-' ∨ c.isDigit then some (.number [c], [])
  else if 'a' ≤ c ∧ c ≤ 'z' then some (.word [c], [])
  else none

/-- One character: the next standing and the lexemes that end here. -/
def scanChar? (c : Char) : Scan → Option (Scan × List Lexeme)
  | .between => start? c
  | .word cs =>
    if 'a' ≤ c ∧ c ≤ 'z' then some (.word (c :: cs), [])
    else do
      let w ← word? cs.reverse
      let (s, ls) ← start? c
      some (s, w :: ls)
  | .number cs =>
    if isNumberChar c then some (.number (c :: cs), [])
    else do
      let n ← numeral? cs.reverse
      let (s, ls) ← start? c
      some (s, .num n :: ls)
  | .string ps =>
    if c = '"' then some (.between, [.str ((joinPieces? ps.reverse).map String.ofList)])
    else if c = '\\' then some (.escape ps, [])
    else if c.toNat < 32 then none
    else some (.string (.char c :: ps), [])
  | .escape ps =>
    if c = 'u' then some (.unit ps 3 0, [])
    else (shortEscape? c).map fun d => (.string (.char d :: ps), [])
  | .unit ps left value => do
    let h ← Text.digitIn? 16 c
    let value := value * 16 + h
    match left with
    | 0 => some (.string (Piece.ofUnit value :: ps), [])
    | left + 1 => some (.unit ps left value, [])

/-- The lexemes that end with the text. -/
def finish? : Scan → Option (List Lexeme)
  | .between => some []
  | .word cs => (word? cs.reverse).map fun w => [w]
  | .number cs => (numeral? cs.reverse).map fun n => [.num n]
  | _ => none

/-- The lexemes of a text, added in reverse to `done`. -/
def lexFrom? (s : Scan) (done : List Lexeme) : List Char → Option (List Lexeme)
  | [] => (finish? s).map fun ls => (ls.reverse ++ done).reverse
  | c :: cs =>
    match scanChar? c s with
    | some (s, ls) => lexFrom? s (ls.reverse ++ done) cs
    | none => none

def lex? (cs : List Char) : Option (List Lexeme) := lexFrom? .between [] cs

/-- An open container, with what it holds so far in reverse. -/
inductive Open where
  | array (items : List Json)
  /-- `wellNamed` until a name has an unpaired surrogate; `name` awaits its value. -/
  | object (members : List (String × Json)) (wellNamed : Bool) (name : String)

/-- What may come next. -/
inductive Expect where
  | value
  /-- A first item or the end of an array. -/
  | firstItem
  /-- A first name or the end of an object. -/
  | firstName
  | name
  | colon
  /-- A comma or the end of the container, or of the text. -/
  | after

structure Reading where
  stack : List Open
  expect : Expect
  result : Option Json

/-- A finished value goes into the innermost open container. -/
def Reading.add (r : Reading) (v : Json) : Reading :=
  match r.stack with
  | [] => ⟨[], .after, some v⟩
  | .array items :: st => ⟨.array (v :: items) :: st, .after, none⟩
  | .object ms ok name :: st => ⟨.object ((name, v) :: ms) ok name :: st, .after, none⟩

/-- Closes the innermost container, which must be of the given kind. -/
def Reading.shut? (r : Reading) (object : Bool) : Option Reading :=
  match r.stack, object with
  | .array items :: st, false => some (Reading.add ⟨st, .after, none⟩ (.arr items.reverse))
  | .object ms ok _ :: st, true =>
    some (Reading.add ⟨st, .after, none⟩ (if ok then .obj ms.reverse else .illFormed))
  | _, _ => none

/-- A name of the innermost object. -/
def Reading.named? (r : Reading) (name : Option String) : Option Reading :=
  match r.stack with
  | .object ms ok _ :: st =>
    match name with
    | some n => some ⟨.object ms ok n :: st, .colon, none⟩
    | none => some ⟨.object ms false "" :: st, .colon, none⟩
  | _ => none

/-- A lexeme where a value is expected. -/
def Reading.value? (r : Reading) : Lexeme → Option Reading
  | .opening false => some ⟨.array [] :: r.stack, .firstItem, none⟩
  | .opening true => some ⟨.object [] true "" :: r.stack, .firstName, none⟩
  | .null => some (r.add .null)
  | .bool b => some (r.add (.bool b))
  | .num n => some (r.add (.num n))
  | .str (some s) => some (r.add (.str s))
  | .str none => some (r.add .illFormed)
  | _ => none

def Reading.step? (r : Reading) (l : Lexeme) : Option Reading :=
  match r.expect, l with
  | .value, l => r.value? l
  | .firstItem, .closing false => r.shut? false
  | .firstItem, l => r.value? l
  | .firstName, .closing true => r.shut? true
  | .firstName, .str s => r.named? s
  | .name, .str s => r.named? s
  | .colon, .colon => some { r with expect := .value }
  | .after, .comma =>
    match r.stack with
    | .array _ :: _ => some { r with expect := .value }
    | .object .. :: _ => some { r with expect := .name }
    | [] => none
  | .after, .closing k => r.shut? k
  | _, _ => none

def Reading.run? (r : Reading) : List Lexeme → Option Json
  | [] => r.result
  | l :: ls =>
    match r.step? l with
    | some r => r.run? ls
    | none => none

/-- The value of a JSON text. -/
def parse? (cs : List Char) : Option Json := do
  let ls ← lex? cs
  Reading.run? ⟨[], .value, none⟩ ls

end ProcMeter.Json
