import ProcMeter.Instant
import ProcMeter.Instant.Calendar
import ProcMeter.Text.Blank
import ProcMeter.Text.Numeral

/-! RFC 3339 text of instants. Written, it is in UTC with a `Z`, and the
fraction has the fewest of 0, 3, 6 or 9 digits that is exact. Years beyond four
digits have a sign. Read, it may be spaced out, may leave out leading zeros, may
name UTC or any offset below a day, and digits of the fraction after the ninth
are dropped. -/
namespace ProcMeter.Instant

/-- At least `width` digits. -/
def padded (width n : Nat) : List Char :=
  let ds := Nat.toDigits 10 n
  List.replicate (width - ds.length) '0' ++ ds

/-- Four digits, or a sign and at least four digits. -/
def yearText (y : Int) : List Char :=
  if 0 ≤ y ∧ y ≤ 9999 then padded 4 y.toNat
  else (if y < 0 then '-' else '+') :: padded 4 y.natAbs

def fractionText (nanos : Nat) : List Char :=
  if nanos = 0 then []
  else if nanos % 1_000_000 = 0 then '.' :: padded 3 (nanos / 1_000_000)
  else if nanos % 1000 = 0 then '.' :: padded 6 (nanos / 1000)
  else '.' :: padded 9 nanos

/-- The RFC 3339 text. -/
def render (t : Instant) : List Char :=
  let date := Date.ofDays (t.seconds.fdiv 86400)
  let time := (t.seconds.fmod 86400).toNat
  let leap := t.nanos / 1_000_000_000
  yearText date.year ++ '-' :: padded 2 date.month ++ '-' :: padded 2 date.day ++
    'T' :: padded 2 (time / 3600) ++ ':' :: padded 2 (time / 60 % 60) ++
    ':' :: padded 2 (time % 60 + leap) ++ fractionText (t.nanos % 1_000_000_000) ++ ['Z']

/-- A number of one to `width` digits after blanks, and the text after it. -/
def number? (width : Nat) (cs : List Char) : Option (Nat × List Char) :=
  let cs := Text.trimLeft cs
  let ds := (cs.take width).takeWhile Char.isDigit
  (Text.digits? ds).map fun n => (n, cs.drop ds.length)

/-- A year: up to four digits, or a sign and any number of digits. -/
def year? (cs : List Char) : Option (Int × List Char) :=
  match Text.trimLeft cs with
  | '-' :: rest => signed rest fun n => -(n : Int)
  | '+' :: rest => signed rest fun n => (n : Int)
  | cs => (number? 4 cs).map fun (n, rest) => ((n : Int), rest)
where
  signed (rest : List Char) (f : Nat → Int) : Option (Int × List Char) :=
    let ds := rest.takeWhile Char.isDigit
    (Text.digits? ds).map fun n => (f n, rest.drop ds.length)

/-- The text after blanks and the mark `c`. -/
def mark? (c : Char) (cs : List Char) : Option (List Char) := Text.after? [c] (Text.trimLeft cs)

/-- The nanoseconds of a fraction, if there is a point. -/
def fraction? : List Char → Option (Nat × List Char)
  | '.' :: cs =>
    let ds := (cs.take 9).takeWhile Char.isDigit
    (Text.digits? ds).map fun n =>
      (n * Nat.pow 10 (9 - ds.length), (cs.drop ds.length).dropWhile Char.isDigit)
  | cs => some (0, cs)

def twoDigits? : List Char → Option (Nat × List Char)
  | a :: b :: cs => (Text.digits? [a, b]).map fun n => (n, cs)
  | _ => none

/-- The offset from UTC in seconds. -/
def offset? (cs : List Char) : Option (Int × List Char) :=
  match cs with
  | 'Z' :: rest | 'z' :: rest => some (0, rest)
  | '+' :: rest => ahead rest
  | '-' :: rest | '\u2212' :: rest => (ahead rest).map fun (n, rest) => (-n, rest)
  | u :: t :: c :: rest =>
    if [u, t, c].map Char.toLower = ['u', 't', 'c'] then some (0, rest) else none
  | _ => none
where
  ahead (cs : List Char) : Option (Int × List Char) := do
    let (hours, cs) ← twoDigits? cs
    let (minutes, cs) ← twoDigits? (cs.dropWhile fun c => c == ':' || Text.isBlank c)
    if minutes < 60 then some (((hours * 3600 + minutes * 60 : Nat) : Int), cs) else none

/-- Reads RFC 3339 text. -/
def parse? (cs : List Char) : Option Instant := do
  let (year, cs) ← year? cs
  let cs ← mark? '-' cs
  let (month, cs) ← number? 2 cs
  let cs ← mark? '-' cs
  let (day, cs) ← number? 2 cs
  let cs ← match cs with
    | c :: cs => if c = 'T' ∨ c = 't' ∨ c = ' ' then some cs else none
    | [] => none
  let (hour, cs) ← number? 2 cs
  let cs ← mark? ':' cs
  let (minute, cs) ← number? 2 cs
  let cs ← mark? ':' cs
  let (second, cs) ← number? 2 cs
  let (nanos, cs) ← fraction? cs
  let (offset, cs) ← offset? (Text.trimLeft cs)
  let date : Date := ⟨year, month, day⟩
  if !(Text.trimLeft cs).isEmpty || !date.isValid || 23 < hour || 59 < minute || 60 < second ||
      86400 ≤ offset.natAbs then none
  else
    let leap := if second = 60 then 1 else 0
    let localSecond : Int :=
      date.toDays * 86400 + hour * 3600 + minute * 60 + (second - leap : Nat)
    let seconds := localSecond - offset
    if isCounted localSecond && isCounted seconds then some ⟨seconds, nanos + leap * 1_000_000_000⟩
    else none

end ProcMeter.Instant
