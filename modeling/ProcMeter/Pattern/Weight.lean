import ProcMeter.Pattern.Regex

/-! How much memory an expression takes when it is compiled to a machine that reads
UTF-8 from the end of a text to its start. Every state takes a fixed amount, and a
repetition with bounds has as many copies as it may need. -/
namespace ProcMeter.Pattern

/-- Bytes of one state. -/
def stateBytes : Nat := 32

/-- Bytes of one branch of a state. -/
def branchBytes : Nat := 4

/-- Byte ranges, one for each byte of a character. -/
abbrev ByteRanges := List (Nat × Nat)

/-- The byte ranges of the characters from `lo` to `hi` that have `n` bytes after
the first one, which is not below `mark`; `lo` and `hi` have that many bytes. -/
def byteRanges (mark : Nat) : Nat → Nat → Nat → List ByteRanges
  | 0, lo, hi => [[(mark + lo, mark + hi)]]
  | n + 1, lo, hi =>
    let block := 64 ^ (n + 1)
    let first := lo / block
    let final := hi / block
    let below (lead : Nat × Nat) (lo hi : Nat) : List ByteRanges :=
      (byteRanges 0x80 n lo hi).map ((mark + lead.1, mark + lead.2) :: ·)
    if first = final then below (first, first) (lo % block) (hi % block)
    else
      let cutFirst := lo % block ≠ 0
      let cutFinal := hi % block ≠ block - 1
      let whole := (if cutFirst then first + 1 else first, if cutFinal then final - 1 else final)
      (if cutFirst then below (first, first) (lo % block) (block - 1) else []) ++
        (if whole.1 ≤ whole.2 then below whole 0 (block - 1) else []) ++
        (if cutFinal then below (final, final) 0 (hi % block) else [])

/-- The code points that are encoded with so many bytes after the first, and the
least first byte of their encodings. -/
def encodingLengths : List (Nat × Nat × Nat × Nat) :=
  [(0, 0, 0x7F, 0), (1, 0x80, 0x7FF, 0xC0), (2, 0x800, 0xD7FF, 0xE0), (2, 0xE000, 0xFFFF, 0xE0),
    (3, 0x10000, 0x10FFFF, 0xF0)]

/-- The byte ranges of a range of code points. -/
def byteRangesOf (r : Nat × Nat) : List ByteRanges :=
  encodingLengths.flatMap fun (n, lo, hi, mark) =>
    let lo := Nat.max lo r.1
    let hi := Nat.min hi r.2
    if lo ≤ hi then byteRanges mark n lo hi else []

/-- The length of the longest common start. -/
def commonLength : ByteRanges → ByteRanges → Nat
  | a :: as, b :: bs => if a = b then commonLength as bs + 1 else 0
  | _, _ => 0

/-- The number of different starts of the given lists, which are in order. -/
def startCount : ByteRanges → List ByteRanges → Nat
  | _, [] => 0
  | previous, r :: rs => r.length - commonLength previous r + startCount r rs

/-- The memory of a set of characters. -/
def charBytes (s : CharSet) : Nat :=
  match s.ranges with
  | [(a, b)] =>
    if a = b then stateBytes * (byteRangesOf (a, b)).flatten.length
    else if b < 0x80 then 2 * stateBytes
    else wide
  | rs => if s.within 0x7F then 2 * stateBytes + 2 * branchBytes * rs.length else wide
where
  wide : Nat :=
    let all := s.ranges.flatMap byteRangesOf
    stateBytes * (2 + startCount [] all) + branchBytes * all.length

namespace Regex

/-- The expression can match nothing but the empty text. -/
def isEmptyOnly : Regex → Bool
  | empty => true
  | char _ => false
  | look _ => true
  | seq a b => a.isEmptyOnly && b.isEmptyOnly
  | alt a b => a.isEmptyOnly && b.isEmptyOnly
  | repeated _ _ r => r.isEmptyOnly
  | group r => r.isEmptyOnly

/-- Copies of something of `bytes`, of which those after `min` may be left out.
Without an upper bound the last one may repeat. -/
def copiesBytes (bytes min : Nat) : Option Nat → Nat
  | none => Nat.max min 1 * bytes + 2 * stateBytes
  | some max =>
    min * bytes + (max - min) * (bytes + stateBytes + 2 * branchBytes) + stateBytes

/-- The memory of an expression. Repeating what only matches the empty text takes
one copy. -/
def bytes : Regex → Nat
  | empty => stateBytes
  | char s => charBytes s
  | look _ => stateBytes
  | seq a b => a.bytes + b.bytes
  | alt a b => a.bytes + b.bytes + 2 * stateBytes + 2 * branchBytes
  | repeated min max r =>
    if max = some 0 then stateBytes
    else if r.isEmptyOnly then copiesBytes r.bytes (Nat.min min 1) (some 1)
    else copiesBytes r.bytes min max
  | group r => r.bytes + 2 * stateBytes

end Regex

/-- The most memory that an expression may take. -/
def maxBytes : Nat := 10 * 0x100000

end ProcMeter.Pattern
