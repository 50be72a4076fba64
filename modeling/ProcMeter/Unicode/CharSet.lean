/-! Sets of code points as ranges. The ranges ascend, do not overlap and do not
touch, so that a set has one form. Surrogates have code points but are no
characters, and it does not matter whether a set holds them. -/
namespace ProcMeter

structure CharSet where
  /-- First and last code point of each range. -/
  ranges : List (Nat × Nat)
  deriving DecidableEq

namespace CharSet

/-- The last code point. -/
def last : Nat := 0x10FFFF

def empty : CharSet := ⟨[]⟩

/-- Joins ranges that overlap or touch; they come in the order of their starts. -/
def join : List (Nat × Nat) → List (Nat × Nat)
  | [] => []
  | (a, b) :: rest =>
    match join rest with
    | [] => [(a, b)]
    | (c, d) :: more => if c ≤ b + 1 then (a, max b d) :: more else (a, b) :: (c, d) :: more

/-- The set of all code points in the given ranges, each with `lo ≤ hi`. -/
def ofRanges (rs : List (Nat × Nat)) : CharSet :=
  ⟨join (rs.mergeSort fun r s => r.1 ≤ s.1)⟩

def range (lo hi : Nat) : CharSet := ⟨[(lo, hi)]⟩

def ofChar (c : Char) : CharSet := range c.toNat c.toNat

def containsCode (s : CharSet) (n : Nat) : Bool := s.ranges.any fun r => r.1 ≤ n && n ≤ r.2

def contains (s : CharSet) (c : Char) : Bool := s.containsCode c.toNat

def union (s t : CharSet) : CharSet := ofRanges (s.ranges ++ t.ranges)

/-- The gaps from `start` on between ranges, up to `top`. -/
def gaps (top : Nat) : Nat → List (Nat × Nat) → List (Nat × Nat)
  | start, [] => if start ≤ top then [(start, top)] else []
  | start, (a, b) :: rest =>
    if start < a then (start, a - 1) :: gaps top (b + 1) rest else gaps top (b + 1) rest

/-- All code points up to `top` that are not in the set. -/
def complement (top : Nat) (s : CharSet) : CharSet := ⟨gaps top 0 s.ranges⟩

def inter (s t : CharSet) : CharSet :=
  (union (s.complement last) (t.complement last)).complement last

def diff (s t : CharSet) : CharSet := inter s (t.complement last)

def symmDiff (s t : CharSet) : CharSet := diff (union s t) (inter s t)

/-- No code point above `top` is in the set. -/
def within (top : Nat) (s : CharSet) : Bool := s.ranges.all fun r => r.2 ≤ top

def unions (ss : List CharSet) : CharSet := ofRanges (ss.flatMap CharSet.ranges)

/-- The value of an upper-case hexadecimal digit. -/
def hexDigit (c : Char) : Nat := if c.isDigit then c.toNat - 48 else c.toNat - 55

/-- Reads the ranges of a table: code points in hexadecimal, as `X` or `X-Y`,
with single spaces between them. `lo` is the start of the range that is being
read, and `n` the number. -/
def readRanges (lo : Option Nat) (n : Nat) : List Char → List (Nat × Nat)
  | [] => [(lo.getD n, n)]
  | '-' :: cs => readRanges (some n) 0 cs
  | ' ' :: cs => (lo.getD n, n) :: readRanges none 0 cs
  | c :: cs => readRanges lo (n * 16 + hexDigit c) cs

/-- The set that the lines of a table write, range after range. -/
def ofTable (lines : List String) : CharSet :=
  ⟨lines.flatMap fun line => readRanges none 0 line.toList⟩

end CharSet

end ProcMeter
