/-! UTF-8 decoding of byte lists. `next` takes one character, or the longest
start of a character that the bytes cut short, or one byte that starts none.
`decode?` refuses any such damage; `decodeLossy` puts one replacement character
for each damaged part. -/
namespace ProcMeter.Text.Utf8

abbrev Bytes := List UInt8

/-- U+FFFD. -/
def replacement : Char := '\uFFFD'

/-- A byte that may follow a first byte, in the range `lo` to `hi`. -/
def isTail (lo hi b : UInt8) : Bool := lo ≤ b && b ≤ hi

/-- The bounds of the second byte after the first byte `b` of a character of
more than one byte, with the number of further bytes after it. -/
def second? (b : UInt8) : Option (UInt8 × UInt8 × Nat) :=
  if 0xC2 ≤ b && b ≤ 0xDF then some (0x80, 0xBF, 0)
  else if b == 0xE0 then some (0xA0, 0xBF, 1)
  else if b == 0xED then some (0x80, 0x9F, 1)
  else if 0xE1 ≤ b && b ≤ 0xEF then some (0x80, 0xBF, 1)
  else if b == 0xF0 then some (0x90, 0xBF, 2)
  else if 0xF1 ≤ b && b ≤ 0xF3 then some (0x80, 0xBF, 2)
  else if b == 0xF4 then some (0x80, 0x8F, 2)
  else none

/-- The value bits of a first byte that has `n` bytes after the second. -/
def leadBits (b : UInt8) (n : Nat) : Nat :=
  match n with
  | 0 => b.toNat % 32
  | 1 => b.toNat % 16
  | _ => b.toNat % 8

/-- Takes up to `n` more continuation bytes. The character is `none` when they
run out or another byte comes first; the rest starts after the taken ones. -/
def tails (value : Nat) : Nat → Bytes → Option Char × Bytes
  | 0, bs => (some (Char.ofNat value), bs)
  | _ + 1, [] => (none, [])
  | n + 1, b :: bs =>
    if isTail 0x80 0xBF b then tails (value * 64 + b.toNat % 64) n bs else (none, b :: bs)

theorem tails_length_le (value n : Nat) (bs : Bytes) : (tails value n bs).2.length ≤ bs.length := by
  induction n generalizing value bs with
  | zero => simp [tails]
  | succ n ih =>
    cases bs with
    | nil => simp [tails]
    | cons b bs =>
      rw [tails]
      split
      · exact Nat.le_succ_of_le (ih _ bs)
      · simp

/-- One character, or `none` for one damaged part, and the bytes after it. -/
def next (b : UInt8) (bs : Bytes) : Option Char × Bytes :=
  if b < 0x80 then (some (Char.ofNat b.toNat), bs)
  else
    match second? b with
    | none => (none, bs)
    | some (lo, hi, n) =>
      match bs with
      | [] => (none, [])
      | c :: cs =>
        if isTail lo hi c then tails (leadBits b n * 64 + c.toNat % 64) n cs else (none, c :: cs)

theorem next_length_le (b : UInt8) (bs : Bytes) : (next b bs).2.length ≤ bs.length := by
  unfold next
  split
  · exact Nat.le_refl _
  · split
    · exact Nat.le_refl _
    · split
      · exact Nat.le_refl _
      · split
        · exact Nat.le_succ_of_le (tails_length_le _ _ _)
        · exact Nat.le_refl _

/-- The characters of the bytes, with `none` for each damaged part. -/
def scan : Bytes → List (Option Char)
  | [] => []
  | b :: bs => (next b bs).1 :: scan (next b bs).2
termination_by bs => bs.length
decreasing_by exact Nat.lt_succ_of_le (next_length_le b bs)

/-- Decodes bytes that are UTF-8 throughout. -/
def decode? (bs : Bytes) : Option (List Char) := (scan bs).mapM id

/-- Decodes bytes, with U+FFFD in place of each damaged part. -/
def decodeLossy (bs : Bytes) : List Char := (scan bs).map fun c => c.getD replacement

/-- The UTF-8 bytes of a text. -/
def encode (s : String) : Bytes := s.toByteArray.toList

end ProcMeter.Text.Utf8
