import Mathlib.Data.List.Basic
import ProcMeter.Text.Utf8

/-! UTF-8 is read exactly. Bytes are read as a text just when they encode it. An ASCII byte is no
part of a longer character, so bytes before it are read as if they ended there: damage does not
reach beyond it. -/
namespace ProcMeter.Text.Utf8

variable {b lo hi : UInt8} {bs more rest unit : Bytes} {value n : Nat} {c : Char} {cs : List Char}

theorem isTail_iff : isTail lo hi b = true ↔ lo.toNat ≤ b.toNat ∧ b.toNat ≤ hi.toNat := by
  simp only [isTail, Bool.and_eq_true, decide_eq_true_eq, UInt8.le_iff_toNat_le]

theorem not_ascii_iff : ¬ b < 0x80 ↔ 0x80 ≤ b.toNat := by
  rw [UInt8.lt_iff_toNat_lt]
  exact Nat.not_lt

/-- What the first byte says of the second, and how many more there are. -/
theorem second?_eq (b : UInt8) : second? b =
    if b.toNat < 0xC2 then none
    else if b.toNat ≤ 0xDF then some (0x80, 0xBF, 0)
    else if b.toNat ≤ 0xEF then
      some (if b.toNat = 0xE0 then 0xA0 else 0x80, if b.toNat = 0xED then 0x9F else 0xBF, 1)
    else if b.toNat ≤ 0xF4 then
      some (if b.toNat = 0xF0 then 0x90 else 0x80, if b.toNat = 0xF4 then 0x8F else 0xBF, 2)
    else none := by
  simp only [second?, Bool.and_eq_true, decide_eq_true_eq, UInt8.le_iff_toNat_le, beq_iff_eq,
    ← UInt8.toNat_inj, UInt8.reduceToNat]
  repeat' split
  all_goals first | rfl | omega

theorem second?_within (second : second? b = some (lo, hi, n)) :
    0x80 ≤ lo.toNat ∧ hi.toNat ≤ 0xBF := by
  rw [second?_eq] at second
  repeat' split at second
  all_goals simp only [Option.some.injEq, Prod.mk.injEq, reduceCtorEq] at second
  all_goals
    obtain ⟨rfl, rfl, -⟩ := second
    decide

/-! ### One character -/

/-- A byte that may stand second in a character, or later. -/
def Continues (b : UInt8) : Prop := 0x80 ≤ b.toNat ∧ b.toNat ≤ 0xBF

/-- The bytes of one character, by their ranges, and the number that their bits make. -/
inductive Spells : Bytes → Nat → Prop where
  | one {a : UInt8} (ascii : a.toNat < 0x80) : Spells [a] a.toNat
  | two {a b : UInt8} (least : 0xC2 ≤ a.toNat) (greatest : a.toNat ≤ 0xDF) (second : Continues b) :
      Spells [a, b] (a.toNat % 32 * 64 + b.toNat % 64)
  | three {a b c : UInt8} (least : 0xE0 ≤ a.toNat) (greatest : a.toNat ≤ 0xEF)
      (second : Continues b) (third : Continues c) (shortest : a.toNat = 0xE0 → 0xA0 ≤ b.toNat)
      (scalar : a.toNat = 0xED → b.toNat ≤ 0x9F) :
      Spells [a, b, c] ((a.toNat % 16 * 64 + b.toNat % 64) * 64 + c.toNat % 64)
  | four {a b c d : UInt8} (least : 0xF0 ≤ a.toNat) (greatest : a.toNat ≤ 0xF4)
      (second : Continues b) (third : Continues c) (fourth : Continues d)
      (shortest : a.toNat = 0xF0 → 0x90 ≤ b.toNat) (scalar : a.toNat = 0xF4 → b.toNat ≤ 0x8F) :
      Spells [a, b, c, d]
        (((a.toNat % 8 * 64 + b.toNat % 64) * 64 + c.toNat % 64) * 64 + d.toNat % 64)

theorem Continues.isTail (continues : Continues b) : isTail 0x80 0xBF b = true :=
  isTail_iff.mpr continues

theorem tails_of_continues (continues : Continues b) :
    tails value (n + 1) (b :: bs) = tails (value * 64 + b.toNat % 64) n bs := by
  rw [tails, if_pos continues.isTail]

theorem exists_of_tails (read : tails value (n + 1) bs = (some c, rest)) :
    ∃ b more, bs = b :: more ∧ Continues b ∧
      tails (value * 64 + b.toNat % 64) n more = (some c, rest) := by
  cases bs with
  | nil => simp [tails] at read
  | cons b more =>
    rw [tails] at read
    split at read
    · rename_i continues
      exact ⟨b, more, rfl, isTail_iff.mp continues, read⟩
    · simp at read

theorem next_of_second {d : UInt8} (high : 0x80 ≤ b.toNat) (second : second? b = some (lo, hi, n))
    (least : lo.toNat ≤ d.toNat) (greatest : d.toNat ≤ hi.toNat) :
    next b (d :: bs) = tails (leadBits b n * 64 + d.toNat % 64) n bs := by
  simp only [next, if_neg (not_ascii_iff.mpr high), second, isTail_iff.mpr ⟨least, greatest⟩,
    if_true]

theorem exists_of_next (high : 0x80 ≤ b.toNat) (read : next b bs = (some c, rest)) :
    ∃ lo hi n d more, second? b = some (lo, hi, n) ∧ bs = d :: more ∧
      (lo.toNat ≤ d.toNat ∧ d.toNat ≤ hi.toNat) ∧
      tails (leadBits b n * 64 + d.toNat % 64) n more = (some c, rest) := by
  rw [next, if_neg (not_ascii_iff.mpr high)] at read
  split at read
  · simp at read
  · rename_i lo hi n second
    cases bs with
    | nil => simp at read
    | cons d more =>
      dsimp only at read
      split at read
      · rename_i continues
        exact ⟨lo, hi, n, d, more, second, rfl, isTail_iff.mp continues, read⟩
      · simp at read

/-- A character is read, whatever comes after it. -/
theorem next_of_spells (spells : Spells (b :: unit) value) (rest : Bytes) :
    next b (unit ++ rest) = (some (Char.ofNat value), rest) := by
  cases spells with
  | one ascii =>
    rw [next, if_pos (UInt8.lt_iff_toNat_lt.mpr ascii)]
    rfl
  | two least greatest second =>
    have lead := second?_eq b
    rw [if_neg (by omega), if_pos greatest] at lead
    exact next_of_second (by omega) lead second.1 second.2
  | three least greatest second third shortest scalar =>
    have lead := second?_eq b
    rw [if_neg (by omega), if_neg (by omega), if_pos greatest] at lead
    refine (next_of_second (by omega) lead ?_ ?_).trans (tails_of_continues third)
    · split
      · exact shortest ‹_›
      · exact second.1
    · split
      · exact scalar ‹_›
      · exact second.2
  | four least greatest second third fourth shortest scalar =>
    have lead := second?_eq b
    rw [if_neg (by omega), if_neg (by omega), if_neg (by omega), if_pos greatest] at lead
    refine (next_of_second (by omega) lead ?_ ?_).trans
      ((tails_of_continues third).trans (tails_of_continues fourth))
    · split
      · exact shortest ‹_›
      · exact second.1
    · split
      · exact scalar ‹_›
      · exact second.2

/-- Only the bytes of a character are read as one. -/
theorem exists_spells_of_next (read : next b bs = (some c, rest)) :
    ∃ unit value, b :: bs = unit ++ rest ∧ Spells unit value ∧ c = Char.ofNat value := by
  by_cases ascii : b < 0x80
  · rw [next, if_pos ascii, Prod.mk.injEq, Option.some.injEq] at read
    obtain ⟨rfl, rfl⟩ := read
    exact ⟨[b], b.toNat, rfl, .one (UInt8.lt_iff_toNat_lt.mp ascii), rfl⟩
  obtain ⟨lo, hi, n, d, more, lead, rfl, ⟨least, greatest⟩, read⟩ :=
    exists_of_next (not_ascii_iff.mp ascii) read
  obtain ⟨low, high⟩ := second?_within lead
  have second : Continues d := ⟨Nat.le_trans low least, Nat.le_trans greatest high⟩
  -- one case for each number of bytes that the first byte may call for
  rw [second?_eq] at lead
  split at lead
  · contradiction
  split at lead
  · simp only [Option.some.injEq, Prod.mk.injEq] at lead
    obtain ⟨-, -, rfl⟩ := lead
    rw [tails, Prod.mk.injEq, Option.some.injEq] at read
    obtain ⟨rfl, rfl⟩ := read
    exact ⟨[b, d], _, rfl, .two (by omega) ‹_› second, rfl⟩
  split at lead
  · simp only [Option.some.injEq, Prod.mk.injEq] at lead
    obtain ⟨rfl, rfl, rfl⟩ := lead
    obtain ⟨d', more', rfl, third, read⟩ := exists_of_tails read
    rw [tails, Prod.mk.injEq, Option.some.injEq] at read
    obtain ⟨rfl, rfl⟩ := read
    refine ⟨[b, d, d'], _, rfl, .three (by omega) ‹_› second third ?_ ?_, rfl⟩
    · intro first
      rwa [if_pos first] at least
    · intro first
      rwa [if_pos first] at greatest
  split at lead
  · simp only [Option.some.injEq, Prod.mk.injEq] at lead
    obtain ⟨rfl, rfl, rfl⟩ := lead
    obtain ⟨d', more', rfl, third, read⟩ := exists_of_tails read
    obtain ⟨d'', more'', rfl, fourth, read⟩ := exists_of_tails read
    rw [tails, Prod.mk.injEq, Option.some.injEq] at read
    obtain ⟨rfl, rfl⟩ := read
    refine ⟨[b, d, d', d''], _, rfl, .four (by omega) ‹_› second third fourth ?_ ?_, rfl⟩
    · intro first
      rwa [if_pos first] at least
    · intro first
      rwa [if_pos first] at greatest
  · contradiction

theorem Spells.valid (spells : Spells unit value) : value.isValidChar := by
  unfold Nat.isValidChar
  cases spells with
  | one ascii => omega
  | two least greatest second => omega
  | three least greatest second third shortest scalar =>
    obtain ⟨_, _⟩ := second
    omega
  | four least greatest second third fourth shortest scalar =>
    obtain ⟨_, _⟩ := second
    omega

theorem toNat_ofNat (valid : value.isValidChar) : (Char.ofNat value).toNat = value := by
  rw [Char.ofNat, dif_pos valid]
  rfl

/-- The bytes of a character are its encoding. -/
theorem Spells.encodes (spells : Spells unit value) :
    String.utf8EncodeChar (Char.ofNat value) = unit := by
  have same : (Char.ofNat value).val.toNat = value := toNat_ofNat spells.valid
  have byte {a : UInt8} {m : Nat} (equal : m = a.toNat) : UInt8.ofNat m = a := by
    rw [equal, UInt8.ofNat_toNat]
  simp only [String.utf8EncodeChar, same]
  cases spells with
  | one ascii => rw [if_pos (by omega), byte rfl]
  | two least greatest second =>
    obtain ⟨_, _⟩ := second
    rw [if_neg (by omega), if_pos (by omega)]
    simp only [List.cons.injEq, and_true]
    exact ⟨byte (by omega), byte (by omega)⟩
  | three least greatest second third shortest scalar =>
    obtain ⟨_, _⟩ := second
    obtain ⟨_, _⟩ := third
    rw [if_neg (by omega), if_neg (by omega), if_pos (by omega)]
    simp only [List.cons.injEq, and_true]
    exact ⟨byte (by omega), byte (by omega), byte (by omega)⟩
  | four least greatest second third fourth shortest scalar =>
    obtain ⟨_, _⟩ := second
    obtain ⟨_, _⟩ := third
    obtain ⟨_, _⟩ := fourth
    rw [if_neg (by omega), if_neg (by omega), if_neg (by omega)]
    simp only [List.cons.injEq, and_true]
    exact ⟨byte (by omega), byte (by omega), byte (by omega), byte (by omega)⟩

theorem spells_encode (c : Char) : Spells (String.utf8EncodeChar c) c.toNat := by
  have byte {m : Nat} (small : m < 256) : (UInt8.ofNat m).toNat = m := by
    rw [UInt8.toNat_ofNat', Nat.mod_eq_of_lt small]
  have valid : c.val.toNat < 0xD800 ∨ 0xDFFF < c.val.toNat ∧ c.val.toNat < 0x110000 := c.valid
  simp only [Char.toNat, String.utf8EncodeChar]
  generalize c.val.toNat = v at valid ⊢
  split
  · have first := byte (m := v) (by omega)
    have spells := Spells.one (a := .ofNat v) (by omega)
    rwa [first] at spells
  split
  · have first := byte (m := v / 64 % 32 + 192) (by omega)
    have last := byte (m := v % 64 + 128) (by omega)
    have spells := Spells.two (a := .ofNat (v / 64 % 32 + 192)) (b := .ofNat (v % 64 + 128))
      (by omega) (by omega) ⟨by omega, by omega⟩
    rw [first, last] at spells
    convert spells using 1
    omega
  split
  · have first := byte (m := v / 4096 % 16 + 224) (by omega)
    have second := byte (m := v / 64 % 64 + 128) (by omega)
    have last := byte (m := v % 64 + 128) (by omega)
    have spells := Spells.three (a := .ofNat (v / 4096 % 16 + 224))
      (b := .ofNat (v / 64 % 64 + 128)) (c := .ofNat (v % 64 + 128))
      (by omega) (by omega) ⟨by omega, by omega⟩ ⟨by omega, by omega⟩ (by omega) (by omega)
    rw [first, second, last] at spells
    convert spells using 1
    omega
  · have first := byte (m := v / 262144 % 8 + 240) (by omega)
    have second := byte (m := v / 4096 % 64 + 128) (by omega)
    have third := byte (m := v / 64 % 64 + 128) (by omega)
    have last := byte (m := v % 64 + 128) (by omega)
    have spells := Spells.four (a := .ofNat (v / 262144 % 8 + 240))
      (b := .ofNat (v / 4096 % 64 + 128)) (c := .ofNat (v / 64 % 64 + 128))
      (d := .ofNat (v % 64 + 128)) (by omega) (by omega) ⟨by omega, by omega⟩
      ⟨by omega, by omega⟩ ⟨by omega, by omega⟩ (by omega) (by omega)
    rw [first, second, third, last] at spells
    convert spells using 1
    omega

theorem encode_of_next (read : next b bs = (some c, rest)) :
    b :: bs = String.utf8EncodeChar c ++ rest := by
  obtain ⟨unit, value, split, spells, rfl⟩ := exists_spells_of_next read
  rw [split, spells.encodes]

theorem next_of_encode (c : Char) : ∃ b unit, String.utf8EncodeChar c = b :: unit ∧
    ∀ rest, next b (unit ++ rest) = (some c, rest) := by
  have spells := spells_encode c
  cases same : String.utf8EncodeChar c with
  | nil =>
    rw [same] at spells
    cases spells
  | cons b unit =>
    rw [same] at spells
    refine ⟨b, unit, rfl, fun rest => ?_⟩
    rw [next_of_spells spells, Char.ofNat_toNat]

/-! ### Texts -/

theorem scan_encode (cs : List Char) :
    scan (cs.flatMap String.utf8EncodeChar) = cs.map some := by
  induction cs with
  | nil => rw [List.flatMap_nil, scan, List.map_nil]
  | cons c cs ih =>
    obtain ⟨b, unit, same, read⟩ := next_of_encode c
    rw [List.flatMap_cons, same, List.cons_append, scan, read, ih, List.map_cons]

theorem eq_encode_of_scan (read : scan bs = cs.map some) :
    bs = cs.flatMap String.utf8EncodeChar := by
  induction bs using scan.induct generalizing cs with
  | case1 =>
    rw [scan, eq_comm, List.map_eq_nil_iff] at read
    rw [read, List.flatMap_nil]
  | case2 b bs ih =>
    rw [scan] at read
    cases cs with
    | nil => contradiction
    | cons c cs =>
      obtain ⟨first, others⟩ := List.cons.inj read
      rw [encode_of_next (Prod.ext first rfl), List.flatMap_cons, ← ih others]

theorem mapM_id_eq_some_iff {α : Type} {xs : List (Option α)} {ys : List α} :
    xs.mapM id = some ys ↔ xs = ys.map some := by
  induction xs generalizing ys with
  | nil => cases ys <;> simp
  | cons x xs ih =>
    cases x with
    | none => cases ys <;> simp
    | some a =>
      rw [List.mapM_cons]
      cases ys with
      | nil => simp [Option.bind_eq_some_iff]
      | cons y ys => simp [Option.bind_eq_some_iff, ih, and_comm]

theorem toList_loop (bytes : ByteArray) (i : Nat) (r : List UInt8) :
    ByteArray.toList.loop bytes i r = r.reverse ++ bytes.data.toList.drop i := by
  induction i, r using ByteArray.toList.loop.induct bytes with
  | case1 i r inside ih =>
    have byte : bytes.get! i = bytes.data.toList[i] := by
      rw [ByteArray.get!, getElem!_pos bytes.data i inside, Array.getElem_toList]
    rw [ByteArray.toList.loop, if_pos inside, ih, List.reverse_cons, List.append_assoc, byte,
      List.singleton_append, ← List.drop_eq_getElem_cons]
  | case2 i r outside =>
    have beyond : bytes.data.toList.length ≤ i := Nat.not_lt.mp outside
    rw [ByteArray.toList.loop, if_neg outside, List.drop_of_length_le beyond, List.append_nil]

theorem encode_eq (s : String) : encode s = s.toList.flatMap String.utf8EncodeChar := by
  have bytes : s.toByteArray = s.toList.utf8Encode := by
    rw [← String.toByteArray_ofList, String.ofList_toList]
  rw [encode, ByteArray.toList, toList_loop, bytes, List.utf8Encode, List.data_toByteArray]
  rfl

/-- Bytes are read as a text just when they encode it. -/
theorem decode?_eq_some_iff : decode? bs = some cs ↔ bs = encode (String.ofList cs) := by
  rw [decode?, mapM_id_eq_some_iff, encode_eq, String.toList_ofList]
  constructor
  · exact eq_encode_of_scan
  · rintro rfl
    exact scan_encode cs

theorem decode?_encode (s : String) : decode? (encode s) = some s.toList := by
  rw [decode?_eq_some_iff, String.ofList_toList]

theorem decode?_eq_none_iff : decode? bs = none ↔ ∀ s, bs ≠ encode s := by
  constructor
  · rintro damaged s rfl
    rw [decode?_encode] at damaged
    contradiction
  · intro other
    refine Option.eq_none_iff_forall_ne_some.mpr fun cs read => ?_
    exact other _ (decode?_eq_some_iff.mp read)

/-! ### ASCII bytes -/

/-- Bytes that do not go on with a character: there are none, or the first of them is ASCII. -/
def Breaks (bs : Bytes) : Prop := ∀ b ∈ bs.head?, b < 0x80

theorem Breaks.cons (ascii : b < 0x80) : Breaks (b :: bs) := by
  rintro _ ⟨⟩
  exact ascii

theorem isTail_of_ascii (ascii : b < 0x80) (above : 0x80 ≤ lo.toNat) : isTail lo hi b = false := by
  rw [UInt8.lt_iff_toNat_lt] at ascii
  rw [← Bool.not_eq_true, isTail_iff]
  exact fun within => Nat.not_lt.mpr (Nat.le_trans above within.1) ascii

theorem tails_append (breaks : Breaks more) (value n : Nat) (bs : Bytes) :
    tails value n (bs ++ more) = ((tails value n bs).1, (tails value n bs).2 ++ more) := by
  induction n generalizing value bs with
  | zero => rfl
  | succ n ih =>
    cases bs with
    | nil =>
      -- the character is cut short, and what follows does not go on with it
      cases more with
      | nil => rfl
      | cons b rest =>
        have foreign : isTail 0x80 0xBF b = false :=
          isTail_of_ascii (breaks b rfl) (Nat.le_refl _)
        simp [tails, foreign]
    | cons b bs =>
      rw [List.cons_append, tails, tails]
      split
      · exact ih _ bs
      · rfl

theorem next_append (breaks : Breaks more) (b : UInt8) (bs : Bytes) :
    next b (bs ++ more) = ((next b bs).1, (next b bs).2 ++ more) := by
  unfold next
  split
  · rfl
  · split
    · rfl
    · rename_i lo hi n second
      cases bs with
      | nil =>
        cases more with
        | nil => rfl
        | cons c rest =>
          have foreign : isTail lo hi c = false :=
            isTail_of_ascii (breaks c rfl) (second?_within second).1
          simp [foreign]
      | cons c cs =>
        simp only [List.cons_append]
        split
        · exact tails_append breaks _ _ _
        · rfl

theorem scan_append (breaks : Breaks more) (bs : Bytes) :
    scan (bs ++ more) = scan bs ++ scan more := by
  induction bs using scan.induct with
  | case1 => rw [scan, List.nil_append, List.nil_append]
  | case2 b bs ih =>
    rw [List.cons_append, scan, scan, next_append breaks, ih]
    rfl

/-- Bytes before an ASCII byte are read by themselves. -/
theorem decode?_append (breaks : Breaks more) (bs : Bytes) :
    decode? (bs ++ more) = (decode? bs).bind fun cs => (decode? more).map (cs ++ ·) := by
  rw [decode?, scan_append breaks, List.mapM_append]
  change (decode? bs).bind (fun cs => (decode? more).bind fun cs' => some (cs ++ cs')) = _
  cases decode? more <;> rfl

theorem decode?_ascii (ascii : b < 0x80) :
    decode? (b :: bs) = (decode? bs).map (Char.ofNat b.toNat :: ·) := by
  rw [decode?, scan, next, if_pos ascii, List.mapM_cons]
  change (decode? bs).bind (fun cs => some (Char.ofNat b.toNat :: cs)) = _
  cases decode? bs <;> rfl

/-! ### Bytes with damage -/

theorem decodeLossy_encode (s : String) : decodeLossy (encode s) = s.toList := by
  rw [decodeLossy, encode_eq, scan_encode, List.map_map]
  exact List.map_id s.toList

theorem Spells.of_ascii (spells : Spells unit value) (member : b ∈ unit) (ascii : b < 0x80) :
    value = b.toNat := by
  have small : b.toNat < 0x80 := UInt8.lt_iff_toNat_lt.mp ascii
  cases spells with
  | one _ => rw [List.mem_singleton.mp member]
  | two least _ second =>
    have high := second.1
    simp only [List.mem_cons, List.not_mem_nil, or_false] at member
    rcases member with rfl | rfl <;> omega
  | three least _ second third _ _ =>
    have high := second.1
    have high' := third.1
    simp only [List.mem_cons, List.not_mem_nil, or_false] at member
    rcases member with rfl | rfl | rfl <;> omega
  | four least _ second third fourth _ _ =>
    have high := second.1
    have high' := third.1
    have high'' := fourth.1
    simp only [List.mem_cons, List.not_mem_nil, or_false] at member
    rcases member with rfl | rfl | rfl | rfl <;> omega

/-- An ASCII byte in the encoding of a text is a character of the text. -/
theorem mem_of_mem_encode {s : String} (member : b ∈ encode s) (ascii : b < 0x80) :
    Char.ofNat b.toNat ∈ s.toList := by
  rw [encode_eq, List.mem_flatMap] at member
  obtain ⟨c, there, inside⟩ := member
  rwa [← (spells_encode c).of_ascii inside ascii, Char.ofNat_toNat]

theorem tails_suffix (value n : Nat) (bs : Bytes) : (tails value n bs).2 <:+ bs := by
  induction n generalizing value bs with
  | zero => exact List.suffix_rfl
  | succ n ih =>
    cases bs with
    | nil => exact List.suffix_rfl
    | cons b bs =>
      rw [tails]
      split
      · exact (ih _ bs).trans (List.suffix_cons b bs)
      · exact List.suffix_rfl

theorem next_suffix (b : UInt8) (bs : Bytes) : (next b bs).2 <:+ bs := by
  unfold next
  split
  · exact List.suffix_rfl
  split
  · exact List.suffix_rfl
  cases bs with
  | nil => exact List.suffix_rfl
  | cons c cs =>
    dsimp only
    split
    · exact (tails_suffix _ _ cs).trans (List.suffix_cons c cs)
    · exact List.suffix_rfl

/-- A character that does not stand for damage is read from its own bytes. -/
theorem mem_of_mem_decodeLossy (ordinary : c ≠ replacement) (member : c ∈ decodeLossy bs)
    (inside : b ∈ String.utf8EncodeChar c) : b ∈ bs := by
  induction bs using scan.induct with
  | case1 => simp [decodeLossy, scan] at member
  | case2 first bs ih =>
    rw [decodeLossy, scan, List.map_cons, List.mem_cons] at member
    rcases member with here | later
    · cases read : (next first bs).1 with
      | none =>
        rw [read] at here
        exact absurd here ordinary
      | some c' =>
        rw [read, Option.getD_some] at here
        subst here
        rw [encode_of_next (Prod.ext read rfl)]
        exact List.mem_append_left _ inside
    · exact List.mem_cons_of_mem first ((next_suffix first bs).subset (ih later))

end ProcMeter.Text.Utf8
