import ProcMeter.Proofs.Departure
import ProcMeter.Proofs.Utf8
import ProcMeter.Proofs.Words

/-! Texts that end in NUL, and the command lines that are made of them. An argument may be empty,
and then it leaves no trace: all other arguments are read, in their order, so they come back as they
were exactly when none of them is empty. -/
namespace ProcMeter.Procfs

open Text.Utf8 (Bytes encode decodeLossy)

variable {s : String} {args : List String} {bs : Bytes}

/-- Byte strings, each with a NUL after it. -/
def nulEnded (parts : List Bytes) : Bytes := parts.flatMap (· ++ [0])

theorem nulTexts_append (a b : Bytes) : nulTexts (a ++ 0 :: b) = nulTexts a ++ nulTexts b := by
  rw [nulTexts, Text.runs_append (by rfl), List.map_append]
  rfl

theorem nulTexts_nil : nulTexts [] = [] := rfl

theorem nulTexts_of_unbroken (some : bs ≠ []) (unbroken : 0 ∉ bs) :
    nulTexts bs = [decodeLossy bs] := by
  rw [nulTexts, Text.runs_of_solid some (Text.solid_of_not_mem unbroken)]
  rfl

/-- A text that can be an argument or a variable. -/
def NulFree (s : String) : Prop := '\x00' ∉ s.toList

instance (s : String) : Decidable (NulFree s) := inferInstanceAs (Decidable ('\x00' ∉ s.toList))

theorem NulFree.unbroken (free : NulFree s) : 0 ∉ encode s :=
  fun member => free (Text.Utf8.mem_of_mem_encode member (by decide))

theorem encode_eq_nil_iff : encode s = [] ↔ s = "" := by
  constructor
  · intro none
    have read := Text.Utf8.decodeLossy_encode s
    rw [none, decodeLossy, Text.Utf8.scan, List.map_nil] at read
    exact String.toList_eq_nil_iff.mp read.symm
  · rintro rfl
    rw [Text.Utf8.encode_eq, String.toList_empty, List.flatMap_nil]

theorem NulFree.nulTexts_encode (free : NulFree s) :
    nulTexts (encode s) = if s = "" then [] else [s.toList] := by
  split
  · rename_i none
    rw [encode_eq_nil_iff.mpr none, nulTexts_nil]
  · rename_i some
    rw [nulTexts_of_unbroken (mt encode_eq_nil_iff.mp some) free.unbroken,
      Text.Utf8.decodeLossy_encode]

/-- The content of a file with a command line. -/
def written (args : List String) : Bytes := nulEnded (args.map encode)

/-- Exactly the empty arguments are left out. -/
theorem parseArgs_written (free : ∀ a ∈ args, NulFree a) :
    parseArgs (written args) = args.filter (· ≠ "") := by
  induction args with
  | nil => rfl
  | cons a args ih =>
    obtain ⟨here, others⟩ := List.forall_mem_cons.mp free
    have split : written (a :: args) = encode a ++ 0 :: written args := by
      simp [written, nulEnded]
    rw [parseArgs, split, nulTexts_append, List.map_append, here.nulTexts_encode]
    change _ ++ parseArgs (written args) = _
    rw [ih others]
    by_cases none : a = "" <;> simp [none]

theorem filter_filled_iff : args.filter (· ≠ "") = args ↔ "" ∉ args := by
  rw [List.filter_eq_self]
  constructor
  · intro filled member
    simpa using filled "" member
  · intro filled a member
    exact decide_eq_true (ne_of_mem_of_not_mem member filled)

/-! ### The joined command line -/

/-- The room that arguments take on a line, with a blank after each. -/
def room : List String → Nat
  | [] => 0
  | a :: args => a.length + 1 + room args

/-- There is no blank after the last argument. -/
theorem length_intercalate (some : args ≠ []) :
    (" ".intercalate args).length + 1 = room args := by
  induction args with
  | nil => contradiction
  | cons a args ih =>
    cases args with
    | nil => simp [room]
    | cons b args =>
      have later := ih (List.cons_ne_nil b args)
      have blank : " ".length = 1 := rfl
      rw [String.intercalate_cons_cons, room, ← later]
      simp only [String.length_append]
      omega

/-- An empty argument takes room too, for the blank. -/
theorem room_eq (args : List String) :
    room args = room (args.filter (· ≠ "")) + args.count "" := by
  induction args with
  | nil => rfl
  | cons a args ih =>
    by_cases none : a = ""
    · simp [none, room, ih]
      omega
    · simp [none, room, ih]
      omega

/-- The words that are left make up the same line only if none was left out. -/
theorem intercalate_filter_iff (some : args.filter (· ≠ "") ≠ []) :
    " ".intercalate (args.filter (· ≠ "")) = " ".intercalate args ↔ "" ∉ args := by
  constructor
  · intro same
    have whole : args ≠ [] := by
      rintro rfl
      contradiction
    have left := length_intercalate some
    rw [same, length_intercalate whole, room_eq args] at left
    exact List.count_eq_zero.mp (by omega)
  · intro filled
    rw [filter_filled_iff.mpr filled]

namespace Reader

variable {σ : Type} {r : Reader (StateM σ)} {pid : Pid} {w w₁ : σ}

/-- What is said of the command line once it can be read, whatever else can be. -/
theorem identity_of_read (read : r.files.read (r.path pid "cmdline") w = (.ok bs, w₁)) :
    ∃ identity, (r.identity pid w).1 = .ok identity ∧ identity.args = parseArgs bs ∧
      identity.cmdline =
        if (parseArgs bs).isEmpty then none else some (" ".intercalate (parseArgs bs)) := by
  simp only [identity, Engine.bind_apply, read]
  exact ⟨_, rfl, rfl, rfl⟩

end Reader

/-- A process has some arguments, and its command line is read. The arguments that are shown are
those that are not empty, in their order, and the line is made of the same ones; there is none when
all are empty. So what is shown is all that there was just when no argument is empty. -/
theorem filled_arguments_read {σ : Type} (r : Reader (StateM σ)) (pid : Pid) (args : List String)
    (nonempty : args ≠ []) (free : ∀ a ∈ args, NulFree a) (w w₁ : σ)
    (read : r.files.read (r.path pid "cmdline") w = (.ok (written args), w₁)) :
    ∃ identity, (r.identity pid w).1 = .ok identity ∧
      identity.args = args.filter (· ≠ "") ∧
      (identity.cmdline = none ↔ ∀ a ∈ args, a = "") ∧
      (∀ line, identity.cmdline = some line → line = " ".intercalate identity.args) ∧
      (identity.args = args ↔ "" ∉ args) ∧
      (identity.cmdline = some (" ".intercalate args) ↔ "" ∉ args) := by
  obtain ⟨identity, made, shown, line⟩ := Reader.identity_of_read read
  rw [parseArgs_written free] at shown line
  refine ⟨identity, made, shown, ?_, ?_, ?_, ?_⟩
  · rw [line, ite_eq_left_iff]
    simp
  · intro text there
    rw [line] at there
    split at there
    · contradiction
    · rw [shown, Option.some.inj there]
  · rw [shown]
    exact filter_filled_iff
  · rw [line]
    split
    · rename_i empty
      rw [List.isEmpty_iff, List.filter_eq_nil_iff] at empty
      obtain ⟨a, args, rfl⟩ := List.exists_cons_of_ne_nil nonempty
      have none : a = "" := by simpa using empty a List.mem_cons_self
      simp [none]
    · rename_i filled
      rw [Option.some.injEq]
      exact intercalate_filter_iff (by simpa using filled)

/-- A process whose files all have this content. -/
def holding (content : Bytes) : Reader (StateM Unit) where
  files :=
    { read := fun _ w => (.ok content, w)
      readLink := fun _ w => (.error (.os Errno.accessDenied), w)
      list := fun _ w => (.ok ["5"], w)
      leadsTo := fun _ w => (true, w) }
  surroundings := ⟨fun _ w => (none, w), fun w => (⟨0, 0⟩, w), fun w => (4, w)⟩
  resolver := .default
  units := .usual
  bootTime := none

theorem holding_filled_arguments_read :
    (∀ a ∈ ["sh", "-c", "echo a b"], NulFree a) ∧
      ∃ identity, ((holding (written ["sh", "-c", "echo a b"])).identity 5 ()).1 = .ok identity ∧
        identity.args = ["sh", "-c", "echo a b"] ∧ identity.cmdline = some "sh -c echo a b" := by
  have free : ∀ a ∈ ["sh", "-c", "echo a b"], NulFree a := by decide
  obtain ⟨identity, made, _, _, _, whole, line⟩ := filled_arguments_read
    (holding (written ["sh", "-c", "echo a b"])) 5 _ (List.cons_ne_nil _ _) free () () rfl
  exact ⟨free, identity, made, whole.mpr (by decide), line.mpr (by decide)⟩

/-- An empty argument between two others is lost, in the list and in the line. -/
theorem empty_argument_lost :
    let args := ["a", "", "b"]
    (∀ a ∈ args, NulFree a) ∧
      written args = [0x61, 0, 0, 0x62, 0] ∧
      ∃ identity, ((holding (written args)).identity 5 ()).1 = .ok identity ∧
        identity.args = ["a", "b"] ∧ identity.args ≠ args ∧
        identity.cmdline = some "a b" ∧ identity.cmdline ≠ some (" ".intercalate args) := by
  intro args
  have free : ∀ a ∈ args, NulFree a := by decide
  have read : (holding (written args)).files.read ((holding (written args)).path 5 "cmdline") () =
      (.ok (written args), ()) := rfl
  obtain ⟨identity, made, shown, line⟩ := Reader.identity_of_read read
  rw [parseArgs_written free] at shown line
  have left : args.filter (· ≠ "") = ["a", "b"] := by decide
  rw [left] at shown line
  refine ⟨free, by decide +kernel, identity, made, shown, ?_, line, ?_⟩
  · rw [shown]
    decide
  · rw [line]
    decide

end ProcMeter.Procfs
