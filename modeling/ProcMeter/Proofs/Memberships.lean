import ProcMeter.Proofs.Lines
import ProcMeter.Proofs.NameBytes
import ProcMeter.Proofs.NulTexts
import ProcMeter.Proofs.Numerals

/-! Control groups are read as the system writes them. A line has a number, controllers and a path;
only the path may hold a colon of its own, and it stands last, so a line tells its parts apart.
Lines of any other form count for nothing, wherever they stand. -/
namespace ProcMeter

open Text

variable {e : CgroupEntry} {row number rest cs : List Char}

namespace CgroupEntry

/-- The line of an entry. -/
def line (e : CgroupEntry) : List Char :=
  (toString e.hierarchy ++ ":" ++ ",".intercalate e.controllers ++ ":" ++ e.path).toList

/-- An entry whose parts the separators of its line tell apart. -/
structure Writable (e : CgroupEntry) : Prop where
  named : ∀ c ∈ e.controllers, c ≠ "" ∧ ',' ∉ c.toList ∧ ':' ∉ c.toList ∧ '\n' ∉ c.toList
  flat : '\n' ∉ e.path.toList
  ending : e.path.toList.getLast? ≠ some '\r'

theorem line_eq (e : CgroupEntry) :
    e.line = (toString e.hierarchy).toList ++
      ':' :: ([','].intercalate (e.controllers.map String.toList) ++ ':' :: e.path.toList) := by
  simp [line]

theorem not_mem_number {c : Char} (other : isDecimal c = false) :
    c ∉ (toString e.hierarchy).toList := by
  intro member
  rw [isDecimal_of_mem_uint32 member] at other
  contradiction

theorem Writable.not_mem_controllers (writable : e.Writable) {c : Char}
    (separator : c = ':' ∨ c = '\n') :
    c ∉ [','].intercalate (e.controllers.map String.toList) := by
  intro member
  rcases mem_intercalate member with rfl | ⟨_, among, inside⟩
  · rcases separator with clash | clash <;> contradiction
  · obtain ⟨name, there, rfl⟩ := List.mem_map.mp among
    obtain ⟨_, _, colon, feed⟩ := writable.named name there
    rcases separator with rfl | rfl
    · exact colon inside
    · exact feed inside

theorem Writable.runs_controllers (writable : e.Writable) :
    (runs (· == ',') ([','].intercalate (e.controllers.map String.toList))).map String.ofList =
      e.controllers := by
  have solid : ∀ w ∈ e.controllers.map String.toList, w ≠ [] ∧ ∀ a ∈ w, (a == ',') = false := by
    refine List.forall_mem_map.mpr fun name there => ?_
    obtain ⟨some, comma, _⟩ := writable.named name there
    exact ⟨mt String.toList_eq_nil_iff.mp some, solid_of_not_mem comma⟩
  rw [runs_intercalate (by rfl) solid, List.map_map]
  exact List.map_id'' (fun name => String.ofList_toList) e.controllers

theorem Writable.parse?_line (writable : e.Writable) : parse? e.line = some e := by
  have first : cut? ':' e.line = _ :=
    cut?_eq_some_iff.mpr ⟨e.line_eq, not_mem_number (by decide)⟩
  have second : cut? ':' ([','].intercalate (e.controllers.map String.toList) ++
      ':' :: e.path.toList) = _ :=
    cut?_eq_some_iff.mpr ⟨rfl, writable.not_mem_controllers (.inl rfl)⟩
  rw [parse?, first]
  simp [uint32?_toString, second, writable.runs_controllers]

theorem Writable.line_flat (writable : e.Writable) : '\n' ∉ e.line := by
  rw [line_eq]
  simp only [List.mem_append, List.mem_cons, Char.reduceEq, false_or, not_or]
  exact ⟨not_mem_number (by decide), writable.not_mem_controllers (.inr rfl), writable.flat⟩

/-- A carriage return at the end of a line belongs to the path. -/
theorem parse?_dropReturn (cs : List Char) :
    parse? (dropReturn cs) = (parse? cs).map fun e =>
      { e with path := String.ofList (dropReturn e.path.toList) } := by
  have colon : ':' ≠ '\r' := by decide
  rw [parse?, cut?_dropReturn colon, parse?]
  cases cut? ':' cs with
  | none => rfl
  | some p =>
    obtain ⟨number, rest⟩ := p
    simp only [Option.map_some, Option.bind_eq_bind, Option.bind_some, cut?_dropReturn colon]
    cases uint32? number with
    | none => rfl
    | some hierarchy =>
      cases cut? ':' rest with
      | none => rfl
      | some q => simp

end CgroupEntry

namespace CgroupInfo

/-- A line that is no entry: it has too few separators, or does not start with a number. -/
inductive Stray : List Char → Prop where
  | short {row : List Char} (few : row.count ':' < 2) : Stray row
  | unnumbered {number rest : List Char} (first : ':' ∉ number) (other : uint32? number = none) :
      Stray (number ++ ':' :: rest)

theorem parse?_eq_none_iff : CgroupEntry.parse? row = none ↔ Stray row := by
  constructor
  · -- the reader takes the line apart from the left; what stops it says which form the line has
    intro missing
    cases cut : cut? ':' row with
    | none =>
      have bare : row.count ':' = 0 := List.count_eq_zero.mpr (cut?_eq_none_iff.mp cut)
      exact .short (by omega)
    | some p =>
      obtain ⟨number, rest⟩ := p
      obtain ⟨rfl, first⟩ := cut?_eq_some_iff.mp cut
      rw [CgroupEntry.parse?, cut] at missing
      cases read : uint32? number with
      | none => exact .unnumbered first read
      | some hierarchy =>
        cases cut' : cut? ':' rest with
        | none =>
          have second : ':' ∉ rest := cut?_eq_none_iff.mp cut'
          refine .short ?_
          simp [List.count_eq_zero.mpr first, List.count_eq_zero.mpr second]
        | some q => simp [read, cut'] at missing
  · intro stray
    cases stray with
    | short few =>
      cases cut : cut? ':' row with
      | none => simp [CgroupEntry.parse?, cut]
      | some p =>
        obtain ⟨number, rest⟩ := p
        obtain ⟨rfl, _⟩ := cut?_eq_some_iff.mp cut
        have bare : ':' ∉ rest := by
          rw [← List.count_eq_zero]
          rw [List.count_append, List.count_cons_self] at few
          omega
        simp [CgroupEntry.parse?, cut, cut?_eq_none_iff.mpr bare]
    | unnumbered first other =>
      simp [CgroupEntry.parse?, cut?_eq_some_iff.mpr ⟨rfl, first⟩, other]

inductive Row where
  | entry (e : CgroupEntry) (writable : e.Writable)
  | stray (row : List Char) (flat : '\n' ∉ row) (stray : Stray row)

namespace Row

def line : Row → List Char
  | entry e _ => e.line
  | stray row _ _ => row

def membership? : Row → Option CgroupEntry
  | entry e _ => some e
  | stray _ _ _ => none

theorem line_flat (r : Row) : '\n' ∉ r.line := by
  cases r with
  | entry e writable => exact writable.line_flat
  | stray row flat _ => exact flat

theorem parse?_line (r : Row) : CgroupEntry.parse? r.line = r.membership? := by
  cases r with
  | entry e writable => exact writable.parse?_line
  | stray row _ stray => exact parse?_eq_none_iff.mpr stray

theorem parse?_dropReturn_line (r : Row) :
    CgroupEntry.parse? (dropReturn r.line) = r.membership? := by
  rw [CgroupEntry.parse?_dropReturn, parse?_line]
  cases r with
  | entry e writable =>
    simp only [membership?, Option.map_some, dropReturn_of_getLast? writable.ending,
      String.ofList_toList]
  | stray => rfl

end Row

/-- The entries among rows, in their order. -/
def entriesOf (rows : List Row) : List CgroupEntry := rows.filterMap Row.membership?

/-- The content of a file of rows. The last one may do without a line feed. -/
inductive Spells : List Char → List Row → Prop where
  | ended (rows : List Row) : Spells (Text.ended (rows.map Row.line)) rows
  | unended (rows : List Row) (last : Row) :
      Spells (Text.ended (rows.map Row.line) ++ last.line) (rows ++ [last])

variable {rows : List Row} {content : String} {c : CgroupInfo} {ignoreRoot : Bool}

theorem rows_flat (rows : List Row) : ∀ row ∈ rows.map Row.line, '\n' ∉ row :=
  List.forall_mem_map.mpr fun r _ => r.line_flat

theorem entriesOf_dropReturn (rows : List Row) :
    ((rows.map Row.line).map dropReturn).filterMap CgroupEntry.parse? = entriesOf rows := by
  rw [List.map_map, List.filterMap_map, entriesOf]
  exact List.filterMap_congr fun r _ => r.parse?_dropReturn_line

/-- A last line without a line feed keeps its carriage return, and an empty one is no line. -/
theorem parse_last (last : Row) :
    (lines last.line).filterMap CgroupEntry.parse? = entriesOf [last] := by
  have read := last.parse?_line
  rw [lines_of_flat last.line_flat, entriesOf]
  split
  · rename_i empty
    rw [List.isEmpty_iff.mp empty] at read
    have none : last.membership? = none := read.symm
    rw [List.filterMap_nil, List.filterMap_cons_none none, List.filterMap_nil]
  · rw [List.filterMap_cons, List.filterMap_cons, read]
    rfl

theorem parse_spelled (spells : Spells cs rows) : parse cs = ⟨entriesOf rows⟩ := by
  cases spells with
  | ended => rw [parse, lines_rows (rows_flat rows), entriesOf_dropReturn]
  | unended rows last =>
    rw [parse, lines_ended (rows_flat rows), List.filterMap_append, entriesOf_dropReturn,
      parse_last, entriesOf, entriesOf, entriesOf, List.filterMap_append]

/-! ### What is reported -/

theorem reported?_eq_none_iff :
    c.reported? ignoreRoot = none ↔
      c.entries = [] ∨ ignoreRoot = true ∧ ∀ e ∈ c.entries, e.path = "/" := by
  simp only [reported?, isRootOnly, ite_eq_left_iff, reduceCtorEq, imp_false, Decidable.not_not,
    Bool.or_eq_true, Bool.and_eq_true, List.isEmpty_iff, List.all_eq_true, beq_iff_eq]

theorem reported?_eq_some (worth : c.reported? ignoreRoot ≠ none) :
    c.reported? ignoreRoot = some c := by
  unfold reported? at worth ⊢
  split
  · rename_i none
    simp [none] at worth
  · rfl

/-- An entry of the unified hierarchy. -/
def Unified (e : CgroupEntry) : Prop := e.hierarchy = 0 ∧ e.controllers = []

theorem unified_iff : (e.hierarchy == 0 && e.controllers.isEmpty) = true ↔ Unified e := by
  simp [Unified]

theorem primaryPath?_of_unified {before after : List CgroupEntry} (unified : Unified e)
    (first : ∀ x ∈ before, ¬ Unified x) : primaryPath? ⟨before ++ e :: after⟩ = some e.path := by
  have found : (before ++ e :: after).find?
      (fun e => e.hierarchy == 0 && e.controllers.isEmpty) = some e := by
    rw [List.find?_eq_some_iff_append]
    refine ⟨unified_iff.mpr unified, before, after, rfl, fun x member => ?_⟩
    rw [Bool.not_eq_true', Bool.eq_false_iff, Ne, unified_iff]
    exact first x member
  rw [primaryPath?, found, Option.some_or, Option.map_some]

theorem primaryPath?_of_none_unified {entries : List CgroupEntry}
    (other : ∀ e ∈ entries, ¬ Unified e) :
    primaryPath? ⟨entries⟩ = entries.head?.map CgroupEntry.path := by
  have missing : entries.find? (fun e => e.hierarchy == 0 && e.controllers.isEmpty) = none := by
    rw [List.find?_eq_none]
    exact fun e member => mt unified_iff.mp (other e member)
  rw [primaryPath?, missing, Option.none_or]

end CgroupInfo

namespace Procfs.Reader

variable {σ : Type} {r : Reader (StateM σ)} {pid : Pid} {w w₁ : σ}

theorem cgroups_of_read {content : String}
    (read : r.files.read (r.path pid "cgroup") w = (.ok (Text.Utf8.encode content), w₁))
    (ignoreRoot : Bool) :
    (r.cgroups ignoreRoot pid w).1 =
      .ok ((CgroupInfo.parse content.toList).reported? ignoreRoot) := by
  have text := text_of_read (congrArg Prod.fst read)
  rw [Text.Utf8.decode?_encode] at text
  simp only [cgroups, Engine.bind_apply, text]
  rfl

end Procfs.Reader

/-- Memberships are read back. The entries that a file has among lines of any other form are read
as they were written, in their order. The reader reports them unless there are none, or root groups
are ignored and all are root groups. The path that stands for them is that of the first entry of
the unified hierarchy, and where there is no such entry that of the first. -/
theorem CgroupInfo.memberships_read_back {content : String} {rows : List Row}
    (spells : Spells content.toList rows) :
    parse content.toList = ⟨entriesOf rows⟩ ∧
    (∀ {σ : Type} (r : Procfs.Reader (StateM σ)) (pid : Pid) (ignoreRoot : Bool) (w w₁ : σ),
      r.files.read (r.path pid "cgroup") w = (.ok (Text.Utf8.encode content), w₁) →
        ((r.cgroups ignoreRoot pid w).1 = .ok none ↔
          entriesOf rows = [] ∨ ignoreRoot = true ∧ ∀ e ∈ entriesOf rows, e.path = "/") ∧
        ((r.cgroups ignoreRoot pid w).1 ≠ .ok none →
          (r.cgroups ignoreRoot pid w).1 = .ok (some ⟨entriesOf rows⟩))) ∧
    (∀ before e after, entriesOf rows = before ++ e :: after → Unified e →
      (∀ x ∈ before, ¬ Unified x) → primaryPath? ⟨entriesOf rows⟩ = some e.path) ∧
    ((∀ e ∈ entriesOf rows, ¬ Unified e) →
      primaryPath? ⟨entriesOf rows⟩ = (entriesOf rows).head?.map CgroupEntry.path) := by
  have read := parse_spelled spells
  refine ⟨read, ?_, ?_, primaryPath?_of_none_unified⟩
  · intro σ r pid ignoreRoot w w₁ found
    rw [Procfs.Reader.cgroups_of_read found, read]
    constructor
    · rw [Except.ok.injEq]
      exact reported?_eq_none_iff
    · intro worth
      rw [reported?_eq_some fun none => worth (congrArg Except.ok none)]
  · intro before e after split unified first
    rw [split]
    exact primaryPath?_of_unified unified first

namespace CgroupInfo

/-- An entry in a root group of the unified hierarchy. -/
def root : Row := .entry ⟨0, [], "/"⟩ ⟨by decide, by decide, by decide⟩

/-- Separators in a path, a named hierarchy and an empty path, between lines that are no entries. -/
def mingled : List Row :=
  [.stray "garbage".toList (by decide) (.short (by decide)),
    .entry ⟨12, ["cpu", "cpuacct"], "/docker/a:b,c"⟩ ⟨by decide, by decide, by decide⟩,
    .stray "x:y:z".toList (by decide) (parse?_eq_none_iff.mp (by decide +kernel)),
    .entry ⟨1, ["name=systemd"], ""⟩ ⟨by decide, by decide, by decide⟩]

theorem mingled_memberships_read_back :
    let content := "garbage\n12:cpu,cpuacct:/docker/a:b,c\nx:y:z\n1:name=systemd:\n0::/"
    let entries : List CgroupEntry :=
      [⟨12, ["cpu", "cpuacct"], "/docker/a:b,c"⟩, ⟨1, ["name=systemd"], ""⟩, ⟨0, [], "/"⟩]
    Spells content.toList (mingled ++ [root]) ∧ Spells "0::/\n".toList [root] ∧
      parse content.toList = ⟨entries⟩ ∧
      ((Procfs.holding (Text.Utf8.encode content)).cgroups true 5 ()).1 = .ok (some ⟨entries⟩) ∧
      ((Procfs.holding (Text.Utf8.encode "0::/\n")).cgroups true 5 ()).1 = .ok none ∧
      primaryPath? ⟨entries⟩ = some "/" := by
  intro content entries
  have shown : entriesOf (mingled ++ [root]) = entries := by decide +kernel
  have spells : Spells content.toList (mingled ++ [root]) := by
    have same : content.toList = ended (mingled.map Row.line) ++ root.line := by decide +kernel
    rw [same]
    exact .unended mingled root
  have alone : Spells "0::/\n".toList [root] := by
    have same : "0::/\n".toList = ended ([root].map Row.line) := by decide +kernel
    rw [same]
    exact .ended [root]
  obtain ⟨read, reports, unified, _⟩ := memberships_read_back spells
  obtain ⟨none, some⟩ := reports (Procfs.holding (Text.Utf8.encode content)) 5 true () () rfl
  obtain ⟨_, hidden, _⟩ := memberships_read_back alone
  rw [shown] at read none some unified
  refine ⟨spells, alone, read, some ?_, ?_, ?_⟩
  · rw [ne_eq, none]
    decide
  · rw [(hidden (Procfs.holding (Text.Utf8.encode "0::/\n")) 5 true () () rfl).1]
    decide
  · exact unified [⟨12, ["cpu", "cpuacct"], "/docker/a:b,c"⟩, ⟨1, ["name=systemd"], ""⟩]
      ⟨0, [], "/"⟩ [] rfl ⟨rfl, rfl⟩ (by simp [Unified])

end CgroupInfo

end ProcMeter
