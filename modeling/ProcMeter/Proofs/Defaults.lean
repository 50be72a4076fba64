import ProcMeter.Files.Tree
import ProcMeter.Proofs.ConfigFields
import ProcMeter.Proofs.JsonText

/-! Fields that a configuration leaves unset. They are as in the default configuration, except for
the log level: a configuration that is read without one has none. -/
namespace ProcMeter

/-- The record has no value for the field of this name, which is one of `names`. -/
def Json.Lacks (names : List String) (name : String) : Json → Prop
  | .obj ms => Unset ms name
  | .arr vs => vs.length ≤ names.idxOf name
  | _ => False

/-- The fields of the rule that the record lacks are those of `d`. -/
structure TopRule.KeepsUnset (d : TopRule) (v : Json) (r : TopRule) : Prop where
  enabled : v.Lacks names "enabled" → r.enabled = d.enabled
  byCpu : v.Lacks names "by_cpu" → r.byCpu = d.byCpu
  byMemory : v.Lacks names "by_memory" → r.byMemory = d.byMemory

/-- The fields of the configuration that the members leave unset are those of `d`. -/
structure Config.KeepsUnset (d : Config) (ms : List (String × Json)) (c : Config) : Prop where
  procs : Unset ms "procs" → c.procs = d.procs
  envWhitelist : Unset ms "env_whitelist" → c.envWhitelist = d.envWhitelist
  cacheIdentity : Unset ms "cache_cmdline" → c.cacheIdentity = d.cacheIdentity
  reportTicks : Unset ms "cpu_ticks" → c.reportTicks = d.reportTicks
  enableNetwork : Unset ms "enable_network" → c.enableNetwork = d.enableNetwork
  networkMetrics : Unset ms "network_metrics" → c.networkMetrics = d.networkMetrics
  enableCgroups : Unset ms "enable_cgroups" → c.enableCgroups = d.enableCgroups
  hostfs : Unset ms "hostfs" → c.hostfs = d.hostfs
  intervalSeconds : Unset ms "interval_seconds" → c.intervalSeconds = d.intervalSeconds
  logLevel : Unset ms "log_level" → c.logLevel = d.logLevel
  top : Unset ms "include_top" → c.top = d.top
  withinTop : ∀ m ∈ ms, m.1 ∈ spellings "include_top" → d.top.KeepsUnset m.2 c.top
  cgroups : Unset ms "cgroups" → c.ignoreRootCgroups = d.ignoreRootCgroups
  withinCgroups : ∀ m ∈ ms, m.1 ∈ spellings "cgroups" →
    m.2.Lacks cgroupsNames "ignore_root_cgroups" →
      c.ignoreRootCgroups = d.ignoreRootCgroups

namespace Slot

/-- A field that is read and unset has the value it is given by default. -/
theorem eq_of_unset {V α : Type} {ms : List (String × V)} {name : String} {default a : α}
    {dec : V → Option α} (read : field? ms name default dec = some a) (unset : Unset ms name) :
    a = default :=
  Option.some.inj (read.symm.trans (field?_of_unset unset default dec))

end Slot

open Json (records)

theorem TopRule.keepsUnset {v : Json} {r : TopRule} (read : ofRecord? records v = some r) :
    off.KeepsUnset v r := by
  match v with
  | .obj ms =>
    have fields := ofRecord?_obj_iff.1 read
    exact ⟨Slot.eq_of_unset fields.enabled, Slot.eq_of_unset fields.byCpu,
      Slot.eq_of_unset fields.byMemory⟩
  | .arr vs =>
    have first : names.idxOf "enabled" = 0 := by decide
    have second : names.idxOf "by_cpu" = 1 := by decide
    have third : names.idxOf "by_memory" = 2 := by decide
    match vs with
    | [] =>
      obtain rfl := Option.some.inj read
      exact ⟨fun _ => rfl, fun _ => rfl, fun _ => rfl⟩
    | [_] =>
      obtain ⟨_, -, made⟩ := Option.bind_eq_some_iff.1 read
      obtain rfl := Option.some.inj made
      exact ⟨fun ends => by simp [Json.Lacks, first] at ends, fun _ => rfl, fun _ => rfl⟩
    | [_, _] =>
      obtain ⟨_, -, rest⟩ := Option.bind_eq_some_iff.1 read
      obtain ⟨_, -, made⟩ := Option.bind_eq_some_iff.1 rest
      obtain rfl := Option.some.inj made
      exact ⟨fun ends => by simp [Json.Lacks, first] at ends,
        fun ends => by simp [Json.Lacks, second] at ends, fun _ => rfl⟩
    | _ :: _ :: _ :: _ =>
      exact ⟨fun ends => by simp [Json.Lacks, first] at ends,
        fun ends => by simp [Json.Lacks, second] at ends,
        fun ends => by simp [Json.Lacks, third] at ends⟩
  | .null | .bool _ | .num _ | .str _ | .illFormed => exact ⟨False.elim, False.elim, False.elim⟩

namespace Config

theorem cgroupsOfRecord?_lacking {v : Json} {b : Bool}
    (read : cgroupsOfRecord? records v = some b)
    (lacks : v.Lacks cgroupsNames "ignore_root_cgroups") : b = true := by
  match v with
  | .obj gs => exact Slot.eq_of_unset (cgroupsOfRecord?_obj_iff.1 read) lacks
  | .arr [] => exact (Option.some.inj read).symm
  | .arr (_ :: vs) => exact absurd lacks (Nat.not_succ_le_zero vs.length)
  | .null | .bool _ | .num _ | .str _ | .illFormed => exact False.elim lacks

/-- What is read of the empty object. -/
def unconfigured : Config := { default with logLevel := none }

theorem ReadFrom.keepsUnset {ms : List (String × Json)} {c : Config} (read : ReadFrom ms c) :
    unconfigured.KeepsUnset ms c where
  procs := Slot.eq_of_unset read.procs
  envWhitelist := Slot.eq_of_unset read.envWhitelist
  cacheIdentity := Slot.eq_of_unset read.cacheIdentity
  reportTicks := Slot.eq_of_unset read.reportTicks
  enableNetwork := Slot.eq_of_unset read.enableNetwork
  networkMetrics := Slot.eq_of_unset read.networkMetrics
  enableCgroups := Slot.eq_of_unset read.enableCgroups
  hostfs := Slot.eq_of_unset read.hostfs
  intervalSeconds := Slot.eq_of_unset read.intervalSeconds
  logLevel := Slot.eq_of_unset read.logLevel
  top := Slot.eq_of_unset read.top
  withinTop := fun _ mem spelled =>
    TopRule.keepsUnset (Slot.dec_of_mem mem spelled read.top)
  cgroups := Slot.eq_of_unset read.ignoreRootCgroups
  withinCgroups := fun _ mem spelled =>
    cgroupsOfRecord?_lacking (Slot.dec_of_mem mem spelled read.ignoreRootCgroups)

/-- Only the log level tells the two apart. -/
theorem ReadFrom.keepsUnset_default_iff {ms : List (String × Json)} {c : Config}
    (read : ReadFrom ms c) : default.KeepsUnset ms c ↔ ¬ Unset ms "log_level" := by
  have kept := read.keepsUnset
  constructor
  · intro keeps unset
    exact absurd ((keeps.logLevel unset).symm.trans (kept.logLevel unset)) (by decide)
  · intro given
    exact { kept with logLevel := fun unset => absurd unset given }

section
variable {m : Type → Type} [Monad m] [LawfulMonad m]

theorem firstThere_of_none {files : Files m} {paths : List String}
    (missing : ∀ p ∈ paths, files.leadsTo p = pure false) :
    firstThere files paths = pure none := by
  induction paths with
  | nil => rfl
  | cons p paths ih =>
    obtain ⟨first, others⟩ := List.forall_mem_cons.1 missing
    rw [firstThere, first, pure_bind, if_neg Bool.false_ne_true, ih others]

theorem load_of_none {files : Files m}
    (missing : ∀ p ∈ usualPaths, files.leadsTo p = pure false) :
    load files none = pure (.ok default) := by
  simp only [load, firstThere_of_none missing, pure_bind]

end

/-- An object that is read as a configuration leaves what it does not set as it is by default, at
every level, but for the log level: without one, none is read. So the empty object is not read as
what is loaded when there is no file. -/
theorem unset_fields_read {path : String} (json : ConfigFormat.ofPath path = .json)
    {cs : List Char} {ms : List (String × Json)} (text : Json.parse? cs = some (.obj ms)) :
    (∀ c, parse path cs = .ok c →
      unconfigured.KeepsUnset ms c ∧ (default.KeepsUnset ms c ↔ ¬ Unset ms "log_level")) ∧
    (ms = [] → parse path cs = .ok unconfigured) ∧
    (∀ (m : Type → Type) [Monad m] [LawfulMonad m] (files : Files m),
      (∀ p ∈ usualPaths, files.leadsTo p = pure false) →
        load files none = pure (.ok default)) := by
  have read : parse path cs =
      (ofJson? (.obj ms)).elim (.error (ConfigError.malformed path)) .ok := by
    rw [parse_json json, text, Option.bind_some]
  rw [read]
  refine ⟨fun c made => ?_, ?_, fun m _ _ files missing => load_of_none missing⟩
  · cases known : ofJson? (.obj ms) with
    | none =>
      rw [known] at made
      contradiction
    | some d =>
      rw [known] at made
      obtain rfl : d = c := Except.ok.inj made
      have fields := ofJson?_obj_iff.1 known
      exact ⟨fields.keepsUnset, fields.keepsUnset_default_iff⟩
  · rintro rfl
    rfl

theorem no_usual_file :
    ∀ p ∈ usualPaths, (FileTree.files (m := Id) FileTree.empty).leadsTo p = pure false := by
  have missing : ∀ p ∈ usualPaths, FileTree.empty.leadsTo p = false := by decide
  exact missing

/-- The log level is given here, as none, and the top list in part. -/
theorem partial_object_read :
    let ms := [("include-top", Json.obj [("by_cpu", .ofNat 5)]), ("log_level", .null)]
    let cs := (Json.obj ms).compact.toList
    let c := { unconfigured with top := ⟨false, 5, 0⟩ }
    Json.parse? cs = some (.obj ms) ∧ parse "c.json" cs = .ok c ∧ default.KeepsUnset ms c ∧
      parse "c.json" ['{', '}'] = .ok unconfigured ∧
      load (m := Id) (FileTree.files FileTree.empty) none = .ok default := by
  intro ms cs c
  have json : ConfigFormat.ofPath "c.json" = .json := by decide
  have text : Json.parse? cs = some (.obj ms) := Json.parse?_compact (by simp [ms])
  have read : parse "c.json" cs = .ok c := by
    rw [parse_json json, text]
    rfl
  have given : ¬ Unset ms "log_level" := fun unset =>
    unset ("log_level", .null) (by simp [ms]) (by decide)
  have nothing : Json.parse? ['{', '}'] = some (.obj []) := by rfl
  obtain ⟨kept, -, loaded⟩ := unset_fields_read json text
  obtain ⟨-, empty, -⟩ := unset_fields_read json nothing
  exact ⟨text, read, (kept c read).2.2 given, empty rfl, loaded Id _ no_usual_file⟩

/-- The empty object names no log level and is read without one, though one is set by default. -/
theorem empty_object_without_level :
    parse "c.json" ['{', '}'] = .ok unconfigured ∧ Unset ([] : List (String × Json)) "log_level" ∧
      unconfigured.logLevel = none ∧ default.logLevel = some "info" ∧
      ¬ default.KeepsUnset [] unconfigured ∧
      load (m := Id) (FileTree.files FileTree.empty) none ≠ parse "c.json" ['{', '}'] := by
  have read : parse "c.json" ['{', '}'] = .ok unconfigured := by rfl
  refine ⟨read, List.forall_mem_nil _, rfl, rfl, fun keeps => ?_, ?_⟩
  · exact absurd (keeps.logLevel (List.forall_mem_nil _)) (by decide)
  · rw [read, load_of_none no_usual_file]
    exact fun same => absurd (Except.ok.inj same) (by decide)

end Config

end ProcMeter
