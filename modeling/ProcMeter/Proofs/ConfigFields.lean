import Mathlib.Data.List.Forall2
import Mathlib.Tactic.MkIffOfInductiveProp
import ProcMeter.Config.Load

/-! Configurations field by field. What an object says of a field depends on the values that the
members of its spellings have and on nothing else, so an object is a configuration exactly when
each field is read on its own. -/
namespace ProcMeter

/-- A name with hyphens for its underscores. -/
def hyphenated (name : String) : String :=
  String.ofList (name.toList.map fun c => if c = '_' then '-' else c)

/-- The names that the field of this name goes by. -/
def spellings (name : String) : List String :=
  if hyphenated name = name then [name] else [name, hyphenated name]

theorem mem_spellings {name n : String} : n ∈ spellings name ↔ n = name ∨ n = hyphenated name := by
  rw [spellings]
  split
  case isTrue plain => rw [plain, or_self, List.mem_singleton]
  case isFalse => rw [List.mem_cons, List.mem_singleton]

/-- No member has a spelling of this name. -/
def Unset {V : Type} (ms : List (String × V)) (name : String) : Prop :=
  ∀ m ∈ ms, m.1 ∉ spellings name

namespace Slot

variable {V α : Type}

/-- The values of the members that spell this name, in their order. -/
def valuesOf (ms : List (String × V)) (name : String) : List V :=
  (ms.filter fun m => (spellings name).contains m.1).map Prod.snd

theorem valuesOf_cons (m : String × V) (ms : List (String × V)) (name : String) :
    valuesOf (m :: ms) name =
      if m.1 ∈ spellings name then m.2 :: valuesOf ms name else valuesOf ms name := by
  simp only [valuesOf, List.filter_cons, List.contains_iff_mem]
  split <;> rfl

/-- What an object says about a field to which it gives these values. -/
def ofValues? : List V → Option (Slot V)
  | [] => some .unnamed
  | [v] => some (.given v)
  | _ => none

theorem ofMembers?_spellings (ms : List (String × V)) (name : String) :
    ofMembers? ms (spellings name) = ofValues? (valuesOf ms name) := by
  rw [ofMembers?, valuesOf]
  generalize ms.filter (fun m => (spellings name).contains m.1) = named
  match named with
  | [] | [_] | _ :: _ :: _ => rfl

theorem ofValues?_perm {vs vs' : List V} (perm : vs.Perm vs') : ofValues? vs = ofValues? vs' := by
  match vs, vs', perm with
  | [], _, perm => rw [List.nil_perm.1 perm]
  | [v], _, perm => rw [List.singleton_perm.1 perm]
  | _ :: _ :: _, _ :: _ :: _, _ => rfl
  | _ :: _ :: _, [], perm | _ :: _ :: _, [_], perm => exact absurd perm.length_eq (by simp)

/-- Reads the field of this name. -/
def field? (ms : List (String × V)) (name : String) (default : α) (dec : V → Option α) :
    Option α :=
  (ofMembers? ms (spellings name)).bind fun s => s.orDefault? default dec

theorem field?_eq_some_iff {ms : List (String × V)} {name : String} {default a : α}
    {dec : V → Option α} :
    field? ms name default dec = some a ↔
      ∃ s, ofMembers? ms (spellings name) = some s ∧ s.orDefault? default dec = some a :=
  Option.bind_eq_some_iff

theorem valuesOf_of_unset {ms : List (String × V)} {name : String} (unset : Unset ms name) :
    valuesOf ms name = [] := by
  refine List.map_eq_nil_iff.2 (List.filter_eq_nil_iff.2 fun m mem named => ?_)
  exact unset m mem (List.contains_iff_mem.1 named)

theorem field?_of_unset {ms : List (String × V)} {name : String} (unset : Unset ms name)
    (default : α) (dec : V → Option α) : field? ms name default dec = some default := by
  rw [field?, ofMembers?_spellings, valuesOf_of_unset unset]
  rfl

/-- A member that spells the name is the only one that does, if the field is read. -/
theorem dec_of_mem {ms : List (String × V)} {name n : String} {v : V} {default a : α}
    {dec : V → Option α} (mem : (n, v) ∈ ms) (spelled : n ∈ spellings name)
    (read : field? ms name default dec = some a) : dec v = some a := by
  have among : v ∈ valuesOf ms name :=
    List.mem_map.2 ⟨_, List.mem_filter.2 ⟨mem, List.contains_iff_mem.2 spelled⟩, rfl⟩
  rw [field?, ofMembers?_spellings] at read
  match values : valuesOf ms name with
  | [] => exact absurd (values ▸ among) List.not_mem_nil
  | [w] =>
    rw [values, List.mem_singleton] at among
    rw [values] at read
    exact among ▸ read
  | _ :: _ :: _ =>
    rw [values] at read
    contradiction

end Slot

theorem mapM_eq_some_iff {α β : Type} {f : α → Option β} {xs : List α} {ys : List β} :
    xs.mapM f = some ys ↔ List.Forall₂ (fun x y => f x = some y) xs ys := by
  induction xs generalizing ys with
  | nil => simp [eq_comm]
  | cons x xs ih =>
    simp only [List.mapM_cons, Option.bind_eq_bind, Option.bind_eq_some_iff, Option.pure_def,
      Option.some.injEq, ih, List.forall₂_cons_left_iff]
    constructor
    · rintro ⟨y, first, rest, others, rfl⟩
      exact ⟨y, rest, first, others, rfl⟩
    · rintro ⟨y, rest, first, others, rfl⟩
      exact ⟨y, first, rest, others, rfl⟩

theorem mapM_eq_none {α β : Type} {f : α → Option β} {x : α} {xs : List α} (mem : x ∈ xs)
    (fails : f x = none) : xs.mapM f = none := by
  induction xs with
  | nil => contradiction
  | cons y ys ih =>
    rw [List.mapM_cons]
    rcases List.mem_cons.1 mem with rfl | later
    · rw [fails]; rfl
    · cases f y with
      | none => rfl
      | some b => rw [ih later]; rfl

open Json (records)

/-- The fields of an object, each on its own. -/
theorem Json.slots?_eq_some_iff {names : List String} {ms : List (String × Json)}
    {slots : List (Slot Json)} :
    records.slots? (names.map spellings) (.obj ms) = some slots ↔
      List.Forall₂ (fun n s => Slot.ofMembers? ms (spellings n) = some s) names slots :=
  mapM_eq_some_iff.trans List.forall₂_map_left_iff

/-- The first field of some and the others. -/
theorem exists_forall₂_cons {α β : Type} {R : α → β → Prop} {P : List β → Prop} {x : α}
    {xs : List α} :
    (∃ ys, List.Forall₂ R (x :: xs) ys ∧ P ys) ↔
      ∃ y, R x y ∧ ∃ ys, List.Forall₂ R xs ys ∧ P (y :: ys) := by
  simp only [List.forall₂_cons_left_iff]
  constructor
  · rintro ⟨_, ⟨y, ys, first, others, rfl⟩, holds⟩
    exact ⟨y, first, ys, others, holds⟩
  · rintro ⟨y, first, ys, others, holds⟩
    exact ⟨_, ⟨y, ys, first, others, rfl⟩, holds⟩

theorem exists_forall₂_nil {α β : Type} {R : α → β → Prop} {P : List β → Prop} :
    (∃ ys, List.Forall₂ R [] ys ∧ P ys) ↔ P [] := by
  simp only [List.forall₂_nil_left_iff, exists_eq_left]

theorem bind_eq_some {α β : Type} {x : Option α} {a : α} {f : α → Option β} {b : β}
    (first : x = some a) (next : f a = some b) : x >>= f = some b := by
  rw [first]
  exact next

namespace TopRule

def names : List String := ["enabled", "by_cpu", "by_memory"]

theorem fields_eq : [["enabled"], ["by_cpu", "by-cpu"], ["by_memory", "by-memory"]] =
    names.map spellings := by decide

/-- Each field of the rule is read from the members. -/
@[mk_iff]
structure ReadFrom (ms : List (String × Json)) (r : TopRule) : Prop where
  enabled : Slot.field? ms "enabled" false records.toBool? = some r.enabled
  byCpu : Slot.field? ms "by_cpu" 0 records.toUInt64? = some r.byCpu
  byMemory : Slot.field? ms "by_memory" 0 records.toUInt64? = some r.byMemory

theorem ofRecord?_obj_iff {ms : List (String × Json)} {r : TopRule} :
    ofRecord? records (.obj ms) = some r ↔ ReadFrom ms r := by
  refine Option.bind_eq_some_iff.trans ?_
  simp only [fields_eq, Json.slots?_eq_some_iff, names, exists_forall₂_cons, exists_forall₂_nil,
    readFrom_iff, Slot.field?_eq_some_iff]
  constructor
  · rintro ⟨_, enabled, _, byCpu, _, byMemory, read⟩
    obtain ⟨_, enabled', read⟩ := Option.bind_eq_some_iff.1 read
    obtain ⟨_, byCpu', read⟩ := Option.bind_eq_some_iff.1 read
    obtain ⟨_, byMemory', read⟩ := Option.bind_eq_some_iff.1 read
    obtain rfl := Option.some.inj read
    exact ⟨⟨_, enabled, enabled'⟩, ⟨_, byCpu, byCpu'⟩, ⟨_, byMemory, byMemory'⟩⟩
  · rintro ⟨⟨_, enabled, enabled'⟩, ⟨_, byCpu, byCpu'⟩, ⟨_, byMemory, byMemory'⟩⟩
    refine ⟨_, enabled, _, byCpu, _, byMemory, ?_⟩
    exact bind_eq_some enabled' <| bind_eq_some byCpu' <| bind_eq_some byMemory' rfl

end TopRule

namespace Config

def names : List String :=
  ["procs", "env_whitelist", "cache_cmdline", "cpu_ticks", "enable_network", "network_metrics",
    "enable_cgroups", "hostfs", "interval_seconds", "log_level", "include_top", "cgroups"]

/-- Every field goes by its name and, if that has underscores, by the name with hyphens. -/
theorem fields_eq : fields = names.map spellings := by decide

/-- The fields of the control group settings. -/
def cgroupsNames : List String := ["ignore_root_cgroups"]

theorem cgroupsFields_eq :
    [["ignore_root_cgroups", "ignore-root-cgroups"]] = cgroupsNames.map spellings := by decide

/-- Each field of the configuration is read from the members. -/
@[mk_iff]
structure ReadFrom (ms : List (String × Json)) (c : Config) : Prop where
  procs : Slot.field? ms "procs" [".*"] records.texts? = some c.procs
  envWhitelist : Slot.field? ms "env_whitelist" [] records.texts? = some c.envWhitelist
  cacheIdentity : Slot.field? ms "cache_cmdline" true records.toBool? = some c.cacheIdentity
  reportTicks : Slot.field? ms "cpu_ticks" false records.toBool? = some c.reportTicks
  enableNetwork : Slot.field? ms "enable_network" false records.toBool? = some c.enableNetwork
  networkMetrics : Slot.field? ms "network_metrics" none (records.optional? records.texts?) =
    some c.networkMetrics
  enableCgroups : Slot.field? ms "enable_cgroups" false records.toBool? = some c.enableCgroups
  hostfs : Slot.field? ms "hostfs" "/" records.toString? = some c.hostfs
  intervalSeconds : Slot.field? ms "interval_seconds" 10 records.toUInt64? =
    some c.intervalSeconds
  logLevel : Slot.field? ms "log_level" none (records.optional? records.toString?) =
    some c.logLevel
  top : Slot.field? ms "include_top" .off (TopRule.ofRecord? records) = some c.top
  ignoreRootCgroups : Slot.field? ms "cgroups" true (cgroupsOfRecord? records) =
    some c.ignoreRootCgroups

theorem cgroupsOfRecord?_obj_iff {ms : List (String × Json)} {b : Bool} :
    cgroupsOfRecord? records (.obj ms) = some b ↔
      Slot.field? ms "ignore_root_cgroups" true records.toBool? = some b := by
  refine Option.bind_eq_some_iff.trans ?_
  simp only [cgroupsFields_eq, Json.slots?_eq_some_iff, cgroupsNames, exists_forall₂_cons,
    exists_forall₂_nil, Slot.field?_eq_some_iff]

/-- All slots are read before the first field is, but what is read is the same. -/
theorem ofJson?_obj_iff {ms : List (String × Json)} {c : Config} :
    ofJson? (.obj ms) = some c ↔ ReadFrom ms c := by
  refine Option.bind_eq_some_iff.trans ?_
  simp only [fields_eq, Json.slots?_eq_some_iff, names, exists_forall₂_cons, exists_forall₂_nil,
    readFrom_iff, Slot.field?_eq_some_iff]
  constructor
  · rintro ⟨_, procs, _, env, _, identity, _, ticks, _, network, _, metrics, _, cgroups, _, host, _,
      interval, _, level, _, top, _, root, read⟩
    obtain ⟨_, procs', read⟩ := Option.bind_eq_some_iff.1 read
    obtain ⟨_, env', read⟩ := Option.bind_eq_some_iff.1 read
    obtain ⟨_, identity', read⟩ := Option.bind_eq_some_iff.1 read
    obtain ⟨_, ticks', read⟩ := Option.bind_eq_some_iff.1 read
    obtain ⟨_, network', read⟩ := Option.bind_eq_some_iff.1 read
    obtain ⟨_, metrics', read⟩ := Option.bind_eq_some_iff.1 read
    obtain ⟨_, cgroups', read⟩ := Option.bind_eq_some_iff.1 read
    obtain ⟨_, host', read⟩ := Option.bind_eq_some_iff.1 read
    obtain ⟨_, interval', read⟩ := Option.bind_eq_some_iff.1 read
    obtain ⟨_, level', read⟩ := Option.bind_eq_some_iff.1 read
    obtain ⟨_, top', read⟩ := Option.bind_eq_some_iff.1 read
    obtain ⟨_, root', read⟩ := Option.bind_eq_some_iff.1 read
    obtain rfl := Option.some.inj read
    exact ⟨⟨_, procs, procs'⟩, ⟨_, env, env'⟩, ⟨_, identity, identity'⟩, ⟨_, ticks, ticks'⟩,
      ⟨_, network, network'⟩, ⟨_, metrics, metrics'⟩, ⟨_, cgroups, cgroups'⟩, ⟨_, host, host'⟩,
      ⟨_, interval, interval'⟩, ⟨_, level, level'⟩, ⟨_, top, top'⟩, ⟨_, root, root'⟩⟩
  · rintro ⟨⟨_, procs, procs'⟩, ⟨_, env, env'⟩, ⟨_, identity, identity'⟩, ⟨_, ticks, ticks'⟩,
      ⟨_, network, network'⟩, ⟨_, metrics, metrics'⟩, ⟨_, cgroups, cgroups'⟩, ⟨_, host, host'⟩,
      ⟨_, interval, interval'⟩, ⟨_, level, level'⟩, ⟨_, top, top'⟩, ⟨_, root, root'⟩⟩
    refine ⟨_, procs, _, env, _, identity, _, ticks, _, network, _, metrics, _, cgroups, _, host, _,
      interval, _, level, _, top, _, root, ?_⟩
    exact bind_eq_some procs' <| bind_eq_some env' <| bind_eq_some identity' <|
      bind_eq_some ticks' <| bind_eq_some network' <| bind_eq_some metrics' <|
      bind_eq_some cgroups' <| bind_eq_some host' <| bind_eq_some interval' <|
      bind_eq_some level' <| bind_eq_some top' <| bind_eq_some root' rfl

/-- What a text in JSON is read as. -/
theorem parse_json {path : String} (json : ConfigFormat.ofPath path = .json) (cs : List Char) :
    parse path cs =
      ((Json.parse? cs).bind ofJson?).elim (.error (ConfigError.malformed path)) .ok := by
  have text : read? (.ofPath path) cs = (Json.parse? cs).bind ofJson? := by
    rw [json]
    rfl
  delta parse
  rw [text]
  cases (Json.parse? cs).bind ofJson? <;> rfl

end Config

end ProcMeter
