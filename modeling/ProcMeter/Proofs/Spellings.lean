import ProcMeter.Config.Printer
import ProcMeter.Proofs.ConfigFields
import ProcMeter.Proofs.JsonText
import ProcMeter.Proofs.RoundTrip

/-! Spellings of a configuration. Its members may stand in any order, each under its name or with
hyphens for underscores, among members of other names; all of these are read as the configuration.
An object that gives a field under both of its names is none. -/
namespace ProcMeter

/-- `ms'` has the members of `ms` in any order, each under a spelling of its name and with a value
that is alike, among others that spell none of the names. -/
def Respelled {V : Type} (names : List String) (alike : String → V → V → Prop)
    (ms ms' : List (String × V)) : Prop :=
  ∃ named others, ms'.Perm (named ++ others) ∧
    List.Forall₂ (fun m m' => m.1 ∈ names ∧ m'.1 ∈ spellings m.1 ∧ alike m.1 m.2 m'.2) ms named ∧
    ∀ m ∈ others, ∀ n ∈ names, m.1 ∉ spellings n

/-- No two names have a spelling in common. -/
def Separate (names : List String) : Prop :=
  ∀ a ∈ names, ∀ b ∈ names, ∀ n ∈ spellings a, n ∈ spellings b → a = b

instance (names : List String) : Decidable (Separate names) :=
  inferInstanceAs (Decidable (∀ a ∈ names, ∀ b ∈ names, ∀ n ∈ spellings a, n ∈ spellings b → a = b))

namespace Slot

variable {V α : Type}

theorem valuesOf_perm {ms ms' : List (String × V)} (perm : ms.Perm ms') (name : String) :
    (valuesOf ms name).Perm (valuesOf ms' name) := (perm.filter _).map _

theorem valuesOf_append (ms ms' : List (String × V)) (name : String) :
    valuesOf (ms ++ ms') name = valuesOf ms name ++ valuesOf ms' name := by
  rw [valuesOf, List.filter_append, List.map_append, valuesOf, valuesOf]

/-- Members under other spellings of their names go with the same fields. -/
theorem valuesOf_spelled {names : List String} (separate : Separate names)
    {alike : String → V → V → Prop} {ms named : List (String × V)}
    (spelled : List.Forall₂
      (fun m m' => m.1 ∈ names ∧ m'.1 ∈ spellings m.1 ∧ alike m.1 m.2 m'.2) ms named)
    {name : String} (mem : name ∈ names) :
    List.Forall₂ (alike name) (valuesOf ms name) (valuesOf named name) := by
  induction spelled with
  | nil => exact .nil
  | @cons m m' ms named first _ ih =>
    obtain ⟨known, spells, related⟩ := first
    have self : m.1 ∈ spellings m.1 := mem_spellings.2 (.inl rfl)
    rw [valuesOf_cons, valuesOf_cons]
    by_cases same : m.1 = name
    · subst same
      rw [if_pos self, if_pos spells]
      exact .cons related ih
    · have own : m.1 ∉ spellings name := fun spelled => same (separate _ known _ mem _ self spelled)
      have other : m'.1 ∉ spellings name := fun spelled =>
        same (separate _ known _ mem _ spells spelled)
      rw [if_neg own, if_neg other]
      exact ih

/-- Values that are decoded alike are read alike. -/
theorem ofValues?_bind_congr {default : α} {dec : V → Option α} {vs vs' : List V}
    (same : List.Forall₂ (fun v v' => dec v' = dec v) vs vs') :
    ((ofValues? vs').bind fun s => s.orDefault? default dec) =
      (ofValues? vs).bind fun s => s.orDefault? default dec := by
  match vs, vs', same with
  | [], [], .nil => rfl
  | [_], [_], .cons first .nil => exact first
  | _ :: _ :: _, _ :: _ :: _, .cons _ (.cons _ _) => rfl

theorem field?_respelled {names : List String} (separate : Separate names)
    {alike : String → V → V → Prop} {ms ms' : List (String × V)}
    (respelled : Respelled names alike ms ms') {name : String} (mem : name ∈ names)
    {default : α} {dec : V → Option α} (same : ∀ v v', alike name v v' → dec v' = dec v) :
    field? ms' name default dec = field? ms name default dec := by
  obtain ⟨named, others, perm, spelled, foreign⟩ := respelled
  have alone : valuesOf others name = [] :=
    valuesOf_of_unset fun m member => foreign m member name mem
  have values : (valuesOf ms' name).Perm (valuesOf named name) := by
    have split := valuesOf_perm perm name
    rwa [valuesOf_append, alone, List.append_nil] at split
  rw [field?, field?, ofMembers?_spellings, ofMembers?_spellings, ofValues?_perm values]
  exact ofValues?_bind_congr ((valuesOf_spelled separate spelled mem).imp same)

end Slot

open Json (records)

/-- An object that is respelled, its values being the same. -/
def Json.SameRecord (names : List String) (v v' : Json) : Prop :=
  ∃ ms ms', v = .obj ms ∧ v' = .obj ms' ∧ Respelled names (fun _ => Eq) ms ms'

namespace TopRule

theorem ofRecord?_sameRecord {v v' : Json} (same : Json.SameRecord names v v') :
    ofRecord? records v' = ofRecord? records v := by
  obtain ⟨ms, ms', rfl, rfl, respelled⟩ := same
  have separate : Separate names := by decide +kernel
  have field {α : Type} {n : String} (mem : n ∈ names) (default : α) (dec : Json → Option α) :
      Slot.field? ms' n default dec = Slot.field? ms n default dec :=
    Slot.field?_respelled separate respelled mem fun _ _ equal => congrArg dec equal.symm
  refine Option.ext fun r => ofRecord?_obj_iff.trans (Iff.trans ?_ ofRecord?_obj_iff.symm)
  rw [readFrom_iff, readFrom_iff, field (by decide), field (by decide), field (by decide)]

end TopRule

namespace Config

theorem cgroupsOfRecord?_sameRecord {v v' : Json} (same : Json.SameRecord cgroupsNames v v') :
    cgroupsOfRecord? records v' = cgroupsOfRecord? records v := by
  obtain ⟨ms, ms', rfl, rfl, respelled⟩ := same
  have separate : Separate cgroupsNames := by decide
  refine Option.ext fun b =>
    cgroupsOfRecord?_obj_iff.trans (Iff.trans ?_ cgroupsOfRecord?_obj_iff.symm)
  rw [Slot.field?_respelled separate respelled (by decide) fun _ _ equal => congrArg _ equal.symm]

/-- Values of a field that differ at most in how the members of a record in it are spelled. -/
def Alike (name : String) (v v' : Json) : Prop :=
  if name = "include_top" then Json.SameRecord TopRule.names v v'
  else if name = "cgroups" then Json.SameRecord cgroupsNames v v'
  else v' = v

/-- The fields that hold no records. -/
def flatNames : List String := names.take 10

theorem alike_iff {name : String} (flat : name ∈ flatNames) {v v' : Json} :
    Alike name v v' ↔ v' = v := by
  have others : ∀ n ∈ flatNames, n ≠ "include_top" ∧ n ≠ "cgroups" := by decide
  obtain ⟨top, root⟩ := others name flat
  rw [Alike, if_neg top, if_neg root]

theorem ReadFrom.respelled {ms ms' : List (String × Json)} {c : Config} (read : ReadFrom ms c)
    (respelled : Respelled names Alike ms ms') : ReadFrom ms' c := by
  have separate : Separate names := by decide +kernel
  have field {α : Type} {n : String} (mem : n ∈ names) {default : α} {dec : Json → Option α}
      (same : ∀ v v', Alike n v v' → dec v' = dec v) :
      Slot.field? ms' n default dec = Slot.field? ms n default dec :=
    Slot.field?_respelled separate respelled mem same
  have plain {α : Type} {n : String} (mem : n ∈ flatNames) {default : α} {dec : Json → Option α} :
      Slot.field? ms' n default dec = Slot.field? ms n default dec :=
    field (List.mem_of_mem_take mem) fun v v' alike => congrArg dec ((alike_iff mem).1 alike)
  have topAlike (v v' : Json) (alike : Alike "include_top" v v') :
      TopRule.ofRecord? records v' = TopRule.ofRecord? records v := by
    rw [Alike, if_pos rfl] at alike
    exact TopRule.ofRecord?_sameRecord alike
  have rootAlike (v v' : Json) (alike : Alike "cgroups" v v') :
      cgroupsOfRecord? records v' = cgroupsOfRecord? records v := by
    rw [Alike, if_neg (by decide), if_pos rfl] at alike
    exact cgroupsOfRecord?_sameRecord alike
  exact
    { procs := (plain (by decide)).trans read.procs
      envWhitelist := (plain (by decide)).trans read.envWhitelist
      cacheIdentity := (plain (by decide)).trans read.cacheIdentity
      reportTicks := (plain (by decide)).trans read.reportTicks
      enableNetwork := (plain (by decide)).trans read.enableNetwork
      networkMetrics := (plain (by decide)).trans read.networkMetrics
      enableCgroups := (plain (by decide)).trans read.enableCgroups
      hostfs := (plain (by decide)).trans read.hostfs
      intervalSeconds := (plain (by decide)).trans read.intervalSeconds
      logLevel := (plain (by decide)).trans read.logLevel
      top := (field (by decide) topAlike).trans read.top
      ignoreRootCgroups := (field (by decide) rootAlike).trans read.ignoreRootCgroups }

/-- The members of the rendering. -/
def members (c : Config) : List (String × Json) :=
  [("procs", .strings c.procs), ("env_whitelist", .strings c.envWhitelist),
    ("cache_cmdline", .bool c.cacheIdentity), ("cpu_ticks", .bool c.reportTicks),
    ("enable_network", .bool c.enableNetwork),
    ("network_metrics", .ofOption .strings c.networkMetrics),
    ("enable_cgroups", .bool c.enableCgroups), ("hostfs", .str c.hostfs),
    ("interval_seconds", .ofUInt64 c.intervalSeconds),
    ("log_level", .ofOption .str c.logLevel), ("include_top", c.top.toJson),
    ("cgroups", .obj [("ignore_root_cgroups", .bool c.ignoreRootCgroups)])]

theorem toJson_eq (c : Config) : c.toJson = .obj c.members := rfl

theorem texts?_strings (xs : List String) : records.texts? (.strings xs) = some xs :=
  Json.toList?_map fun _ _ => rfl

theorem ofJson?_toJson (c : Config) : ofJson? c.toJson = some c := by
  have slots : records.slots? fields c.toJson = some (c.members.map fun m => .given m.2) := rfl
  have metrics : records.optional? records.texts? (.ofOption .strings c.networkMetrics) =
      some c.networkMetrics := by
    cases c.networkMetrics with
    | none => rfl
    | some xs => exact congrArg (Option.map some) (texts?_strings xs)
  have level : records.optional? records.toString? (.ofOption .str c.logLevel) =
      some c.logLevel := by
    cases c.logLevel <;> rfl
  -- One step for the slots, and then one for each field in its order.
  exact bind_eq_some slots <| bind_eq_some (texts?_strings _) <| bind_eq_some (texts?_strings _) <|
    bind_eq_some rfl <| bind_eq_some rfl <| bind_eq_some rfl <| bind_eq_some metrics <|
    bind_eq_some rfl <| bind_eq_some rfl <| bind_eq_some (Json.toUInt64?_ofUInt64 _) <|
    bind_eq_some level <| bind_eq_some c.top.ofJson?_toJson <| bind_eq_some rfl rfl

/-- The value spells the configuration: it has the members of the rendering, respelled. -/
def Spelled (c : Config) (v : Json) : Prop :=
  ∃ ms, v = .obj ms ∧ Respelled names Alike c.members ms

theorem ofJson?_of_spelled {c : Config} {v : Json} (spelled : c.Spelled v) :
    ofJson? v = some c := by
  obtain ⟨ms, rfl, respelled⟩ := spelled
  have read := c.ofJson?_toJson
  rw [toJson_eq] at read
  exact ofJson?_obj_iff.2 ((ofJson?_obj_iff.1 read).respelled respelled)

/-- Only strings and whole numbers stand in the rendering. -/
theorem toJson_plain (c : Config) : c.toJson.Plain := by
  simp [toJson, TopRule.toJson, Json.ofUInt64, Json.plain_ofOption Json.plain_strings,
    Json.plain_ofOption Json.Plain.str]

end Config

/-! ## Both spellings at once -/

/-- Some field stands under both of its names. -/
def Twice {V : Type} (names : List String) (ms : List (String × V)) : Prop :=
  ∃ n ∈ names, hyphenated n ≠ n ∧ n ∈ ms.map Prod.fst ∧ hyphenated n ∈ ms.map Prod.fst

theorem Slot.ofMembers?_of_both {V : Type} {ms : List (String × V)} {name : String}
    (differ : hyphenated name ≠ name) (plain : name ∈ ms.map Prod.fst)
    (hyphens : hyphenated name ∈ ms.map Prod.fst) : ofMembers? ms (spellings name) = none := by
  have among {n : String} (mem : n ∈ ms.map Prod.fst) (spelled : n ∈ spellings name) :
      n ∈ (ms.filter fun m => (spellings name).contains m.1).map Prod.fst := by
    obtain ⟨m, member, rfl⟩ := List.mem_map.1 mem
    exact List.mem_map_of_mem (List.mem_filter.2 ⟨member, List.contains_iff_mem.2 spelled⟩)
  have first := among plain (mem_spellings.2 (.inl rfl))
  have second := among hyphens (mem_spellings.2 (.inr rfl))
  rw [ofMembers?]
  generalize ms.filter (fun m => (spellings name).contains m.1) = named at first second ⊢
  rcases named with _ | ⟨m, _ | ⟨m', rest⟩⟩
  · contradiction
  · exact absurd ((List.mem_singleton.1 second).trans (List.mem_singleton.1 first).symm) differ
  · rfl

theorem Json.slots?_of_twice {names : List String} {ms : List (String × Json)}
    (twice : Twice names ms) : records.slots? (names.map spellings) (.obj ms) = none := by
  obtain ⟨n, mem, differ, plain, hyphens⟩ := twice
  exact mapM_eq_none (List.mem_map_of_mem mem) (Slot.ofMembers?_of_both differ plain hyphens)

namespace Config

/-- A field of the configuration, or of a record in it, stands under both of its names. -/
inductive Doubled (ms : List (String × Json)) : Prop
  | field (twice : Twice names ms)
  | top {n : String} {ts : List (String × Json)} (mem : (n, .obj ts) ∈ ms)
      (spelled : n ∈ spellings "include_top") (twice : Twice TopRule.names ts)
  | cgroups {n : String} {gs : List (String × Json)} (mem : (n, .obj gs) ∈ ms)
      (spelled : n ∈ spellings "cgroups") (twice : Twice cgroupsNames gs)

/-- The slots of a record come first, and there are none. -/
theorem ofJson?_of_doubled {ms : List (String × Json)} (doubled : Doubled ms) :
    ofJson? (.obj ms) = none := by
  refine Option.eq_none_iff_forall_ne_some.2 fun c read => ?_
  cases doubled with
  | field twice =>
    obtain ⟨_, slots, -⟩ := Option.bind_eq_some_iff.1 read
    rw [fields_eq, Json.slots?_of_twice twice] at slots
    contradiction
  | top mem spelled twice =>
    have top := Slot.dec_of_mem mem spelled (ofJson?_obj_iff.1 read).top
    obtain ⟨_, slots, -⟩ := Option.bind_eq_some_iff.1 top
    rw [TopRule.fields_eq, Json.slots?_of_twice twice] at slots
    contradiction
  | cgroups mem spelled twice =>
    have root := Slot.dec_of_mem mem spelled (ofJson?_obj_iff.1 read).ignoreRootCgroups
    obtain ⟨_, slots, -⟩ := Option.bind_eq_some_iff.1 root
    rw [cgroupsFields_eq, Json.slots?_of_twice twice] at slots
    contradiction

/-- A configuration is read from its rendering, and from every text of a value that spells it; a
text that gives a field under both of its names is refused. -/
theorem spellings_read (path : String) (json : ConfigFormat.ofPath path = .json) (c : Config) :
    parse path (render .json c).toList = .ok c ∧
    (∀ (v : Json) (cs : List Char), c.Spelled v → Json.parse? cs = some v →
      parse path cs = .ok c) ∧
    (∀ v : Json, c.Spelled v → v.Plain → parse path v.pretty.toList = .ok c) ∧
    (∀ (ms : List (String × Json)) (cs : List Char), Doubled ms →
      Json.parse? cs = some (.obj ms) → parse path cs = .error (.malformed path)) := by
  have read {v : Json} {cs : List Char} (text : Json.parse? cs = some v)
      (made : ofJson? v = some c) : parse path cs = .ok c := by
    rw [parse_json json, text, Option.bind_some, made]
    rfl
  refine ⟨?_, fun v cs spelled text => ?_, fun v spelled plain => ?_, fun ms cs doubled text => ?_⟩
  · exact read (Json.parse?_pretty c.toJson_plain) c.ofJson?_toJson
  · exact read text (ofJson?_of_spelled spelled)
  · exact read (Json.parse?_pretty plain) (ofJson?_of_spelled spelled)
  · rw [parse_json json, text, Option.bind_some, ofJson?_of_doubled doubled]
    rfl

/-- The members in reverse and with hyphens, also within the records, among members of other
names. -/
def reversed : List (String × Json) :=
  [("note", .arr [.ofNat 1]), ("cgroups", .obj [("ignore-root-cgroups", .bool true)]),
    ("include-top", .obj [("x", .null), ("by-memory", .ofNat 0), ("by-cpu", .ofNat 5),
      ("enabled", .bool true)]),
    ("log-level", .str "info"), ("interval-seconds", .ofNat 10), ("hostfs", .str "/"),
    ("enable-cgroups", .bool false), ("network-metrics", .null), ("enable-network", .bool false),
    ("cpu-ticks", .bool false), ("cache-cmdline", .bool true), ("env-whitelist", .arr []),
    ("procs", .arr [.str ".*"])]

theorem reversed_plain : (Json.obj reversed).Plain := by simp [reversed]

theorem reversed_spelled : { default with top := ⟨true, 5, 0⟩ }.Spelled (.obj reversed) := by
  have flat {n n' : String} {v : Json} (mem : n ∈ flatNames) (spells : n' ∈ spellings n) :
      n ∈ names ∧ n' ∈ spellings n ∧ Alike n v v :=
    ⟨List.mem_of_mem_take mem, spells, (alike_iff mem).2 rfl⟩
  have top : Alike "include_top" (TopRule.toJson ⟨true, 5, 0⟩)
      (.obj [("x", .null), ("by-memory", .ofNat 0), ("by-cpu", .ofNat 5),
        ("enabled", .bool true)]) :=
    ⟨_, _, rfl, rfl, [("enabled", .bool true), ("by-cpu", .ofNat 5), ("by-memory", .ofNat 0)],
      [("x", .null)], (List.reverse_perm _).symm,
      .cons ⟨by decide, by decide, rfl⟩ <| .cons ⟨by decide, by decide, rfl⟩ <|
        .cons ⟨by decide, by decide, rfl⟩ .nil, by decide⟩
  have root : Alike "cgroups" (.obj [("ignore_root_cgroups", .bool true)])
      (.obj [("ignore-root-cgroups", .bool true)]) :=
    ⟨_, _, rfl, rfl, [("ignore-root-cgroups", .bool true)], [], (List.reverse_perm _).symm,
      .cons ⟨by decide, by decide, rfl⟩ .nil, List.forall_mem_nil _⟩
  refine ⟨_, rfl, reversed.tail.reverse, [("note", .arr [.ofNat 1])],
    (List.reverse_perm _).symm, ?_, by decide⟩
  exact .cons (flat (by decide) (by decide)) <| .cons (flat (by decide) (by decide)) <|
    .cons (flat (by decide) (by decide)) <| .cons (flat (by decide) (by decide)) <|
    .cons (flat (by decide) (by decide)) <| .cons (flat (by decide) (by decide)) <|
    .cons (flat (by decide) (by decide)) <| .cons (flat (by decide) (by decide)) <|
    .cons (flat (by decide) (by decide)) <| .cons (flat (by decide) (by decide)) <|
    .cons ⟨by decide, by decide, top⟩ <| .cons ⟨by decide, by decide, root⟩ .nil

/-- Each part of `spellings_read` at work; the last text has both names within a record. -/
theorem reversed_read :
    let c := { default with top := ⟨true, 5, 0⟩ }
    let both := [("include-top", Json.obj [("by_cpu", .null), ("by-cpu", .ofNat 5)])]
    ConfigFormat.ofPath "c.json" = .json ∧ parse "c.json" (render .json c).toList = .ok c ∧
      parse "c.json" (Json.obj reversed).compact.toList = .ok c ∧
      parse "c.json" (Json.obj reversed).pretty.toList = .ok c ∧
      parse "c.json" (Json.obj both).compact.toList = .error (.malformed "c.json") := by
  intro c both
  have json : ConfigFormat.ofPath "c.json" = .json := by decide
  have doubled : Doubled both :=
    .top List.mem_cons_self (by decide) ⟨"by_cpu", by decide, by decide, by simp, by simp; decide⟩
  obtain ⟨rendered, spelled, written, refused⟩ := spellings_read "c.json" json c
  exact ⟨json, rendered, spelled _ _ reversed_spelled (Json.parse?_compact reversed_plain),
    written _ reversed_spelled reversed_plain,
    refused _ _ doubled (Json.parse?_compact (by simp [both]))⟩

end Config

end ProcMeter
