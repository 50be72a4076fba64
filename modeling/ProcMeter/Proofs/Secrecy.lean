import ProcMeter.Proofs.Simulation

/-! What whitelists hide is seen nowhere. Variables whose names no pattern of the one whitelist
matches, and network counters whose names no pattern of the other matches, have no part in anything
that is reported, kept or counted. -/
namespace ProcMeter

/-- Environments that are both there or both missing, and in which the variables that the whitelist
lets through are the same. -/
def EnvAgree (whitelist : Matcher) : Option (Dict String) → Option (Dict String) → Prop
  | some env, some env' => ∀ name, whitelist.accepts name = true → env[name]? = env'[name]?
  | none, none => True
  | _, _ => False

/-- Identities that differ in nothing but hidden variables. An empty whitelist hides the
environment as a whole. -/
structure Identity.Agree (whitelist : Matcher) (i i' : Identity) : Prop where
  username : i.username = i'.username
  cwd : i.cwd = i'.cwd
  args : i.args = i'.args
  cmdline : i.cmdline = i'.cmdline
  env : whitelist.isEmpty = false → EnvAgree whitelist i.env i'.env

/-- Answers that fail in the same way, or that are related. -/
inductive AnswersAgree {α : Type} (S : α → α → Prop) :
    Except SampleError α → Except SampleError α → Prop
  | ok {a b : α} : S a b → AnswersAgree S (.ok a) (.ok b)
  | error (err : SampleError) : AnswersAgree S (.error err) (.error err)

section
variable {α : Type} {d d' : Dict α} {keep : String → Bool}

theorem Dict.filter_name_eq_iff :
    ((d.filter fun name _ => keep name) = d'.filter fun name _ => keep name) ↔
      ∀ name, keep name = true → d[name]? = d'[name]? := by
  constructor
  · intro same name kept
    have here := congrArg (·[name]?) same
    simpa only [Dict.getElem?_filter_name, if_pos kept] using here
  · intro agree
    apply Std.ExtTreeMap.ext_getElem?
    intro name
    rw [Dict.getElem?_filter_name, Dict.getElem?_filter_name]
    split
    · exact agree name ‹_›
    · rfl

end

/-- Restricting hides what the whitelist does not let through, and nothing else. -/
theorem Identity.restrictEnv_eq_iff {whitelist : Matcher} {i i' : Identity} :
    i.restrictEnv whitelist = i'.restrictEnv whitelist ↔ Identity.Agree whitelist i i' := by
  obtain ⟨username, cwd, args, cmdline, env⟩ := i
  obtain ⟨username', cwd', args', cmdline', env'⟩ := i'
  have envs : env.map (fun e => e.filter fun name _ => whitelist.accepts name) =
      env'.map (fun e => e.filter fun name _ => whitelist.accepts name) ↔
        EnvAgree whitelist env env' := by
    cases env <;> cases env' <;> simp [EnvAgree, Dict.filter_name_eq_iff]
  constructor
  · intro same
    unfold restrictEnv at same
    split at same
    · rename_i empty
      simp only [Identity.mk.injEq] at same
      exact ⟨same.1, same.2.1, same.2.2.1, same.2.2.2.1, by simp [empty]⟩
    · simp only [Identity.mk.injEq, envs] at same
      exact ⟨same.1, same.2.1, same.2.2.1, same.2.2.2.1, fun _ => same.2.2.2.2⟩
  · rintro ⟨rfl, rfl, rfl, rfl, agree⟩
    unfold restrictEnv
    split
    · rfl
    · rename_i unempty
      rw [envs.mpr (agree (by simpa using unempty))]

namespace Network

variable {whitelist : Matcher} {m m' : NetworkCounters} {title name : String}

/-- The value of a counter. -/
def value? (m : NetworkCounters) (title name : String) : Option Int64 := m[title]?.bind (·[name]?)

/-- Counters that have the same values wherever the whitelist lets their names through. A section
without any such counter is as good as none. -/
def Agree (whitelist : Matcher) (m m' : NetworkCounters) : Prop :=
  ∀ title name, whitelist.accepts name = true → value? m title name = value? m' title name

/-- Counters of which no section is empty. -/
def Filled (m : NetworkCounters) : Prop :=
  ∀ (title : String) (s : Dict Int64), m[title]? = some s → s.isEmpty = false

theorem getElem?_restrict :
    (restrict m whitelist)[title]? =
      (m[title]?.map fun s => s.filter fun name _ => whitelist.accepts name).filter
        fun s => !s.isEmpty := by
  rw [restrict, Std.ExtTreeMap.getElem?_filter', Std.ExtTreeMap.getElem?_map]

theorem restrict_filled : Filled (restrict m whitelist) := by
  intro title s found
  rw [getElem?_restrict, Option.filter_eq_some_iff] at found
  simpa using found.2

theorem value?_restrict :
    value? (restrict m whitelist) title name =
      if whitelist.accepts name = true then value? m title name else none := by
  rw [value?, getElem?_restrict, value?]
  cases m[title]? with
  | none => simp
  | some s =>
    have kept := Dict.getElem?_filter_name s whitelist.accepts name
    simp only [Option.map_some, Option.filter_some]
    split
    · exact kept
    · rename_i empty
      simp only [Bool.not_eq_true', Bool.not_eq_false, Std.ExtTreeMap.isEmpty_iff] at empty
      rw [empty] at kept
      simpa using kept

/-- Without empty sections the values tell all. -/
theorem Filled.ext (filled : Filled m) (filled' : Filled m')
    (same : ∀ title name, value? m title name = value? m' title name) : m = m' := by
  have occupied {s : Dict Int64} (there : s.isEmpty = false) :
      ∃ name : String, s[name]? ≠ none := by
    by_contra bare
    simp only [not_exists, not_not] at bare
    have empty : s = ∅ := Std.ExtTreeMap.ext_getElem? fun name => by simpa using bare name
    simp [empty] at there
  apply Std.ExtTreeMap.ext_getElem?
  intro title
  have values := same title
  simp only [value?] at values
  cases here : m[title]? with
  | none =>
    cases there : m'[title]? with
    | none => rfl
    | some s' =>
      obtain ⟨name, found⟩ := occupied (filled' title s' there)
      simp only [here, there, Option.bind_none, Option.bind_some] at values
      exact absurd (values name).symm found
  | some s =>
    cases there : m'[title]? with
    | none =>
      obtain ⟨name, found⟩ := occupied (filled title s here)
      simp only [here, there, Option.bind_none, Option.bind_some] at values
      exact absurd (values name) found
    | some s' =>
      simp only [here, there, Option.bind_some] at values
      exact congrArg some (Std.ExtTreeMap.ext_getElem? fun name => values name)

/-- Restricting hides what the whitelist does not let through, and nothing else. -/
theorem restrict_eq_iff : restrict m whitelist = restrict m' whitelist ↔ Agree whitelist m m' := by
  constructor
  · intro same title name accepted
    have here := congrArg (value? · title name) same
    simpa only [value?_restrict, if_pos accepted] using here
  · intro agree
    apply restrict_filled.ext restrict_filled
    intro title name
    rw [value?_restrict, value?_restrict]
    split
    · exact agree title name ‹_›
    · rfl

/-- Counters that agree as far as they are reported: all of them, unless there is a whitelist. -/
def ReportedAgree : Option Matcher → NetworkCounters → NetworkCounters → Prop
  | some whitelist => Agree whitelist
  | none => Eq

end Network

namespace Engine

variable {σ τ : Type} {R : σ → τ → Prop} {Clock : Float → Float → Prop}
  {part : Counters → Counters} {e : Engine (StateM σ)} {f : Engine (StateM τ)}

/-- Engines with the same rules, whose sources answer alike but for what the rules hide. -/
structure DifferInHidden (R : σ → τ → Prop) (e : Engine (StateM σ)) (f : Engine (StateM τ)) :
    Prop where
  rules : e.rules = f.rules
  pids : Alike R e.source.pids f.source.pids
  status : ∀ pid, Alike R (e.source.status pid) (f.source.status pid)
  sample : ∀ pid, Alike R (e.source.sample pid) (f.source.sample pid)
  identity : ∀ pid, Lockstep R (AnswersAgree (Identity.Agree e.rules.envWhitelist))
    (e.source.identity pid) (f.source.identity pid)
  host : Alike R e.source.host f.source.host
  network : Option.Rel (fun source source' => ∀ pid,
    Lockstep R (AnswersAgree (Network.ReportedAgree e.rules.networkMetrics)) (source pid)
      (source' pid)) e.network f.network
  cgroups : Option.Rel (fun source source' => ∀ pid, Alike R (source pid) (source' pid))
    e.cgroups f.cgroups
  stopwatch : Lockstep R (fun _ _ => True) e.stopwatch f.stopwatch

namespace DifferInHidden

variable (hidden : e.DifferInHidden R f)
include hidden

/-- An identity is restricted as soon as it is read. -/
theorem readIdentity (pid : Pid) : Alike R (e.readIdentity pid) (f.readIdentity pid) := by
  unfold Engine.readIdentity
  rw [← hidden.rules]
  refine (hidden.identity pid).bind ?_
  rintro _ _ (⟨agree⟩ | ⟨err⟩)
  · dsimp only
    rw [Identity.restrictEnv_eq_iff.mpr agree]
    exact .pure rfl
  · dsimp only
    split
    · exact .pure rfl
    · exact .pure rfl

theorem networkFor (pid : Pid) : Alike R (e.networkFor pid) (f.networkFor pid) := by
  unfold Engine.networkFor
  rw [← hidden.rules]
  have network := hidden.network
  generalize e.network = mine at network ⊢
  generalize f.network = theirs at network ⊢
  cases network with
  | none => exact .pure _
  | some both =>
    refine (both pid).bind ?_
    rintro _ _ (agree | err)
    · cases listed : e.rules.networkMetrics with
      | none =>
        rw [listed] at agree
        obtain rfl := agree
        exact .pure rfl
      | some whitelist =>
        rw [listed] at agree
        dsimp only
        rw [Network.restrict_eq_iff.mpr agree]
        exact .pure rfl
    · exact .pure rfl

theorem cgroupFor (pid : Pid) : Alike R (e.cgroupFor pid) (f.cgroupFor pid) := by
  unfold Engine.cgroupFor
  have cgroups := hidden.cgroups
  generalize e.cgroups = mine at cgroups ⊢
  generalize f.cgroups = theirs at cgroups ⊢
  cases cgroups with
  | none => exact .pure _
  | some both =>
    refine (both pid).bind fun answer => ?_
    cases answer with
    | error err => exact .pure _
    | ok info => exact .pure _

/-- The clocks decide which part of the counters can be looked at. -/
theorem simulates (looks : Counters.Timed Clock part)
    (stopwatch : Lockstep R Clock e.stopwatch f.stopwatch) : e.Simulates R Clock id part f :=
  simulates_whole looks hidden.rules hidden.pids hidden.status hidden.host stopwatch
    fun registry host status => fill_alike hidden.rules (hidden.sample status.pid)
      (hidden.readIdentity status.pid) (hidden.networkFor status.pid) (hidden.cgroupFor status.pid)
      registry host

theorem simulates_untimed : e.Simulates R (fun _ _ => True) id Counters.untimed f :=
  hidden.simulates Counters.untimed_timed hidden.stopwatch

end DifferInHidden

/-- What whitelists hide never shows. Take two runs of the same calls by the same rules, where all
answers are the same but for variables that the whitelist of variables hides, and for counters that
the whitelist of counters hides, if there is one. After every call the registries are equal and so
are the counts, and even all counters where the clocks show the same; and the next call has the same
reply. -/
theorem hidden_data_never_shows (hidden : e.DifferInHidden R f) {turns : List (Turn σ)}
    {turns' : List (Turn τ)} (alongside : List.Forall₂ (Turn.Alongside R) turns turns') :
    (e.run turns).registry = (f.run turns').registry ∧
      (e.run turns).counters.untimed = (f.run turns').counters.untimed ∧
      (Alike R e.stopwatch f.stopwatch → (e.run turns).counters = (f.run turns').counters) ∧
      ∀ t t', Turn.Alongside R t t' → e.reply (e.run turns) t = f.reply (f.run turns') t' := by
  have agree := hidden.simulates_untimed.run alongside
  have registries := agree.registry
  rw [Registry.seen_id, Registry.seen_id] at registries
  refine ⟨registries, agree.counters, ?_, ?_⟩
  · exact fun clock => ((hidden.simulates Counters.whole_timed clock).run alongside).counters
  · intro t t' both
    have replies := hidden.simulates_untimed.reply agree both
    rwa [Reply.seen_id, Reply.seen_id] at replies

end Engine

/-- Its process has a secret, which stands in a variable and names a section of counters. -/
def Solo.keeping (secret : String) : Engine (StateM Solo) :=
  { Solo.engine with
    rules :=
      { Solo.engine.rules with
        envWhitelist := ⟨[(· == "PATH")]⟩
        networkMetrics := some ⟨[(· == "InOctets")]⟩ }
    source :=
      { Solo.source with
        identity := fun _ w =>
          (.ok ⟨some "root", none, ["worker"], some "worker",
            some (.ofList [("PATH", "/bin"), ("TOKEN", secret)])⟩, w) }
    network := some fun _ w =>
      (.ok (.ofList [("ip", .ofList [("InOctets", 7), ("OutOctets", 8)]),
        (secret, .ofList [("ActiveOpens", 9)])]), w) }

theorem Solo.differInHidden :
    (Solo.keeping "alpha").DifferInHidden Eq (Solo.keeping "beta") where
  rules := rfl
  pids := .refl _
  status _ := .refl _
  sample _ := .refl _
  identity := by
    rintro pid w _ rfl
    exact ⟨.ok (Identity.restrictEnv_eq_iff.mp (by decide +kernel)), rfl⟩
  host := .refl _
  network := by
    refine .some fun pid => ?_
    rintro w _ rfl
    exact ⟨.ok (Network.restrict_eq_iff.mp (by decide +kernel)), rfl⟩
  cgroups := .none
  stopwatch := (Alike.refl Solo.engine.stopwatch).lockstep.mono fun _ _ _ => trivial

/-- Two secrets, and one registry. -/
theorem Engine.solo_hidden_data_never_shows :
    let turns : List (Turn Solo) := [⟨.cycle, .running 5 1⟩, ⟨.cycle, .running 9 2⟩]
    let next : Turn Solo := ⟨.one 7, .running 12 3⟩
    let r := (Solo.keeping "alpha").run turns
    let r' := (Solo.keeping "beta").run turns
    (Solo.keeping "alpha").DifferInHidden Eq (Solo.keeping "beta") ∧
      List.Forall₂ (Turn.Alongside Eq) turns turns ∧
      Alike Eq (Solo.keeping "alpha").stopwatch (Solo.keeping "beta").stopwatch ∧
      r.registry = r'.registry ∧ r.counters = r'.counters ∧
      (r'.registry.get? 7).bind (fun s => s.identity.env.map fun env => env.toList) =
        some [("PATH", "/bin")] ∧
      (Solo.keeping "alpha").reply r next = (Solo.keeping "beta").reply r' next := by
  intro turns next r r'
  have alongside : List.Forall₂ (Turn.Alongside Eq) turns turns :=
    List.forall₂_same.mpr fun _ _ => ⟨rfl, rfl⟩
  obtain ⟨registries, _, counters, replies⟩ :=
    hidden_data_never_shows Solo.differInHidden alongside
  exact ⟨Solo.differInHidden, alongside, .refl _, registries, counters (.refl _),
    by decide +kernel, replies next next ⟨rfl, rfl⟩⟩

end ProcMeter
