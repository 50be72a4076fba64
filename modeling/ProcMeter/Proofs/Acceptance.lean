import ProcMeter.Program

/-! A configuration is accepted only if an engine can be built from it. Checking and building go
through the same pattern lists in two orders, so they may refuse a configuration for different
patterns, but never one without the other. -/
namespace ProcMeter

namespace Config

variable {compile : String → Option (String → Bool)} {α β : Type} {c : Config}

/-- Every pattern of a configuration compiles. -/
structure Compiles (compile : String → Option (String → Bool)) (c : Config) : Prop where
  procs : ∀ s ∈ c.procs, (compile s).isSome
  envWhitelist : ∀ s ∈ c.envWhitelist, (compile s).isSome
  networkMetrics : ∀ list ∈ c.networkMetrics, ∀ s ∈ list, (compile s).isSome

/-- An engine can be built: it gets its rules. -/
def Builds (compile : String → Option (String → Bool)) (c : Config) : Prop :=
  ∃ rules, c.rules compile = .ok rules

def inList (list : PatternList) (patterns : List String) : List (PatternList × String) :=
  patterns.map fun s => (list, s)

/-- All patterns, in the order in which they are checked. -/
def checkOrder (c : Config) : List (PatternList × String) :=
  inList .procs c.procs ++ inList .envWhitelist c.envWhitelist ++
    inList .networkMetrics (c.networkMetrics.getD [])

/-- All patterns, in the order in which rules are made of them. -/
def buildOrder (c : Config) : List (PatternList × String) :=
  inList .networkMetrics (c.networkMetrics.getD []) ++ inList .procs c.procs ++
    inList .envWhitelist c.envWhitelist

def firstRefused (compile : String → Option (String → Bool)) (row : List (PatternList × String)) :
    Option (PatternList × String) :=
  row.find? fun p => (compile p.2).isNone

/-- An outcome of compiling a row of patterns: `Done` if all of them compile, and otherwise an
error that names the first that does not. -/
def Outcome (compile : String → Option (String → Bool)) (row : List (PatternList × String))
    (Done : Except ConfigError α → Prop) (x : Except ConfigError α) : Prop :=
  match firstRefused compile row with
  | none => Done x
  | some p => x = .error (.invalidPattern p.1 p.2)

def Good (x : Except ConfigError α) : Prop := ∃ a, x = .ok a

theorem Outcome.nil {Done : Except ConfigError α → Prop} {x : Except ConfigError α}
    (done : Done x) : Outcome compile [] Done x := done

theorem Outcome.bind {first second : List (PatternList × String)}
    {Done : Except ConfigError β → Prop} {x : Except ConfigError α}
    {f : α → Except ConfigError β} (one : Outcome compile first Good x)
    (two : ∀ a, Outcome compile second Done (f a)) :
    Outcome compile (first ++ second) Done (x >>= f) := by
  have append : firstRefused compile (first ++ second) =
      (firstRefused compile first).or (firstRefused compile second) := List.find?_append
  unfold Outcome at one ⊢
  rw [append]
  cases refused : firstRefused compile first with
  | none =>
    rw [refused] at one
    obtain ⟨a, rfl⟩ := one
    exact two a
  | some p =>
    -- nothing is done after a refusal, so the second row has no say
    rw [refused] at one
    rw [one]
    rfl

theorem Outcome.map {row : List (PatternList × String)} {x : Except ConfigError α}
    (one : Outcome compile row Good x) (f : α → β) : Outcome compile row Good (x.map f) := by
  unfold Outcome at one ⊢
  split at one
  · obtain ⟨a, rfl⟩ := one
    exact ⟨f a, rfl⟩
  · rw [one]
    rfl

theorem compileList_cons (list : PatternList) (s : String) (ss : List String) :
    compileList compile list (s :: ss) =
      match compile s with
      | none => .error (.invalidPattern list s)
      | some p => (compileList compile list ss).map fun matcher => ⟨p :: matcher.patterns⟩ := by
  simp only [compileList, Matcher.compile?, Matcher.compile?.go]
  cases compile s with
  | none => rfl
  | some p => cases Matcher.compile?.go compile ss <;> rfl

theorem compileList_outcome (list : PatternList) (patterns : List String) :
    Outcome compile (inList list patterns) Good (compileList compile list patterns) := by
  induction patterns with
  | nil => exact .nil ⟨⟨[]⟩, rfl⟩
  | cons s ss ih =>
    rw [compileList_cons]
    cases compiled : compile s with
    | none => simp [Outcome, firstRefused, inList, compiled]
    | some p =>
      have rest := ih.map fun matcher => (⟨p :: matcher.patterns⟩ : Matcher)
      simpa [Outcome, firstRefused, inList, compiled] using rest

theorem compileList?_outcome (list : PatternList) (patterns : Option (List String)) :
    Outcome compile (inList list (patterns.getD [])) Good (compileList? compile list patterns) := by
  cases patterns with
  | none => exact .nil ⟨none, rfl⟩
  | some patterns => exact (compileList_outcome list patterns).map some

def intervalVerdict (c : Config) : Except ConfigError Unit :=
  if c.intervalSeconds = 0 then .error .zeroInterval else .ok ()

theorem validate_outcome (compile : String → Option (String → Bool)) (c : Config) :
    Outcome compile c.checkOrder (· = c.intervalVerdict) (c.validate compile) := by
  rw [checkOrder, List.append_assoc]
  -- the interval is looked at after the last list, so it stands behind an empty row
  apply (compileList_outcome .procs c.procs).bind
  intro _
  apply (compileList_outcome .envWhitelist c.envWhitelist).bind
  intro _
  rw [← List.append_nil (inList _ _)]
  apply (compileList?_outcome .networkMetrics c.networkMetrics).bind
  intro _
  apply Outcome.nil
  simp only [intervalVerdict, beq_iff_eq]
  rfl

theorem rules_outcome (compile : String → Option (String → Bool)) (c : Config) :
    Outcome compile c.buildOrder Good (c.rules compile) := by
  rw [buildOrder, List.append_assoc]
  apply (compileList?_outcome .networkMetrics c.networkMetrics).bind
  intro networkMetrics
  apply (compileList_outcome .procs c.procs).bind
  intro procs
  rw [← List.append_nil (inList _ _)]
  apply (compileList_outcome .envWhitelist c.envWhitelist).bind
  intro envWhitelist
  exact .nil ⟨_, rfl⟩

theorem firstRefused_eq_none {row : List (PatternList × String)} :
    firstRefused compile row = none ↔ ∀ p ∈ row, (compile p.2).isSome := by
  simp [firstRefused, Option.isSome_iff_ne_none]

theorem compiles_iff : c.Compiles compile ↔ ∀ p ∈ c.checkOrder, (compile p.2).isSome := by
  simp only [checkOrder, inList, List.forall_mem_append, List.forall_mem_map]
  constructor
  · rintro ⟨procs, envWhitelist, networkMetrics⟩
    refine ⟨⟨procs, envWhitelist⟩, ?_⟩
    cases metrics : c.networkMetrics with
    | none => simp
    | some list => exact networkMetrics list metrics
  · rintro ⟨⟨procs, envWhitelist⟩, networkMetrics⟩
    refine ⟨procs, envWhitelist, ?_⟩
    intro list metrics
    rwa [Option.mem_def.mp metrics] at networkMetrics

theorem buildOrder_perm (c : Config) : c.buildOrder.Perm c.checkOrder := by
  rw [buildOrder, List.append_assoc]
  exact List.perm_append_comm

theorem firstRefused_buildOrder :
    firstRefused compile c.buildOrder = none ↔ firstRefused compile c.checkOrder = none := by
  simp only [firstRefused_eq_none, c.buildOrder_perm.mem_iff]

theorem builds_iff : c.Builds compile ↔ c.Compiles compile := by
  have outcome := rules_outcome compile c
  rw [compiles_iff, ← firstRefused_eq_none, ← firstRefused_buildOrder]
  unfold Outcome at outcome
  split at outcome
  case h_1 none => exact iff_of_true outcome none
  case h_2 p refused => simp [Builds, outcome, refused]

theorem validate_of_builds (builds : c.Builds compile) :
    c.validate compile = c.intervalVerdict := by
  have outcome := validate_outcome compile c
  rwa [Outcome, firstRefused_eq_none.mpr (compiles_iff.mp (builds_iff.mp builds))] at outcome

theorem refused_of_not_builds (refused : ¬ c.Builds compile) :
    (∃ p ∈ firstRefused compile c.checkOrder,
      c.validate compile = .error (.invalidPattern p.1 p.2)) ∧
    ∃ p ∈ firstRefused compile c.buildOrder,
      c.rules compile = .error (.invalidPattern p.1 p.2) := by
  rw [builds_iff, compiles_iff, ← firstRefused_eq_none] at refused
  have checked := validate_outcome compile c
  have built := rules_outcome compile c
  obtain ⟨p, found⟩ := Option.ne_none_iff_exists'.mp refused
  obtain ⟨q, found'⟩ := Option.ne_none_iff_exists'.mp (mt firstRefused_buildOrder.mp refused)
  rw [Outcome, found] at checked
  rw [Outcome, found'] at built
  exact ⟨⟨p, found, checked⟩, q, found', built⟩

/-- Any verdict but that on a pattern is one on the interval. -/
theorem validate_eq_iff {verdict : Except ConfigError Unit}
    (other : ∀ list s, verdict ≠ .error (.invalidPattern list s)) :
    c.validate compile = verdict ↔ c.Builds compile ∧ c.intervalVerdict = verdict := by
  by_cases builds : c.Builds compile
  · rw [validate_of_builds builds, and_iff_right builds]
  · obtain ⟨⟨p, -, refused⟩, -⟩ := refused_of_not_builds builds
    rw [refused]
    exact iff_of_false (other p.1 p.2).symm fun both => builds both.1

theorem validate_eq_ok :
    c.validate compile = .ok () ↔ c.Builds compile ∧ c.intervalSeconds ≠ 0 := by
  rw [validate_eq_iff (by simp)]
  simp [intervalVerdict]

theorem validate_eq_zeroInterval :
    c.validate compile = .error .zeroInterval ↔ c.Builds compile ∧ c.intervalSeconds = 0 := by
  rw [validate_eq_iff (by simp)]
  simp [intervalVerdict]

end Config

variable {m : Type → Type} [Monad m]

/-- A check of a machine where nothing is wrong with the configuration. -/
def Check.runWith (w : Machine m) (c : Config) (rules : Rules) : m (String × Bool) := do
  let files ← ofFiles w ⟨c.hostfs⟩
  let sampling ← ofEngine w ⟨c.hostfs⟩ (← w.engine c rules)
  let isGood := (files ++ sampling).all Finding.isGood
  let summary : Finding :=
    if isGood then ⟨true, "All checks passed - system is ready"⟩
    else ⟨false, "Some checks failed - please review warnings"⟩
  return (
    title ++ heading "⚙️  Checking configuration..." ++ "   ✅ Configuration is valid\n" ++
      heading "📁 Checking /proc filesystem..." ++ Finding.lines files ++
      (heading "🧪 Checking process sampling..." ++ Finding.lines sampling) ++
      heading "📋 Summary:" ++ summary.line,
    isGood)

theorem Check.run_of_rules [LawfulMonad m] {compile : String → Option (String → Bool)}
    {c : Config} {rules : Rules} (w : Machine m) (built : c.rules compile = .ok rules) :
    Check.run w compile c = Check.runWith w c rules := by
  have line : (⟨true, "Configuration is valid"⟩ : Finding).line =
      "   ✅ Configuration is valid\n" := rfl
  simp [Check.run, Check.runWith, built, line]

namespace Program

/-- What a command does once there are rules for an engine. -/
def carryOutWith (w : Machine m) (c : Config) (rules : Rules) : Command → m (Course m)
  | .run _ => do return .sampling (← w.engine c rules) c.intervalSeconds
  | .once pretty => do
    let e ← w.engine c rules
    return .finished (.ofReport (← e.reportOnce w.pause pretty))
  | .pid pid => do
    let e ← w.engine c rules
    return .finished (.ofReport (← e.reportPid w.pause pid))
  | .list => do
    let e ← w.engine c rules
    return .finished (.ofReport (← e.reportList))
  | .check => do
    let (text, isGood) ← Check.runWith w c rules
    return .finished ⟨if isGood then 0 else 1, text, ""⟩

theorem carryOut_of_rules [LawfulMonad m] {compile : String → Option (String → Bool)}
    {c : Config} {rules : Rules} (w : Machine m) (built : c.rules compile = .ok rules)
    (command : Command) :
    carryOut w compile c command = carryOutWith w c rules command := by
  have engine (use : Engine m → m (Course m)) :
      withEngine w compile c use = w.engine c rules >>= use := by
    rw [withEngine, built]
  cases command with
  | check => rw [carryOut, carryOutWith, Check.run_of_rules w built]
  | run | once | pid | list => exact engine _

end Program

namespace Program

/-- What becomes of a run by the configuration that was found for it. -/
def settle (w : Machine m) (compile : String → Option (String → Bool)) (a : Arguments) :
    Except ConfigError Config → m (Course m)
  | .error e => return .finished (.failed s!"❌ Configuration error: {e.message}\n")
  | .ok c =>
    match c.validate compile with
    | .error e => return .finished (.failed s!"❌ Configuration invalid: {e.message}\n")
    | .ok _ =>
      if a.checkConfig then return .finished (.good "✅ Configuration is valid\n")
      else if a.showConfig then return .finished (.good (Report.line (c.render a.format)))
      else carryOut w compile c (a.command.getD usualCommand)

/-- What a run does once there are rules for an engine. -/
def proceedWith (w : Machine m) (a : Arguments) (c : Config) (rules : Rules) : m (Course m) :=
  if a.checkConfig then return .finished (.good "✅ Configuration is valid\n")
  else if a.showConfig then return .finished (.good (Report.line (c.render a.format)))
  else carryOutWith w c rules (a.command.getD usualCommand)

theorem runFor_eq (w : Machine m) (compile : String → Option (String → Bool)) (a : Arguments) :
    runFor w compile a = a.effective w.files >>= settle w compile a :=
  rfl

theorem settle_of_refused {compile : String → Option (String → Bool)} {c : Config}
    {e : ConfigError} (w : Machine m) (refused : c.validate compile = .error e) (a : Arguments) :
    settle w compile a (.ok c) =
      return .finished (.failed s!"❌ Configuration invalid: {e.message}\n") := by
  rw [settle, refused]

theorem settle_of_accepted [LawfulMonad m] {compile : String → Option (String → Bool)} {c : Config}
    {rules : Rules} (w : Machine m) (accepted : c.validate compile = .ok ())
    (built : c.rules compile = .ok rules) (a : Arguments) :
    settle w compile a (.ok c) = proceedWith w a c rules := by
  rw [settle, accepted]
  simp only [proceedWith, carryOut_of_rules w built]

end Program

/-- A configuration is accepted only if it builds, and building fails only where checking does.
After that a command has no configuration to refuse. A run checks the configuration that it has
found before anything else, so it ends there, or it goes on in a way that refuses none. -/
theorem Config.accepted_builds [LawfulMonad m] (w : Machine m)
    (compile : String → Option (String → Bool)) (c : Config) :
    (c.Builds compile ↔ c.Compiles compile) ∧
    (c.validate compile = .ok () ↔ c.Builds compile ∧ c.intervalSeconds ≠ 0) ∧
    (c.validate compile = .error .zeroInterval ↔ c.Builds compile ∧ c.intervalSeconds = 0) ∧
    (¬ c.Builds compile →
      (∃ p ∈ firstRefused compile c.checkOrder,
        c.validate compile = .error (.invalidPattern p.1 p.2)) ∧
      ∃ p ∈ firstRefused compile c.buildOrder,
        c.rules compile = .error (.invalidPattern p.1 p.2)) ∧
    (c.validate compile = .ok () →
      ∃ rules, c.rules compile = .ok rules ∧ ∀ command,
        Program.carryOut w compile c command = Program.carryOutWith w c rules command) ∧
    (∀ args a, Arguments.parse args = .ok a →
      Program.run w compile args = a.effective w.files >>= Program.settle w compile a) ∧
    ∀ a,
      (∀ e, c.validate compile = .error e → Program.settle w compile a (.ok c) =
        return .finished (.failed s!"❌ Configuration invalid: {e.message}\n")) ∧
      (c.validate compile = .ok () → ∃ rules, c.rules compile = .ok rules ∧
        Program.settle w compile a (.ok c) = Program.proceedWith w a c rules) := by
  refine ⟨builds_iff, validate_eq_ok, validate_eq_zeroInterval, refused_of_not_builds, ?_, ?_,
    fun a => ⟨fun e refused => Program.settle_of_refused w refused a, ?_⟩⟩
  · intro accepted
    obtain ⟨rules, built⟩ := (validate_eq_ok.mp accepted).1
    exact ⟨rules, built, Program.carryOut_of_rules w built⟩
  · intro args a parsed
    rw [Program.run, parsed]
    exact Program.runFor_eq w compile a
  · intro accepted
    obtain ⟨rules, built⟩ := (validate_eq_ok.mp accepted).1
    exact ⟨rules, built, Program.settle_of_accepted w accepted built a⟩

namespace Config

/-- Takes a pattern for a name. A bracket that is not closed is refused. -/
def compileName (s : String) : Option (String → Bool) :=
  if s.toList.head? = some '(' then none else some (· == s)

/-- Bad patterns in two lists. -/
def crossed : Config :=
  { default with
    procs := ["init"], envWhitelist := ["HOME", "(a"], networkMetrics := some ["rx", "(b"] }

def bareMachine : Machine Id where
  files := ⟨fun _ => .error (.os 2), fun _ => .error (.os 2), fun _ => .error (.os 2),
    fun _ => false⟩
  surroundings := ⟨fun _ => none, ⟨0, 0⟩, 1⟩
  units := .usual
  stopwatch := 0
  pause := ()
  ownPid := 1

theorem crossed_not_built :
    let refusal : ConfigError := .invalidPattern .envWhitelist "(a"
    crossed.validate compileName = .error refusal ∧
    crossed.rules compileName = .error (.invalidPattern .networkMetrics "(b") ∧
    (Program.settle bareMachine compileName .initial (.ok crossed) : Id _) =
      Course.finished (.failed s!"❌ Configuration invalid: {refusal.message}\n") ∧
    ∃ rules, default.rules compileName = .ok rules ∧
      (∀ command, Program.carryOut bareMachine compileName default command =
        Program.carryOutWith bareMachine default rules command) ∧
      Program.settle bareMachine compileName .initial (.ok default) =
        Program.proceedWith bareMachine .initial default rules := by
  intro refusal
  obtain ⟨builds, -, -, refused, -, -, settled⟩ := accepted_builds bareMachine compileName crossed
  obtain ⟨-, -, -, -, carriesOut, -, goesOn⟩ := accepted_builds bareMachine compileName default
  have notBuilt : ¬ crossed.Builds compileName := by
    intro built
    have compiles := builds.mp built
    exact absurd (compiles.envWhitelist "(a" (by decide)) (by decide)
  obtain ⟨⟨p, first, checked⟩, q, first', built⟩ := refused notBuilt
  cases (show some (PatternList.envWhitelist, "(a") = some p from first)
  cases (show some (PatternList.networkMetrics, "(b") = some q from first')
  obtain ⟨rules, accepted, carried⟩ := carriesOut rfl
  obtain ⟨rules', accepted', onward⟩ := (goesOn .initial).2 rfl
  obtain rfl := Except.ok.inj (accepted.symm.trans accepted')
  exact ⟨checked, built, (settled .initial).1 _ checked, rules, accepted, carried, onward⟩

end Config

end ProcMeter
