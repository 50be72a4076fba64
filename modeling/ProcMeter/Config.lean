import ProcMeter.Engine

/-! The configuration of a sampler. Its pattern lists are compiled when it is
checked and when rules are made of it; what compiles in one place compiles in
the other, so a checked configuration always gives rules. -/
namespace ProcMeter

structure Config where
  /-- Which process names are sampled. -/
  procs : List String
  /-- Which environment variables are reported. -/
  envWhitelist : List String
  /-- Identities are read once for each process. -/
  cacheIdentity : Bool
  /-- Tick counts are reported. -/
  reportTicks : Bool
  enableNetwork : Bool
  /-- Which network counters are reported; all when there is no list. -/
  networkMetrics : Option (List String)
  enableCgroups : Bool
  /-- The root below which `/proc` is read. -/
  hostfs : String
  /-- Seconds between cycles. -/
  intervalSeconds : UInt64
  logLevel : Option String
  top : TopRule
  /-- Processes that are only in root control groups report none. -/
  ignoreRootCgroups : Bool
  deriving DecidableEq

namespace Config

/-- What holds when nothing is configured. -/
def default : Config where
  procs := [".*"]
  envWhitelist := []
  cacheIdentity := true
  reportTicks := false
  enableNetwork := false
  networkMetrics := none
  enableCgroups := false
  hostfs := "/"
  intervalSeconds := 10
  logLevel := some "info"
  top := .off
  ignoreRootCgroups := true

/-- Compiles a pattern list. -/
def compileList (compile : String → Option (String → Bool)) (list : PatternList)
    (patterns : List String) : Except ConfigError Matcher :=
  (Matcher.compile? compile patterns).mapError (ConfigError.invalidPattern list)

/-- Compiles a pattern list that may be missing. -/
def compileList? (compile : String → Option (String → Bool)) (list : PatternList) :
    Option (List String) → Except ConfigError (Option Matcher)
  | none => .ok none
  | some patterns => (compileList compile list patterns).map some

/-- Checks all that a sampler needs of its configuration. -/
def validate (compile : String → Option (String → Bool)) (c : Config) : Except ConfigError Unit := do
  let _ ← compileList compile .procs c.procs
  let _ ← compileList compile .envWhitelist c.envWhitelist
  let _ ← compileList? compile .networkMetrics c.networkMetrics
  if c.intervalSeconds == 0 then throw .zeroInterval

/-- The rules of an engine. -/
def rules (compile : String → Option (String → Bool)) (c : Config) : Except ConfigError Rules := do
  let networkMetrics ← compileList? compile .networkMetrics c.networkMetrics
  let procs ← compileList compile .procs c.procs
  let envWhitelist ← compileList compile .envWhitelist c.envWhitelist
  return ⟨procs, envWhitelist, networkMetrics, c.cacheIdentity, c.reportTicks, c.top⟩

end Config

end ProcMeter
