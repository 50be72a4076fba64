import ProcMeter.CommandLine.Options
import ProcMeter.Config.Load
import ProcMeter.Text.Blank

/-! The arguments of the program, and the configuration that comes of them. What is said
on the command line has priority over what is configured. -/
namespace ProcMeter

/-- How much is logged. -/
inductive LogLevel where
  | off
  | error
  | warn
  | info
  | debug
  | trace
  deriving DecidableEq

namespace LogLevel

def all : List LogLevel := [.off, .error, .warn, .info, .debug, .trace]

def name : LogLevel → String
  | .off => "off"
  | .error => "error"
  | .warn => "warn"
  | .info => "info"
  | .debug => "debug"
  | .trace => "trace"

def ofName? (s : String) : Option LogLevel := all.find? fun l => l.name == s

/-- The level that a configuration names, in any case. -/
def ofConfig? (s : String) : Option LogLevel := ofName? s.toLower

end LogLevel

/-- What the program is to do. -/
inductive Command where
  /-- Sample again and again, with this many seconds between cycles. -/
  | run (interval : Option UInt64)
  /-- Sample all processes. -/
  | once (pretty : Bool)
  /-- Sample one process. -/
  | pid (pid : Pid)
  | list
  | check
  deriving DecidableEq

structure Arguments where
  command : Option Command
  logLevel : Option LogLevel
  config : Option String
  noConfig : Bool
  hostfs : Option String
  /-- Patterns with commas between them. -/
  procs : Option String
  topCpu : Option UInt64
  topMemory : Option UInt64
  showConfig : Bool
  format : ConfigFormat
  checkConfig : Bool

namespace Arguments

open CommandLine

/-- Without any arguments. -/
def initial : Arguments :=
  ⟨none, none, none, false, none, none, none, none, false, .yaml, false⟩

/-- A setting whose value must be readable. -/
def readable {α σ : Type} (read : String → Option α) (r : Refusal) (set : α → σ → σ) : Effect σ :=
  .value fun v s =>
    match read v with
    | some a => .ok (set a s)
    | none => .error r

/-- A path, which is not empty. -/
def path? (s : String) : Option String := if s.isEmpty then none else some s

def format? : String → Option ConfigFormat
  | "yaml" => some .yaml
  | "json" => some .json
  | "toml" => some .toml
  | _ => none

/-- The options of every command. -/
def common {σ : Type} : List (Opt σ) :=
  [⟨"help", some 'h', .halt .helpWanted⟩, ⟨"version", some 'V', .halt .versionWanted⟩]

/-- The options before a command. -/
def options : List (Opt Arguments) :=
  [⟨"log-level", none,
      readable LogLevel.ofName? .badChoice fun l a => { a with logLevel := some l }⟩,
    ⟨"config", some 'c', readable path? .badChoice fun p a => { a with config := some p }⟩,
    ⟨"no-config", none, .switch fun a => { a with noConfig := true }⟩,
    ⟨"hostfs", none, readable path? .badChoice fun p a => { a with hostfs := some p }⟩,
    ⟨"procs", none, .value fun v a => .ok { a with procs := some v }⟩,
    ⟨"top-cpu", none,
      readable (Text.uint64? ·.toList) .malformed fun n a => { a with topCpu := some n }⟩,
    ⟨"top-memory", none,
      readable (Text.uint64? ·.toList) .malformed fun n a => { a with topMemory := some n }⟩,
    ⟨"show-config", none, .switch fun a => { a with showConfig := true }⟩,
    ⟨"config-format", none, readable format? .badChoice fun f a => { a with format := f }⟩,
    ⟨"check-config", none, .switch fun a => { a with checkConfig := true }⟩]

/-- The commands by name: how each begins, its options and its operand. -/
def commands : List (String × Command × List (Opt Command) × Option (Opt Command)) :=
  [("run", .run none,
      [⟨"interval", some 'i',
        readable (Text.uint64? ·.toList) .malformed fun n _ => .run (some n)⟩], none),
    ("once", .once false, [⟨"pretty", none, .switch fun _ => .once true⟩], none),
    ("pid", .pid 0, [],
      some ⟨"pid", none, readable (Text.int32? ·.toList) .malformed fun n _ => .pid n⟩),
    ("list", .list, [], none),
    ("check", .check, [], none)]

/-- The command that only shows help. -/
def helpName : String := "help"

/-- The names of all commands. -/
def commandNames : List String := commands.map Prod.fst ++ [helpName]

def grammar : Grammar Arguments := ⟨options ++ common, none, commandNames⟩

/-- What asking for help about some commands comes to. -/
def refuseHelp : List String → Refusal
  | [] => .helpWanted
  | [name] => if commandNames.contains name then .helpWanted else .unknownCommand
  | _ => .unknownCommand

/-- Reads a command. -/
def readCommand (name : String) (args : List String) : Except Refusal Command :=
  match commands.find? fun c => c.1 == name with
  | some (_, initial, options, operand) => do
    let g : Grammar Command := ⟨options ++ common, operand, []⟩
    let (p, _) ← g.scan false (.start initial) args
    g.finish p
  | none => .error (refuseHelp args)

/-- Reads the arguments of the program. -/
def parse (args : List String) : Except Refusal Arguments := do
  let (p, sub) ← grammar.scan false (.start initial) args
  match sub with
  | none => grammar.finish p
  | some (name, rest) =>
    let c ← readCommand name rest
    return { (← grammar.finish p) with command := some c }

/-- The patterns of a list with commas. -/
def splitPatterns (s : String) : List String :=
  ((Text.pieces (· == ',') s.toList).map Text.trim).filterMap fun p =>
    if p.isEmpty then none else some (String.ofList p)

/-- A rule with the bounds of the command line, either of which switches it on. -/
def topOf (a : Arguments) (t : TopRule) : TopRule :=
  if a.topCpu.isSome || a.topMemory.isSome then
    ⟨true, a.topCpu.getD t.byCpu, a.topMemory.getD t.byMemory⟩
  else t

/-- A configuration with what the command line says instead. -/
def override (a : Arguments) (c : Config) : Config :=
  { c with
    hostfs := a.hostfs.getD c.hostfs
    procs := (a.procs.map splitPatterns).getD c.procs
    top := a.topOf c.top
    intervalSeconds := match a.command with
      | some (.run (some n)) => n
      | _ => c.intervalSeconds }

/-- The configuration that is in effect. -/
def effective {m : Type → Type} [Monad m] (files : Files m) (a : Arguments) :
    m (Except ConfigError Config) := do
  let base ← if a.noConfig then pure (.ok .default) else Config.load files a.config
  return base.map a.override

/-- The level of logging that is in effect. A level that no configuration can name does
not count. -/
def effectiveLogLevel (a : Arguments) (c : Config) : LogLevel :=
  a.logLevel.getD ((c.logLevel.bind LogLevel.ofConfig?).getD .info)

end Arguments

end ProcMeter
