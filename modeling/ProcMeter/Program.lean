import ProcMeter.Command.Check
import ProcMeter.CommandLine.Arguments
import ProcMeter.Config.Printer

/-! The program as a whole. The configuration is settled and checked before anything else;
then it is shown or declared valid, where that is asked for, or a command is carried
out. All but sampling without end is a finished run. -/
namespace ProcMeter

/-- What a finished run leaves. -/
structure Finish where
  exit : UInt32
  output : String
  /-- What is told besides. -/
  complaint : String

namespace Finish

def good (output : String) : Finish := ⟨0, output, ""⟩

/-- A run that failed. -/
def failed (complaint : String) : Finish := ⟨1, "", complaint⟩

/-- A run of one command. -/
def ofReport : Except CommandError String → Finish
  | .ok text => good text
  | .error e => failed s!"Error: {e.message}\n"

end Finish

/-- What becomes of a run. -/
inductive Course (m : Type → Type) where
  | finished (f : Finish)
  /-- Cycles of an engine with so many seconds between them. -/
  | sampling (e : Engine m) (seconds : UInt64)

namespace Program

def name : String := "herakles-proc-sampler"

def version : String := "0.1.0"

def help : String :=
  "Per-process CPU and memory sampler\n\nUsage: herakles-proc-sampler [OPTIONS] [COMMAND]\n"

open CommandLine

/-- The name under which a version is given: that of the program, and of a command before
which it is not asked for. -/
def versionName (args : List String) : String :=
  match Arguments.grammar.scan false (.start .initial) args with
  | .ok (_, some (command, _)) => s!"{name}-{command}"
  | _ => name

/-- The end of a run whose arguments were not taken. -/
def refuse (args : List String) : Refusal → Finish
  | .helpWanted => .good help
  | .versionWanted => .good s!"{versionName args} {version}\n"
  | _ => ⟨2, "", s!"error: invalid arguments\n\n{help}"⟩

variable {m : Type → Type} [Monad m]

/-- A run with the engine that a configuration describes. -/
def withEngine (w : Machine m) (compile : String → Option (String → Bool)) (c : Config)
    (use : Engine m → m (Course m)) : m (Course m) := do
  match c.rules compile with
  | .error e => return .finished (.failed s!"❌ Configuration invalid: {e.message}\n")
  | .ok rules => use (← w.engine c rules)

/-- Carries out a command. -/
def carryOut (w : Machine m) (compile : String → Option (String → Bool)) (c : Config) :
    Command → m (Course m)
  | .run _ => withEngine w compile c fun e => return .sampling e c.intervalSeconds
  | .once pretty =>
    withEngine w compile c fun e => return .finished (.ofReport (← e.reportOnce w.pause pretty))
  | .pid pid =>
    withEngine w compile c fun e => return .finished (.ofReport (← e.reportPid w.pause pid))
  | .list => withEngine w compile c fun e => return .finished (.ofReport (← e.reportList))
  | .check => do
    let (text, isGood) ← Check.run w compile c
    return .finished ⟨if isGood then 0 else 1, text, ""⟩

/-- What is done when no command is given. -/
def usualCommand : Command := .once true

/-- A run for arguments that were taken. -/
def runFor (w : Machine m) (compile : String → Option (String → Bool)) (a : Arguments) :
    m (Course m) := do
  match ← a.effective w.files with
  | .error e => return .finished (.failed s!"❌ Configuration error: {e.message}\n")
  | .ok c =>
    match c.validate compile with
    | .error e => return .finished (.failed s!"❌ Configuration invalid: {e.message}\n")
    | .ok _ =>
      if a.checkConfig then return .finished (.good "✅ Configuration is valid\n")
      else if a.showConfig then return .finished (.good (Report.line (c.render a.format)))
      else carryOut w compile c (a.command.getD usualCommand)

/-- A run of the program. -/
def run (w : Machine m) (compile : String → Option (String → Bool)) (args : List String) :
    m (Course m) :=
  match Arguments.parse args with
  | .error r => return .finished (refuse args r)
  | .ok a => runFor w compile a

end Program

end ProcMeter
