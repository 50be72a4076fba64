import ProcMeter.Files.Errno
import ProcMeter.Process.State

/-! What can go wrong, by cause. A configuration is refused before anything is
sampled; a process that cannot be read is left out of its cycle; a cycle fails
only when the processes cannot be enumerated. -/
namespace ProcMeter

/-- Why a file could not be read. -/
inductive IoError where
  | os (errno : Nat)
  | notUtf8
  | nulInName
  /-- An error of a given sort that carries a text of its own. -/
  | missing (text : String)
  | denied (text : String)
  | other (text : String)
  deriving DecidableEq

namespace IoError

def message : IoError → String
  | .os n => s!"{Errno.text n} (os error {n})"
  | .notUtf8 => "stream did not contain valid UTF-8"
  | .nulInName => "file name contained an unexpected NUL byte"
  | .missing t => t
  | .denied t => t
  | .other t => t

/-- Nothing is there to be read. -/
def isMissing : IoError → Bool
  | .os n => n == Errno.noEntry
  | .missing _ => true
  | _ => false

def isDenied : IoError → Bool
  | .os n => n == Errno.notPermitted || n == Errno.accessDenied
  | .denied _ => true
  | _ => false

end IoError

/-- The files of a process whose content must have a form. -/
inductive ProcFile where
  | stat
  | statm
  deriving DecidableEq

def ProcFile.name : ProcFile → String
  | .stat => "stat"
  | .statm => "statm"

/-- Why one process could not be read. -/
inductive SampleError where
  | notFound (pid : Pid)
  | permissionDenied (pid : Pid)
  | malformed (pid : Pid) (file : ProcFile)
  | io (pid : Pid) (cause : IoError)
  | unsupported
  deriving DecidableEq

namespace SampleError

/-- A missing file means that the process has gone. -/
def ofIo (pid : Pid) (e : IoError) : SampleError :=
  if e.isMissing then .notFound pid
  else if e.isDenied then .permissionDenied pid
  else .io pid e

/-- The process no longer exists. -/
def isGone : SampleError → Bool
  | .notFound _ => true
  | _ => false

/-- Reading the process is not allowed. -/
def isDenied : SampleError → Bool
  | .permissionDenied _ => true
  | _ => false

theorem isGone_iff {err : SampleError} : err.isGone = true ↔ ∃ pid, err = .notFound pid := by
  cases err <;> simp [isGone]

theorem isDenied_iff {err : SampleError} :
    err.isDenied = true ↔ ∃ pid, err = .permissionDenied pid := by
  cases err <;> simp [isDenied]

def message : SampleError → String
  | .notFound pid => s!"process {pid.toInt} not found"
  | .permissionDenied pid => s!"permission denied reading process {pid.toInt}"
  | .malformed pid file => s!"failed to parse {file.name} for process {pid.toInt}"
  | .io pid cause => s!"I/O error reading process {pid.toInt}: {cause.message}"
  | .unsupported => "operation not supported on this platform"

end SampleError

/-- Why a whole cycle failed. -/
inductive CycleError where
  | enumeration (path : String) (cause : IoError)
  | unsupported
  deriving DecidableEq

def CycleError.message : CycleError → String
  | .enumeration path cause => s!"failed to enumerate processes under {path}: {cause.message}"
  | .unsupported => "process enumeration is not supported on this platform"

/-- The pattern lists of a configuration. -/
inductive PatternList where
  | procs
  | envWhitelist
  | networkMetrics
  deriving DecidableEq

def PatternList.name : PatternList → String
  | .procs => "procs"
  | .envWhitelist => "env_whitelist"
  | .networkMetrics => "network_metrics"

/-- Why a configuration was refused. -/
inductive ConfigError where
  | invalidPattern (list : PatternList) (pattern : String)
  | zeroInterval
  | unreadable (path : String) (cause : IoError)
  | malformed (path : String)
  deriving DecidableEq

def ConfigError.message : ConfigError → String
  | .invalidPattern list pattern => s!"invalid pattern '{pattern}' in {list.name}: "
  | .zeroInterval => "invalid value for interval_seconds: must be greater than zero"
  | .unreadable path cause => s!"failed to read config file {path}: {cause.message}"
  | .malformed path => s!"failed to parse config file {path}: "

end ProcMeter
