/-! Options on a command line. An option has a long name after two hyphens and may have a
letter after one; its value follows an equals sign, or is the next argument, or follows
the letter. Two hyphens alone end the options. A value is checked when the next option
comes, or at the end; so a later argument that nothing accepts is found before it. -/
namespace ProcMeter.CommandLine

/-- Why arguments were not taken. -/
inductive Refusal where
  | unknown
  /-- A value is missing or is none of those that can be chosen. -/
  | badChoice
  /-- A value cannot be read. -/
  | malformed
  | missing
  | unknownCommand
  /-- An option is given twice. -/
  | conflict
  /-- A value is given to an option that takes none. -/
  | needless
  | helpWanted
  | versionWanted
  deriving DecidableEq

/-- What an option does to the settings. -/
inductive Effect (σ : Type) where
  | switch (set : σ → σ)
  | value (set : String → σ → Except Refusal σ)
  /-- Nothing else is done. -/
  | halt (r : Refusal)

structure Opt (σ : Type) where
  long : String
  letter : Option Char
  effect : Effect σ

/-- What may stand on a command line. -/
structure Grammar (σ : Type) where
  options : List (Opt σ)
  /-- The one argument that is no option, which is required. -/
  operand : Option (Opt σ)
  /-- The names that begin a command line of their own. -/
  commands : List String

/-- The settings so far. -/
structure Progress (σ : Type) where
  settings : σ
  /-- The long names of the options that have been given. -/
  given : List String
  /-- An option that is still to be checked, and its value if that has come. -/
  pending : Option (Opt σ × Option String)

/-- The command that follows, and its arguments. -/
abbrev Subcommand := String × List String

namespace Progress

variable {σ : Type}

def start (settings : σ) : Progress σ := ⟨settings, [], none⟩

/-- An option is waiting for its value. -/
def isWaiting (p : Progress σ) : Bool := p.pending.any fun o => o.2.isNone

/-- Checks the pending option. -/
def settle (p : Progress σ) : Except Refusal (Progress σ) :=
  match p.pending with
  | none => .ok p
  | some (_, none) => .error .badChoice
  | some (o, some v) =>
    if p.given.contains o.long then .error .conflict
    else
      match o.effect with
      | .value set => do return ⟨← set v p.settings, o.long :: p.given, none⟩
      | _ => .ok { p with pending := none }

/-- Lets an option wait to be checked. -/
def await (p : Progress σ) (o : Opt σ) (v : Option String) : Except Refusal (Progress σ) := do
  return { (← p.settle) with pending := some (o, v) }

/-- Takes an option that has no value after it. -/
def take (p : Progress σ) (o : Opt σ) : Except Refusal (Progress σ) :=
  match o.effect with
  | .value _ => p.await o none
  | .halt r => do
    let _ ← p.settle
    throw r
  | .switch set => do
    let p ← p.settle
    if p.given.contains o.long then throw .conflict
    else return { p with settings := set p.settings, given := o.long :: p.given }

/-- Takes an option with a value attached to it, which is checked at once. -/
def takeWith (p : Progress σ) (o : Opt σ) (v : String) : Except Refusal (Progress σ) :=
  match o.effect with
  | .value _ => do (← p.await o (some v)).settle
  | _ => .error .needless

end Progress

namespace Grammar

variable {σ : Type}

/-- The text before an equals sign, and the one after it. -/
def splitValue (cs : List Char) : List Char × Option (List Char) :=
  let name := cs.takeWhile (· != '=')
  match cs.drop name.length with
  | _ :: value => (name, some value)
  | [] => (name, none)

/-- Takes an argument after its two hyphens. -/
def long (g : Grammar σ) (p : Progress σ) (cs : List Char) : Except Refusal (Progress σ) :=
  let (name, value) := splitValue cs
  match g.options.find? (fun o => o.long == String.ofList name), value with
  | none, _ => .error .unknown
  | some o, some v => p.takeWith o (String.ofList v)
  | some o, none => p.take o

/-- Takes the letters of an argument after its hyphen. -/
def letters (g : Grammar σ) (p : Progress σ) : List Char → Except Refusal (Progress σ)
  | [] => .ok p
  | c :: cs =>
    match g.options.find? fun o => o.letter == some c with
    | none => .error .unknown
    | some o =>
      match o.effect, cs with
      | .value _, '=' :: v => p.takeWith o (String.ofList v)
      | .value _, v :: vs => p.takeWith o (String.ofList (v :: vs))
      | _, _ => do letters g (← p.take o) cs

/-- Takes an argument that is no option. `ended` says that the options have ended; a
command cannot follow then. -/
def takeOperand (g : Grammar σ) (ended : Bool) (p : Progress σ) (arg : String) :
    Except Refusal (Progress σ) :=
  match g.operand with
  | some o =>
    let isTaken := p.given.contains o.long || p.pending.any fun q => q.1.long == o.long
    if isTaken then .error .unknown else p.await o (some arg)
  | none =>
    if g.commands.isEmpty || (ended && g.commands.contains arg) then .error .unknown
    else .error .unknownCommand

/-- Goes over the arguments, up to a command. `ended` says that the options have ended. -/
def scan (g : Grammar σ) (ended : Bool) (p : Progress σ) :
    List String → Except Refusal (Progress σ × Option Subcommand)
  | [] => .ok (p, none)
  | arg :: args =>
    if ended then do scan g true (← g.takeOperand true p arg) args
    else if !p.isWaiting && g.commands.contains arg then .ok (p, some (arg, args))
    else
      match arg.toList with
      | ['-', '-'] => scan g true p args
      | '-' :: '-' :: cs => do scan g false (← g.long p cs) args
      | '-' :: c :: cs => do scan g false (← g.letters p (c :: cs)) args
      | _ =>
        match p.pending with
        | some (o, none) => scan g false { p with pending := some (o, some arg) } args
        | _ => do scan g false (← g.takeOperand false p arg) args

/-- Checks what is pending at the end, and that nothing is missing. -/
def finish (g : Grammar σ) (p : Progress σ) : Except Refusal σ := do
  let p ← p.settle
  match g.operand with
  | some o => if p.given.contains o.long then return p.settings else throw .missing
  | none => return p.settings

end Grammar

end ProcMeter.CommandLine
