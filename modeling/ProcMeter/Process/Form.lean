import ProcMeter.Instant.Rfc3339
import ProcMeter.Json.Record
import ProcMeter.Process.State
import ProcMeter.Top

/-! JSON forms of what is known about processes. Absent fields and empty lists
are left out; a state is one flat record of its status, its identity and the
rest. Start ticks and the completeness of the identity are never written, and
are read as unknown. -/
namespace ProcMeter

open Json (member?)

namespace Instant

def toJson (t : Instant) : Json := .str (String.ofList t.render)

def ofJson? : Json → Option Instant
  | .str s => parse? s.toList
  | _ => none

end Instant

/-- A list member that is left out when it is empty. -/
def Json.listMember (name : String) : List String → List (String × Json)
  | [] => []
  | xs => [(name, .strings xs)]

/-- A map as an object, in the order of the names. -/
def Dict.toJson {α : Type} (f : α → Json) (d : Dict α) : Json :=
  .obj (d.toList.map fun (b : String × α) => (b.1, f b.2))

def Dict.ofJson? {α : Type} (f : Json → Option α) : Json → Option (Dict α)
  | .obj ms => (ms.mapM fun m => (f m.2).map fun a => (m.1, a)).map Dict.ofList
  | _ => none

namespace RunState

def toJson (s : RunState) : Json := .str s.word

def ofWord? (w : String) : Option RunState :=
  [running, sleeping, diskSleep, idle, stopped, zombie, dead, unknown].find? fun s => s.word == w

/-- A word, or an object with a word as its one name and null as its value. -/
def ofJson? : Json → Option RunState
  | .str w => ofWord? w
  | .obj [(w, .null)] => ofWord? w
  | _ => none

end RunState

namespace Status

def members (s : Status) : List (String × Json) :=
  [("pid", .ofInt32 s.pid)] ++ member? "ppid" .ofInt32 s.ppid ++ member? "pgid" .ofInt32 s.pgid ++
    [("name", .str s.name), ("state", s.state.toJson)]

def toJson (s : Status) : Json := .obj s.members

def ofJson? (v : Json) : Option Status := do
  match ← v.slots? [["pid"], ["ppid"], ["pgid"], ["name"], ["state"]] with
  | [pid, ppid, pgid, name, state] =>
    some ⟨← pid.required? Json.toInt32?, ← ppid.optional? Json.toInt32?,
      ← pgid.optional? Json.toInt32?, ← name.required? Json.toString?,
      ← state.required? RunState.ofJson?, none⟩
  | _ => none

end Status

namespace Identity

def members (i : Identity) : List (String × Json) :=
  member? "username" .str i.username ++ member? "cwd" .str i.cwd ++
    Json.listMember "args" i.args ++ member? "cmdline" .str i.cmdline ++
    member? "env" (Dict.toJson .str) i.env

def toJson (i : Identity) : Json := .obj i.members

def ofJson? (v : Json) : Option Identity := do
  match ← v.slots? [["username"], ["cwd"], ["args"], ["cmdline"], ["env"]] with
  | [username, cwd, args, cmdline, env] =>
    some ⟨← username.optional? Json.toString?, ← cwd.optional? Json.toString?,
      ← args.orDefault? [] (Json.toList? Json.toString?), ← cmdline.optional? Json.toString?,
      ← env.optional? (Dict.ofJson? Json.toString?)⟩
  | _ => none

end Identity

namespace CpuShare

def toJson (c : CpuShare) : Json :=
  .obj (member? "ticks" .ofUInt64 c.ticks ++ member? "pct" .ofFloat c.pct ++
    member? "norm_pct" .ofFloat c.normPct)

def ofJson? (v : Json) : Option CpuShare := do
  match ← v.slots? [["ticks"], ["pct"], ["norm_pct"]] with
  | [ticks, pct, normPct] =>
    some ⟨← ticks.optional? Json.toUInt64?, ← pct.optional? Json.toFloat?,
      ← normPct.optional? Json.toFloat?⟩
  | _ => .none

end CpuShare

namespace CpuUse

def toJson (c : CpuUse) : Json :=
  .obj ([("user", c.user.toJson), ("system", c.system.toJson), ("total", c.total.toJson)] ++
    member? "start_time" Instant.toJson c.startTime)

def ofJson? (v : Json) : Option CpuUse := do
  match ← v.slots? [["user"], ["system"], ["total"], ["start_time"]] with
  | [user, system, total, startTime] =>
    some ⟨← user.required? CpuShare.ofJson?, ← system.required? CpuShare.ofJson?,
      ← total.required? CpuShare.ofJson?, ← startTime.optional? Instant.ofJson?⟩
  | _ => none

end CpuUse

namespace MemoryShare

def toJson (m : MemoryShare) : Json :=
  .obj (member? "bytes" .ofUInt64 m.bytes ++ member? "pct" .ofFloat m.pct)

def ofJson? (v : Json) : Option MemoryShare := do
  match ← v.slots? [["bytes"], ["pct"]] with
  | [bytes, pct] => some ⟨← bytes.optional? Json.toUInt64?, ← pct.optional? Json.toFloat?⟩
  | _ => none

end MemoryShare

namespace MemoryUse

def toJson (m : MemoryUse) : Json :=
  .obj (member? "size" .ofUInt64 m.size ++ [("rss", m.rss.toJson)] ++
    member? "share" .ofUInt64 m.share)

def ofJson? (v : Json) : Option MemoryUse := do
  match ← v.slots? [["size"], ["rss"], ["share"]] with
  | [size, rss, share] =>
    some ⟨← size.optional? Json.toUInt64?, ← rss.required? MemoryShare.ofJson?,
      ← share.optional? Json.toUInt64?⟩
  | _ => none

end MemoryUse

def NetworkCounters.toJson (c : NetworkCounters) : Json :=
  Dict.toJson (Dict.toJson fun n => .ofInt n.toInt) c

def NetworkCounters.ofJson? (v : Json) : Option NetworkCounters :=
  Dict.ofJson? (Dict.ofJson? Json.toInt64?) v

namespace CgroupEntry

def toJson (e : CgroupEntry) : Json :=
  .obj ([("hierarchy_id", .ofNat e.hierarchy.toNat)] ++
    Json.listMember "controllers" e.controllers ++ [("path", .str e.path)])

def ofJson? (v : Json) : Option CgroupEntry := do
  match ← v.slots? [["hierarchy_id"], ["controllers"], ["path"]] with
  | [hierarchy, controllers, path] =>
    some ⟨← hierarchy.required? Json.toUInt32?,
      ← controllers.orDefault? [] (Json.toList? Json.toString?), ← path.required? Json.toString?⟩
  | _ => none

end CgroupEntry

namespace CgroupInfo

def toJson (c : CgroupInfo) : Json := .obj [("entries", .arr (c.entries.map CgroupEntry.toJson))]

def ofJson? (v : Json) : Option CgroupInfo := do
  match ← v.slots? [["entries"]] with
  | [entries] => some ⟨← entries.required? (Json.toList? CgroupEntry.ofJson?)⟩
  | _ => none

end CgroupInfo

namespace TopRule

def toJson (r : TopRule) : Json :=
  .obj [("enabled", .bool r.enabled), ("by_cpu", .ofUInt64 r.byCpu),
    ("by_memory", .ofUInt64 r.byMemory)]

/-- Reads a rule in any notation. Every field may be left out. -/
def ofRecord? {V : Type} (w : Notation V) (v : V) : Option TopRule := do
  match ← w.slots? [["enabled"], ["by_cpu", "by-cpu"], ["by_memory", "by-memory"]] v with
  | [enabled, byCpu, byMemory] =>
    some ⟨← enabled.orDefault? false w.toBool?, ← byCpu.orDefault? 0 w.toUInt64?,
      ← byMemory.orDefault? 0 w.toUInt64?⟩
  | _ => none

def ofJson? (v : Json) : Option TopRule := ofRecord? Json.records v

end TopRule

namespace ProcState

def toJson (s : ProcState) : Json :=
  .obj (s.status.members ++ s.identity.members ++
    [("cpu", s.cpu.toJson), ("memory", s.memory.toJson)] ++
    member? "network" NetworkCounters.toJson s.network ++
    member? "cgroup" CgroupInfo.toJson s.cgroup ++
    [("sample_time", s.sampleTime.toJson)])

end ProcState

end ProcMeter
