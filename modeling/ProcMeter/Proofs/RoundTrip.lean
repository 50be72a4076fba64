import ProcMeter.Proofs.JsonValues

/-! The JSON forms of what is known about a process are read back as they were written. A form says
what is kept of a value and which of its numbers and times must be written exactly for that; from
then on, reading and writing again changes nothing. A whole state is one flat object from which its
status and its identity are read as well as its parts. -/
namespace ProcMeter

open Json (Tidy Solid)

/-- How the values of a type are written in JSON and read. -/
structure Form (α : Type) where
  write : α → Json
  read? : Json → Option α
  /-- What is written of a value; the rest is read as unknown. -/
  kept : α → α := id
  /-- The numbers in a value that may have a fraction. -/
  numbers : α → List Float := fun _ => []
  times : α → List Instant := fun _ => []

namespace Form

variable {α : Type} (F : Form α)

def Finite (a : α) : Prop := ∀ x ∈ F.numbers a, x.isFinite = true

/-- Numbers and times in the value read as they are written. -/
structure Exact (a : α) : Prop where
  numbers : ∀ x ∈ F.numbers a, (Numeral.ofFloat x).toFloat = x
  times : ∀ t ∈ F.times a, Instant.parse? t.render = some t

/-- Reads a value and writes it again. -/
def recode? (v : Json) : Option Json := (F.read? v).map F.write

/-- What is written is read as what is kept of it, and writing what was read changes nothing any
more. -/
structure RoundTrips : Prop where
  read_write : ∀ a, F.Finite a → F.Exact a → F.read? (F.write a) = some (F.kept a)
  recode_twice : ∀ v a, F.read? v = some a → F.Exact a →
    (F.recode? v).bind F.recode? = F.recode? v

theorem roundTrips
    (read_write : ∀ a, F.Finite a → F.Exact a → F.read? (F.write a) = some (F.kept a))
    (settled : ∀ v a, F.read? v = some a → F.Finite a ∧ F.kept a = a) : F.RoundTrips := by
  refine ⟨read_write, fun v a read exact => ?_⟩
  obtain ⟨finite, same⟩ := settled v a read
  have again : F.read? (F.write a) = some a := by rw [read_write a finite exact, same]
  simp only [recode?, read, Option.map_some, Option.bind_some, again]

/-- A form in which everything is kept and no number has a fraction. -/
theorem roundTrips_of_whole (whole : ∀ a, F.numbers a = []) (all : ∀ a, F.kept a = a)
    (read : ∀ a, F.read? (F.write a) = some a) : F.RoundTrips := by
  refine F.roundTrips (fun a _ _ => ?_) fun _ a _ => ⟨fun x mem => ?_, all a⟩
  · rw [read, all]
  · rw [whole] at mem
    contradiction

end Form

namespace RunState

def form : Form RunState where
  write := toJson
  read? := ofJson?

theorem ofJson?_toJson (s : RunState) : ofJson? s.toJson = some s := by
  cases s <;> rfl

theorem form_roundTrips : form.RoundTrips :=
  form.roundTrips_of_whole (fun _ => rfl) (fun _ => rfl) ofJson?_toJson

end RunState

namespace Status

def form : Form Status where
  write := toJson
  read? := ofJson?
  kept s := { s with startTicks := none }

def names : List String := ["pid", "ppid", "pgid", "name", "state"]

theorem members_tidy (s : Status) : Tidy names s.members :=
  (((Tidy.one (.num _)).append (Tidy.member? fun _ _ => .num _)).append
    (Tidy.member? fun _ _ => .num _)).append ((Tidy.one (.str _)).append (Tidy.one (.str _)))

theorem ofJson?_toJson (s : Status) : ofJson? s.toJson = some { s with startTicks := none } := by
  have slots : Json.slots? (names.map fun n => [n]) (.obj s.members) =
      some [.ofValue? (some (.ofInt32 s.pid)), .ofValue? (s.ppid.map .ofInt32),
        .ofValue? (s.pgid.map .ofInt32), .ofValue? (some (.str s.name)),
        .ofValue? (some s.state.toJson)] := by
    rw [Json.slots?_single (s.members_tidy.distinct (by decide))]
    simp [names, members, List.lookup_append, Json.lookup_member?, Json.lookup_cons]
  have integer (o : Option Int32) :
      (Slot.ofValue? (o.map .ofInt32)).optional? Json.toInt32? = some o :=
    Json.optional?_written (fun n _ => Json.toInt32?_ofInt32 n) fun _ _ => Json.noConfusion
  simp only [names, List.map_cons, List.map_nil] at slots
  simp only [toJson, ofJson?, slots, integer, Option.bind_eq_bind, Option.bind_some,
    Slot.required?_ofValue?, Json.toInt32?_ofInt32, Json.toString?, RunState.ofJson?_toJson]

theorem form_roundTrips : form.RoundTrips := by
  refine form.roundTrips (fun s _ _ => ofJson?_toJson s)
    fun v s read => ⟨fun _ mem => absurd mem List.not_mem_nil, ?_⟩
  simp only [form, ofJson?, Option.bind_eq_bind, Option.bind_eq_some_iff] at read
  obtain ⟨slots, -, read⟩ := read
  split at read
  · simp only [Option.bind_eq_some_iff] at read
    obtain ⟨_, -, _, -, _, -, _, -, _, -, same⟩ := read
    cases same
    rfl
  · contradiction

end Status

namespace Identity

def form : Form Identity where
  write := toJson
  read? := ofJson?

def names : List String := ["username", "cwd", "args", "cmdline", "env"]

theorem solid_env (d : Dict String) : (d.toJson .str).Solid := d.solid_toJson fun s => .str s

theorem env_read (d : Dict String) : Dict.ofJson? Json.toString? (d.toJson .str) = some d :=
  d.ofJson?_toJson (α := String) fun _ => rfl

theorem members_tidy (i : Identity) : Tidy names i.members :=
  (((((Tidy.member? fun _ _ => .str _).append (Tidy.member? fun _ _ => .str _)).append
    Tidy.listMember).append (Tidy.member? fun _ _ => .str _)).append
      (Tidy.member? fun d _ => solid_env d))

theorem ofJson?_toJson (i : Identity) : ofJson? i.toJson = some i := by
  have slots : Json.slots? (names.map fun n => [n]) (.obj i.members) =
      some [.ofValue? (i.username.map .str), .ofValue? (i.cwd.map .str),
        .ofValue? (if i.args = [] then none else some (.strings i.args)),
        .ofValue? (i.cmdline.map .str), .ofValue? (i.env.map (Dict.toJson .str))] := by
    rw [Json.slots?_single (i.members_tidy.distinct (by decide))]
    simp [names, members, List.lookup_append, Json.lookup_member?, Json.lookup_listMember]
  have text (o : Option String) :
      (Slot.ofValue? (o.map .str)).optional? Json.toString? = some o :=
    Json.optional?_written (fun _ _ => rfl) fun _ _ => Json.noConfusion
  have env : (Slot.ofValue? (i.env.map (Dict.toJson .str))).optional?
      (Dict.ofJson? Json.toString?) = some i.env :=
    Json.optional?_written (fun d _ => env_read d) fun d _ => (solid_env d).ne_null
  simp only [names, List.map_cons, List.map_nil] at slots
  simp only [toJson, ofJson?, slots, text, env, Json.orDefault?_listMember, Option.bind_eq_bind,
    Option.bind_some]

theorem form_roundTrips : form.RoundTrips :=
  form.roundTrips_of_whole (fun _ => rfl) (fun _ => rfl) ofJson?_toJson

end Identity

namespace CpuShare

def form : Form CpuShare where
  write := toJson
  read? := ofJson?
  numbers c := c.pct.toList ++ c.normPct.toList

def names : List String := ["ticks", "pct", "norm_pct"]

def members (c : CpuShare) : List (String × Json) :=
  Json.member? "ticks" .ofUInt64 c.ticks ++ Json.member? "pct" .ofFloat c.pct ++
    Json.member? "norm_pct" .ofFloat c.normPct

variable {c : CpuShare}

theorem finite_iff : form.Finite c ↔
    (∀ x ∈ c.pct, x.isFinite = true) ∧ ∀ x ∈ c.normPct, x.isFinite = true := by
  simp only [Form.Finite, form, List.forall_mem_append, Option.mem_toList, Option.mem_def]

theorem members_tidy (finite : form.Finite c) : Tidy names c.members :=
  ((Tidy.member? fun _ _ => .num _).append
    (Tidy.member? fun x mem => Json.solid_ofFloat ((finite_iff.1 finite).1 x mem))).append
      (Tidy.member? fun x mem => Json.solid_ofFloat ((finite_iff.1 finite).2 x mem))

theorem solid_toJson (finite : form.Finite c) : c.toJson.Solid :=
  (members_tidy finite).obj (by decide)

theorem ofJson?_toJson (finite : form.Finite c) (exact : form.Exact c) :
    ofJson? c.toJson = some c := by
  have slots : Json.slots? (names.map fun n => [n]) c.toJson =
      some [.ofValue? (c.ticks.map .ofUInt64), .ofValue? (c.pct.map .ofFloat),
        .ofValue? (c.normPct.map .ofFloat)] := by
    change Json.slots? _ (.obj c.members) = _
    rw [Json.slots?_single ((members_tidy finite).distinct (by decide))]
    simp [names, members, List.lookup_append, Json.lookup_member?]
  obtain ⟨pct, normPct⟩ := finite_iff.1 finite
  have exactly := exact.numbers
  simp only [form, List.forall_mem_append, Option.mem_toList] at exactly
  simp only [names, List.map_cons, List.map_nil] at slots
  simp only [ofJson?, slots, Json.optional?_ofUInt64, Json.optional?_ofFloat pct exactly.1,
    Json.optional?_ofFloat normPct exactly.2, Option.bind_eq_bind, Option.bind_some]

theorem finite_of_ofJson? {v : Json} (read : ofJson? v = some c) : form.Finite c := by
  simp only [ofJson?, Option.bind_eq_bind, Option.bind_eq_some_iff] at read
  obtain ⟨slots, -, read⟩ := read
  split at read
  · simp only [Option.bind_eq_some_iff] at read
    obtain ⟨_, -, _, pct, _, normPct, same⟩ := read
    cases same
    refine finite_iff.2 ⟨fun x mem => ?_, fun x mem => ?_⟩
    · obtain ⟨v, decoded⟩ := Slot.exists_of_optional? pct mem
      exact Json.isFinite_of_toFloat? decoded
    · obtain ⟨v, decoded⟩ := Slot.exists_of_optional? normPct mem
      exact Json.isFinite_of_toFloat? decoded
  · contradiction

theorem form_roundTrips : form.RoundTrips :=
  form.roundTrips (fun _ finite exact => ofJson?_toJson finite exact)
    fun _ _ read => ⟨finite_of_ofJson? read, rfl⟩

end CpuShare

namespace CpuUse

def form : Form CpuUse where
  write := toJson
  read? := ofJson?
  numbers c := CpuShare.form.numbers c.user ++ CpuShare.form.numbers c.system ++
    CpuShare.form.numbers c.total
  times c := c.startTime.toList

def names : List String := ["user", "system", "total", "start_time"]

def members (c : CpuUse) : List (String × Json) :=
  [("user", c.user.toJson), ("system", c.system.toJson), ("total", c.total.toJson)] ++
    Json.member? "start_time" Instant.toJson c.startTime

variable {c : CpuUse}

theorem finite_iff : form.Finite c ↔ CpuShare.form.Finite c.user ∧ CpuShare.form.Finite c.system ∧
    CpuShare.form.Finite c.total := by
  simp only [Form.Finite, form, List.forall_mem_append, and_assoc]

theorem members_tidy (finite : form.Finite c) : Tidy names c.members := by
  obtain ⟨user, system, total⟩ := finite_iff.1 finite
  exact ((Tidy.one (CpuShare.solid_toJson user)).append
    ((Tidy.one (CpuShare.solid_toJson system)).append
      (Tidy.one (CpuShare.solid_toJson total)))).append (Tidy.member? fun _ _ => .str _)

theorem solid_toJson (finite : form.Finite c) : c.toJson.Solid :=
  (members_tidy finite).obj (by decide)

theorem exact_shares (exact : form.Exact c) : CpuShare.form.Exact c.user ∧
    CpuShare.form.Exact c.system ∧ CpuShare.form.Exact c.total := by
  have numbers := exact.numbers
  simp only [form, List.forall_mem_append] at numbers
  have none (s : CpuShare) : ∀ t ∈ CpuShare.form.times s, Instant.parse? t.render = some t :=
    fun _ mem => absurd mem List.not_mem_nil
  exact ⟨⟨numbers.1.1, none _⟩, ⟨numbers.1.2, none _⟩, ⟨numbers.2, none _⟩⟩

theorem ofJson?_toJson (finite : form.Finite c) (exact : form.Exact c) :
    ofJson? c.toJson = some c := by
  have slots : Json.slots? (names.map fun n => [n]) c.toJson =
      some [.ofValue? (some c.user.toJson), .ofValue? (some c.system.toJson),
        .ofValue? (some c.total.toJson), .ofValue? (c.startTime.map Instant.toJson)] := by
    change Json.slots? _ (.obj c.members) = _
    rw [Json.slots?_single ((members_tidy finite).distinct (by decide))]
    simp [names, members, Json.lookup_member?, Json.lookup_cons]
  have start : (Slot.ofValue? (c.startTime.map Instant.toJson)).optional? Instant.ofJson? =
      some c.startTime :=
    Json.optional?_written
      (fun t mem => Instant.ofJson?_toJson (exact.times t (Option.mem_toList.2 mem)))
      fun _ _ => Json.noConfusion
  obtain ⟨user, system, total⟩ := finite_iff.1 finite
  obtain ⟨userExact, systemExact, totalExact⟩ := exact_shares exact
  simp only [names, List.map_cons, List.map_nil] at slots
  simp only [ofJson?, slots, start, Slot.required?_ofValue?, Option.bind_eq_bind,
    Option.bind_some, CpuShare.ofJson?_toJson user userExact,
    CpuShare.ofJson?_toJson system systemExact, CpuShare.ofJson?_toJson total totalExact]

theorem finite_of_ofJson? {v : Json} (read : ofJson? v = some c) : form.Finite c := by
  simp only [ofJson?, Option.bind_eq_bind, Option.bind_eq_some_iff] at read
  obtain ⟨slots, -, read⟩ := read
  split at read
  · simp only [Option.bind_eq_some_iff] at read
    obtain ⟨_, user, _, system, _, total, _, -, same⟩ := read
    cases same
    obtain ⟨_, user⟩ := Slot.exists_of_required? user
    obtain ⟨_, system⟩ := Slot.exists_of_required? system
    obtain ⟨_, total⟩ := Slot.exists_of_required? total
    exact finite_iff.2 ⟨CpuShare.finite_of_ofJson? user, CpuShare.finite_of_ofJson? system,
      CpuShare.finite_of_ofJson? total⟩
  · contradiction

theorem form_roundTrips : form.RoundTrips :=
  form.roundTrips (fun _ finite exact => ofJson?_toJson finite exact)
    fun _ _ read => ⟨finite_of_ofJson? read, rfl⟩

end CpuUse

namespace MemoryShare

def form : Form MemoryShare where
  write := toJson
  read? := ofJson?
  numbers m := m.pct.toList

def names : List String := ["bytes", "pct"]

def members (m : MemoryShare) : List (String × Json) :=
  Json.member? "bytes" .ofUInt64 m.bytes ++ Json.member? "pct" .ofFloat m.pct

variable {m : MemoryShare}

theorem members_tidy (finite : form.Finite m) : Tidy names m.members :=
  (Tidy.member? fun _ _ => .num _).append
    (Tidy.member? fun x mem => Json.solid_ofFloat (finite x (Option.mem_toList.2 mem)))

theorem solid_toJson (finite : form.Finite m) : m.toJson.Solid :=
  (members_tidy finite).obj (by decide)

theorem ofJson?_toJson (finite : form.Finite m) (exact : form.Exact m) :
    ofJson? m.toJson = some m := by
  have slots : Json.slots? (names.map fun n => [n]) m.toJson =
      some [.ofValue? (m.bytes.map .ofUInt64), .ofValue? (m.pct.map .ofFloat)] := by
    change Json.slots? _ (.obj m.members) = _
    rw [Json.slots?_single ((members_tidy finite).distinct (by decide))]
    simp [names, members, List.lookup_append, Json.lookup_member?]
  simp only [names, List.map_cons, List.map_nil] at slots
  simp only [ofJson?, slots, Json.optional?_ofUInt64, Option.bind_eq_bind, Option.bind_some,
    Json.optional?_ofFloat (fun x mem => finite x (Option.mem_toList.2 mem))
      fun x mem => exact.numbers x (Option.mem_toList.2 mem)]

theorem finite_of_ofJson? {v : Json} (read : ofJson? v = some m) : form.Finite m := by
  simp only [ofJson?, Option.bind_eq_bind, Option.bind_eq_some_iff] at read
  obtain ⟨slots, -, read⟩ := read
  split at read
  · simp only [Option.bind_eq_some_iff] at read
    obtain ⟨_, -, _, pct, same⟩ := read
    cases same
    intro x mem
    obtain ⟨_, decoded⟩ := Slot.exists_of_optional? pct (Option.mem_toList.1 mem)
    exact Json.isFinite_of_toFloat? decoded
  · contradiction

theorem form_roundTrips : form.RoundTrips :=
  form.roundTrips (fun _ finite exact => ofJson?_toJson finite exact)
    fun _ _ read => ⟨finite_of_ofJson? read, rfl⟩

end MemoryShare

namespace MemoryUse

def form : Form MemoryUse where
  write := toJson
  read? := ofJson?
  numbers m := MemoryShare.form.numbers m.rss

def names : List String := ["size", "rss", "share"]

def members (m : MemoryUse) : List (String × Json) :=
  Json.member? "size" .ofUInt64 m.size ++ [("rss", m.rss.toJson)] ++
    Json.member? "share" .ofUInt64 m.share

variable {m : MemoryUse}

theorem members_tidy (finite : form.Finite m) : Tidy names m.members :=
  ((Tidy.member? fun _ _ => .num _).append
    (Tidy.one (MemoryShare.solid_toJson finite))).append (Tidy.member? fun _ _ => .num _)

theorem solid_toJson (finite : form.Finite m) : m.toJson.Solid :=
  (members_tidy finite).obj (by decide)

theorem ofJson?_toJson (finite : form.Finite m) (exact : form.Exact m) :
    ofJson? m.toJson = some m := by
  have slots : Json.slots? (names.map fun n => [n]) m.toJson =
      some [.ofValue? (m.size.map .ofUInt64), .ofValue? (some m.rss.toJson),
        .ofValue? (m.share.map .ofUInt64)] := by
    change Json.slots? _ (.obj m.members) = _
    rw [Json.slots?_single ((members_tidy finite).distinct (by decide))]
    simp [names, members, List.lookup_append, Json.lookup_member?, Json.lookup_cons]
  have rss : MemoryShare.ofJson? m.rss.toJson = some m.rss :=
    MemoryShare.ofJson?_toJson finite ⟨exact.numbers, fun _ mem => absurd mem List.not_mem_nil⟩
  simp only [names, List.map_cons, List.map_nil] at slots
  simp only [ofJson?, slots, Json.optional?_ofUInt64, Slot.required?_ofValue?, rss,
    Option.bind_eq_bind, Option.bind_some]

theorem finite_of_ofJson? {v : Json} (read : ofJson? v = some m) : form.Finite m := by
  simp only [ofJson?, Option.bind_eq_bind, Option.bind_eq_some_iff] at read
  obtain ⟨slots, -, read⟩ := read
  split at read
  · simp only [Option.bind_eq_some_iff] at read
    obtain ⟨_, -, _, rss, _, -, same⟩ := read
    cases same
    obtain ⟨_, rss⟩ := Slot.exists_of_required? rss
    exact MemoryShare.finite_of_ofJson? rss
  · contradiction

theorem form_roundTrips : form.RoundTrips :=
  form.roundTrips (fun _ finite exact => ofJson?_toJson finite exact)
    fun _ _ read => ⟨finite_of_ofJson? read, rfl⟩

end MemoryUse

namespace CgroupEntry

def form : Form CgroupEntry where
  write := toJson
  read? := ofJson?

def names : List String := ["hierarchy_id", "controllers", "path"]

def members (e : CgroupEntry) : List (String × Json) :=
  [("hierarchy_id", .ofNat e.hierarchy.toNat)] ++ Json.listMember "controllers" e.controllers ++
    [("path", .str e.path)]

theorem members_tidy (e : CgroupEntry) : Tidy names e.members :=
  ((Tidy.one (.num _)).append Tidy.listMember).append (Tidy.one (.str _))

theorem solid_toJson (e : CgroupEntry) : e.toJson.Solid := e.members_tidy.obj (by decide)

theorem ofJson?_toJson (e : CgroupEntry) : ofJson? e.toJson = some e := by
  have slots : Json.slots? (names.map fun n => [n]) e.toJson =
      some [.ofValue? (some (.ofNat e.hierarchy.toNat)),
        .ofValue? (if e.controllers = [] then none else some (.strings e.controllers)),
        .ofValue? (some (.str e.path))] := by
    change Json.slots? _ (.obj e.members) = _
    rw [Json.slots?_single (e.members_tidy.distinct (by decide))]
    simp [names, members, List.lookup_append, Json.lookup_listMember, Json.lookup_cons]
  simp only [names, List.map_cons, List.map_nil] at slots
  simp only [ofJson?, slots, Json.orDefault?_listMember, Slot.required?_ofValue?,
    Json.toUInt32?_ofNat, Json.toString?, Option.bind_eq_bind, Option.bind_some]

theorem form_roundTrips : form.RoundTrips :=
  form.roundTrips_of_whole (fun _ => rfl) (fun _ => rfl) ofJson?_toJson

end CgroupEntry

namespace CgroupInfo

def form : Form CgroupInfo where
  write := toJson
  read? := ofJson?

theorem solid_toJson (c : CgroupInfo) : c.toJson.Solid := by
  refine (Tidy.one (.arr fun v mem => ?_)).obj (by decide)
  obtain ⟨e, -, rfl⟩ := List.mem_map.1 mem
  exact e.solid_toJson

theorem ofJson?_toJson (c : CgroupInfo) : ofJson? c.toJson = some c := by
  have entries : Json.toList? CgroupEntry.ofJson? (.arr (c.entries.map CgroupEntry.toJson)) =
      some c.entries := Json.toList?_map fun e _ => e.ofJson?_toJson
  have slots : Json.slots? [["entries"]] c.toJson =
      some [.given (.arr (c.entries.map CgroupEntry.toJson))] := rfl
  simp only [ofJson?, slots, Slot.required?, entries, Option.bind_eq_bind, Option.bind_some]

theorem form_roundTrips : form.RoundTrips :=
  form.roundTrips_of_whole (fun _ => rfl) (fun _ => rfl) ofJson?_toJson

end CgroupInfo

namespace TopRule

def form : Form TopRule where
  write := toJson
  read? := ofJson?

theorem ofJson?_toJson (r : TopRule) : ofJson? r.toJson = some r := by
  have slots :
      Json.slots? [["enabled"], ["by_cpu", "by-cpu"], ["by_memory", "by-memory"]] r.toJson =
        some [.given (.bool r.enabled), .given (.ofUInt64 r.byCpu),
          .given (.ofUInt64 r.byMemory)] := rfl
  simp only [ofJson?, ofRecord?, Json.records, slots, Slot.orDefault?, Json.toBool?,
    Json.toUInt64?_ofUInt64, Option.bind_eq_bind, Option.bind_some]

theorem form_roundTrips : form.RoundTrips :=
  form.roundTrips_of_whole (fun _ => rfl) (fun _ => rfl) ofJson?_toJson

end TopRule

namespace NetworkCounters

theorem ofJson?_toJson (c : NetworkCounters) : ofJson? c.toJson = some c := by
  have section? (d : Dict Int64) :
      Dict.ofJson? Json.toInt64? (d.toJson fun n => .ofInt n.toInt) = some d :=
    d.ofJson?_toJson Json.toInt64?_ofInt
  exact Dict.ofJson?_toJson section? c

theorem solid_toJson (c : NetworkCounters) : c.toJson.Solid :=
  Dict.solid_toJson (fun d => Dict.solid_toJson (fun _ => .num _) d) c

end NetworkCounters

namespace ProcState

/-- The members of a state that belong neither to its status nor to its identity. -/
def others (s : ProcState) : List (String × Json) :=
  [("cpu", s.cpu.toJson), ("memory", s.memory.toJson)] ++
    (Json.member? "network" NetworkCounters.toJson s.network ++
      (Json.member? "cgroup" CgroupInfo.toJson s.cgroup ++ [("sample_time", s.sampleTime.toJson)]))

def otherNames : List String := ["cpu", "memory", "network", "cgroup", "sample_time"]

def members (s : ProcState) : List (String × Json) :=
  s.status.members ++ (s.identity.members ++ s.others)

theorem toJson_eq (s : ProcState) : s.toJson = .obj s.members := by
  simp only [toJson, members, others, List.append_assoc]

section
variable {s : ProcState} (cpu : CpuUse.form.Finite s.cpu) (memory : MemoryUse.form.Finite s.memory)

include cpu memory

theorem others_tidy : Tidy otherNames s.others :=
  ((Tidy.one (CpuUse.solid_toJson cpu)).append (Tidy.one (MemoryUse.solid_toJson memory))).append
    ((Tidy.member? fun c _ => NetworkCounters.solid_toJson c).append
      ((Tidy.member? fun c _ => CgroupInfo.solid_toJson c).append (Tidy.one (.str _))))

theorem members_tidy : Tidy (Status.names ++ (Identity.names ++ otherNames)) s.members :=
  s.status.members_tidy.append (s.identity.members_tidy.append (others_tidy cpu memory))

theorem members_nodup : (s.members.map Prod.fst).Nodup :=
  (members_tidy cpu memory).distinct (by decide)

theorem lookup_status {n : String} (mem : n ∈ Status.names) :
    s.members.lookup n = s.status.members.lookup n := by
  have apart : ∀ n ∈ Status.names, n ∉ Identity.names ++ otherNames := by decide
  rw [members, List.lookup_append,
    (s.identity.members_tidy.append (others_tidy cpu memory)).lookup_eq_none (apart n mem),
    Option.or_none]

theorem lookup_identity {n : String} (mem : n ∈ Identity.names) :
    s.members.lookup n = s.identity.members.lookup n := by
  have before : ∀ n ∈ Identity.names, n ∉ Status.names := by decide
  have after : ∀ n ∈ Identity.names, n ∉ otherNames := by decide
  rw [members, List.lookup_append, s.status.members_tidy.lookup_eq_none (before n mem),
    Option.none_or, List.lookup_append, (others_tidy cpu memory).lookup_eq_none (after n mem),
    Option.or_none]

theorem statusOf_members :
    Status.ofJson? (.obj s.members) = some { s.status with startTicks := none } := by
  rw [← Status.ofJson?_toJson, Status.toJson, Status.ofJson?, Status.ofJson?]
  exact congrArg (· >>= _) (Json.slots?_congr (members_nodup cpu memory)
    (s.status.members_tidy.distinct (by decide)) fun _ mem => lookup_status cpu memory mem)

theorem identityOf_members : Identity.ofJson? (.obj s.members) = some s.identity := by
  rw [← Identity.ofJson?_toJson, Identity.toJson, Identity.ofJson?, Identity.ofJson?]
  exact congrArg (· >>= _) (Json.slots?_congr (members_nodup cpu memory)
    (s.identity.members_tidy.distinct (by decide)) fun _ mem => lookup_identity cpu memory mem)

end

theorem lookup_other (s : ProcState) {n : String} (mem : n ∈ otherNames) :
    s.members.lookup n = s.others.lookup n := by
  have status : ∀ n ∈ otherNames, n ∉ Status.names := by decide
  have identity : ∀ n ∈ otherNames, n ∉ Identity.names := by decide
  rw [members, List.lookup_append, s.status.members_tidy.lookup_eq_none (status n mem),
    Option.none_or, List.lookup_append, s.identity.members_tidy.lookup_eq_none (identity n mem),
    Option.none_or]

/-- An object that is read as the parts of a state. -/
structure Shows (ms : List (String × Json)) (s : ProcState) : Prop where
  status : Status.ofJson? (.obj ms) = some { s.status with startTicks := none }
  identity : Identity.ofJson? (.obj ms) = some s.identity
  cpu : (ms.lookup "cpu").map CpuUse.ofJson? = some (some s.cpu)
  memory : (ms.lookup "memory").map MemoryUse.ofJson? = some (some s.memory)
  network : (ms.lookup "network").map NetworkCounters.ofJson? = s.network.map some
  cgroup : (ms.lookup "cgroup").map CgroupInfo.ofJson? = s.cgroup.map some

theorem members_show {s : ProcState} (cpu : CpuUse.form.Finite s.cpu)
    (memory : MemoryUse.form.Finite s.memory) (cpuExact : CpuUse.form.Exact s.cpu)
    (memoryExact : MemoryUse.form.Exact s.memory) : Shows s.members s where
  status := statusOf_members cpu memory
  identity := identityOf_members cpu memory
  cpu := by
    rw [lookup_other s (by decide)]
    simp [others, CpuUse.ofJson?_toJson cpu cpuExact]
  memory := by
    rw [lookup_other s (by decide)]
    simp [others, Json.lookup_cons, MemoryUse.ofJson?_toJson memory memoryExact]
  network := by
    have found : s.members.lookup "network" = s.network.map NetworkCounters.toJson := by
      rw [lookup_other s (by decide)]
      simp [others, List.lookup_append, Json.lookup_cons, Json.lookup_member?]
    rw [found, Option.map_map]
    exact Option.map_congr fun c _ => NetworkCounters.ofJson?_toJson c
  cgroup := by
    have found : s.members.lookup "cgroup" = s.cgroup.map CgroupInfo.toJson := by
      rw [lookup_other s (by decide)]
      simp [others, List.lookup_append, Json.lookup_cons, Json.lookup_member?]
    rw [found, Option.map_map]
    exact Option.map_congr fun c _ => CgroupInfo.ofJson?_toJson c

end ProcState

/-- Every form round-trips when the numbers and times in the value are written exactly. The object
of a state names no member twice and holds no null, and shows all parts of the state. -/
theorem forms_round_trip :
    RunState.form.RoundTrips ∧ Status.form.RoundTrips ∧ Identity.form.RoundTrips ∧
      CpuShare.form.RoundTrips ∧ CpuUse.form.RoundTrips ∧ MemoryShare.form.RoundTrips ∧
      MemoryUse.form.RoundTrips ∧ CgroupEntry.form.RoundTrips ∧ CgroupInfo.form.RoundTrips ∧
      TopRule.form.RoundTrips ∧
      ∀ s : ProcState, CpuUse.form.Finite s.cpu → MemoryUse.form.Finite s.memory →
        ∃ ms, s.toJson = .obj ms ∧ (ms.map Prod.fst).Nodup ∧ (Json.obj ms).Solid ∧
          (CpuUse.form.Exact s.cpu → MemoryUse.form.Exact s.memory → s.Shows ms) := by
  refine ⟨RunState.form_roundTrips, Status.form_roundTrips, Identity.form_roundTrips,
    CpuShare.form_roundTrips, CpuUse.form_roundTrips, MemoryShare.form_roundTrips,
    MemoryUse.form_roundTrips, CgroupEntry.form_roundTrips, CgroupInfo.form_roundTrips,
    TopRule.form_roundTrips, fun s cpu memory => ?_⟩
  have tidy := ProcState.members_tidy cpu memory
  exact ⟨s.members, s.toJson_eq, ProcState.members_nodup cpu memory, tidy.obj (by decide),
    fun cpuExact memoryExact => ProcState.members_show cpu memory cpuExact memoryExact⟩

/-- A process with parts of every kind, some of them empty and some absent. -/
def ProcState.motley : ProcState where
  status := ⟨7, some 1, none, "a \"b\"", .diskSleep, some 99⟩
  identity := ⟨some "root", none, ["", "x"], none, some (Dict.ofList [("HOME", "/"), ("=", "")])⟩
  cpu := ⟨⟨some 18446744073709551615, some 0.0721, some 12.5⟩, ⟨none, some (-0.0), none⟩,
    ⟨none, none, none⟩, some ⟨1704067200, 500000000⟩⟩
  memory := ⟨none, ⟨some 1024, some 0.1416⟩, some 0⟩
  network := some (Dict.ofList [("ip", Dict.ofList [("Forwarding", -1)]), ("tcp", ∅)])
  cgroup := some ⟨[⟨0, [], "/"⟩, ⟨4, ["cpu", "cpuacct"], "/a:b"⟩]⟩
  sampleTime := ⟨1704067201, 0⟩
  identityComplete := false

theorem ProcState.motley_round_trip :
    let s := ProcState.motley
    CpuUse.form.Finite s.cpu ∧ MemoryUse.form.Finite s.memory ∧ CpuUse.form.Exact s.cpu ∧
      MemoryUse.form.Exact s.memory ∧ CpuUse.ofJson? s.cpu.toJson = some s.cpu ∧
      (CpuUse.form.recode? s.cpu.toJson).bind CpuUse.form.recode? =
        CpuUse.form.recode? s.cpu.toJson ∧
      ∃ ms, s.toJson = .obj ms ∧ (ms.map Prod.fst).Nodup ∧ (Json.obj ms).Solid ∧ s.Shows ms := by
  intro s
  have cpu : CpuUse.form.Finite s.cpu := by
    simp only [Form.Finite]
    decide +kernel
  have memory : MemoryUse.form.Finite s.memory := by
    simp only [Form.Finite]
    decide +kernel
  have cpuExact : CpuUse.form.Exact s.cpu := ⟨by decide +kernel, by decide +kernel⟩
  have memoryExact : MemoryUse.form.Exact s.memory := ⟨by decide +kernel, by decide +kernel⟩
  obtain ⟨-, -, -, -, form, -, -, -, -, -, state⟩ := forms_round_trip
  obtain ⟨ms, written, distinct, solid, shows⟩ := state s cpu memory
  have read := form.read_write s.cpu cpu cpuExact
  exact ⟨cpu, memory, cpuExact, memoryExact, read, form.recode_twice _ _ read cpuExact, ms, written,
    distinct, solid, shows cpuExact memoryExact⟩

end ProcMeter
