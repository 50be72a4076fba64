import ProcMeter.Proofs.Run
import ProcMeter.Proofs.Shares

/-! Processes are sampled apart from each other. Of the registry a visit reads the entry of its own
process only, and it changes no other entry. -/
namespace ProcMeter

/-- An outcome that does not show another process than the one that was asked for. -/
def Engine.Outcome.About (pid : Pid) (outcome : Engine.Outcome) : Prop :=
  ∀ s, outcome = .sampled s → s.pid = pid

/-- The counters after an outcome. -/
def Counters.tally (c : Counters) : Engine.Outcome → Counters
  | .sampled _ => c
  | .filtered => c.recordFiltered
  | .failed err => if err.isDenied then c.recordSkipped.recordDenied else c.recordSkipped

theorem Counters.tally_comm (c : Counters) (first second : Engine.Outcome) :
    (c.tally first).tally second = (c.tally second).tally first := by
  cases first with
  | sampled s => rfl
  | filtered =>
    cases second with
    | sampled s => rfl
    | filtered => rfl
    | failed err => cases denied : err.isDenied <;> simp only [tally, denied] <;> rfl
  | failed err =>
    cases second with
    | sampled s => rfl
    | filtered => cases denied : err.isDenied <;> simp only [tally, denied] <;> rfl
    | failed err' =>
      cases denied : err.isDenied <;> cases denied' : err'.isDenied <;>
        simp only [tally, denied, denied'] <;> rfl

namespace Registry

variable {registry registry' : Registry} {pid q : Pid} {outcome : Engine.Outcome}

theorem ext_get? (same : ∀ p, registry.get? p = registry'.get? p) : registry = registry' :=
  Std.ExtTreeMap.ext_getElem? same

theorem settle_get?_other (about : outcome.About pid) (other : pid ≠ q) :
    (registry.settle pid outcome).get? q = registry.get? q := by
  cases outcome with
  | sampled s => simp only [settle, get?_set, about s rfl, if_neg other]
  | filtered => rfl
  | failed err =>
    simp only [settle]
    split
    · simp only [get?_remove, if_neg other]
    · rfl

/-- What an outcome leaves of an entry depends on nothing but that entry. -/
theorem settle_get?_congr (same : registry.get? q = registry'.get? q) (pid : Pid)
    (outcome : Engine.Outcome) :
    (registry.settle pid outcome).get? q = (registry'.settle pid outcome).get? q := by
  cases outcome with
  | sampled s => simp only [settle, get?_set, same]
  | filtered => exact same
  | failed err =>
    simp only [settle]
    split
    · simp only [get?_remove, same]
    · exact same

/-- Outcomes of different processes can be settled in either order. -/
theorem settle_comm {second : Engine.Outcome} (about : outcome.About pid)
    (about' : second.About q) (apart : pid ≠ q) (registry : Registry) :
    (registry.settle pid outcome).settle q second =
      (registry.settle q second).settle pid outcome := by
  apply ext_get?
  intro k
  by_cases here : q = k
  · have other : pid ≠ k := here ▸ apart
    rw [settle_get?_other about other]
    exact settle_get?_congr (settle_get?_other about other) q second
  · rw [settle_get?_other about' here]
    exact (settle_get?_congr (settle_get?_other about' here) pid outcome).symm

end Registry

namespace Engine

theorem note_eq (r : Record) (pid : Pid) (outcome : Outcome) :
    note r pid outcome = ⟨r.registry.settle pid outcome, r.counters.tally outcome⟩ := by
  cases outcome with
  | sampled s => rfl
  | filtered => rfl
  | failed err => rfl

section
variable {m : Type → Type} [Monad m] {registry registry' : Registry} {status : Status}

theorem identityFor_local (e : Engine m)
    (same : registry.get? status.pid = registry'.get? status.pid) :
    e.identityFor registry status = e.identityFor registry' status := by
  simp only [identityFor, cachedIdentity?, same]

theorem fill_local (e : Engine m) (host : Host)
    (same : registry.get? status.pid = registry'.get? status.pid) :
    e.fill registry host status = e.fill registry' host status := by
  simp only [fill, e.identityFor_local same, same]

end

end Engine

/-- A host with any number of processes: their ids and ticks, and the second it is. -/
structure Crowd where
  processes : List (Pid × UInt64)
  second : Int

namespace Crowd

def source : Source (StateM Crowd) where
  pids w := (.ok (w.processes.map Prod.fst), w)
  status pid w :=
    match w.processes.lookup pid with
    | some _ => (.ok ⟨pid, some 1, none, "worker", .running, some 500⟩, w)
    | none => (.error (.notFound pid), w)
  sample pid w :=
    match w.processes.lookup pid with
    | some ticks =>
      (.ok ⟨⟨.ofTicks ticks, .ofTicks 0, .ofTicks ticks, none⟩, ⟨none, ⟨some 4096, none⟩, none⟩,
        ⟨w.second, 0⟩⟩, w)
    | none => (.error (.notFound pid), w)
  identity _ w := (.ok ⟨some "root", none, ["worker"], some "worker", none⟩, w)
  host w := (⟨some 1000000, 4⟩, w)

def engine : Engine (StateM Crowd) where
  rules := Solo.engine.rules
  source := source
  network := none
  cgroups := none
  stopwatch w := (0.0, w)

theorem status_pid {pid : Pid} {w w₁ : Crowd} {status : Status}
    (read : engine.source.status pid w = (.ok status, w₁)) : status.pid = pid := by
  simp only [engine, source] at read
  split at read
  · obtain rfl := Except.ok.inj (congrArg Prod.fst read)
    rfl
  · have clash := congrArg Prod.fst read
    contradiction

end Crowd

/-- What there is to find of a process: its ticks; a name that no pattern matches; no access; or
nothing any more, once its status has been read. -/
inductive Fate where
  | works (ticks : UInt64)
  | idles
  | hides
  | leaves
  deriving DecidableEq

/-- A host with processes of all sorts, and the second it is. -/
structure Medley where
  processes : List (Pid × Fate)
  second : Int

namespace Medley

def source : Source (StateM Medley) where
  pids w := (.ok (w.processes.map Prod.fst), w)
  status pid w :=
    match w.processes.lookup pid with
    | some .hides => (.error (.permissionDenied pid), w)
    | some .idles => (.ok ⟨pid, some 1, none, "idler", .idle, some 500⟩, w)
    | some _ => (.ok ⟨pid, some 1, none, "worker", .running, some 500⟩, w)
    | none => (.error (.notFound pid), w)
  sample pid w :=
    match w.processes.lookup pid with
    | some (.works ticks) =>
      (.ok ⟨⟨.ofTicks ticks, .ofTicks 0, .ofTicks ticks, none⟩, ⟨none, ⟨some 4096, none⟩, none⟩,
        ⟨w.second, 0⟩⟩, w)
    | _ => (.error (.notFound pid), w)
  identity _ w := (.ok ⟨some "root", none, ["worker"], some "worker", none⟩, w)
  host w := (⟨some 1000000, 4⟩, w)

/-- Samples the processes that are called worker. -/
def engine (top : TopRule) : Engine (StateM Medley) where
  rules := ⟨⟨[(· == "worker")]⟩, ⟨[]⟩, none, true, false, top⟩
  source := source
  network := none
  cgroups := none
  stopwatch w := (0.0, w)

theorem status_pid {top : TopRule} {pid : Pid} {w w₁ : Medley} {status : Status}
    (read : (engine top).source.status pid w = (.ok status, w₁)) : status.pid = pid := by
  simp only [engine, source] at read
  split at read
  · cases read
  · cases read
    rfl
  · cases read
    rfl
  · cases read

end Medley

/-- A host with the processes 7 and 8 and with a status for each id that it shows another id for,
be it the same or not. -/
def impostors (shows : Pid → Option Pid) : Engine (StateM Unit) where
  rules := Solo.engine.rules
  source :=
    { pids := fun w => (.ok [7, 8], w)
      status := fun pid w =>
        match shows pid with
        | some other =>
          (.ok ⟨other, some 1, none, if pid = 7 then "first" else "second", .running, none⟩, w)
        | none => (.error (.notFound pid), w)
      sample := fun _ w =>
        (.ok ⟨⟨.ofTicks 5, .ofTicks 0, .ofTicks 5, none⟩, ⟨none, ⟨some 4096, none⟩, none⟩,
          .epoch⟩, w)
      identity := fun _ w => (.ok ⟨some "root", none, ["worker"], some "worker", none⟩, w)
      host := fun w => (⟨some 1000000, 4⟩, w) }
  network := none
  cgroups := none
  stopwatch w := (0.0, w)

end ProcMeter
