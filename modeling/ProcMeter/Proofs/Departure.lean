import ProcMeter.Procfs.Reader
import ProcMeter.Proofs.RegistryHistory
import ProcMeter.Proofs.Watching

/-! Processes that exit while they are looked at. The system tells of it in two ways: a file that
is opened too late is missing, and one that was opened in time is read with the error that there is
no such process. Only a missing file shows here that a process has gone; after any other error its
entry stays, or it is sampled with a blank identity. -/
namespace ProcMeter

/-- No such process. -/
def Errno.noProcess : Nat := 3

theorem IoError.isMissing_os_iff {n : Nat} : (IoError.os n).isMissing = true ↔ n = Errno.noEntry :=
  beq_iff_eq

theorem SampleError.isGone_ofIo (pid : Pid) (cause : IoError) :
    (ofIo pid cause).isGone = cause.isMissing := by
  unfold ofIo
  cases missing : cause.isMissing with
  | true => rfl
  | false => cases cause.isDenied <;> rfl

namespace Procfs.Reader

variable {σ : Type} {r : Reader (StateM σ)} {pid : Pid} {cause : IoError} {w w₁ : σ}

theorem text_of_unread {file : String}
    (unread : r.files.read (r.path pid file) w = (.error cause, w₁)) :
    r.text pid file w = (.error (.ofIo pid cause), w₁) := by
  simp only [text, Files.readText, Engine.bind_apply, unread, Engine.pure_apply]
  rfl

theorem readStat_of_unread (unread : r.files.read (r.path pid "stat") w = (.error cause, w₁)) :
    r.readStat pid w = (.error (.ofIo pid cause), w₁) := by
  simp only [readStat, Engine.bind_apply, text_of_unread unread, Engine.pure_apply]

theorem status_of_unread (unread : r.files.read (r.path pid "stat") w = (.error cause, w₁)) :
    r.status pid w = (.error (.ofIo pid cause), w₁) := by
  simp only [status, Engine.bind_apply, readStat_of_unread unread, Engine.pure_apply]
  rfl

theorem sample_of_unread_stat
    (unread : r.files.read (r.path pid "stat") (r.surroundings.now w).2 = (.error cause, w₁)) :
    r.sample pid w = (.error (.ofIo pid cause), w₁) := by
  simp only [sample, Engine.bind_apply, readStat_of_unread unread, Engine.pure_apply]

theorem sample_of_unread_statm {line : StatLine} {w₂ : σ}
    (read : r.readStat pid (r.surroundings.now w).2 = (.ok line, w₁))
    (unread : r.files.read (r.path pid "statm") w₁ = (.error cause, w₂)) :
    r.sample pid w = (.error (.ofIo pid cause), w₂) := by
  simp only [sample, readStatm, Engine.bind_apply, read, text_of_unread unread, Engine.pure_apply]

theorem identity_of_unread (unread : r.files.read (r.path pid "cmdline") w = (.error cause, w₁)) :
    r.identity pid w = (.error (.ofIo pid cause), w₁) := by
  simp only [identity, Engine.bind_apply, unread, Engine.pure_apply]

/-- A status shows the process whose stat line was read. -/
theorem status_pid {s : Status} (read : r.status pid w = (.ok s, w₁)) : s.pid = pid := by
  have shows : (r.readStat pid w).1.map (statusOf pid) = .ok s := congrArg Prod.fst read
  cases line : (r.readStat pid w).1 with
  | error err => simp [line, Except.map] at shows
  | ok fields =>
    rw [line] at shows
    obtain rfl := Except.ok.inj shows
    rfl

end Procfs.Reader

namespace Engine

open Procfs

variable {σ : Type} {e : Engine (StateM σ)} {r : Reader (StateM σ)} {v : Visit σ} {kept : Record}
  {t : Turn σ} {cause : IoError}

/-- A visit cannot read the status or the counters of its process, as a file cannot be read. -/
inductive LosesCounters (e : Engine (StateM σ)) (r : Reader (StateM σ)) (v : Visit σ)
    (cause : IoError) : Prop where
  | status {w : σ} (unread : r.files.read (r.path v.pid "stat") v.world = (.error cause, w))
  | stat {status : Status} {w w₁ : σ} (read : e.source.status v.pid v.world = (.ok status, w))
      (accepted : v.byName = true → e.rules.procs.accepts status.name = true)
      (unread : r.files.read (r.path v.pid "stat") (r.surroundings.now w).2 = (.error cause, w₁))
  | statm {status : Status} {line : StatLine} {w w₁ w₂ : σ}
      (read : e.source.status v.pid v.world = (.ok status, w))
      (accepted : v.byName = true → e.rules.procs.accepts status.name = true)
      (readAgain : r.readStat v.pid (r.surroundings.now w).2 = (.ok line, w₁))
      (unread : r.files.read (r.path v.pid "statm") w₁ = (.error cause, w₂))

/-- A visit has read the counters of its process and needs the identity, and cannot read it. -/
inductive LosesIdentity (e : Engine (StateM σ)) (r : Reader (StateM σ)) (v : Visit σ)
    (cause : IoError) : Prop where
  | cmdline {status : Status} {sample : Sample} {w w₁ : σ} (reads : e.Reads v status sample w)
      (needed : NeedsIdentity e.rules v.registry status)
      (unread : r.files.read (r.path v.pid "cmdline") w = (.error cause, w₁))

theorem Made.failed_of_unread {err : SampleError} {w : σ} (made : e.Made v)
    (unread : e.source.status v.pid v.world = (.error err, w)) : v.outcome = .failed err := by
  have seen := congrArg Prod.fst made.seen
  rw [examine_of_status_error v.byName unread] at seen
  exact seen.symm

theorem Made.failed_of_unsampled {status : Status} {err : SampleError} {w w₁ : σ} (made : e.Made v)
    (read : e.source.status v.pid v.world = (.ok status, w))
    (accepted : v.byName = true → e.rules.procs.accepts status.name = true)
    (unread : e.source.sample status.pid w = (.error err, w₁)) : v.outcome = .failed err := by
  have seen := congrArg Prod.fst made.seen
  rw [examine_of_accepted read accepted, fill_of_sample_error unread] at seen
  exact seen.symm

/-- An identity that cannot be read is blank, unless the process has gone. -/
theorem identityFor_of_unread {registry : Registry} {status : Status} {err : SampleError} {w w₁ : σ}
    (needed : NeedsIdentity e.rules registry status)
    (unread : e.source.identity status.pid w = (.error err, w₁)) :
    e.identityFor registry status w =
      (if err.isGone then .error err else .ok (.blank, false), w₁) := by
  simp only [identityFor, cachedIdentity?_eq_none_iff.mpr needed, readIdentity, bind_apply, unread,
    Identity.blank_restrictEnv]
  split <;> rfl

section
variable (backed : e.source = r.source)
include backed

theorem sound_of_reader
    (distinct : ∀ {w w₁ : σ} {pids : List Pid}, r.pids w = (.ok pids, w₁) → pids.Nodup) :
    e.Sound where
  status_pid read := Reader.status_pid (by rwa [backed] at read)
  pids_nodup listed := distinct (by rwa [backed] at listed)

theorem Made.failed_of_losesCounters (made : e.Made v) (loses : e.LosesCounters r v cause) :
    v.outcome = .failed (.ofIo v.pid cause) := by
  have shows {status : Status} {w : σ} (read : e.source.status v.pid v.world = (.ok status, w)) :
      status.pid = v.pid := Reader.status_pid (by rwa [backed] at read)
  cases loses with
  | status unread =>
    apply made.failed_of_unread
    rw [backed]
    exact Reader.status_of_unread unread
  | stat read accepted unread =>
    apply made.failed_of_unsampled read accepted
    rw [backed, shows read]
    exact Reader.sample_of_unread_stat unread
  | statm read accepted readAgain unread =>
    apply made.failed_of_unsampled read accepted
    rw [backed, shows read]
    exact Reader.sample_of_unread_statm readAgain unread

theorem Made.ends_of_losesIdentity (made : e.Made v) (loses : e.LosesIdentity r v cause) :
    (cause.isMissing = true → v.outcome = .failed (.ofIo v.pid cause)) ∧
      (cause.isMissing = false →
        ∃ s, e.Yields v s ∧ s.identity = .blank ∧ s.identityComplete = false) := by
  obtain ⟨reads, needed, unread⟩ := loses
  rename_i status sample w w₁
  have shows : status.pid = v.pid := by
    obtain ⟨_, read, _⟩ := reads
    exact Reader.status_pid (by rwa [backed] at read)
  have failed : e.source.identity status.pid w = (.error (.ofIo v.pid cause), w₁) := by
    rw [backed, shows]
    exact Reader.identity_of_unread unread
  have found := identityFor_of_unread needed failed
  rw [SampleError.isGone_ofIo] at found
  constructor
  · intro missing
    rw [missing, if_pos rfl] at found
    exact (made.of_identity_error reads found).1
  · intro present
    rw [present, if_neg Bool.false_ne_true] at found
    exact ⟨_, ⟨status, sample, .blank, false, w, w₁, reads, found, rfl⟩, stateFrom_identity⟩

end

/-- A process that exits while it is looked at leaves the registry just when a file that has to be
read of it is missing, as no other error counts as the end of a process; of the errors of the system
that is the one that there is no such entry. After any other error, that there is no such process
among them, the entry is what it was if status or counters could not be read, and it is of a sampled
process with a blank identity if the identity could not. -/
theorem exited_leaves_iff_missing (e : Engine (StateM σ)) (r : Reader (StateM σ))
    (backed : e.source = r.source)
    (distinct : ∀ {w w₁ : σ} {pids : List Pid}, r.pids w = (.ok pids, w₁) → pids.Nodup)
    (kept : Record) (t : Turn σ) :
    (∀ pid cause, (SampleError.ofIo pid cause).isGone = true ↔ cause.isMissing = true) ∧
    (∀ n, (IoError.os n).isMissing = true ↔ n = Errno.noEntry) ∧
    ∀ v ∈ e.visits kept t, ∀ cause,
      (e.LosesCounters r v cause ∨ e.LosesIdentity r v cause →
        (kept.registry.get? v.pid).isSome = true →
          ((e.after kept t).registry.get? v.pid = none ↔ cause.isMissing = true)) ∧
      (e.LosesCounters r v cause → cause.isMissing = false →
        (e.after kept t).registry.get? v.pid = kept.registry.get? v.pid) ∧
      (e.LosesIdentity r v cause → cause.isMissing = false →
        ∃ s, (e.after kept t).registry.get? v.pid = some s ∧ s.identity = .blank ∧
          s.identityComplete = false) := by
  refine ⟨fun pid cause => by rw [SampleError.isGone_ofIo], fun n => IoError.isMissing_os_iff, ?_⟩
  intro v member cause
  have sound := sound_of_reader backed distinct
  have made := (e.visits_chained kept t).made member
  have leaves (failed : v.outcome = .failed (.ofIo v.pid cause))
      (missing : cause.isMissing = true) : (e.after kept t).registry.get? v.pid = none :=
    after_get?_gone sound ⟨v, member, rfl, _, failed, by rw [SampleError.isGone_ofIo, missing]⟩
  have stays (loses : e.LosesCounters r v cause) (present : cause.isMissing = false) :
      (e.after kept t).registry.get? v.pid = kept.registry.get? v.pid := by
    have failed := made.failed_of_losesCounters backed loses
    exact after_get?_kept sound member (.inr ⟨_, failed, by rw [SampleError.isGone_ofIo, present]⟩)
  have blank (loses : e.LosesIdentity r v cause) (present : cause.isMissing = false) :
      ∃ s, (e.after kept t).registry.get? v.pid = some s ∧ s.identity = .blank ∧
        s.identityComplete = false := by
    obtain ⟨s, yields, unknown⟩ := (made.ends_of_losesIdentity backed loses).2 present
    exact ⟨s, after_get?_sampled sound ⟨v, member, rfl, yields⟩, unknown⟩
  refine ⟨fun loses tracked => ?_, stays, blank⟩
  cases missing : cause.isMissing with
  | true =>
    refine iff_of_true ?_ rfl
    rcases loses with counters | identity
    · exact leaves (made.failed_of_losesCounters backed counters) missing
    · exact leaves ((made.ends_of_losesIdentity backed identity).1 missing) missing
  | false =>
    refine iff_of_false (fun left => ?_) Bool.false_ne_true
    rcases loses with counters | identity
    · rw [← stays counters missing, left] at tracked
      contradiction
    · obtain ⟨s, found, _⟩ := blank identity missing
      rw [left] at found
      contradiction

/-- A host with one process, whose files cannot be read. The world is the error that this gives. -/
def failing : Reader (StateM Nat) where
  files :=
    { read := fun _ n => (.error (.os n), n)
      readLink := fun _ n => (.error (.os n), n)
      list := fun _ n => (.ok ["7"], n)
      leadsTo := fun _ n => (true, n) }
  surroundings := ⟨fun _ n => (none, n), fun n => (⟨0, 0⟩, n), fun n => (4, n)⟩
  resolver := .default
  units := .usual
  bootTime := none

def overFailing : Engine (StateM Nat) where
  rules := Solo.engine.rules
  source := failing.source
  network := none
  cgroups := none
  stopwatch n := (0.0, n)

theorem failing_pids (n : Nat) : failing.pids n = (.ok [7], n) := by
  have named : ["7"].filterMap Reader.pidOfName? = [7] := by decide +kernel
  exact congrArg (fun pids => (Except.ok pids, n)) named

theorem failing_distinct {n n₁ : Nat} {pids : List Pid}
    (listed : failing.pids n = (.ok pids, n₁)) : pids.Nodup := by
  rw [failing_pids, Prod.mk.injEq, Except.ok.injEq] at listed
  rw [← listed.1]
  decide

theorem failing_loses (call : Call) (called : call = .cycle ∨ call = .one 7) (kept : Record)
    (n : Nat) : ∃ v ∈ overFailing.visits kept ⟨call, n⟩, v.pid = 7 ∧
      overFailing.LosesCounters failing v (.os n) := by
  rcases called with rfl | rfl
  · have listed : overFailing.enumeration n = (.ok [7], n) := failing_pids n
    simp only [visits, listed]
    exact ⟨_, List.mem_cons_self, rfl, .status rfl⟩
  · exact ⟨_, List.mem_cons_self, rfl, .status rfl⟩

/-- A process is followed, and then its stat line cannot be read, be it in a cycle or alone. -/
theorem failing_exited_leaves_iff_missing :
    let kept := Solo.engine.run [⟨.cycle, .running 5 1⟩]
    overFailing.source = failing.source ∧
      (∀ {n n₁ : Nat} {pids : List Pid}, failing.pids n = (.ok pids, n₁) → pids.Nodup) ∧
      (kept.registry.get? 7).isSome = true ∧
      ∀ call, call = .cycle ∨ call = .one 7 →
        (overFailing.after kept ⟨call, Errno.noEntry⟩).registry.get? 7 = none ∧
        (overFailing.after kept ⟨call, Errno.accessDenied⟩).registry.get? 7 =
          kept.registry.get? 7 := by
  intro kept
  have tracked : (kept.registry.get? 7).isSome = true := by decide +kernel
  refine ⟨rfl, failing_distinct, tracked, fun call called => ⟨?_, ?_⟩⟩
  · obtain ⟨v, member, same, loses⟩ := failing_loses call called kept Errno.noEntry
    obtain ⟨_, missing, leaves⟩ := exited_leaves_iff_missing overFailing failing rfl
      failing_distinct kept ⟨call, Errno.noEntry⟩
    rw [← same] at tracked ⊢
    exact ((leaves v member _).1 (.inl loses) tracked).mpr ((missing _).mpr rfl)
  · obtain ⟨v, member, same, loses⟩ := failing_loses call called kept Errno.accessDenied
    obtain ⟨_, _, leaves⟩ := exited_leaves_iff_missing overFailing failing rfl failing_distinct
      kept ⟨call, Errno.accessDenied⟩
    rw [← same]
    exact (leaves v member _).2.1 loses rfl

/-- A process whose files are read with the error that it is no longer there stays. -/
theorem exited_stays :
    let kept := Solo.engine.run [⟨.cycle, .running 5 1⟩]
    (SampleError.ofIo 7 (.os Errno.noProcess)).isGone = false ∧
      (kept.registry.get? 7).isSome = true ∧
      failing.files.read (failing.path 7 "stat") Errno.noProcess =
        (.error (.os Errno.noProcess), Errno.noProcess) ∧
      ((overFailing.after kept ⟨.cycle, Errno.noProcess⟩).registry.get? 7).isSome = true ∧
      ((overFailing.after kept ⟨.one 7, Errno.noProcess⟩).registry.get? 7).isSome = true := by
  refine ⟨by decide, by decide +kernel, rfl, by decide +kernel, by decide +kernel⟩

end Engine

end ProcMeter
