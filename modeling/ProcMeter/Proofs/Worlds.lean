import ProcMeter.Proofs.Run

/-! An engine learns of its world by the answers of its sources only. Where two worlds answer
alike, and go on doing so, engines with the same rules report and keep the same. -/
namespace ProcMeter

section
variable {σ τ α β : Type} {R : σ → τ → Prop}

/-- In related worlds both come to the same, and leave related worlds. -/
def Alike (R : σ → τ → Prop) (x : StateM σ α) (y : StateM τ α) : Prop :=
  ∀ w w', R w w' → (x w).1 = (y w').1 ∧ R (x w).2 (y w').2

theorem Alike.refl (x : StateM σ α) : Alike Eq x x := by
  rintro w _ rfl
  exact ⟨rfl, rfl⟩

theorem Alike.pure (a : α) : Alike R (Pure.pure a) (Pure.pure a) :=
  fun _ _ related => ⟨rfl, related⟩

theorem Alike.bind {x : StateM σ α} {y : StateM τ α} {f : α → StateM σ β} {g : α → StateM τ β}
    (first : Alike R x y) (rest : ∀ a, Alike R (f a) (g a)) : Alike R (x >>= f) (y >>= g) := by
  intro w w' related
  obtain ⟨same, related⟩ := first w w' related
  simp only [Engine.bind_apply, same]
  exact rest _ _ _ related

end

/-- A call in another world. -/
def Turn.inWorld {σ τ : Type} (t : Turn σ) (w : τ) : Turn τ := ⟨t.call, w⟩

namespace Engine

variable {σ τ : Type} {R : σ → τ → Prop} {e : Engine (StateM σ)} {f : Engine (StateM τ)}

/-- Engines with the same rules whose sources answer alike about one process. -/
structure MirrorsAt (R : σ → τ → Prop) (e : Engine (StateM σ)) (f : Engine (StateM τ))
    (pid : Pid) : Prop where
  rules : e.rules = f.rules
  sample : Alike R (e.source.sample pid) (f.source.sample pid)
  identity : Alike R (e.source.identity pid) (f.source.identity pid)
  network : Alike R (e.networkFor pid) (f.networkFor pid)
  cgroup : Alike R (e.cgroupFor pid) (f.cgroupFor pid)

/-- Engines with the same rules whose sources answer alike. -/
structure Mirrors (R : σ → τ → Prop) (e : Engine (StateM σ)) (f : Engine (StateM τ)) : Prop where
  rules : e.rules = f.rules
  pids : Alike R e.source.pids f.source.pids
  status : ∀ pid, Alike R (e.source.status pid) (f.source.status pid)
  sample : ∀ pid, Alike R (e.source.sample pid) (f.source.sample pid)
  identity : ∀ pid, Alike R (e.source.identity pid) (f.source.identity pid)
  host : Alike R e.source.host f.source.host
  network : ∀ pid, Alike R (e.networkFor pid) (f.networkFor pid)
  cgroup : ∀ pid, Alike R (e.cgroupFor pid) (f.cgroupFor pid)
  stopwatch : Alike R e.stopwatch f.stopwatch

theorem Mirrors.at (mirrors : e.Mirrors R f) (pid : Pid) : e.MirrorsAt R f pid where
  rules := mirrors.rules
  sample := mirrors.sample pid
  identity := mirrors.identity pid
  network := mirrors.network pid
  cgroup := mirrors.cgroup pid

/-- Filling in a status takes no more than a sample, the reading of an identity, and the extras. -/
theorem fill_alike {status : Status} (rules : e.rules = f.rules)
    (sample : Alike R (e.source.sample status.pid) (f.source.sample status.pid))
    (identity : Alike R (e.readIdentity status.pid) (f.readIdentity status.pid))
    (network : Alike R (e.networkFor status.pid) (f.networkFor status.pid))
    (cgroup : Alike R (e.cgroupFor status.pid) (f.cgroupFor status.pid)) (registry : Registry)
    (host : Host) : Alike R (e.fill registry host status) (f.fill registry host status) := by
  have identified : Alike R (e.identityFor registry status) (f.identityFor registry status) := by
    unfold Engine.identityFor
    rw [rules]
    cases cachedIdentity? f.rules registry status with
    | some identity => exact .pure _
    | none => exact identity
  refine sample.bind fun answer => ?_
  cases answer with
  | error err => exact .pure _
  | ok sample =>
    refine identified.bind fun answer => ?_
    cases answer with
    | error err => exact .pure _
    | ok known => exact network.bind fun network => cgroup.bind fun cgroup => .pure _

namespace MirrorsAt

theorem readIdentity {pid : Pid} (mirrors : e.MirrorsAt R f pid) :
    Alike R (e.readIdentity pid) (f.readIdentity pid) := by
  unfold Engine.readIdentity
  rw [mirrors.rules]
  refine mirrors.identity.bind fun answer => ?_
  cases answer with
  | ok identity => exact .pure _
  | error err =>
    cases gone : err.isGone
    · simp only [gone, Bool.false_eq_true, if_false]
      exact .pure _
    · simp only [gone, if_true]
      exact .pure _

theorem fill {status : Status} (mirrors : e.MirrorsAt R f status.pid) (registry : Registry)
    (host : Host) : Alike R (e.fill registry host status) (f.fill registry host status) :=
  fill_alike mirrors.rules mirrors.sample mirrors.readIdentity mirrors.network mirrors.cgroup
    registry host

end MirrorsAt

/-- Listing processes takes nothing but their ids and statuses. -/
theorem listStates_alike (procs : e.rules.procs = f.rules.procs)
    (pids : Alike R e.source.pids f.source.pids)
    (status : ∀ pid, Alike R (e.source.status pid) (f.source.status pid)) :
    Alike R e.listStates f.listStates := by
  have listed (pids : List Pid) : Alike R (e.listed pids) (f.listed pids) := by
    induction pids with
    | nil => exact .pure _
    | cons pid pids ih =>
      have rows : rowOf? e.rules pid = rowOf? f.rules pid := by
        funext answer
        cases answer with
        | error err => rfl
        | ok status => simp only [rowOf?, procs]
      rw [listed_step, listed_step, rows]
      exact (status pid).bind fun answer => ih.bind fun entries => .pure _
  refine pids.bind fun answer => ?_
  cases answer with
  | error err => exact .pure _
  | ok pids => exact (listed pids).bind fun entries => .pure _

end Engine

end ProcMeter
