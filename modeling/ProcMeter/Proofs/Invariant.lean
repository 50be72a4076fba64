import ProcMeter.Proofs.Run
import Mathlib.Data.List.Basic
import Mathlib.Data.List.Induction

/-! Properties of the registry that hold at every moment of every run. Each visit finds the
registry as the visits before it have left it, so it is enough that a visit and a pruning keep
the property; it may refer to all visits made so far. -/
namespace ProcMeter

/-- When a process was last sampled, it was into this state. -/
def Latest {σ : Type} (visits : List (Visit σ)) (p : Pid) (s : ProcState) : Prop :=
  s.pid = p ∧ ∃ before u since, visits = before ++ u :: since ∧ u.outcome = .sampled s ∧
    ∀ x ∈ since, ∀ s', x.outcome = .sampled s' → s'.pid ≠ p

section
variable {σ : Type} {visits : List (Visit σ)} {v : Visit σ} {p : Pid} {s : ProcState}

theorem latest_of_sampled (sampled : v.outcome = .sampled s) (same : s.pid = p) :
    Latest (visits ++ [v]) p s :=
  ⟨same, visits, v, [], rfl, sampled, fun _ none => absurd none List.not_mem_nil⟩

theorem Latest.concat (latest : Latest visits p s)
    (unsampled : ∀ s', v.outcome = .sampled s' → s'.pid ≠ p) : Latest (visits ++ [v]) p s := by
  obtain ⟨same, before, u, since, rfl, sampled, others⟩ := latest
  refine ⟨same, before, u, since ++ [v], by simp, sampled, fun x member => ?_⟩
  obtain earlier | rfl := by simpa using member
  · exact others x earlier
  · exact unsampled

end

namespace Engine

variable {σ : Type} {e : Engine (StateM σ)} {r : Record} {t : Turn σ} {v : Visit σ}
  {registry : Registry} {visits before later : List (Visit σ)}

/-- The visit is one that the engine makes in its circumstances. -/
def Made (e : Engine (StateM σ)) (v : Visit σ) : Prop :=
  v = e.look v.byName v.registry v.host v.pid v.world

/-- Visits made one after another, from a registry on. -/
def Chained (e : Engine (StateM σ)) : Registry → List (Visit σ) → Prop
  | _, [] => True
  | registry, v :: rest => e.Made v ∧ v.registry = registry ∧ e.Chained v.settled rest

theorem sweepVisits_chained (host : Host) (pids : List Pid) (registry : Registry) (w : σ) :
    e.Chained registry (e.sweepVisits host pids registry w) := by
  induction pids generalizing registry w with
  | nil => trivial
  | cons pid pids ih => exact ⟨rfl, rfl, ih _ _⟩

theorem visits_chained (e : Engine (StateM σ)) (r : Record) (t : Turn σ) :
    e.Chained r.registry (e.visits r t) := by
  unfold visits
  split
  · split
    · trivial
    · exact sweepVisits_chained _ _ _ _
  · exact ⟨rfl, rfl, trivial⟩
  · trivial

theorem Chained.split (chained : e.Chained registry (before ++ v :: later)) :
    e.Chained registry before ∧ e.Made v ∧ v.registry = registry.settleAll before ∧
      e.Chained v.settled later := by
  induction before generalizing registry with
  | nil => exact ⟨trivial, chained⟩
  | cons u rest ih =>
    obtain ⟨made, rfl, tail⟩ := chained
    obtain ⟨front, rest⟩ := ih tail
    exact ⟨⟨made, rfl, front⟩, rest⟩

theorem Chained.made (chained : e.Chained registry visits) (member : v ∈ visits) : e.Made v := by
  obtain ⟨before, later, rfl⟩ := List.append_of_mem member
  exact chained.split.2.1

theorem sweepVisits_pids (host : Host) (pids : List Pid) (registry : Registry) (w : σ) :
    (e.sweepVisits host pids registry w).map Visit.pid = pids := by
  induction pids generalizing registry w with
  | nil => rfl
  | cons pid pids ih => exact congrArg (pid :: ·) (ih _ _)

/-- A cycle visits the processes that it has enumerated, once for each time they are listed. -/
theorem visits_pids {pids : List Pid} (listed : e.enumerated? t = some pids) (r : Record) :
    (e.visits r t).map Visit.pid = pids := by
  obtain ⟨called, read⟩ := enumerated?_eq_some_iff.mp listed
  simp only [visits, called]
  split
  · simp_all
  · rw [sweepVisits_pids]
    simp_all

theorem concat_eq_split_iff {α : Type} {xs front rest : List α} {x y : α} :
    xs ++ [x] = front ++ y :: rest ↔
      (front = xs ∧ y = x ∧ rest = []) ∨ ∃ mid, rest = mid ++ [x] ∧ xs = front ++ y :: mid := by
  constructor
  · intro split
    rcases List.eq_nil_or_concat' rest with rfl | ⟨mid, last, rfl⟩
    · obtain ⟨rfl, same⟩ := List.append_inj' split rfl
      exact .inl ⟨rfl, (List.singleton_inj.mp same).symm, rfl⟩
    · rw [← List.cons_append, ← List.append_assoc] at split
      obtain ⟨rfl, same⟩ := List.append_inj' split rfl
      exact .inr ⟨mid, by rw [List.singleton_inj.mp same], rfl⟩
  · rintro (⟨rfl, rfl, rfl⟩ | ⟨mid, rfl, rfl⟩)
    · rfl
    · simp only [List.append_assoc, List.cons_append]

theorem run_concat (e : Engine (StateM σ)) (turns : List (Turn σ)) (t : Turn σ) :
    e.run (turns ++ [t]) = e.after (e.run turns) t := by
  simp only [run, runFrom, List.foldl_append, List.foldl_cons, List.foldl_nil]

theorem historyFrom_concat (e : Engine (StateM σ)) (r : Record) (turns : List (Turn σ))
    (t : Turn σ) :
    e.historyFrom r (turns ++ [t]) = e.historyFrom r turns ++ e.visits (e.runFrom r turns) t := by
  induction turns generalizing r with
  | nil => exact List.append_nil _
  | cons u rest ih =>
    simp only [List.cons_append, historyFrom, ih, List.append_assoc]
    rfl

theorem history_concat (e : Engine (StateM σ)) (turns : List (Turn σ)) (t : Turn σ) :
    e.history (turns ++ [t]) = e.history turns ++ e.visits (e.run turns) t :=
  e.historyFrom_concat .empty turns t

/-- What holds of the visits made so far and of the registry at that moment, whatever is visited
and pruned next. -/
structure Invariant (e : Engine (StateM σ)) (Holds : List (Visit σ) → Registry → Prop) : Prop where
  start : Holds [] .empty
  visited : ∀ {before : List (Visit σ)} {v : Visit σ}, e.Made v → Holds before v.registry →
    Holds (before ++ [v]) v.settled
  pruned : ∀ {before : List (Visit σ)} {registry : Registry} (alive : List Pid),
    Holds before registry → Holds before (registry.prune alive)

namespace Invariant

variable {Holds : List (Visit σ) → Registry → Prop}

theorem settleAll (inv : e.Invariant Holds) (chained : e.Chained registry visits)
    (holds : Holds before registry) : Holds (before ++ visits) (registry.settleAll visits) := by
  induction visits generalizing before registry with
  | nil => simpa only [List.append_nil, Registry.settleAll_nil] using holds
  | cons v rest ih =>
    obtain ⟨made, rfl, tail⟩ := chained
    have next := ih tail (inv.visited made holds)
    simpa only [List.append_assoc, List.singleton_append, Registry.settleAll_cons,
      Visit.settled] using next

theorem after (inv : e.Invariant Holds) (t : Turn σ) (holds : Holds before r.registry) :
    Holds (before ++ e.visits r t) (e.after r t).registry := by
  have settled := inv.settleAll (e.visits_chained r t) holds
  rw [after_registry]
  split
  · exact inv.pruned _ settled
  · exact settled

/-- It holds after every run. -/
theorem run (inv : e.Invariant Holds) (turns : List (Turn σ)) :
    Holds (e.history turns) (e.run turns).registry := by
  induction turns using List.reverseRecOn with
  | nil => exact inv.start
  | append_singleton turns t ih =>
    rw [run_concat, history_concat]
    exact inv.after t ih

/-- It holds before every visit of every call of a run. -/
theorem before_visit (inv : e.Invariant Holds) {turns : List (Turn σ)}
    (split : e.visits (e.run turns) t = before ++ v :: later) :
    Holds (e.history turns ++ before) v.registry := by
  have chained := e.visits_chained (e.run turns) t
  rw [split] at chained
  obtain ⟨front, _, found, _⟩ := chained.split
  rw [found]
  exact inv.settleAll front (inv.run turns)

/-- It held before every visit that a run has made. -/
theorem at_visit (inv : e.Invariant Holds) {turns : List (Turn σ)}
    (split : e.history turns = before ++ v :: later) : e.Made v ∧ Holds before v.registry := by
  -- the invariant, and along with it the same of every visit so far
  have always : e.Invariant fun visits registry => Holds visits registry ∧
      ∀ before v later, visits = before ++ v :: later → e.Made v ∧ Holds before v.registry :=
    { start := ⟨inv.start, by simp⟩
      visited := by
        rintro visits u made ⟨holds, past⟩
        refine ⟨inv.visited made holds, fun before v later split => ?_⟩
        obtain ⟨rfl, rfl, _⟩ | ⟨mid, _, rfl⟩ := concat_eq_split_iff.mp split
        · exact ⟨made, holds⟩
        · exact past before v mid rfl
      pruned := fun alive ⟨holds, past⟩ => ⟨inv.pruned alive holds, past⟩ }
  exact (always.run turns).2 before v later split

end Invariant

theorem mem_history_iff {turns : List (Turn σ)} :
    v ∈ e.history turns ↔
      ∃ before t later, turns = before ++ t :: later ∧ v ∈ e.visits (e.run before) t := by
  induction turns using List.reverseRecOn with
  | nil => simp [history, historyFrom]
  | append_singleton turns t ih =>
    rw [history_concat, List.mem_append, ih]
    constructor
    · rintro (⟨before, u, later, rfl, member⟩ | member)
      · exact ⟨before, u, later ++ [t], by simp, member⟩
      · exact ⟨turns, t, [], rfl, member⟩
    · rintro ⟨before, u, later, split, member⟩
      obtain ⟨rfl, rfl, _⟩ | ⟨mid, _, rfl⟩ := concat_eq_split_iff.mp split
      · exact .inr member
      · exact .inl ⟨before, u, mid, rfl, member⟩

/-- An entry is the state into which its process was sampled last. -/
theorem latest_invariant : e.Invariant fun visits registry =>
    ∀ p s, registry.get? p = some s → Latest visits p s where
  start := by
    intro p s found
    rw [Registry.get?_empty] at found
    contradiction
  visited := by
    intro before v _ holds p s found
    obtain ⟨sampled, same⟩ | ⟨kept, unsampled, _⟩ := Visit.settled_get?_iff.mp found
    · exact latest_of_sampled sampled same
    · exact (holds p s kept).concat unsampled
  pruned := by
    intro before registry alive holds p s found
    rw [Registry.get?_prune] at found
    split at found
    · exact holds p s found
    · contradiction

/-- Every entry is a state into which some call of the run has sampled its process. -/
theorem run_get?_sampled {turns : List (Turn σ)} {p : Pid} {s : ProcState}
    (found : (e.run turns).registry.get? p = some s) :
    ∃ before t later, turns = before ++ t :: later ∧
      ∃ v ∈ e.visits (e.run before) t, v.outcome = .sampled s ∧ s.pid = p := by
  obtain ⟨same, _, v, _, history, sampled, _⟩ := latest_invariant.run turns p s found
  have member : v ∈ e.history turns := by simp [history]
  obtain ⟨before, t, later, split, visited⟩ := mem_history_iff.mp member
  exact ⟨before, t, later, split, v, visited, sampled, same⟩

end Engine

end ProcMeter
