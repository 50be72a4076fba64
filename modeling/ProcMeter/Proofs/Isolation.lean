import ProcMeter.Proofs.Locality
import ProcMeter.Proofs.Lockstep
import ProcMeter.Proofs.Sampling

/-! Processes are isolated from each other, where each status shows the process that was asked for.
Whatever the sources answer about one of them, and whether they list it at all, shows in nothing
that is reported or kept of another. -/
namespace ProcMeter

/-- Lists of processes that are the same but for where `p` stands in them. -/
inductive SameBut (p : Pid) : List Pid → List Pid → Prop
  | nil : SameBut p [] []
  | left {pids pids' : List Pid} : SameBut p pids pids' → SameBut p (p :: pids) pids'
  | right {pids pids' : List Pid} : SameBut p pids pids' → SameBut p pids (p :: pids')
  | both {pids pids' : List Pid} {q : Pid} :
      q ≠ p → SameBut p pids pids' → SameBut p (q :: pids) (q :: pids')

/-- A reply without what it says of `p` among other processes. -/
def Reply.without (p : Pid) : Reply → Reply
  | .cycle states => .cycle (states.map (List.filter (·.pid ≠ p)))
  | .one state => .one state
  | .list entries => .list (entries.map (List.filter (·.pid ≠ p)))

section
variable {p : Pid} {pids pids' : List Pid}

theorem SameBut.of_filter (same : pids.filter (· ≠ p) = pids'.filter (· ≠ p)) :
    SameBut p pids pids' := by
  induction pids generalizing pids' with
  | nil =>
    induction pids' with
    | nil => exact .nil
    | cons q rest ih =>
      by_cases here : q = p
      · subst here
        exact .right (ih (by simpa using same))
      · simp [here] at same
  | cons q rest ih =>
    by_cases here : q = p
    · subst here
      exact .left (ih (by simpa using same))
    · induction pids' with
      | nil => simp [here] at same
      | cons q' rest' ih' =>
        by_cases there : q' = p
        · subst there
          exact .right (ih' (by simpa using same))
        · rw [List.filter_cons_of_pos (by simpa using here),
            List.filter_cons_of_pos (by simpa using there), List.cons.injEq] at same
          obtain ⟨rfl, same⟩ := same
          exact .both here (ih same)

/-- Members other than `p` are the same. -/
theorem SameBut.mem_iff (same : SameBut p pids pids') {q : Pid} (other : q ≠ p) :
    q ∈ pids ↔ q ∈ pids' := by
  induction same with
  | nil => rfl
  | left _ ih => rw [List.mem_cons, ih, or_iff_right other]
  | right _ ih => rw [List.mem_cons, ih, or_iff_right other]
  | both _ _ ih => rw [List.mem_cons, List.mem_cons, ih]

end

/-- Registries with the same entries but for that of `p`. -/
def Registry.SameBut (p : Pid) (registry registry' : Registry) : Prop :=
  ∀ q, q ≠ p → registry.get? q = registry'.get? q

namespace Registry.SameBut

variable {p : Pid} {registry registry' : Registry} {outcome : Engine.Outcome}

theorem settle (same : SameBut p registry registry') (pid : Pid) (outcome : Engine.Outcome) :
    SameBut p (registry.settle pid outcome) (registry'.settle pid outcome) :=
  fun q other => settle_get?_congr (same q other) pid outcome

theorem settle_left (same : SameBut p registry registry') (about : outcome.About p) :
    SameBut p (registry.settle p outcome) registry' :=
  fun q other => (settle_get?_other about other.symm).trans (same q other)

theorem settle_right (same : SameBut p registry registry') (about : outcome.About p) :
    SameBut p registry (registry'.settle p outcome) :=
  fun q other => (same q other).trans (settle_get?_other about other.symm).symm

theorem prune {alive alive' : List Pid} (same : SameBut p registry registry')
    (listed : ProcMeter.SameBut p alive alive') :
    SameBut p (registry.prune alive) (registry'.prune alive') := by
  intro q other
  simp only [get?_prune, listed.mem_iff other, same q other]

end Registry.SameBut

namespace Engine

variable {σ τ : Type} {R : σ → τ → Prop} {L : σ → Prop} {e : Engine (StateM σ)}
  {f : Engine (StateM τ)} {p q : Pid} {registry registry' : Registry} {host : Host} {r : Record}
  {r' : Record}

/-- An answer that shows no status but of a process of the kind `K`. -/
def Names (K : Pid → Prop) (answer : Except SampleError Status) : Prop :=
  ∀ status, answer = .ok status → K status.pid

/-- A status carries the id `p` just when it was asked for by `p`. -/
def Tells (e : Engine (StateM σ)) (p : Pid) : Prop :=
  ∀ {pid : Pid} {w w₁ : σ} {status : Status},
    e.source.status pid w = (.ok status, w₁) → (status.pid = p ↔ pid = p)

/-- Every status carries the id that it was asked for by. -/
def TellsAll (e : Engine (StateM σ)) : Prop :=
  ∀ {pid : Pid} {w w₁ : σ} {status : Status},
    e.source.status pid w = (.ok status, w₁) → status.pid = pid

theorem TellsAll.tells (tells : e.TellsAll) (p : Pid) : e.Tells p :=
  fun read => by rw [tells read]

/-- No question about `p` leads out of the worlds of the kind `L`. -/
structure Confined (L : σ → Prop) (e : Engine (StateM σ)) (p : Pid) : Prop where
  status : Stays L (e.source.status p)
  sample : Stays L (e.source.sample p)
  identity : Stays L (e.source.identity p)
  network : Stays L (e.networkFor p)
  cgroup : Stays L (e.cgroupFor p)

/-- Engines with the same rules whose sources answer alike but about `p`, and list the same
processes but for `p`. What they are asked about `p` makes no difference to later answers. -/
structure DifferOnlyIn (R : σ → τ → Prop) (p : Pid) (e : Engine (StateM σ))
    (f : Engine (StateM τ)) : Prop where
  rules : e.rules = f.rules
  pids : Lockstep R (fun a b => a.map (List.filter (· ≠ p)) = b.map (List.filter (· ≠ p)))
    e.source.pids f.source.pids
  host : Alike R e.source.host f.source.host
  stopwatch : Lockstep R (fun _ _ => True) e.stopwatch f.stopwatch
  status : ∀ q, q ≠ p → Alike R (e.source.status q) (f.source.status q)
  others : ∀ q, q ≠ p → e.MirrorsAt R f q
  left : ∀ w', e.Confined (R · w') p
  right : ∀ w, f.Confined (R w) p

namespace Tells

variable (tells : e.Tells p)
include tells

theorem named (w : σ) : Names (· = p) (e.source.status p w).1 :=
  fun _ read => (tells (Prod.ext read rfl)).mpr rfl

theorem unnamed (other : q ≠ p) (w : σ) : Names (· ≠ p) (e.source.status q w).1 :=
  fun _ read named => other ((tells (Prod.ext read rfl)).mp named)

theorem look_pid {byName : Bool} {w : σ} {s : ProcState}
    (sampled : (e.look byName registry host q w).outcome = .sampled s) : s.pid = p ↔ q = p := by
  have made : e.Made (e.look byName registry host q w) := rfl
  obtain ⟨status, _, _, _, _, _, ⟨w₁, read, _⟩, _, rfl⟩ := made.outcome_eq_sampled_iff.mp sampled
  rw [ProcState.pid, stateFrom_status]
  exact tells read

theorem visit_about (registry : Registry) (host : Host) (w : σ) :
    Outcome.About p (e.visit registry host p w).1 := by
  intro s sampled
  have seen : (e.look true registry host p w).outcome = .sampled s := sampled
  exact (tells.look_pid seen).mpr rfl

theorem probe_about (registry : Registry) (host : Host) (w : σ) :
    Outcome.About p (.ofResult (e.probe registry host p w).1) := by
  intro s sampled
  have seen : (e.look false registry host p w).outcome = .sampled s := sampled
  exact (tells.look_pid seen).mpr rfl

end Tells

namespace Confined

variable (confined : e.Confined L p)
include confined

theorem fill {status : Status} (named : status.pid = p) (registry : Registry) (host : Host) :
    Stays L (e.fill registry host status) := by
  subst named
  refine confined.sample.bind fun answer => ?_
  cases answer with
  | error err => exact .pure _
  | ok sample =>
    refine (identityFor_stays confined.identity registry).bind fun answer => ?_
    cases answer with
    | error err => exact .pure _
    | ok known =>
      exact confined.network.bind fun network => confined.cgroup.bind fun cgroup => .pure _

theorem probe (tells : e.Tells p) (registry : Registry) (host : Host) :
    Stays L (e.probe registry host p) := by
  refine confined.status.bind_knowing tells.named fun answer named => ?_
  cases answer with
  | error err => exact .pure _
  | ok status => exact confined.fill (named status rfl) registry host

theorem visit (tells : e.Tells p) (registry : Registry) (host : Host) :
    Stays L (e.visit registry host p) := by
  rw [visit_step]
  refine confined.status.bind_knowing tells.named fun answer named => ?_
  cases answer with
  | error err => exact .pure _
  | ok status =>
    dsimp only
    split
    · exact (confined.fill (named status rfl) registry host).bind fun result => .pure _
    · exact .pure _

end Confined

theorem states_filter {outcome : Outcome} (about : outcome.About p) :
    outcome.state?.toList.filter (·.pid ≠ p) = [] := by
  cases outcome with
  | sampled s => simp [Outcome.state?, about s rfl]
  | filtered => rfl
  | failed err => rfl

theorem rows_filter (rules : Rules) (answer : Except SampleError Status) :
    (rowOf? rules p answer).toList.filter (·.pid ≠ p) = [] := by
  cases answer with
  | error err => rfl
  | ok status =>
    simp only [rowOf?]
    split <;> simp

theorem shown_filter (rules : Rules) (states : List ProcState) :
    (states.map (shown rules)).filter (·.pid ≠ p) =
      (states.filter (·.pid ≠ p)).map (shown rules) := by
  rw [List.filter_map]
  congr 2
  funext s
  simp only [Function.comp_apply, shown_pid]

namespace DifferOnlyIn

variable (apart : e.DifferOnlyIn R p f)
include apart

theorem fill {status : Status} (other : status.pid ≠ p)
    (same : Registry.SameBut p registry registry') (host : Host) :
    Alike R (e.fill registry host status) (f.fill registry' host status) := by
  rw [← f.fill_local host (same status.pid other)]
  exact (apart.others status.pid other).fill registry host

theorem probe (tells : e.Tells p) (other : q ≠ p) (same : Registry.SameBut p registry registry')
    (host : Host) : Alike R (e.probe registry host q) (f.probe registry' host q) := by
  refine ((apart.status q other).lockstep.knowing (tells.unnamed other)).bind ?_
  rintro answer _ ⟨rfl, unnamed⟩
  cases answer with
  | error err => exact .pure rfl
  | ok status => exact apart.fill (unnamed status rfl) same host

theorem visit (tells : e.Tells p) (other : q ≠ p) (same : Registry.SameBut p registry registry')
    (host : Host) : Alike R (e.visit registry host q) (f.visit registry' host q) := by
  rw [visit_step, visit_step, apart.rules]
  refine ((apart.status q other).lockstep.knowing (tells.unnamed other)).bind ?_
  rintro answer _ ⟨rfl, unnamed⟩
  cases answer with
  | error err => exact .pure rfl
  | ok status =>
    dsimp only
    split
    · exact (apart.fill (unnamed status rfl) same host).bind fun result => .pure _
    · exact .pure rfl

theorem sweep (tells : e.Tells p) (tells' : f.Tells p) {pids pids' : List Pid}
    (listed : SameBut p pids pids') (host : Host)
    (same : Registry.SameBut p r.registry r'.registry) :
    Lockstep R (fun a b => a.1.filter (·.pid ≠ p) = b.1.filter (·.pid ≠ p) ∧
      Registry.SameBut p a.2.registry b.2.registry)
      (e.sweep host pids r) (f.sweep host pids' r') := by
  induction listed generalizing r r' with
  | nil => exact .pure ⟨rfl, same⟩
  | @left pids pids' _ ih =>
    -- The second engine stands still here; `bind_pure` gives it a last step to pair with.
    rw [sweep_step, ← bind_pure (f.sweep host pids' r')]
    refine .bind_left (fun w' => (apart.left w').visit tells r.registry host)
      (tells.visit_about r.registry host) fun outcome about => ?_
    have settled := same.settle_left about
    rw [← note_registry] at settled
    refine (ih settled).bind fun rest rest' both => .pure ⟨?_, both.2⟩
    rw [List.filter_append, states_filter about, List.nil_append, both.1]
  | @right pids pids' _ ih =>
    rw [sweep_step, ← bind_pure (e.sweep host pids r)]
    refine .bind_right (fun w => (apart.right w).visit tells' r'.registry host)
      (tells'.visit_about r'.registry host) fun outcome about => ?_
    have settled := same.settle_right about
    rw [← note_registry] at settled
    refine (ih settled).bind fun rest rest' both => .pure ⟨?_, both.2⟩
    rw [List.filter_append, states_filter about, List.nil_append, both.1]
  | @both pids pids' q other _ ih =>
    rw [sweep_step, sweep_step]
    refine (apart.visit tells other same host).lockstep.bind ?_
    rintro outcome _ rfl
    have settled := same.settle q outcome
    rw [← note_registry, ← note_registry] at settled
    refine (ih settled).bind fun rest rest' both => .pure ⟨?_, both.2⟩
    rw [List.filter_append, List.filter_append, both.1]

theorem cycle (tells : e.Tells p) (tells' : f.Tells p) (inactive : e.rules.top.isActive = false)
    (same : Registry.SameBut p r.registry r'.registry) :
    Lockstep R (fun a b => a.1.map (List.filter (·.pid ≠ p)) = b.1.map (List.filter (·.pid ≠ p)) ∧
      Registry.SameBut p a.2.registry b.2.registry) (e.cycle r) (f.cycle r') := by
  unfold Engine.cycle
  rw [← apart.rules]
  refine apart.stopwatch.bind fun _ _ _ => apart.pids.bind fun answer answer' alike => ?_
  obtain ⟨err, rfl, rfl⟩ | ⟨pids, pids', rfl, rfl, filtered⟩ := except_cases_of_map_eq alike
  · exact .pure ⟨rfl, same⟩
  have listed := SameBut.of_filter filtered
  refine apart.host.lockstep.bind ?_
  rintro host _ rfl
  refine (apart.sweep tells tells' listed host same).bind fun swept swept' both => ?_
  refine apart.stopwatch.bind fun _ _ _ => .pure ⟨?_, both.2.prune listed⟩
  have unselected (states : List ProcState) : e.rules.top.select states = states := by
    simp only [TopRule.select, inactive, Bool.false_eq_true, if_false]
  rw [unselected, unselected]
  exact congrArg Except.ok (by rw [shown_filter, shown_filter, both.1])

theorem sampleOne (tells : e.Tells p) (tells' : f.Tells p) (pid : Pid)
    (same : Registry.SameBut p r.registry r'.registry) :
    Lockstep R (fun a b => (pid ≠ p → a.1 = b.1) ∧ Registry.SameBut p a.2.registry b.2.registry)
      (e.sampleOne r pid) (f.sampleOne r' pid) := by
  rw [sampleOne_step, sampleOne_step, ← apart.rules]
  refine apart.host.lockstep.bind ?_
  rintro host _ rfl
  by_cases here : pid = p
  · subst here
    refine .bind_left (P := fun result => Outcome.About pid (.ofResult result))
      (fun w' => (apart.left w').probe tells r.registry host)
      (tells.probe_about r.registry host) fun result about => ?_
    refine .bind_right (Q := fun result => Outcome.About pid (.ofResult result))
      (fun w => (apart.right w).probe tells' r'.registry host)
      (tells'.probe_about r'.registry host) fun result' about' => ?_
    exact .pure ⟨fun other => absurd rfl other, (same.settle_left about).settle_right about'⟩
  · refine (apart.probe tells here same host).lockstep.bind ?_
    rintro result _ rfl
    exact .pure ⟨fun _ => rfl, same.settle pid _⟩

theorem listed {pids pids' : List Pid} (same : SameBut p pids pids') :
    Lockstep R (fun a b => a.filter (·.pid ≠ p) = b.filter (·.pid ≠ p)) (e.listed pids)
      (f.listed pids') := by
  induction same with
  | nil => exact .pure rfl
  | @left pids pids' _ ih =>
    rw [listed_step, ← bind_pure (f.listed pids')]
    refine .bind_left (P := fun _ => True) (fun w' => (apart.left w').status) (fun _ => trivial)
      fun answer _ => ?_
    refine ih.bind fun entries entries' both => .pure ?_
    rw [List.filter_append, rows_filter, List.nil_append, both]
  | @right pids pids' _ ih =>
    rw [listed_step, ← bind_pure (e.listed pids)]
    refine .bind_right (Q := fun _ => True) (fun w => (apart.right w).status) (fun _ => trivial)
      fun answer _ => ?_
    refine ih.bind fun entries entries' both => .pure ?_
    rw [List.filter_append, rows_filter, List.nil_append, both]
  | @both pids pids' q other _ ih =>
    rw [listed_step, listed_step, apart.rules]
    refine (apart.status q other).lockstep.bind ?_
    rintro answer _ rfl
    refine ih.bind fun entries entries' both => .pure ?_
    rw [List.filter_append, List.filter_append, both]

theorem answer (tells : e.Tells p) (tells' : f.Tells p) (inactive : e.rules.top.isActive = false)
    (same : Registry.SameBut p r.registry r'.registry) (call : Call) :
    Lockstep R (fun a b => (call ≠ .one p → a.1.without p = b.1.without p) ∧
      Registry.SameBut p a.2.registry b.2.registry) (e.answer r call) (f.answer r' call) := by
  cases call with
  | cycle =>
    refine (apart.cycle tells tells' inactive same).bind fun done done' both => ?_
    exact .pure ⟨fun _ => congrArg Reply.cycle both.1, both.2⟩
  | one pid =>
    refine (apart.sampleOne tells tells' pid same).bind fun done done' both => ?_
    refine .pure ⟨fun other => congrArg Reply.one (both.1 ?_), both.2⟩
    exact fun here => other (congrArg Call.one here)
  | list =>
    refine Lockstep.bind (S := fun a b => a.map (List.filter (·.pid ≠ p)) =
      b.map (List.filter (·.pid ≠ p))) ?_ fun entries entries' both => ?_
    · refine apart.pids.bind fun answer answer' alike => ?_
      obtain ⟨err, rfl, rfl⟩ | ⟨pids, pids', rfl, rfl, filtered⟩ := except_cases_of_map_eq alike
      · exact .pure rfl
      · refine (apart.listed (.of_filter filtered)).bind fun entries entries' both => ?_
        exact .pure (congrArg Except.ok both)
    · exact .pure ⟨fun _ => congrArg Reply.list both, same⟩

end DifferOnlyIn

/-- Processes are isolated. Take two runs of the same calls under the same rules, which select none,
where every status shows the process that was asked for and all answers are the same but for those
about `p`, and `p` may be listed or not: after every call all entries of other processes are the
same, and so is all that is reported and listed of them, as is the result or the error of sampling
one of them by its id. -/
theorem other_processes_unaffected (apart : e.DifferOnlyIn R p f) (tells : e.TellsAll)
    (tells' : f.TellsAll) (inactive : e.rules.top.isActive = false) {turns : List (Turn σ)}
    {turns' : List (Turn τ)} (alongside : List.Forall₂ (Turn.Alongside R) turns turns') :
    (∀ q, q ≠ p → (e.run turns).registry.get? q = (f.run turns').registry.get? q) ∧
      ∀ t t', Turn.Alongside R t t' → t.call ≠ .one p →
        (e.reply (e.run turns) t).without p = (f.reply (f.run turns') t').without p := by
  have entries : Registry.SameBut p (e.run turns).registry (f.run turns').registry := by
    apply run_alongside (Q := fun r r' => Registry.SameBut p r.registry r'.registry)
      (fun _ _ => rfl) ?_ alongside
    intro r r' t t' same both
    exact (answer_alongside both (apart.answer (tells.tells p) (tells'.tells p) inactive same)).2
  refine ⟨entries, fun t t' both => ?_⟩
  exact (answer_alongside both (apart.answer (tells.tells p) (tells'.tells p) inactive entries)).1

end Engine

namespace Crowd

variable {p q : Pid} {w w' : Crowd}

/-- Worlds in which the same processes run at the same time but for `p`. -/
def SameBut (p : Pid) (w w' : Crowd) : Prop :=
  w.processes.filter (·.1 ≠ p) = w'.processes.filter (·.1 ≠ p) ∧ w.second = w'.second

theorem lookup_filter (other : q ≠ p) (processes : List (Pid × UInt64)) :
    (processes.filter (·.1 ≠ p)).lookup q = processes.lookup q := by
  induction processes with
  | nil => rfl
  | cons process rest ih =>
    by_cases here : process.1 = p
    · have missed : (q == process.1) = false := by simpa [here] using other
      rw [List.filter_cons_of_neg (by simpa using here), ih, List.lookup_cons, missed]
    · rw [List.filter_cons_of_pos (by simpa using here), List.lookup_cons, List.lookup_cons, ih]

theorem SameBut.lookup (same : SameBut p w w') (other : q ≠ p) :
    w.processes.lookup q = w'.processes.lookup q := by
  rw [← lookup_filter other, same.1, lookup_filter other]

theorem confined (L : Crowd → Prop) (p : Pid) : engine.Confined L p where
  status := by
    intro w kept
    simp only [engine, source]
    split
    · exact kept
    · exact kept
  sample := by
    intro w kept
    simp only [engine, source]
    split
    · exact kept
    · exact kept
  identity := fun _ kept => kept
  network := fun _ kept => kept
  cgroup := fun _ kept => kept

theorem differOnlyIn (p : Pid) : engine.DifferOnlyIn (SameBut p) p engine where
  rules := rfl
  pids := by
    intro w w' same
    refine ⟨congrArg Except.ok ?_, same⟩
    have ids := congrArg (List.map Prod.fst) same.1
    rw [List.filter_map, List.filter_map]
    exact ids
  host := fun _ _ same => ⟨rfl, same⟩
  stopwatch := fun _ _ same => ⟨trivial, same⟩
  status := by
    intro q other w w' same
    simp only [engine, source, same.lookup other]
    split
    · exact ⟨rfl, same⟩
    · exact ⟨rfl, same⟩
  others := by
    intro q other
    refine ⟨rfl, ?_, fun _ _ same => ⟨rfl, same⟩, fun _ _ same => ⟨rfl, same⟩,
      fun _ _ same => ⟨rfl, same⟩⟩
    intro w w' same
    simp only [engine, source, same.lookup other, same.2]
    split
    · exact ⟨rfl, same⟩
    · exact ⟨rfl, same⟩
  left := fun _ => confined _ p
  right := fun _ => confined _ p

end Crowd

/-- Process 8 is away at first in one of the runs, and later has other ticks there. -/
theorem Engine.crowd_other_processes_unaffected :
    let here : List (Turn Crowd) :=
      [⟨.cycle, [(7, 5), (8, 3)], 1⟩, ⟨.one 8, [(8, 6), (7, 9)], 2⟩]
    let there : List (Turn Crowd) := [⟨.cycle, [(7, 5)], 1⟩, ⟨.one 8, [(8, 1), (7, 9)], 2⟩]
    let r := Crowd.engine.run here
    let r' := Crowd.engine.run there
    Crowd.engine.DifferOnlyIn (Crowd.SameBut 8) 8 Crowd.engine ∧ Crowd.engine.TellsAll ∧
      Crowd.engine.rules.top.isActive = false ∧
      List.Forall₂ (Turn.Alongside (Crowd.SameBut 8)) here there ∧
      r.registry.get? 7 = r'.registry.get? 7 ∧ (r.registry.get? 7).isSome = true ∧
      Crowd.engine.reply r ⟨.one 7, [(7, 12)], 3⟩ =
        Crowd.engine.reply r' ⟨.one 7, [(7, 12), (8, 2)], 3⟩ := by
  intro here there r r'
  have tells : Crowd.engine.TellsAll := Crowd.status_pid
  have alongside : List.Forall₂ (Turn.Alongside (Crowd.SameBut 8)) here there :=
    .cons ⟨rfl, rfl, rfl⟩ (.cons ⟨rfl, rfl, rfl⟩ .nil)
  obtain ⟨entries, replies⟩ :=
    other_processes_unaffected (Crowd.differOnlyIn 8) tells tells rfl alongside
  have reply := replies ⟨.one 7, [(7, 12)], 3⟩ ⟨.one 7, [(7, 12), (8, 2)], 3⟩ ⟨rfl, rfl, rfl⟩
    (by decide)
  exact ⟨Crowd.differOnlyIn 8, tells, rfl, alongside, entries 7 (by decide), by decide +kernel,
    reply⟩

/-- Sources that show different processes for 8, or none, answer alike about all others. -/
theorem impostors_differOnlyIn {shows shows' : Pid → Option Pid}
    (same : ∀ q, q ≠ 8 → shows q = shows' q) :
    (impostors shows).DifferOnlyIn Eq 8 (impostors shows') where
  rules := rfl
  pids := fun _ _ worlds => ⟨rfl, worlds⟩
  host := .refl _
  stopwatch := fun _ _ worlds => ⟨trivial, worlds⟩
  status := by
    intro q other w w' worlds
    refine ⟨?_, ?_⟩
    · simp only [impostors, same q other]
    · exact Subsingleton.elim _ _
  others := fun q _ => ⟨rfl, .refl _, .refl _, .refl _, .refl _⟩
  left := fun _ => ⟨fun _ kept => kept, fun _ kept => kept, fun _ kept => kept, fun _ kept => kept,
    fun _ kept => kept⟩
  right := fun _ => ⟨fun _ kept => kept, fun _ kept => kept, fun _ kept => kept, fun _ kept => kept,
    fun _ kept => kept⟩

/-- A status of 8 that shows 7 puts its state in the place of that of 7, which stays where 8 is not
there. -/
theorem Engine.impostor_replaces_other :
    let e := impostors fun _ => some 7
    let f := impostors fun pid => if pid = 8 then none else some 7
    let turns : List (Turn Unit) := [⟨.one 7, ()⟩, ⟨.one 8, ()⟩]
    e.DifferOnlyIn Eq 8 f ∧ e.rules.top.isActive = false ∧
      ((e.run turns).registry.get? 7).map (·.status.name) = some "second" ∧
      ((f.run turns).registry.get? 7).map (·.status.name) = some "first" ∧
      ¬ ∀ (e f : Engine (StateM Unit)) (p : Pid), e.DifferOnlyIn Eq p f →
        e.rules.top.isActive = false → ∀ (turns : List (Turn Unit)) (q : Pid), q ≠ p →
          (e.run turns).registry.get? q = (f.run turns).registry.get? q := by
  intro e f turns
  have apart : e.DifferOnlyIn Eq 8 f := impostors_differOnlyIn fun q other => (if_neg other).symm
  have replaced : ((e.run turns).registry.get? 7).map (·.status.name) = some "second" := by
    decide +kernel
  have stayed : ((f.run turns).registry.get? 7).map (·.status.name) = some "first" := by
    decide +kernel
  refine ⟨apart, rfl, replaced, stayed, fun isolated => ?_⟩
  have same := isolated e f 8 apart rfl turns 7 (by decide)
  rw [same, stayed] at replaced
  exact absurd replaced (by decide)

end ProcMeter
