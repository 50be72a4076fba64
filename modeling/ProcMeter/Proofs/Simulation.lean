import ProcMeter.Proofs.Locality
import ProcMeter.Proofs.Lockstep
import ProcMeter.Proofs.Sampling

/-! Engines that go through the same motions. States are looked at through a view, which may hide
part of them, and of the counters a part is looked at. When all samplings of two engines look the
same, so does everything that they report and keep, over runs of any length. -/
namespace ProcMeter

/-- A view shows all that processes are told apart and ranked by. -/
structure ProcState.View (view : ProcState → ProcState) : Prop where
  status : ∀ s, (view s).status = s.status
  cpu : ∀ s, (view s).cpu = s.cpu
  memory : ∀ s, (view s).memory = s.memory
  stripTicks : ∀ s, view s.stripTicks = (view s).stripTicks

theorem ProcState.whole_view : ProcState.View id :=
  ⟨fun _ => rfl, fun _ => rfl, fun _ => rfl, fun _ => rfl⟩

/-- A part of the counters that looks to itself. -/
structure Counters.Part (part : Counters → Counters) : Prop where
  failure : ∀ c, part c.recordFailure = (part c).recordFailure
  filtered : ∀ c, part c.recordFiltered = (part c).recordFiltered
  skipped : ∀ c, part c.recordSkipped = (part c).recordSkipped
  denied : ∀ c, part c.recordDenied = (part c).recordDenied
  pruned : ∀ c n, part (c.recordPruned n) = (part c).recordPruned n

/-- A part of the counters that takes no more of the times of cycles than the clocks agree on. -/
structure Counters.Timed (Clock : Float → Float → Prop) (part : Counters → Counters) : Prop extends
    Counters.Part part where
  cycle : ∀ {c c' : Counters} {start start' stop stop' : Float} (n : UInt64), part c = part c' →
    Clock start start' → Clock stop stop' →
      part (c.recordCycle n (stop - start)) = part (c'.recordCycle n (stop' - start'))

section
variable {view : ProcState → ProcState} {part : Counters → Counters} {pid : Pid}
  {outcome outcome' : Engine.Outcome}

def Engine.Outcome.seen (view : ProcState → ProcState) : Engine.Outcome → Engine.Outcome
  | .sampled s => .sampled (view s)
  | .filtered => .filtered
  | .failed err => .failed err

def Reply.seen (view : ProcState → ProcState) : Reply → Reply
  | .cycle states => .cycle (states.map (List.map view))
  | .one state => .one (state.map view)
  | .list entries => .list entries

theorem Engine.Outcome.state?_seen : (outcome.seen view).state? = outcome.state?.map view := by
  cases outcome <;> rfl

theorem Engine.Outcome.seen_ofResult (result : Except SampleError ProcState) :
    (ofResult result).seen view = ofResult (result.map view) := by
  cases result <;> rfl

theorem Engine.Outcome.ofResult_injective {result result' : Except SampleError ProcState}
    (same : ofResult result = ofResult result') : result = result' := by
  cases result <;> cases result' <;> simp_all [ofResult]

theorem Reply.seen_id (reply : Reply) : reply.seen id = reply := by
  cases reply with
  | cycle states => cases states <;> simp [seen, Except.map]
  | one state => cases state <;> rfl
  | list entries => rfl

theorem Counters.untimed_timed : Counters.Timed (fun _ _ => True) untimed where
  failure _ := rfl
  filtered _ := rfl
  skipped _ := rfl
  denied _ := rfl
  pruned _ _ := rfl
  cycle n same _ _ := untimed_recordCycle same n _ _

theorem Counters.whole_timed : Counters.Timed Eq id where
  failure _ := rfl
  filtered _ := rfl
  skipped _ := rfl
  denied _ := rfl
  pruned _ _ := rfl
  cycle := by
    rintro c c' start _ stop _ n same rfl rfl
    exact congrArg (recordCycle · n (stop - start)) same

theorem Counters.Part.tally (looks : Counters.Part part) (c : Counters)
    (outcome : Engine.Outcome) : part (c.tally outcome) = (part c).tally outcome := by
  cases outcome with
  | sampled s => rfl
  | filtered => exact looks.filtered c
  | failed err =>
    simp only [Counters.tally]
    split
    · rw [looks.denied, looks.skipped]
    · exact looks.skipped c

theorem Counters.tally_seen (view : ProcState → ProcState) (c : Counters)
    (outcome : Engine.Outcome) : c.tally (outcome.seen view) = c.tally outcome := by
  cases outcome <;> rfl

namespace Registry

/-- All entries through a view. -/
def seen (view : ProcState → ProcState) (r : Registry) : Registry := r.map fun _ s => view s

variable (r : Registry)

theorem seen_get? (p : Pid) : (r.seen view).get? p = (r.get? p).map view := by
  simp [seen, get?]

theorem size_seen : (r.seen view).size = r.size := by
  simp [seen]

theorem pids_seen : (r.seen view).pids = r.pids := by
  simp [seen, pids]

theorem seen_id : r.seen id = r := by
  apply ext_get?
  intro p
  rw [seen_get?, Option.map_id, id_eq]

theorem seen_set (p : Pid) (s : ProcState) :
    (r.set p s).seen view = (r.seen view).set p (view s) := by
  apply ext_get?
  intro q
  simp only [seen_get?, get?_set]
  split <;> rfl

theorem seen_remove (p : Pid) : (r.remove p).seen view = (r.seen view).remove p := by
  apply ext_get?
  intro q
  simp only [seen_get?, get?_remove]
  split <;> rfl

theorem seen_prune (alive : List Pid) : (r.prune alive).seen view = (r.seen view).prune alive := by
  apply ext_get?
  intro q
  simp only [seen_get?, get?_prune]
  split <;> rfl

theorem seen_settle (shows : ProcState.View view) (p : Pid) (outcome : Engine.Outcome) :
    (r.settle p outcome).seen view = (r.seen view).settle p (outcome.seen view) := by
  cases outcome with
  | sampled s =>
    simp only [settle, Engine.Outcome.seen, seen_set, ProcState.pid, shows.status]
  | filtered => rfl
  | failed err =>
    simp only [settle, Engine.Outcome.seen]
    split
    · exact r.seen_remove p
    · rfl

end Registry

/-- Records that look the same. -/
structure Record.Agree (view : ProcState → ProcState) (part : Counters → Counters)
    (r r' : Record) : Prop where
  registry : r.registry.seen view = r'.registry.seen view
  counters : part r.counters = part r'.counters

namespace Record.Agree

variable {r r' : Record}

theorem note (agree : Record.Agree view part r r') (shows : ProcState.View view)
    (looks : Counters.Part part) (same : outcome.seen view = outcome'.seen view) (pid : Pid) :
    Record.Agree view part (Engine.note r pid outcome) (Engine.note r' pid outcome') := by
  simp only [Engine.note_eq]
  constructor
  · simp only [Registry.seen_settle _ shows, agree.registry, same]
  · simp only [looks.tally, agree.counters]
    rw [← Counters.tally_seen view, same, Counters.tally_seen]

theorem prune (agree : Record.Agree view part r r') (looks : Counters.Part part)
    (alive : List Pid) :
    Record.Agree view part (Engine.pruneRecord r alive) (Engine.pruneRecord r' alive) := by
  have kept : (r.registry.prune alive).seen view = (r'.registry.prune alive).seen view := by
    rw [Registry.seen_prune, Registry.seen_prune, agree.registry]
  have sizes := congrArg Std.ExtTreeMap.size agree.registry
  have sizes' := congrArg Std.ExtTreeMap.size kept
  rw [Registry.size_seen, Registry.size_seen] at sizes sizes'
  simp only [Engine.pruneRecord, sizes, sizes']
  refine ⟨kept, ?_⟩
  split
  · rw [looks.pruned, looks.pruned, agree.counters]
  · exact agree.counters

theorem eq (agree : Record.Agree id id r r') : r = r' := by
  obtain ⟨registry, counters⟩ := r
  obtain ⟨registry', counters'⟩ := r'
  obtain ⟨registries, counts⟩ := agree
  simp only [Registry.seen_id] at registries
  rw [registries, show counters = counters' from counts]

end Record.Agree

end

namespace Engine

variable {σ τ : Type} {R : σ → τ → Prop} {Clock : Float → Float → Prop}
  {view : ProcState → ProcState} {part : Counters → Counters} {e : Engine (StateM σ)}
  {f : Engine (StateM τ)} {registry registry' : Registry} {r r' : Record}

/-- Engines that report by the same rules, whose sources list the same processes with the same
statuses, and whose samplings look the same wherever the registries do. -/
structure Simulates (R : σ → τ → Prop) (Clock : Float → Float → Prop)
    (view : ProcState → ProcState) (part : Counters → Counters) (e : Engine (StateM σ))
    (f : Engine (StateM τ)) : Prop where
  shows : ProcState.View view
  looks : Counters.Timed Clock part
  procs : e.rules.procs = f.rules.procs
  reportTicks : e.rules.reportTicks = f.rules.reportTicks
  top : e.rules.top = f.rules.top
  pids : Alike R e.source.pids f.source.pids
  status : ∀ pid, Alike R (e.source.status pid) (f.source.status pid)
  host : Alike R e.source.host f.source.host
  stopwatch : Lockstep R Clock e.stopwatch f.stopwatch
  examine : ∀ {registry registry' : Registry} (byName : Bool) (host : Host) (pid : Pid),
    registry.seen view = registry'.seen view →
      Lockstep R (fun o o' => o.seen view = o'.seen view) (e.examine byName registry host pid)
        (f.examine byName registry' host pid)

theorem shown_seen (shows : ProcState.View view) (rules : Rules) (s : ProcState) :
    view (shown rules s) = shown rules (view s) := by
  unfold shown
  split
  · rfl
  · exact shows.stripTicks s

theorem select_shown_seen (shows : ProcState.View view) (rules : Rules)
    (states : List ProcState) :
    ((rules.top.select states).map (shown rules)).map view =
      (rules.top.select (states.map view)).map (shown rules) := by
  have selected : rules.top.select (states.map view) = (rules.top.select states).map view := by
    apply rules.top.select_map
    · exact fun s => congrArg Status.pid (shows.status s)
    · exact fun s => congrArg (·.total.pct) (shows.cpu s)
    · exact fun s => congrArg (·.rss.bytes) (shows.memory s)
  rw [selected, List.map_map, List.map_map]
  exact List.map_congr_left fun s _ => shown_seen shows rules s

/-- It is enough that the statuses of processes to sample, once they have been read, are filled in
to what looks the same. -/
theorem examine_lockstep {byName : Bool} {host : Host} {pid : Pid}
    (procs : e.rules.procs = f.rules.procs)
    (statuses : Alike R (e.source.status pid) (f.source.status pid))
    (fill : ∀ {status : Status} {w w₁ : σ} {w' w₁' : τ},
      e.source.status pid w = (.ok status, w₁) → f.source.status pid w' = (.ok status, w₁') →
      (byName = true → e.rules.procs.accepts status.name = true) → R w₁ w₁' →
        (e.fill registry host status w₁).1.map view =
            (f.fill registry' host status w₁').1.map view ∧
          R (e.fill registry host status w₁).2 (f.fill registry' host status w₁').2) :
    Lockstep R (fun o o' => o.seen view = o'.seen view) (e.examine byName registry host pid)
      (f.examine byName registry' host pid) := by
  intro w w' worlds
  rcases read : e.source.status pid w with ⟨err | status, w₁⟩
  · obtain ⟨w₁', read', worlds⟩ := statuses.answer worlds read
    rw [examine_of_status_error byName read, examine_of_status_error byName read']
    exact ⟨rfl, worlds⟩
  obtain ⟨w₁', read', worlds⟩ := statuses.answer worlds read
  by_cases refused : byName = true ∧ e.rules.procs.accepts status.name = false
  · obtain ⟨rfl, refused⟩ := refused
    rw [examine_of_refused read refused, examine_of_refused read' (procs ▸ refused)]
    exact ⟨rfl, worlds⟩
  have accepted : byName = true → e.rules.procs.accepts status.name = true := by
    simpa only [not_and, Bool.not_eq_false] using refused
  obtain ⟨results, worlds⟩ := fill read read' accepted worlds
  rw [examine_of_accepted read accepted, examine_of_accepted read' (procs ▸ accepted)]
  refine ⟨?_, worlds⟩
  simp only [Outcome.seen_ofResult, results]

namespace Simulates

variable (sim : e.Simulates R Clock view part f)
include sim

theorem shown_eq : shown e.rules = shown f.rules := by
  funext s
  simp only [shown, sim.reportTicks]

theorem visit (same : registry.seen view = registry'.seen view) (host : Host) (pid : Pid) :
    Lockstep R (fun o o' => o.seen view = o'.seen view) (e.visit registry host pid)
      (f.visit registry' host pid) :=
  sim.examine true host pid same

theorem probe (same : registry.seen view = registry'.seen view) (host : Host) (pid : Pid) :
    Lockstep R (fun a b => a.map view = b.map view) (e.probe registry host pid)
      (f.probe registry' host pid) := by
  intro w w' worlds
  obtain ⟨alike, worlds⟩ := sim.examine false host pid same w w' worlds
  refine ⟨Outcome.ofResult_injective ?_, worlds⟩
  rw [← Outcome.seen_ofResult, ← Outcome.seen_ofResult]
  exact alike

theorem sweep (host : Host) (pids : List Pid) (agree : Record.Agree view part r r') :
    Lockstep R (fun a b => a.1.map view = b.1.map view ∧ Record.Agree view part a.2 b.2)
      (e.sweep host pids r) (f.sweep host pids r') := by
  induction pids generalizing r r' with
  | nil => exact .pure ⟨rfl, agree⟩
  | cons pid pids ih =>
    rw [sweep_step, sweep_step]
    refine (sim.visit agree.registry host pid).bind fun outcome outcome' same => ?_
    refine (ih (agree.note sim.shows sim.looks.toPart same pid)).bind fun rest rest' both => ?_
    refine .pure ⟨?_, both.2⟩
    rw [List.map_append, List.map_append, both.1, ← Option.toList_map, ← Option.toList_map,
      ← Outcome.state?_seen, ← Outcome.state?_seen, same]

theorem cycle (agree : Record.Agree view part r r') :
    Lockstep R (fun a b => a.1.map (List.map view) = b.1.map (List.map view) ∧
      Record.Agree view part a.2 b.2) (e.cycle r) (f.cycle r') := by
  unfold Engine.cycle
  rw [sim.shown_eq, sim.top]
  refine sim.stopwatch.bind fun start start' clock => sim.pids.lockstep.bind ?_
  rintro answer _ rfl
  cases answer with
  | error err =>
    refine .pure ⟨rfl, agree.registry, ?_⟩
    simp only [sim.looks.failure, agree.counters]
  | ok pids =>
    refine sim.host.lockstep.bind ?_
    rintro host _ rfl
    refine (sim.sweep host pids agree).bind fun swept swept' both => ?_
    obtain ⟨states, records⟩ := both
    have kept := records.prune sim.looks.toPart pids
    have reports := select_shown_seen sim.shows f.rules swept.1
    rw [states, ← select_shown_seen sim.shows f.rules swept'.1] at reports
    have lengths := congrArg List.length reports
    simp only [List.length_map] at lengths
    refine sim.stopwatch.bind fun stop stop' clock' => .pure ⟨congrArg Except.ok reports, ?_⟩
    refine ⟨kept.registry, ?_⟩
    simp only [List.length_map, lengths]
    exact sim.looks.cycle _ kept.counters clock clock'

theorem sampleOne (agree : Record.Agree view part r r') (pid : Pid) :
    Lockstep R (fun a b => a.1.map view = b.1.map view ∧ Record.Agree view part a.2 b.2)
      (e.sampleOne r pid) (f.sampleOne r' pid) := by
  rw [sampleOne_step, sampleOne_step, sim.shown_eq]
  refine sim.host.lockstep.bind ?_
  rintro host _ rfl
  refine (sim.probe agree.registry host pid).bind fun result result' alike => ?_
  have outcomes : (Outcome.ofResult result).seen view = (Outcome.ofResult result').seen view := by
    rw [Outcome.seen_ofResult, Outcome.seen_ofResult, alike]
  refine .pure ⟨?_, ?_, agree.counters⟩
  · obtain ⟨err, rfl, rfl⟩ | ⟨s, s', rfl, rfl, states⟩ := except_cases_of_map_eq alike
    · rfl
    · have reports : view (shown f.rules s) = view (shown f.rules s') := by
        rw [shown_seen sim.shows, states, ← shown_seen sim.shows]
      exact congrArg Except.ok reports
  · simp only [Registry.seen_settle _ sim.shows, agree.registry, outcomes]

theorem answer (agree : Record.Agree view part r r') (call : Call) :
    Lockstep R (fun a b => a.1.seen view = b.1.seen view ∧ Record.Agree view part a.2 b.2)
      (e.answer r call) (f.answer r' call) := by
  cases call with
  | cycle =>
    refine (sim.cycle agree).bind fun done done' both => .pure ⟨?_, both.2⟩
    exact congrArg Reply.cycle both.1
  | one pid =>
    refine (sim.sampleOne agree pid).bind fun done done' both => .pure ⟨?_, both.2⟩
    exact congrArg Reply.one both.1
  | list =>
    refine (listStates_alike sim.procs sim.pids sim.status).lockstep.bind ?_
    rintro entries _ rfl
    exact .pure ⟨rfl, agree⟩

/-- After runs of the same calls the records look the same. -/
theorem run {turns : List (Turn σ)} {turns' : List (Turn τ)}
    (alongside : List.Forall₂ (Turn.Alongside R) turns turns') :
    Record.Agree view part (e.run turns) (f.run turns') := by
  apply run_alongside (Q := Record.Agree view part) ⟨rfl, rfl⟩ ?_ alongside
  intro r r' t t' agree both
  exact (answer_alongside both (sim.answer agree)).2

/-- Where the records look the same, so do the replies. -/
theorem reply {t : Turn σ} {t' : Turn τ} (agree : Record.Agree view part r r')
    (both : t.Alongside R t') : (e.reply r t).seen view = (f.reply r' t').seen view :=
  (answer_alongside both (sim.answer agree)).1

end Simulates

/-- Where statuses are filled in to the same, nothing need be hidden. -/
theorem simulates_whole (looks : Counters.Timed Clock part) (rules : e.rules = f.rules)
    (pids : Alike R e.source.pids f.source.pids)
    (status : ∀ pid, Alike R (e.source.status pid) (f.source.status pid))
    (host : Alike R e.source.host f.source.host)
    (stopwatch : Lockstep R Clock e.stopwatch f.stopwatch)
    (fill : ∀ registry host status,
      Alike R (e.fill registry host status) (f.fill registry host status)) :
    e.Simulates R Clock id part f where
  shows := ProcState.whole_view
  looks := looks
  procs := congrArg Rules.procs rules
  reportTicks := congrArg Rules.reportTicks rules
  top := congrArg Rules.top rules
  pids := pids
  status := status
  host := host
  stopwatch := stopwatch
  examine := by
    intro registry registry' byName host pid same
    rw [Registry.seen_id, Registry.seen_id] at same
    subst same
    refine examine_lockstep (congrArg Rules.procs rules) (status pid) fun _ _ _ worlds => ?_
    obtain ⟨results, worlds⟩ := fill registry host _ _ _ worlds
    exact ⟨congrArg (Except.map id) results, worlds⟩

theorem Mirrors.simulates (mirrors : e.Mirrors R f) : e.Simulates R Eq id id f :=
  simulates_whole Counters.whole_timed mirrors.rules mirrors.pids mirrors.status mirrors.host
    mirrors.stopwatch fun registry host status => (mirrors.at status.pid).fill registry host

/-- In related worlds a call has the same reply and leaves the same record. -/
theorem Mirrors.call {t : Turn σ} {w : τ} (mirrors : e.Mirrors R f) (related : R t.world w)
    (r : Record) :
    e.reply r t = f.reply r (t.inWorld w) ∧ e.after r t = f.after r (t.inWorld w) := by
  have agree : Record.Agree id id r r := ⟨rfl, rfl⟩
  obtain ⟨⟨replies, records⟩, _⟩ := mirrors.simulates.answer agree t.call t.world w related
  rw [Reply.seen_id, Reply.seen_id] at replies
  exact ⟨replies, records.eq⟩

end Engine

end ProcMeter
