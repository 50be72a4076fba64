import ProcMeter.Proofs.Simulation

/-! Which processes are reported, and whether with ticks, decides about nothing but the reports.
Engines whose rules differ in no more than that visit the same processes in the same registries, and
every visit comes to the same. -/
namespace ProcMeter

/-- `x` shows all of `s`, with its tick counts or without any. -/
structure ProcState.ShownAs (ticks : Bool) (s x : ProcState) : Prop where
  same : SameButTicks x s
  counts : ∀ kind, (x.cpu.share kind).ticks = if ticks then (s.cpu.share kind).ticks else none

theorem Engine.shown_shownAs (rules : Rules) (s : ProcState) :
    s.ShownAs rules.reportTicks (shown rules s) := by
  unfold shown
  cases rules.reportTicks with
  | true => exact ⟨.refl s, fun _ => rfl⟩
  | false => exact ⟨s.stripTicks_sameButTicks, s.stripTicks_ticks⟩

/-- Replies that come from the same states. Either both cycles failed or neither did, and what is
told of single processes differs in tick counts at most. -/
inductive Reply.Akin : Reply → Reply → Prop
  | cycle {states states' : List ProcState} : Akin (.cycle (.ok states)) (.cycle (.ok states'))
  | one {s s' : ProcState} : s.SameButTicks s' → Akin (.one (.ok s)) (.one (.ok s'))
  | noCycle (err : CycleError) : Akin (.cycle (.error err)) (.cycle (.error err))
  | noOne (err : SampleError) : Akin (.one (.error err)) (.one (.error err))
  | list (entries : Except CycleError (List ListEntry)) : Akin (.list entries) (.list entries)

/-- What rules let through of a reply that leaves out nothing. -/
def Reply.presented (rules : Rules) : Reply → Reply
  | .cycle states =>
    .cycle (states.map fun matched => (rules.top.select matched).map (Engine.shown rules))
  | .one state => .one (state.map (Engine.shown rules))
  | .list entries => .list entries

theorem Reply.presented_akin (reply : Reply) (rules rules' : Rules) :
    (reply.presented rules).Akin (reply.presented rules') := by
  cases reply with
  | cycle states =>
    cases states with
    | error err => exact .noCycle err
    | ok matched => exact .cycle
  | one state =>
    cases state with
    | error err => exact .noOne err
    | ok s =>
      have one := (Engine.shown_shownAs rules s).same
      exact .one (one.trans (Engine.shown_shownAs rules' s).same.symm)
  | list entries => exact .list entries

namespace Counters

/-- The counters without the number of states that were reported. -/
def unreported (c : Counters) : Counters := { c with processesReported := 0 }

theorem unreported_part : Part unreported :=
  ⟨fun _ => rfl, fun _ => rfl, fun _ => rfl, fun _ => rfl, fun _ _ => rfl⟩

theorem unreported_recordCycle {c c' : Counters} (same : c.unreported = c'.unreported)
    (n n' : UInt64) (millis : Float) :
    (c.recordCycle n millis).unreported = (c'.recordCycle n' millis).unreported := by
  simp only [unreported, mk.injEq] at same
  simp only [unreported, recordCycle, same]

end Counters

namespace Engine

/-- The engine with other rules for its reports. -/
def presenting {m : Type → Type} (e : Engine m) (ticks : Bool) (top : TopRule) : Engine m :=
  { e with rules := { e.rules with reportTicks := ticks, top := top } }

/-- The engine that reports every state as it is kept. -/
def unabridged {m : Type → Type} (e : Engine m) : Engine m := e.presenting true .off

variable {σ : Type} {e : Engine (StateM σ)} {r r' : Record} {ticks : Bool} {top : TopRule}

theorem source_presenting : (e.presenting ticks top).source = e.source := rfl

theorem probe_presenting (registry : Registry) (host : Host) (pid : Pid) :
    (e.presenting ticks top).probe registry host pid = e.probe registry host pid := rfl

theorem sweepVisits_presenting (host : Host) (pids : List Pid) (registry : Registry) (w : σ) :
    (e.presenting ticks top).sweepVisits host pids registry w =
      e.sweepVisits host pids registry w := by
  induction pids generalizing registry w with
  | nil => rfl
  | cons pid pids ih => exact congrArg _ (ih _ _)

theorem visits_presenting (same : r.registry = r'.registry) (t : Turn σ) :
    (e.presenting ticks top).visits r t = e.visits r' t := by
  obtain ⟨call, w⟩ := t
  cases call with
  | cycle =>
    simp only [visits, sweepVisits_presenting, same]
    rfl
  | one pid =>
    simp only [visits, same]
    rfl
  | list => rfl

theorem reported_unabridged (visits : List (Visit σ)) :
    reported (e.presenting true .off).rules visits = sampledStates visits :=
  List.map_id' _

theorem unabridged_states (same : r.registry = r'.registry) (t : Turn σ) :
    (e.unabridged.reply r t).states = sampledStates (e.visits r' t) := by
  rw [reply_states, unabridged, visits_presenting same]
  obtain ⟨call, w⟩ := t
  cases call with
  | cycle => exact reported_unabridged _
  | one pid => exact List.map_id' _
  | list => rfl

/-- Records with the same registry and the same counts, but for how many states were reported. -/
abbrev SameWork : Record → Record → Prop := Record.Agree id Counters.unreported

theorem SameWork.registry_eq (same : SameWork r r') : r.registry = r'.registry := by
  simpa only [Registry.seen_id] using same.registry

theorem SameWork.noteAll (same : SameWork r r') (visits : List (Visit σ)) :
    SameWork (noteAll r visits) (noteAll r' visits) := by
  induction visits generalizing r r' with
  | nil => exact same
  | cons v rest ih => exact ih (same.note ProcState.whole_view Counters.unreported_part rfl v.pid)

/-- A cycle reports its matched states by the rules, and otherwise does not look at them. -/
theorem cycle_presenting (e : Engine (StateM σ)) (ticks : Bool) (top : TopRule)
    (same : SameWork r r') (w : σ) :
    let one := ((e.presenting ticks top).cycle r w).1
    let full := (e.unabridged.cycle r' w).1
    one.1 = full.1.map (fun matched =>
        (top.select matched).map (shown (e.presenting ticks top).rules)) ∧
      SameWork one.2 full.2 := by
  rcases listed : e.enumeration w with ⟨err | pids, w₁⟩
  · have failed (ticks top) := cycle_of_error (e := e.presenting ticks top) listed
    simp only [unabridged, failed]
    exact ⟨rfl, same.registry, congrArg Counters.recordFailure same.counters⟩
  · have done (ticks top) := cycle_fst_of_ok (e := e.presenting ticks top) listed
    simp only [sweepVisits_presenting] at done
    simp only [unabridged, done, same.registry_eq, reported_unabridged]
    -- Both make the same visits, so the counts part only where the reports are counted.
    let visits := e.sweepVisits (e.source.host w₁).1 pids r'.registry (e.source.host w₁).2
    have kept := (same.noteAll visits).prune Counters.unreported_part pids
    exact ⟨rfl, kept.registry, Counters.unreported_recordCycle kept.counters _ _ _⟩

theorem sampleOne_presenting (e : Engine (StateM σ)) (ticks : Bool) (top : TopRule)
    (same : SameWork r r') (pid : Pid) (w : σ) :
    let one := ((e.presenting ticks top).sampleOne r pid w).1
    let full := (e.unabridged.sampleOne r' pid w).1
    one.1 = full.1.map (shown (e.presenting ticks top).rules) ∧ SameWork one.2 full.2 := by
  intro one full
  simp only [one, full, unabridged, sampleOne_fst, probe_presenting, source_presenting,
    same.registry_eq]
  cases (e.probe r'.registry (e.source.host w).1 pid (e.source.host w).2).1 with
  | ok s => exact ⟨rfl, rfl, same.counters⟩
  | error err => exact ⟨rfl, rfl, same.counters⟩

/-- What one call does, by the two engines on records that differ in the number of reports. -/
theorem answer_presenting (e : Engine (StateM σ)) (ticks : Bool) (top : TopRule)
    (same : SameWork r r') (t : Turn σ) :
    SameWork ((e.presenting ticks top).after r t) (e.unabridged.after r' t) ∧
      (e.presenting ticks top).reply r t =
        (e.unabridged.reply r' t).presented (e.presenting ticks top).rules := by
  obtain ⟨call, w⟩ := t
  cases call with
  | cycle =>
    obtain ⟨reports, records⟩ := e.cycle_presenting ticks top same w
    exact ⟨records, congrArg Reply.cycle reports⟩
  | one pid =>
    obtain ⟨reports, records⟩ := e.sampleOne_presenting ticks top same pid w
    exact ⟨records, congrArg Reply.one reports⟩
  | list =>
    refine ⟨same, ?_⟩
    have entries := listStates_alike (R := Eq) (e := e.presenting ticks top) (f := e.unabridged)
      rfl (.refl _) (fun _ => .refl _) w w rfl
    exact congrArg Reply.list entries.1

theorem run_presenting (e : Engine (StateM σ)) (ticks : Bool) (top : TopRule)
    (turns : List (Turn σ)) :
    SameWork ((e.presenting ticks top).run turns) (e.unabridged.run turns) := by
  have alongside : List.Forall₂ (Turn.Alongside Eq) turns turns :=
    List.forall₂_same.mpr fun t _ => ⟨rfl, rfl⟩
  refine run_alongside ⟨rfl, rfl⟩ ?_ alongside
  rintro r r' ⟨call, w⟩ ⟨call', w'⟩ same ⟨called, worlds⟩
  obtain rfl : call = call' := called
  obtain rfl : w = w' := worlds
  exact (e.answer_presenting ticks top same _).1

/-- Whether ticks are reported, and of which processes, decides about nothing but the reports. After
any calls the registries are the same, and so are the counts but for that of the states reported.
The next call makes the same visits, and its reply is what the rules let through of the reply that
leaves out nothing; this one consists of all states that the visits have sampled. To let a state
through is to show the whole of it, but for the tick counts where these are not reported; so errors
and lists are the same, and single states but for their tick counts. -/
theorem presentation_only_shapes_replies (e : Engine (StateM σ)) (ticks : Bool) (top : TopRule)
    (turns : List (Turn σ)) :
    let f := e.presenting ticks top
    (f.run turns).registry = (e.run turns).registry ∧
      (f.run turns).counters.unreported = (e.run turns).counters.unreported ∧
      (∀ t, f.visits (f.run turns) t = e.visits (e.run turns) t ∧
        let full := e.unabridged.reply (e.unabridged.run turns) t
        e.reply (e.run turns) t = full.presented e.rules ∧
          f.reply (f.run turns) t = full.presented f.rules ∧
          full.states = sampledStates (e.visits (e.run turns) t) ∧
          (f.reply (f.run turns) t).Akin (e.reply (e.run turns) t)) ∧
      ∀ s : ProcState, s.ShownAs e.rules.reportTicks (shown e.rules s) ∧
        s.ShownAs ticks (shown f.rules s) := by
  intro f
  have own := e.run_presenting e.rules.reportTicks e.rules.top turns
  have other := e.run_presenting ticks top turns
  refine ⟨other.registry_eq.trans own.registry_eq.symm, other.counters.trans own.counters.symm, ?_,
    fun s => ⟨shown_shownAs e.rules s, shown_shownAs f.rules s⟩⟩
  refine fun t => ⟨visits_presenting (other.registry_eq.trans own.registry_eq.symm) t, ?_⟩
  have reply : e.reply (e.run turns) t = _ := (e.answer_presenting _ _ own t).2
  have reply' : f.reply (f.run turns) t = _ := (e.answer_presenting ticks top other t).2
  refine ⟨reply, reply', unabridged_states own.registry_eq.symm t, ?_⟩
  rw [reply, reply']
  exact Reply.presented_akin _ _ _

end Engine

end ProcMeter
