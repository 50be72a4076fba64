import ProcMeter.Proofs.Departure
import ProcMeter.Proofs.Selection
import ProcMeter.Proofs.StatLine
import ProcMeter.Proofs.Utf8

/-! Processes with names of any bytes. The system takes whatever bytes a process gives itself for a
name, but a stat line is read only if it is UTF-8 throughout. So the bytes of the name decide: a
process is reported if they encode a text, and otherwise no cycle ever samples it. -/
namespace ProcMeter

open Text.Utf8 (Bytes encode decode?)

namespace Procfs

/-- A stat line but for the name. -/
structure Frame where
  before : String
  after : String
  /-- The fields that the words after the name show, with no matter which name. -/
  fields : StatLine
  opens : '(' ∉ before.toList
  closes : ')' ∉ after.toList
  shown : StatLine.Shows (Text.words after.toList) fields

namespace Frame

/-- The line with the name in its place. -/
def around (frame : Frame) (name : Bytes) : Bytes :=
  encode frame.before ++ 0x28 :: (name ++ 0x29 :: encode frame.after)

/-- The text of a line with a name that is a text. -/
def textAround (frame : Frame) (name : List Char) : List Char :=
  frame.before.toList ++ '(' :: (name ++ ')' :: frame.after.toList)

/-- The line is a text just when the name is, as parentheses are ASCII. -/
theorem decode?_around (frame : Frame) (name : Bytes) :
    decode? (frame.around name) = (decode? name).map frame.textAround := by
  have opening : (0x28 : UInt8) < 0x80 := by decide
  have closing : (0x29 : UInt8) < 0x80 := by decide
  rw [around, Text.Utf8.decode?_append (.cons opening), Text.Utf8.decode?_encode,
    Text.Utf8.decode?_ascii opening, Text.Utf8.decode?_append (.cons closing),
    Text.Utf8.decode?_ascii closing, Text.Utf8.decode?_encode]
  cases decode? name <;> rfl

theorem parse?_textAround (frame : Frame) (text : String) :
    StatLine.parse? (frame.textAround text.toList) =
      some { frame.fields with name := text } := by
  rw [textAround, StatLine.parse?_of_parts frame.opens frame.closes, StatLine.ofWords?_eq_some_iff,
    String.ofList_toList]
  obtain ⟨enough, state, ppid, pgrp, utime, stime, starttime⟩ := frame.shown
  exact ⟨rfl, enough, state, ppid, pgrp, utime, stime, starttime⟩

end Frame

namespace Reader

variable {σ : Type} {r : Reader (StateM σ)} {pid : Pid} {frame : Frame} {name : Bytes}
  {text : String} {w : σ}

/-- The stat line of a process, at all times, with a name of these bytes. -/
def HasStat (r : Reader (StateM σ)) (pid : Pid) (frame : Frame) (name : Bytes) : Prop :=
  ∀ w, (r.files.read (r.path pid "stat") w).1 = .ok (frame.around name)

/-- The statm line of a process can be read at all times. -/
def HasStatm (r : Reader (StateM σ)) (pid : Pid) : Prop :=
  ∀ w, ∃ sizes, (r.readStatm pid w).1 = .ok sizes

/-- The command line of a process is there at all times, although it may be withheld. -/
def HasCmdline (r : Reader (StateM σ)) (pid : Pid) : Prop :=
  ∀ w cause, (r.files.read (r.path pid "cmdline") w).1 = .error cause → cause.isMissing = false

theorem text_of_read {file : String} {content : Bytes}
    (read : (r.files.read (r.path pid file) w).1 = .ok content) :
    (r.text pid file w).1 =
      match decode? content with
      | some cs => .ok cs
      | none => .error (.io pid .notUtf8) := by
  have shows : (r.text pid file w).1 =
      (textOf (r.files.read (r.path pid file) w).1).mapError (SampleError.ofIo pid) := rfl
  rw [shows, read, textOf]
  cases decode? content <;> rfl

theorem HasStat.readStat_of_text (stat : r.HasStat pid frame (encode text)) (w : σ) :
    (r.readStat pid w).1 = .ok { frame.fields with name := text } := by
  have content := text_of_read (stat w)
  rw [frame.decode?_around, Text.Utf8.decode?_encode] at content
  simp only [readStat, Engine.bind_apply, content, Option.map_some, frame.parse?_textAround]
  rfl

theorem HasStat.readStat_of_damaged (stat : r.HasStat pid frame name)
    (damaged : ∀ text, name ≠ encode text) (w : σ) :
    (r.readStat pid w).1 = .error (.io pid .notUtf8) := by
  have content := text_of_read (stat w)
  rw [frame.decode?_around, Text.Utf8.decode?_eq_none_iff.mpr damaged] at content
  simp only [readStat, Engine.bind_apply, content, Option.map_none]
  rfl

theorem HasStat.reads (stat : r.HasStat pid frame (encode text)) (w : σ) :
    (r.status pid w).1 = .ok (statusOf pid { frame.fields with name := text }) ∧
      (r.runState pid w).1 = .ok (RunState.ofLetter frame.fields.state) := by
  have line := stat.readStat_of_text w
  constructor
  · exact congrArg (Except.map (statusOf pid)) line
  · exact congrArg (Except.map fun line => RunState.ofLetter line.state) line

theorem HasStat.samples (stat : r.HasStat pid frame (encode text)) (statm : r.HasStatm pid)
    (w : σ) : ∃ sample, (r.sample pid w).1 = .ok sample := by
  have line := stat.readStat_of_text (r.surroundings.now w).2
  obtain ⟨sizes, sized⟩ := statm (r.readStat pid (r.surroundings.now w).2).2
  refine ⟨⟨cpuOf r.bootTime r.units { frame.fields with name := text }, memoryOf sizes,
    (r.surroundings.now w).1⟩, ?_⟩
  simp only [sample, Engine.bind_apply, line, sized]
  rfl

theorem HasStat.fails (stat : r.HasStat pid frame name) (damaged : ∀ text, name ≠ encode text)
    (w : σ) :
    (r.status pid w).1 = .error (.io pid .notUtf8) ∧
      (r.runState pid w).1 = .error (.io pid .notUtf8) ∧
      (r.sample pid w).1 = .error (.io pid .notUtf8) := by
  have line (w : σ) := stat.readStat_of_damaged damaged w
  refine ⟨?_, ?_, ?_⟩
  · exact congrArg (Except.map (statusOf pid)) (line w)
  · exact congrArg (Except.map fun line => RunState.ofLetter line.state) (line w)
  · simp only [sample, Engine.bind_apply, line]
    rfl

theorem HasCmdline.present {err : SampleError} (cmdline : r.HasCmdline pid)
    (unread : (r.identity pid w).1 = .error err) : err.isGone = false := by
  rcases answer : r.files.read (r.path pid "cmdline") w with ⟨cause | content, w₁⟩
  · rw [identity_of_unread answer] at unread
    rw [← Except.error.inj unread, SampleError.isGone_ofIo]
    exact cmdline w cause (by rw [answer])
  · simp only [identity, Engine.bind_apply, answer] at unread
    contradiction

end Reader

end Procfs

namespace Engine

open Procfs

variable {σ : Type} {e : Engine (StateM σ)} {r : Reader (StateM σ)} {v : Visit σ} {pid : Pid}
  {frame : Frame} {name : Bytes} {text : String} {t : Turn σ} {kept : Record}

/-- An identity is missing only of a process that has gone. -/
theorem exists_gone_of_identityFor {registry : Registry} {status : Status} {err : SampleError}
    {w w₁ : σ} (unknown : e.identityFor registry status w = (.error err, w₁)) :
    e.source.identity status.pid w = (.error err, w₁) ∧ err.isGone = true := by
  by_cases needed : NeedsIdentity e.rules registry status
  · rcases answer : e.source.identity status.pid w with ⟨err' | identity, w₂⟩
    · rw [identityFor_of_unread needed answer] at unknown
      split at unknown
      · rename_i gone
        obtain ⟨same, rfl⟩ := Prod.mk.inj unknown
        obtain rfl := Except.error.inj same
        exact ⟨rfl, gone⟩
      · have clash := congrArg Prod.fst unknown
        contradiction
    · simp only [identityFor, cachedIdentity?_eq_none_iff.mpr needed, readIdentity, bind_apply,
        answer] at unknown
      have clash := congrArg Prod.fst unknown
      contradiction
  · obtain ⟨identity, known⟩ :=
      Option.ne_none_iff_exists'.mp (mt cachedIdentity?_eq_none_iff.mp needed)
    simp only [identityFor, known] at unknown
    have clash := congrArg Prod.fst unknown
    contradiction

section
variable (backed : e.source = r.source)
include backed

theorem Made.sampled_of_text (made : e.Made v)
    (matching : ∀ name, e.rules.procs.accepts name = true)
    (stat : r.HasStat v.pid frame (encode text)) (statm : r.HasStatm v.pid)
    (cmdline : r.HasCmdline v.pid) :
    ∃ s, v.outcome = .sampled s ∧ s.pid = v.pid ∧ s.status.name = text := by
  have shows {status : Status} {w : σ} (read : e.source.status v.pid v.world = (.ok status, w)) :
      status = Reader.statusOf v.pid { frame.fields with name := text } := by
    have found := congrArg Prod.fst read
    rw [backed] at found
    exact Except.ok.inj (found.symm.trans (stat.reads v.world).1)
  -- every other ending needs a read that fails here only in another way, or not at all
  cases made.ending with
  | unreadable unread _ _ =>
    have found := congrArg Prod.fst unread
    rw [backed] at found
    have clash := found.symm.trans (stat.reads v.world).1
    contradiction
  | filtered _ refused _ _ => simp [matching] at refused
  | @unsampled _ _ w₁ _ read unread _ _ =>
    have found := congrArg Prod.fst unread
    rw [backed, shows read] at found
    obtain ⟨sample, sampled⟩ := stat.samples statm w₁
    have clash := found.symm.trans sampled
    contradiction
  | unidentified reads unknown _ _ =>
    obtain ⟨unread, gone⟩ := exists_gone_of_identityFor unknown
    obtain ⟨_, read, _⟩ := reads
    have found := congrArg Prod.fst unread
    rw [backed, shows read] at found
    simp [cmdline.present found] at gone
  | sampled reads _ outcome _ =>
    obtain ⟨_, read, _⟩ := reads
    refine ⟨_, outcome, ?_⟩
    rw [ProcState.pid, stateFrom_status, shows read]
    exact ⟨rfl, rfl⟩

theorem Made.failed_of_damaged (made : e.Made v) (stat : r.HasStat v.pid frame name)
    (damaged : ∀ text, name ≠ encode text) : v.outcome = .failed (.io v.pid .notUtf8) := by
  refine made.failed_of_unread (Prod.ext ?_ rfl)
  rw [backed]
  exact (stat.fails damaged v.world).1

end

theorem cycle_states_of_inactive (inactive : e.rules.top.isActive = false) (kept : Record) (w : σ) :
    (e.reply kept ⟨.cycle, w⟩).states =
      (sampledStates (e.visits kept ⟨.cycle, w⟩)).map (shown e.rules) := by
  rw [reply_states]
  simp only [reported, TopRule.select, inactive, Bool.false_eq_true, if_false]

section
variable (backed : e.source = r.source)
include backed

theorem reported_of_text (matching : ∀ name, e.rules.procs.accepts name = true)
    (inactive : e.rules.top.isActive = false) (stat : r.HasStat pid frame (encode text))
    (statm : r.HasStatm pid) (cmdline : r.HasCmdline pid) (kept : Record) {w : σ} {pids : List Pid}
    (listed : e.enumerated? ⟨.cycle, w⟩ = some pids) (alive : pid ∈ pids) :
    ∃ s ∈ (e.reply kept ⟨.cycle, w⟩).states, s.pid = pid ∧ s.status.name = text := by
  rw [← visits_pids listed kept] at alive
  obtain ⟨v, member, rfl⟩ := List.mem_map.mp alive
  have made := (e.visits_chained kept ⟨.cycle, w⟩).made member
  obtain ⟨s, sampled, same, named⟩ := made.sampled_of_text backed matching stat statm cmdline
  have reports : s ∈ sampledStates (e.visits kept ⟨.cycle, w⟩) :=
    List.mem_filterMap.mpr ⟨v, member, Outcome.state?_eq_some_iff.mpr sampled⟩
  refine ⟨shown e.rules s, ?_, (shown_pid e.rules s).trans same, ?_⟩
  · rw [cycle_states_of_inactive inactive]
    exact List.mem_map_of_mem reports
  · rw [shown_status, named]

theorem unreported_of_damaged (stat : r.HasStat pid frame name)
    (damaged : ∀ text, name ≠ encode text) (kept : Record) (t : Turn σ) :
    ∀ s ∈ (e.reply kept t).states, s.pid ≠ pid := by
  intro s reports same
  obtain ⟨v, member, s, sampled, rfl⟩ := mem_reply_states reports
  have made := (e.visits_chained kept t).made member
  have about : s.pid = v.pid :=
    made.sampled_asked (fun read => Reader.status_pid (by rwa [backed] at read)) sampled
  rw [shown_pid, about] at same
  subst same
  have failed := made.failed_of_damaged backed stat damaged
  rw [sampled] at failed
  contradiction

end

/-- The name of a process decides whether it is seen. If its bytes are the UTF-8 of a text, status
and run state are read, with this text as the name, and so is a sample where there is a statm line;
every cycle that matches all names reports the process. If they are not, all three fail, in the same
way, and no call ever reports the process. -/
theorem reported_iff_name_is_utf8 (e : Engine (StateM σ)) (r : Reader (StateM σ))
    (backed : e.source = r.source) (pid : Pid) (frame : Frame) (name : Bytes)
    (stat : r.HasStat pid frame name) :
    (∀ text, name = encode text →
      (∀ w, (r.status pid w).1 = .ok (Reader.statusOf pid { frame.fields with name := text }) ∧
        (r.runState pid w).1 = .ok (RunState.ofLetter frame.fields.state)) ∧
      (r.HasStatm pid → (∀ w, ∃ sample, (r.sample pid w).1 = .ok sample) ∧
        (r.HasCmdline pid → (∀ name, e.rules.procs.accepts name = true) →
          e.rules.top.isActive = false →
          ∀ kept w pids, e.enumerated? ⟨.cycle, w⟩ = some pids → pid ∈ pids →
            ∃ s ∈ (e.reply kept ⟨.cycle, w⟩).states, s.pid = pid ∧ s.status.name = text))) ∧
    ((∀ text, name ≠ encode text) →
      (∀ w, (r.status pid w).1 = .error (.io pid .notUtf8) ∧
        (r.runState pid w).1 = .error (.io pid .notUtf8) ∧
        (r.sample pid w).1 = .error (.io pid .notUtf8)) ∧
      ∀ kept t, (∀ v ∈ e.visits kept t, v.pid = pid → v.outcome = .failed (.io pid .notUtf8)) ∧
        ∀ s ∈ (e.reply kept t).states, s.pid ≠ pid) := by
  constructor
  · rintro text rfl
    refine ⟨stat.reads, fun statm => ⟨stat.samples statm, ?_⟩⟩
    intro cmdline matching inactive kept w pids
    exact reported_of_text backed matching inactive stat statm cmdline kept
  · intro damaged
    refine ⟨stat.fails damaged, fun kept t => ⟨?_, ?_⟩⟩
    · rintro v member rfl
      exact ((e.visits_chained kept t).made member).failed_of_damaged backed stat damaged
    · exact unreported_of_damaged backed stat damaged kept t

/-- A stat line of process 5. -/
def line : Frame where
  before := "5 "
  after := " S 1 5 0 0 0 0 0 0 0 0 7 2 0 0 0 0 0 0 500 0"
  fields := ⟨"", 'S', 1, 5, 7, 2, 500⟩
  opens := by decide
  closes := by decide
  shown := by
    have read : StatLine.ofWords? []
        (Text.words " S 1 5 0 0 0 0 0 0 0 0 7 2 0 0 0 0 0 0 500 0".toList) =
          some ⟨"", 'S', 1, 5, 7, 2, 500⟩ := by decide +kernel
    exact (StatLine.ofWords?_eq_some_iff.mp read).2

def statPath : String := Resolver.within (Resolver.default.procDir 5) "stat"

/-- A host with one process, whose name has these bytes. -/
def named (name : Bytes) : Reader (StateM Unit) where
  files :=
    { read := fun path w =>
        (.ok (if path = statPath then line.around name else encode "1 2 3"), w)
      readLink := fun _ w => (.error (.os Errno.accessDenied), w)
      list := fun _ w => (.ok ["5"], w)
      leadsTo := fun _ w => (true, w) }
  surroundings := ⟨fun _ w => (none, w), fun w => (⟨0, 0⟩, w), fun w => (4, w)⟩
  resolver := .default
  units := .usual
  bootTime := none

def overNamed (name : Bytes) : Engine (StateM Unit) where
  rules := Solo.engine.rules
  source := (named name).source
  network := none
  cgroups := none
  stopwatch w := (0.0, w)

theorem named_hasStat (name : Bytes) : (named name).HasStat 5 line name :=
  fun _ => congrArg Except.ok (if_pos rfl)

theorem named_hasStatm (name : Bytes) : (named name).HasStatm 5 := by
  intro w
  have other : Resolver.within (Resolver.default.procDir 5) "statm" ≠ statPath := by
    decide +kernel
  have read : ((named name).files.read ((named name).path 5 "statm") w).1 =
      .ok (encode "1 2 3") := congrArg Except.ok (if_neg other)
  have content := Reader.text_of_read read
  rw [Text.Utf8.decode?_encode] at content
  have sizes : StatmLine.parse? "1 2 3".toList (named name).units.pageSize =
      some ⟨4096, 8192, 12288⟩ := by
    change StatmLine.parse? "1 2 3".toList 4096 = _
    decide +kernel
  refine ⟨⟨4096, 8192, 12288⟩, ?_⟩
  simp only [Reader.readStatm, bind_apply, content, sizes]
  rfl

theorem named_hasCmdline (name : Bytes) : (named name).HasCmdline 5 := by
  intro w cause unread
  contradiction

theorem cut_name_damaged (text : String) : [0x63, 0xC3] ≠ encode text :=
  Text.Utf8.decode?_eq_none_iff.mp (by decide +kernel) text

theorem named_enumerated (name : Bytes) (w : Unit) :
    (overNamed name).enumerated? ⟨.cycle, w⟩ = some [5] := by
  have listed : ["5"].filterMap Reader.pidOfName? = [5] := by decide +kernel
  exact congrArg some listed

theorem named_reported_iff_name_is_utf8 :
    (∃ s ∈ ((overNamed (encode "a) b")).reply .empty ⟨.cycle, ()⟩).states,
      s.pid = 5 ∧ s.status.name = "a) b") ∧
    ∀ s ∈ ((overNamed [0x63, 0xC3]).reply .empty ⟨.cycle, ()⟩).states, s.pid ≠ 5 := by
  obtain ⟨seen, _⟩ := reported_iff_name_is_utf8 (overNamed (encode "a) b")) _ rfl 5 line _
    (named_hasStat _)
  obtain ⟨_, hidden⟩ := reported_iff_name_is_utf8 (overNamed [0x63, 0xC3]) _ rfl 5 line _
    (named_hasStat _)
  constructor
  · obtain ⟨_, reported⟩ := (seen "a) b" rfl).2 (named_hasStatm _)
    exact reported (named_hasCmdline _) (fun _ => rfl) rfl .empty () [5] (named_enumerated _ ())
      (List.mem_singleton_self 5)
  · exact ((hidden cut_name_damaged).2 .empty ⟨.cycle, ()⟩).2

/-- A name that is cut inside a character hides its process. -/
theorem cut_name_hides :
    let name : Bytes := [0x63, 0xC3]
    (named name).HasStat 5 line name ∧ (named name).HasStatm 5 ∧ (named name).HasCmdline 5 ∧
      0 ∉ name ∧
      ((named name).status 5 ()).1 = .error (.io 5 .notUtf8) ∧
      ((named name).runState 5 ()).1 = .error (.io 5 .notUtf8) ∧
      ((named name).sample 5 ()).1 = .error (.io 5 .notUtf8) ∧
      (overNamed name).enumerated? ⟨.cycle, ()⟩ = some [5] ∧
      ∀ s ∈ ((overNamed name).reply .empty ⟨.cycle, ()⟩).states, s.pid ≠ 5 := by
  intro name
  obtain ⟨status, state, sample⟩ := (named_hasStat name).fails cut_name_damaged ()
  exact ⟨named_hasStat name, named_hasStatm name, named_hasCmdline name, by decide, status, state,
    sample, named_enumerated name (),
    unreported_of_damaged rfl (named_hasStat name) cut_name_damaged .empty ⟨.cycle, ()⟩⟩

end Engine

end ProcMeter
