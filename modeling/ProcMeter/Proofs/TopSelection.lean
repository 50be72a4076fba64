import Mathlib.Data.List.FinRange
import Mathlib.Data.List.NodupEquivFin
import Mathlib.Data.List.Perm.Subperm
import Mathlib.Order.WithBot
import ProcMeter.Proofs.FloatOrder
import ProcMeter.Proofs.Ranking
import ProcMeter.Proofs.Selection

/-! What an active rule selects: the processes that not too many others are ahead of, by CPU or by
resident memory. Leaving out the others does not put any of these back, so selecting once is
enough. -/
namespace ProcMeter

/-- Whether the process at `i` is ahead of the one at `j`: it has a value where the other has none
or a smaller one, or it has the same, or has none either, and comes earlier. -/
def isAhead {α : Type} [LT α] [DecidableLT α] [BEq α] (value : ProcState → Option α)
    (procs : List ProcState) (i j : Fin procs.length) : Bool :=
  match value (procs.get i), value (procs.get j) with
  | some a, some b => b < a || (a == b && i < j)
  | some _, none => true
  | none, some _ => false
  | none, none => i < j

/-- How many processes are ahead of the one at `j`. -/
def rank {α : Type} [LT α] [DecidableLT α] [BEq α] (value : ProcState → Option α)
    (procs : List ProcState) (j : Fin procs.length) : Nat :=
  (List.finRange procs.length).countP fun i => isAhead value procs i j

namespace TopRule

/-- Whether the process at `j` is among the first that are wanted, by one measure or the other. -/
def leads (r : TopRule) (procs : List ProcState) (j : Fin procs.length) : Bool :=
  (0 < r.byCpu && rank (·.cpu.total.pct) procs j < r.byCpu.toNat) ||
    (0 < r.byMemory && rank (·.memory.rss.bytes) procs j < r.byMemory.toNat)

end TopRule

/-- Values that a key puts in order, as far as they are valid. -/
structure Keyed {α κ : Type} [LT α] [BEq α] [LinearOrder κ] (valid : α → Prop)
    (greater : α → α → Bool) (key : α → κ) : Prop where
  less : ∀ {a b : α}, valid a → valid b → (a < b ↔ key a < key b)
  same : ∀ {a b : α}, valid a → valid b → ((a == b) = true ↔ key a = key b)
  greater : ∀ {a b : α}, valid a → valid b → (greater a b = true ↔ key b < key a)

theorem keyed_cpu : Keyed (fun x : Float => x.isNaN = false) cpuGreater orderKey where
  less := float_lt_iff
  same := float_beq_iff
  greater number number' := by
    simp only [cpuGreater, number, number', Bool.not_false, Bool.true_and, decide_eq_true_iff]

theorem keyed_bytes : Keyed (fun _ : UInt64 => True) bytesGreater UInt64.toNat where
  less _ _ := UInt64.lt_iff_toNat_lt
  same _ _ := by rw [beq_iff_eq, UInt64.toNat_inj]
  greater _ _ := by rw [bytesGreater, decide_eq_true_iff, UInt64.lt_iff_toNat_lt]

theorem pid_injective {procs : List ProcState} (distinct : (procs.map ProcState.pid).Nodup) :
    Function.Injective (ProcState.pid ∘ procs.get) := by
  intro i j same
  have apart := List.nodup_iff_injective_get.mp distinct
  have places := @apart (i.cast (by simp)) (j.cast (by simp)) (by simpa using same)
  simpa [Fin.ext_iff] using places

section
variable {α κ : Type} [LT α] [DecidableLT α] [BEq α] [LinearOrder κ] {valid : α → Prop}
  {greater : α → α → Bool} {key : α → κ} {value : ProcState → Option α} {procs : List ProcState}

/-- The key of a process; that of an absent value is below all others. -/
def measureKey (key : α → κ) (value : ProcState → Option α) (p : ProcState) : WithBot κ :=
  match value p with
  | some a => key a
  | none => ⊥

variable (keyed : Keyed valid greater key)
  (all : ∀ p ∈ procs, ∀ a, value p = some a → valid a)
include keyed all

theorem isAhead_iff (i j : Fin procs.length) :
    isAhead value procs i j = true ↔
      standing (measureKey key value ∘ procs.get) i <
        standing (measureKey key value ∘ procs.get) j := by
  have here := all _ (procs.get_mem i)
  have there := all _ (procs.get_mem j)
  rw [standing_lt_iff]
  unfold isAhead
  simp only [Function.comp_apply]
  unfold measureKey
  cases left : value (procs.get i) with
  | some a =>
    cases right : value (procs.get j) with
    | some b =>
      simp only [Bool.or_eq_true, Bool.and_eq_true, decide_eq_true_eq, WithBot.coe_lt_coe,
        WithBot.coe_inj, keyed.less (there b right) (here a left),
        keyed.same (here a left) (there b right)]
    | none => simp only [WithBot.bot_lt_coe, true_or]
  | none =>
    cases right : value (procs.get j) with
    | some b => simp
    | none => simp

omit [DecidableLT α] in
theorem ranksBefore_iff {p q : ProcState} (member : p ∈ procs) (member' : q ∈ procs) :
    ranksBefore greater (value p) (value q) = true ↔
      measureKey key value q < measureKey key value p := by
  have here := all p member
  have there := all q member'
  unfold ranksBefore measureKey
  cases left : value p with
  | some a =>
    cases right : value q with
    | some b => simp only [WithBot.coe_lt_coe, keyed.greater (here a left) (there b right)]
    | none => simp only [WithBot.bot_lt_coe]
  | none =>
    cases right : value q with
    | some b => simp
    | none => simp

omit [DecidableLT α] in
theorem ranks_of_keyed : Ranks (fun p q => ranksBefore greater (value p) (value q)) procs :=
  .of_key fun _ member _ member' => ranksBefore_iff keyed all member member'

/-- The leaders of a ranking are those that not too many are ahead of. -/
theorem mem_leaders_iff (distinct : (procs.map ProcState.pid).Nodup) (n : UInt64)
    (j : Fin procs.length) :
    (procs.get j).pid ∈
        TopRule.leaders (fun p q => ranksBefore greater (value p) (value q)) n procs ↔
      rank value procs j < n.toNat := by
  have counted : rank value procs j = (List.finRange procs.length).countP fun i =>
      standing (measureKey key value ∘ procs.get) i <
        standing (measureKey key value ∘ procs.get) j := by
    refine List.countP_congr fun i _ => ?_
    rw [isAhead_iff keyed all, decide_eq_true_iff]
  have agree (i j : Fin procs.length) :
      ranksBefore greater (value (procs.get i)) (value (procs.get j)) = true ↔
        (measureKey key value ∘ procs.get) j < (measureKey key value ∘ procs.get) i :=
    ranksBefore_iff keyed all (procs.get_mem i) (procs.get_mem j)
  rw [counted, ← mem_take_ranking_iff agree (List.pairwise_lt_finRange _) (List.mem_finRange j),
    TopRule.leaders, ranking_eq_places, ← List.map_take, List.map_map]
  exact List.mem_map_of_injective (pid_injective distinct)

end

namespace TopRule

/-- The first of each wanted process are all that are wanted, where no process comes twice. -/
theorem firstOfEach_of_distinct (wanted : List Pid) {procs : List ProcState}
    (distinct : (procs.map ProcState.pid).Nodup) :
    firstOfEach wanted procs = procs.filter fun p => wanted.contains p.pid := by
  induction procs generalizing wanted with
  | nil => rfl
  | cons p rest ih =>
    rw [List.map_cons, List.nodup_cons] at distinct
    obtain ⟨fresh, distinct⟩ := distinct
    have others : rest.filter (fun q => (wanted.filter (· != p.pid)).contains q.pid) =
        rest.filter fun q => wanted.contains q.pid := by
      refine List.filter_congr fun q member => ?_
      have apart : q.pid ≠ p.pid := fun same => fresh (same ▸ List.mem_map_of_mem member)
      simp [apart]
    unfold firstOfEach
    split
    · rename_i found
      simp only [List.filter_cons, found, if_true, ih _ distinct, others]
    · rename_i absent
      simp only [List.filter_cons, absent, Bool.false_eq_true, if_false, ih _ distinct]

/-- Of each wanted process only the first is taken, and of others none. -/
theorem firstOfEach_once (wanted : List Pid) (procs : List ProcState) :
    ((firstOfEach wanted procs).map ProcState.pid).Nodup ∧
      ∀ p ∈ firstOfEach wanted procs, p.pid ∈ wanted := by
  induction procs generalizing wanted with
  | nil => exact ⟨.nil, fun p member => (nomatch member)⟩
  | cons p rest ih =>
    unfold firstOfEach
    split
    · rename_i found
      obtain ⟨once, taken⟩ := ih (wanted.filter (· != p.pid))
      have fresh : p.pid ∉ (firstOfEach (wanted.filter (· != p.pid)) rest).map ProcState.pid := by
        intro again
        obtain ⟨q, member, same⟩ := List.mem_map.mp again
        simpa [same] using taken q member
      refine ⟨List.nodup_cons.mpr ⟨fresh, once⟩, fun q member => ?_⟩
      obtain rfl | later := List.mem_cons.mp member
      · simpa using found
      · exact List.mem_of_mem_filter (taken q later)
    · exact ih wanted

variable {r : TopRule} {procs : List ProcState}

theorem number_of_share {share : Option Float} {x : Float}
    (number : share.any Float.isNaN = false) (present : share = some x) : x.isNaN = false := by
  rwa [present, Option.any_some] at number

section
variable (distinct : (procs.map ProcState.pid).Nodup)
  (numbers : ∀ p ∈ procs, p.cpu.total.pct.any Float.isNaN = false)
include distinct numbers

/-- The ids that either ranking chooses are those of the processes that lead. -/
theorem contains_chosen (j : Fin procs.length) :
    (r.chosen procs).contains (procs.get j).pid = r.leads procs j := by
  have numbers : ∀ p ∈ procs, ∀ x, p.cpu.total.pct = some x → x.isNaN = false :=
    fun p member x present => number_of_share (numbers p member) present
  have cpu : (procs.get j).pid ∈ leaders leadsByCpu r.byCpu procs ↔
      rank (·.cpu.total.pct) procs j < r.byCpu.toNat :=
    mem_leaders_iff keyed_cpu numbers distinct r.byCpu j
  have memory : (procs.get j).pid ∈ leaders leadsByMemory r.byMemory procs ↔
      rank (·.memory.rss.bytes) procs j < r.byMemory.toNat :=
    mem_leaders_iff keyed_bytes (fun _ _ _ _ => trivial) distinct r.byMemory j
  -- None is among the first zero.
  have wants {n : UInt64} {ahead : Nat} : ahead < n.toNat ↔ 0 < n ∧ ahead < n.toNat := by
    rw [UInt64.lt_iff_toNat_lt]
    exact ⟨fun less => ⟨Nat.zero_lt_of_lt less, less⟩, And.right⟩
  rw [wants] at cpu memory
  rw [Bool.eq_iff_iff, List.contains_iff_mem, TopRule.chosen, List.mem_append, leads]
  simp only [Bool.or_eq_true, Bool.and_eq_true, decide_eq_true_eq]
  exact or_congr cpu memory

/-- An active rule selects the processes that lead. -/
theorem select_of_active (active : r.isActive = true) :
    r.select procs = ((List.finRange procs.length).filter (r.leads procs)).map procs.get := by
  calc r.select procs
      = procs.filter fun p => (r.chosen procs).contains p.pid := by
        rw [select, if_pos active, firstOfEach_of_distinct _ distinct]
    _ = ((List.finRange procs.length).map procs.get).filter fun p =>
          (r.chosen procs).contains p.pid := by rw [List.map_get_finRange]
    _ = ((List.finRange procs.length).filter (r.leads procs)).map procs.get := by
        rw [List.filter_map]
        exact congrArg _ (List.filter_congr fun j _ => contains_chosen distinct numbers j)

end

section
variable {sort : Sorter ProcState}

theorem leadersBy_eq_leaders {before : ProcState → ProcState → Bool} {n : UInt64}
    (sorts : n = 0 ∨ sort before procs = some (ranking before procs)) :
    leadersBy sort before n procs = some (leaders before n procs) := by
  unfold leadersBy leaders
  split
  · rename_i none
    simp [none]
  · rename_i some
    rw [sorts.resolve_left some, Option.map_some]

theorem selectBy_of_sorts
    (cpu : r.byCpu = 0 ∨ sort leadsByCpu procs = some (ranking leadsByCpu procs))
    (memory : sort leadsByMemory procs = some (ranking leadsByMemory procs)) :
    r.selectBy sort procs = some (r.select procs) := by
  unfold selectBy select
  split
  · rw [leadersBy_eq_leaders cpu, leadersBy_eq_leaders (.inr memory)]
    rfl
  · rfl

theorem selectBy_byInsertion (r : TopRule) (procs : List ProcState) :
    r.selectBy byInsertion procs = some (r.select procs) :=
  selectBy_of_sorts (.inr rfl) rfl

/-- Any stable sort selects as insertion does where it has to put only numbers in order. -/
theorem selectBy_eq_select (stable : StableSort sort)
    (numbers : r.byCpu = 0 ∨ ∀ p ∈ procs, p.cpu.total.pct.any Float.isNaN = false) :
    r.selectBy sort procs = some (r.select procs) := by
  have memory : Ranks leadsByMemory procs := ranks_of_keyed keyed_bytes fun _ _ _ _ => trivial
  refine selectBy_of_sorts (numbers.imp_right fun numbers => ?_) (stable.eq_ranking memory)
  have cpu : Ranks leadsByCpu procs := ranks_of_keyed keyed_cpu fun p member x present =>
    number_of_share (numbers p member) present
  exact stable.eq_ranking cpu

end

/-- What an active rule selects, if the sort does not give up, are first processes of some ids. -/
theorem firstOfEach_of_selectBy {sort : Sorter ProcState} {selected : List ProcState}
    (active : r.isActive = true) (found : r.selectBy sort procs = some selected) :
    ∃ wanted, firstOfEach wanted procs = selected := by
  rw [selectBy, if_pos active] at found
  obtain ⟨byCpu, -, found⟩ := Option.bind_eq_some_iff.mp found
  obtain ⟨byMemory, -, found⟩ := Option.bind_eq_some_iff.mp found
  exact ⟨byCpu ++ byMemory, Option.some.inj found⟩

/-- Selection is exact, whichever stable sort puts the processes in order. Of processes with
different ids, none of which has a share of the CPU that is no number, an active rule selects just
those that lead, in the order in which they come. Ids may come twice, and where shares that are no
numbers count the sort may give up, but of any list an active rule selects processes in their order,
and none of them twice. A rule that is not active selects all. What insertion selects is what is
reported. -/
theorem selection_exact {sort : Sorter ProcState} (stable : StableSort sort) (r : TopRule)
    (procs : List ProcState) :
    (r.isActive = true → (procs.map ProcState.pid).Nodup →
      (∀ p ∈ procs, p.cpu.total.pct.any Float.isNaN = false) →
        r.selectBy sort procs =
          some (((List.finRange procs.length).filter (r.leads procs)).map procs.get)) ∧
    (r.byCpu = 0 ∨ (∀ p ∈ procs, p.cpu.total.pct.any Float.isNaN = false) →
      r.selectBy sort procs = some (r.select procs)) ∧
    (r.isActive = true → ∀ selected, r.selectBy sort procs = some selected →
      selected.Sublist procs ∧ (selected.map ProcState.pid).Nodup) ∧
    (r.isActive = false → r.selectBy sort procs = some procs) ∧
    r.selectBy byInsertion procs = some (r.select procs) := by
  refine ⟨fun active distinct numbers => ?_, selectBy_eq_select stable, ?_, fun inactive => ?_,
    r.selectBy_byInsertion procs⟩
  · rw [selectBy_eq_select stable (.inr numbers), select_of_active distinct numbers active]
  · intro active selected found
    obtain ⟨wanted, rfl⟩ := firstOfEach_of_selectBy active found
    exact ⟨firstOfEach_sublist wanted procs, (firstOfEach_once wanted procs).1⟩
  · simp only [selectBy, inactive, Bool.false_eq_true, if_false]

end TopRule

/-- A process of which no more is known than its share of the CPU and its resident bytes. -/
def ProcState.consuming (pid : Pid) (pct : Option Float) (bytes : Option UInt64) : ProcState where
  status := ⟨pid, none, none, "worker", .running, none⟩
  identity := .blank
  cpu := ⟨⟨none, none, none⟩, ⟨none, none, none⟩, ⟨none, pct, none⟩, none⟩
  memory := ⟨none, ⟨bytes, none⟩, none⟩
  network := none
  cgroup := none
  sampleTime := ⟨0, 0⟩
  identityComplete := false

/-- Of two that tie the earlier one is selected, and an absent value is behind all others. In a
list that has all of them twice, one process takes both places, also where its share is no number.
-/
theorem TopRule.ties_selection_exact :
    let r : TopRule := ⟨true, 2, 1⟩
    let procs : List ProcState :=
      [.consuming 1 (some 5.0) none, .consuming 2 (some 5.0) none, .consuming 3 none none,
        .consuming 4 (some 7.5) none, .consuming 5 none (some 4096)]
    let broken : List ProcState := procs ++ .consuming 6 (some (0.0 / 0.0)) none :: procs
    StableSort (byInsertion (α := ProcState)) ∧ r.isActive = true ∧
      (procs.map ProcState.pid).Nodup ∧
      (∀ p ∈ procs, p.cpu.total.pct.any Float.isNaN = false) ∧
      (∃ selected, r.selectBy byInsertion procs = some selected ∧
        selected.map ProcState.pid = [1, 4, 5]) ∧
      r.selectBy byInsertion (procs ++ procs) = some (r.select (procs ++ procs)) ∧
      (r.select (procs ++ procs)).map ProcState.pid = [4, 5] ∧
      broken.any (fun p => p.cpu.total.pct.any Float.isNaN) = true ∧
      (∃ selected, r.selectBy byInsertion broken = some selected ∧ selected.Sublist broken ∧
        (selected.map ProcState.pid).Nodup) ∧
      TopRule.off.isActive = false ∧
      TopRule.off.selectBy byInsertion procs = some procs := by
  intro r procs broken
  have stable : StableSort (byInsertion (α := ProcState)) := byInsertion_stable
  have distinct : (procs.map ProcState.pid).Nodup := by decide +kernel
  have numbers : ∀ p ∈ procs, p.cpu.total.pct.any Float.isNaN = false := by decide +kernel
  have doubled : ∀ p ∈ procs ++ procs, p.cpu.total.pct.any Float.isNaN = false :=
    List.forall_mem_append.mpr ⟨numbers, numbers⟩
  refine ⟨stable, rfl, distinct, numbers, ?_, (selection_exact stable r _).2.1 (.inr doubled),
    by decide +kernel, by decide +kernel, ?_, rfl, (selection_exact stable .off procs).2.2.2.1 rfl⟩
  · exact ⟨_, (selection_exact stable r procs).1 rfl distinct numbers, by decide +kernel⟩
  · exact ⟨_, rfl, (selection_exact stable r broken).2.2.1 rfl _ rfl⟩

/-! ### Selecting again -/

section
variable {α : Type} [LT α] [DecidableLT α] [BEq α] {kept procs : List ProcState}
  (place : Fin kept.length ↪o Fin procs.length)
  (same : ∀ j, kept.get j = procs.get (place j))
include same

theorem isAhead_of_embedding (value : ProcState → Option α) (i j : Fin kept.length) :
    isAhead value kept i j = isAhead value procs (place i) (place j) := by
  simp only [isAhead, same, place.lt_iff_lt]

/-- Whoever is ahead among the processes that are kept was ahead before. -/
theorem rank_le_of_embedding (value : ProcState → Option α) (j : Fin kept.length) :
    rank value kept j ≤ rank value procs (place j) := by
  have places : ((List.finRange kept.length).map place).Nodup :=
    (List.nodup_finRange _).map place.injective
  have among : (List.finRange kept.length).map place ⊆ List.finRange procs.length :=
    fun i _ => List.mem_finRange i
  calc rank value kept j
      = ((List.finRange kept.length).map place).countP fun i =>
          isAhead value procs i (place j) := by
        rw [List.countP_map]
        exact List.countP_congr fun i _ => by
          rw [isAhead_of_embedding place same value, Function.comp_apply]
    _ ≤ rank value procs (place j) := (List.Nodup.subperm places among).countP_le _

end

namespace TopRule

variable {r : TopRule} {procs : List ProcState}

/-- A process that leads still leads when others are left out. -/
theorem leads_of_embedding {kept : List ProcState} (place : Fin kept.length ↪o Fin procs.length)
    (same : ∀ j, kept.get j = procs.get (place j)) {j : Fin kept.length}
    (before : r.leads procs (place j) = true) : r.leads kept j = true := by
  have cpu := rank_le_of_embedding place same (·.cpu.total.pct) j
  have memory := rank_le_of_embedding place same (·.memory.rss.bytes) j
  simp only [leads, Bool.or_eq_true, Bool.and_eq_true, decide_eq_true_eq] at before ⊢
  rcases before with ⟨wanted, few⟩ | ⟨wanted, few⟩
  · exact .inl ⟨wanted, cpu.trans_lt few⟩
  · exact .inr ⟨wanted, memory.trans_lt few⟩

/-- Selecting from what was selected changes nothing: leaving processes out puts none of the others
further back, whether it was kept for its share of the CPU or for its memory. -/
theorem select_select (r : TopRule) {procs : List ProcState}
    (distinct : (procs.map ProcState.pid).Nodup)
    (numbers : ∀ p ∈ procs, p.cpu.total.pct.any Float.isNaN = false) :
    r.select (r.select procs) = r.select procs := by
  cases active : r.isActive with
  | false => simp only [select, active, Bool.false_eq_true, if_false]
  | true =>
    have sublist := r.select_sublist procs
    have apart : ((r.select procs).map ProcState.pid).Nodup := (sublist.map _).nodup distinct
    have counted : ∀ p ∈ r.select procs, p.cpu.total.pct.any Float.isNaN = false :=
      fun p member => numbers p (sublist.subset member)
    have made : r.select procs = firstOfEach (r.chosen procs) procs := if_pos active
    -- places in the selection are places in the whole list, in the same order
    obtain ⟨place, same⟩ := List.sublist_iff_exists_fin_orderEmbedding_get_eq.mp sublist
    have leading (j : Fin (r.select procs).length) :
        (r.chosen (r.select procs)).contains ((r.select procs).get j).pid = true := by
      have wanted : (r.chosen procs).contains ((r.select procs).get j).pid = true := by
        rw [List.contains_iff_mem]
        exact (firstOfEach_once _ procs).2 _ (made ▸ List.get_mem _ j)
      rw [same, contains_chosen distinct numbers] at wanted
      rw [contains_chosen apart counted]
      exact leads_of_embedding place same wanted
    rw [select, if_pos active, firstOfEach_of_distinct _ apart, List.filter_eq_self]
    intro p member
    obtain ⟨j, rfl⟩ := List.mem_iff_get.mp member
    exact leading j

/-- Both counts cut through those that tie: one through equal shares, the other through those of
which no memory is known. -/
theorem cut_ties_select_select :
    let r : TopRule := ⟨true, 2, 4⟩
    let procs : List ProcState :=
      [.consuming 1 (some 5.0) none, .consuming 2 (some 5.0) none, .consuming 3 none none,
        .consuming 4 (some 7.5) none, .consuming 5 none (some 4096),
        .consuming 6 (some 5.0) (some 4096)]
    (procs.map ProcState.pid).Nodup ∧
      (∀ p ∈ procs, p.cpu.total.pct.any Float.isNaN = false) ∧
      (r.select procs).map ProcState.pid = [1, 2, 4, 5, 6] ∧
      r.select (r.select procs) = r.select procs := by
  intro r procs
  have distinct : (procs.map ProcState.pid).Nodup := by decide +kernel
  have numbers : ∀ p ∈ procs, p.cpu.total.pct.any Float.isNaN = false := by decide +kernel
  exact ⟨distinct, numbers, by decide +kernel, select_select r distinct numbers⟩

end TopRule

end ProcMeter
