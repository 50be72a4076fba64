import Mathlib.Data.List.FinRange
import Mathlib.Data.List.Induction
import Mathlib.Data.Prod.Lex
import ProcMeter.Top

/-! Rankings, in which elements may tie. Inserting places one after another, each after all that
it does not rank before, puts those of higher rank first, and places that tie in their own order.
Only one order of a list does so, hence whatever sorts by rank, and keeps the order of what ties,
sorts as insertion does. Where keys rank the places, the first few are those that not many others
are ahead of. -/
namespace ProcMeter

theorem insertRanked_map {α β : Type} {f : α → β} {before : α → α → Bool}
    {before' : β → β → Bool} (same : ∀ x y, before' (f x) (f y) = before x y) (x : α)
    (done : List α) :
    insertRanked before' (f x) (done.map f) = (insertRanked before x done).map f := by
  induction done with
  | nil => rfl
  | cons y rest ih =>
    simp only [List.map_cons, insertRanked, same, ih]
    split <;> rfl

theorem ranking_map {α β : Type} {f : α → β} {before : α → α → Bool}
    {before' : β → β → Bool} (same : ∀ x y, before' (f x) (f y) = before x y) (xs : List α) :
    ranking before' (xs.map f) = (ranking before xs).map f := by
  have fold (done : List α) :
      (xs.map f).foldl (fun done x => insertRanked before' x done) (done.map f) =
        (xs.foldl (fun done x => insertRanked before x done) done).map f := by
    induction xs generalizing done with
    | nil => rfl
    | cons x rest ih =>
      simp only [List.map_cons, List.foldl_cons]
      rw [insertRanked_map same, ih]
  simpa only [ranking, List.map_reverse, List.map_nil] using congrArg List.reverse (fold [])

/-- The first few of a list in strict order are those that not many others come before. -/
theorem mem_take_iff {α β : Type} [LinearOrder β] {f : α → β} {xs : List α} {x : α} {n : Nat}
    (sorted : xs.Pairwise fun y z => f y < f z) (member : x ∈ xs) :
    x ∈ xs.take n ↔ xs.countP (fun y => f y < f x) < n := by
  induction xs generalizing n with
  | nil => contradiction
  | cons y rest ih =>
    obtain ⟨first, sorted⟩ := List.pairwise_cons.mp sorted
    obtain rfl | inside := List.mem_cons.mp member
    · have none : (x :: rest).countP (fun y => f y < f x) = 0 := by
        rw [List.countP_eq_zero]
        intro z member
        obtain rfl | later := List.mem_cons.mp member
        · simp
        · simpa using (first z later).le
      rw [none]
      cases n with
      | zero => simp
      | succ n => simp
    · have less := first x inside
      have apart : x ≠ y := fun same => (same ▸ less).false
      rw [List.countP_cons_of_pos (by simpa using less)]
      cases n with
      | zero => simp
      | succ n => simpa [apart] using ih sorted inside

theorem insertRanked_perm {α : Type} (before : α → α → Bool) (x : α) (done : List α) :
    (insertRanked before x done).Perm (x :: done) := by
  induction done with
  | nil => exact .refl _
  | cons y rest ih =>
    unfold insertRanked
    split
    · exact (ih.cons y).trans (.swap x y rest)
    · exact .refl _

/-- Elements that are ranked, some of them alike: what ranks before another does so before
any third, or else the third ranks before the other. -/
structure Ranks {α : Type} (before : α → α → Bool) (xs : List α) : Prop where
  asymm : ∀ x ∈ xs, ∀ y ∈ xs, before x y = true → before y x = false
  between : ∀ x ∈ xs, ∀ y ∈ xs, ∀ z ∈ xs,
    before x z = true → before x y = true ∨ before y z = true

theorem Ranks.subset {α : Type} {before : α → α → Bool} {xs ys : List α}
    (ranks : Ranks before xs) (among : ys ⊆ xs) : Ranks before ys where
  asymm x member y member' := ranks.asymm x (among member) y (among member')
  between x member y member' z member'' :=
    ranks.between x (among member) y (among member') z (among member'')

theorem Ranks.of_key {α κ : Type} [LinearOrder κ] {before : α → α → Bool} {key : α → κ}
    {xs : List α} (agree : ∀ x ∈ xs, ∀ y ∈ xs, (before x y = true ↔ key y < key x)) :
    Ranks before xs where
  asymm x member y member' ahead := by
    rw [agree x member y member'] at ahead
    rw [Bool.eq_false_iff, ne_eq, agree y member' x member]
    exact ahead.asymm
  between x member y member' z member'' ahead := by
    rw [agree x member z member''] at ahead
    rw [agree x member y member', agree y member' z member'']
    exact (lt_or_ge (key y) (key x)).imp_right fun least => ahead.trans_le least

section
variable {ι : Type} [LinearOrder ι] {before : ι → ι → Bool} {i j k : ι} {done places : List ι}

/-- Of two places the one of higher rank is ahead, and of two that tie the earlier one. -/
def Ahead (before : ι → ι → Bool) (i j : ι) : Prop :=
  before i j = true ∨ before j i = false ∧ i < j

theorem Ranks.ahead_trans (ranks : Ranks before places) (member : i ∈ places)
    (member' : j ∈ places) (member'' : k ∈ places) (first : Ahead before i j)
    (second : Ahead before j k) : Ahead before i k := by
  obtain ahead | ⟨tie, less⟩ := first
  · have kept := ranks.between i member k member'' j member' ahead
    obtain ahead' | ⟨tie', -⟩ := second
    · exact .inl (kept.resolve_right (by simp [ranks.asymm j member' k member'' ahead']))
    · exact .inl (kept.resolve_right (by simp [tie']))
  · obtain ahead' | ⟨tie', less'⟩ := second
    · have kept := ranks.between j member' i member k member'' ahead'
      exact .inl (kept.resolve_left (by simp [tie]))
    · refine .inr ⟨?_, less.trans less'⟩
      by_contra ahead
      have kept := ranks.between k member'' j member' i member (by simpa using ahead)
      simp [tie, tie'] at kept

theorem Ranks.not_ahead (ranks : Ranks before places) (member : i ∈ places)
    (member' : j ∈ places) (first : Ahead before i j) : ¬ Ahead before j i := by
  obtain ahead | ⟨tie, less⟩ := first
  · have behind := ranks.asymm i member j member' ahead
    rintro (ahead' | ⟨tie', -⟩)
    · simp [behind] at ahead'
    · simp [ahead] at tie'
  · rintro (ahead' | ⟨-, less'⟩)
    · simp [tie] at ahead'
    · exact less.asymm less'

/-- What is kept in reverse stays in order when a later place is put in. -/
theorem insertRanked_sorted (ranks : Ranks before (i :: done)) (later : ∀ j ∈ done, j < i)
    (sorted : done.Pairwise fun j k => Ahead before k j) :
    (insertRanked before i done).Pairwise fun j k => Ahead before k j := by
  induction done with
  | nil => exact List.pairwise_singleton _ _
  | cons j rest ih =>
    obtain ⟨last, sorted⟩ := List.pairwise_cons.mp sorted
    have among : i :: rest ⊆ i :: j :: rest :=
      List.cons_subset_cons i (List.subset_cons_self j rest)
    have between := ih (ranks.subset among)
      (fun k member => later k (List.mem_cons_of_mem j member)) sorted
    unfold insertRanked
    split
    · rename_i ahead
      refine List.pairwise_cons.mpr ⟨fun k member => ?_, between⟩
      obtain rfl | inside := List.mem_cons.mp ((insertRanked_perm before i rest).mem_iff.mp member)
      · exact .inl ahead
      · exact last k inside
    · rename_i behind
      have tie : Ahead before j i :=
        .inr ⟨Bool.eq_false_iff.mpr behind, later j List.mem_cons_self⟩
      refine List.pairwise_cons.mpr ⟨fun k member => ?_, List.pairwise_cons.mpr ⟨last, sorted⟩⟩
      obtain rfl | inside := List.mem_cons.mp member
      · exact tie
      · exact ranks.ahead_trans (among (List.mem_cons_of_mem i inside)) (by simp) (by simp)
          (last k inside) tie

theorem foldl_insertRanked (ranks : Ranks before places) (ascending : places.Pairwise (· < ·)) :
    (places.foldl (fun done i => insertRanked before i done) []).Perm places ∧
      (places.foldl (fun done i => insertRanked before i done) []).Pairwise
        fun j k => Ahead before k j := by
  induction places using List.reverseRecOn with
  | nil => exact ⟨.refl _, .nil⟩
  | append_singleton places i ih =>
    obtain ⟨ascending, _, earlier⟩ := List.pairwise_append.mp ascending
    obtain ⟨perm, sorted⟩ := ih (ranks.subset (List.subset_append_left places [i])) ascending
    rw [List.foldl_append]
    have one := (perm.cons i).trans (List.perm_append_singleton i places).symm
    refine ⟨(insertRanked_perm before i _).trans one, ?_⟩
    refine insertRanked_sorted (ranks.subset one.subset) (fun j member => ?_) sorted
    exact earlier j (perm.mem_iff.mp member) i (List.mem_singleton_self i)

theorem ranking_sorted (ranks : Ranks before places) (ascending : places.Pairwise (· < ·)) :
    (ranking before places).Perm places ∧ (ranking before places).Pairwise (Ahead before) := by
  obtain ⟨perm, sorted⟩ := foldl_insertRanked ranks ascending
  exact ⟨(List.reverse_perm _).trans perm, List.pairwise_reverse.mpr sorted⟩

end

/-! ### Sorting -/

section
variable {α : Type} {before : α → α → Bool} {xs ys zs : List α} {sort : Sorter α}

/-- The elements of a list by rank, those that tie in the order of the list. -/
def Arranges (before : α → α → Bool) (xs ys : List α) : Prop :=
  ∃ places : List (Fin xs.length), places.Perm (List.finRange xs.length) ∧
    places.Pairwise (Ahead fun i j => before (xs.get i) (xs.get j)) ∧ ys = places.map xs.get

/-- A stable sort as libraries document it: it sorts whatever is ranked. Where elements are not
ranked it may do as it likes. -/
def StableSort (sort : Sorter α) : Prop :=
  ∀ before xs, Ranks before xs → ∃ ys, sort before xs = some ys ∧ Arranges before xs ys

theorem Ranks.places (ranks : Ranks before xs) :
    Ranks (fun i j => before (xs.get i) (xs.get j)) (List.finRange xs.length) where
  asymm i _ j _ := ranks.asymm _ (xs.get_mem i) _ (xs.get_mem j)
  between i _ j _ k _ := ranks.between _ (xs.get_mem i) _ (xs.get_mem j) _ (xs.get_mem k)

theorem ranking_eq_places (before : α → α → Bool) (xs : List α) :
    ranking before xs = (ranking (fun i j => before (xs.get i) (xs.get j))
      (List.finRange xs.length)).map xs.get := by
  conv_lhs => rw [← List.map_get_finRange xs]
  exact ranking_map (fun _ _ => rfl) _

theorem ranking_arranges (ranks : Ranks before xs) : Arranges before xs (ranking before xs) := by
  obtain ⟨perm, sorted⟩ := ranking_sorted ranks.places (List.pairwise_lt_finRange _)
  exact ⟨_, perm, sorted, ranking_eq_places before xs⟩

theorem Arranges.unique (ranks : Ranks before xs) (arranged : Arranges before xs ys)
    (arranged' : Arranges before xs zs) : ys = zs := by
  obtain ⟨places, perm, sorted, rfl⟩ := arranged
  obtain ⟨places', perm', sorted', rfl⟩ := arranged'
  have one : places = places' := by
    refine List.Perm.eq_of_pairwise (fun i j _ _ first second => ?_) sorted sorted'
      (perm.trans perm'.symm)
    exact absurd second
      (ranks.places.not_ahead (List.mem_finRange i) (List.mem_finRange j) first)
  rw [one]

theorem byInsertion_stable : StableSort (byInsertion (α := α)) := by
  intro before xs ranks
  exact ⟨_, rfl, ranking_arranges ranks⟩

/-- Stable sorts differ only in what they do with elements that are not ranked. -/
theorem StableSort.eq_ranking (stable : StableSort sort) (ranks : Ranks before xs) :
    sort before xs = some (ranking before xs) := by
  obtain ⟨ys, found, arranged⟩ := stable before xs ranks
  rw [found, arranged.unique ranks (ranking_arranges ranks)]

end

/-! ### Standings -/

section
variable {ι κ : Type} [LinearOrder ι] [LinearOrder κ] {key : ι → κ} {before : ι → ι → Bool}
  {i j : ι} {places : List ι}

/-- Where a place stands: greater keys come first, and of one key the earlier places. -/
def standing (key : ι → κ) (i : ι) : κᵒᵈ ×ₗ ι := toLex (OrderDual.toDual (key i), i)

theorem standing_lt_iff :
    standing key i < standing key j ↔ key j < key i ∨ key i = key j ∧ i < j :=
  Prod.Lex.toLex_lt_toLex

theorem ahead_iff_standing (agree : ∀ i j, before i j = true ↔ key j < key i) :
    Ahead before i j ↔ standing key i < standing key j := by
  rw [standing_lt_iff, Ahead, agree, Bool.eq_false_iff, ne_eq, agree, not_lt]
  constructor
  · rintro (less | ⟨least, earlier⟩)
    · exact .inl less
    · exact least.lt_or_eq.imp_right fun same => ⟨same.symm, earlier⟩
  · exact Or.imp_right fun ⟨same, earlier⟩ => ⟨same.ge, earlier⟩

/-- The first few of a ranking are those that not many others are ahead of. -/
theorem mem_take_ranking_iff (agree : ∀ i j, before i j = true ↔ key j < key i)
    (ascending : places.Pairwise (· < ·)) (member : i ∈ places) (n : Nat) :
    i ∈ (ranking before places).take n ↔
      places.countP (fun j => standing key j < standing key i) < n := by
  obtain ⟨perm, sorted⟩ := ranking_sorted (.of_key fun i _ j _ => agree i j) ascending
  have sorted := sorted.imp (ahead_iff_standing agree).mp
  rw [mem_take_iff sorted (perm.mem_iff.mpr member), perm.countP_eq]

end

end ProcMeter
