import ProcMeter.Text.Blank

/-! The runs of a list between its separators, by their places in it. What `runs` takes out of a
list is told by the list itself: every run is as long as it can be, and separators stand around
the runs and between any two of them. -/
namespace ProcMeter.Text

variable {α : Type} {p : α → Bool}

/-- The list has these runs, in this order, and else only separators. -/
inductive Spaced (p : α → Bool) : List α → List (List α) → Prop where
  | gap {blanks : List α} (separators : ∀ a ∈ blanks, p a = true) : Spaced p blanks []
  | run {blanks w rest : List α} {ws : List (List α)} (separators : ∀ a ∈ blanks, p a = true)
      (some : w ≠ []) (solid : ∀ a ∈ w, p a = false) (ended : ∀ a ∈ rest.head?, p a = true)
      (more : Spaced p rest ws) : Spaced p (blanks ++ (w ++ rest)) (w :: ws)

theorem pieces_append {b : α} (separator : p b = true) (x y : List α) :
    pieces p (x ++ b :: y) = pieces p x ++ pieces p y := by
  induction x with
  | nil => simp only [List.nil_append, pieces, separator, if_true, List.singleton_append]
  | cons a x ih =>
    cases split : pieces p x with
    | nil => exact absurd split (pieces_ne_nil p x)
    | cons q qs =>
      rw [split] at ih
      simp only [List.cons_append, pieces, ih, split]
      split <;> rfl

theorem pieces_of_solid {w : List α} (solid : ∀ a ∈ w, p a = false) : pieces p w = [w] := by
  induction w with
  | nil => rfl
  | cons a w ih =>
    simp only [pieces, solid a List.mem_cons_self, Bool.false_eq_true, if_false,
      ih fun b mem => solid b (List.mem_cons_of_mem a mem)]

theorem solid_of_mem_pieces {w as : List α} (member : w ∈ pieces p as) : ∀ a ∈ w, p a = false := by
  induction as generalizing w with
  | nil =>
    rw [List.mem_singleton.mp member]
    simp
  | cons a as ih =>
    rw [pieces] at member
    split at member
    · rcases List.mem_cons.mp member with rfl | later
      · simp
      · exact ih later
    · rename_i solid
      cases split : pieces p as with
      | nil => exact absurd split (pieces_ne_nil p as)
      | cons q qs =>
        simp only [split, List.mem_cons] at member ih
        rcases member with rfl | later
        · exact List.forall_mem_cons.mpr ⟨Bool.eq_false_iff.mpr solid, ih (.inl rfl)⟩
        · exact ih (.inr later)

/-- A list without the separator is solid. -/
theorem solid_of_not_mem [BEq α] [LawfulBEq α] {sep : α} {as : List α} (absent : sep ∉ as) :
    ∀ a ∈ as, (a == sep) = false := by
  intro a member
  rw [beq_eq_false_iff_ne]
  rintro rfl
  exact absent member

/-- The runs on either side of a separator. -/
theorem runs_append {b : α} (separator : p b = true) (x y : List α) :
    runs p (x ++ b :: y) = runs p x ++ runs p y := by
  simp only [runs, pieces_append separator, List.filter_append]

theorem runs_cons {b : α} (separator : p b = true) (y : List α) : runs p (b :: y) = runs p y :=
  runs_append separator [] y

theorem runs_gap {blanks : List α} (separators : ∀ a ∈ blanks, p a = true) (y : List α) :
    runs p (blanks ++ y) = runs p y := by
  induction blanks with
  | nil => rfl
  | cons b blanks ih =>
    rw [List.cons_append, runs_cons (separators b List.mem_cons_self)]
    exact ih fun a mem => separators a (List.mem_cons_of_mem b mem)

theorem runs_of_solid {w : List α} (some : w ≠ []) (solid : ∀ a ∈ w, p a = false) :
    runs p w = [w] := by
  rw [runs, pieces_of_solid solid, List.filter_cons_of_pos, List.filter_nil]
  rwa [Bool.not_eq_true', List.isEmpty_eq_false_iff]

/-- Runs that are written with one separator between any two of them. -/
theorem runs_intercalate {b : α} (separator : p b = true) {ws : List (List α)}
    (solid : ∀ w ∈ ws, w ≠ [] ∧ ∀ a ∈ w, p a = false) : runs p ([b].intercalate ws) = ws := by
  induction ws with
  | nil => rfl
  | cons w ws ih =>
    obtain ⟨⟨some, here⟩, others⟩ := List.forall_mem_cons.mp solid
    cases ws with
    | nil => rw [List.intercalate_singleton, runs_of_solid some here]
    | cons v ws =>
      have later := ih others
      rw [List.intercalate_cons_cons, List.append_assoc, List.singleton_append,
        runs_append separator, runs_of_solid some here, later, List.singleton_append]

theorem Spaced.runs_eq {as : List α} {ws : List (List α)} (spaced : Spaced p as ws) :
    runs p as = ws := by
  induction spaced with
  | @gap blanks separators =>
    rw [← List.append_nil blanks, runs_gap separators]
    rfl
  | @run blanks w rest ws separators some solid ended more ih =>
    rw [runs_gap separators]
    cases rest with
    | nil =>
      have none : ws = [] := ih.symm
      rw [List.append_nil, runs_of_solid some solid, none]
    | cons b rest =>
      have separator : p b = true := ended b rfl
      rw [runs_cons separator] at ih
      rw [runs_append separator, runs_of_solid some solid, ih, List.singleton_append]

/-- Every list has runs. Another element before it makes the gap longer or the first run, or is a
run of its own. -/
theorem exists_spaced (as : List α) : ∃ ws, Spaced p as ws := by
  induction as with
  | nil => exact ⟨[], .gap fun a mem => absurd mem List.not_mem_nil⟩
  | cons a as ih =>
    obtain ⟨ws, spaced⟩ := ih
    cases kind : p a with
    | true =>
      cases spaced with
      | gap separators => exact ⟨[], .gap (List.forall_mem_cons.2 ⟨kind, separators⟩)⟩
      | run separators some solid ended more =>
        exact ⟨_, .run (List.forall_mem_cons.2 ⟨kind, separators⟩) some solid ended more⟩
    | false =>
      have alone : ∀ b ∈ [a], p b = false := fun b mem => by rwa [List.mem_singleton.1 mem]
      have apart : ∀ b ∈ ([] : List α), p b = true := fun b mem => absurd mem List.not_mem_nil
      cases spaced with
      | gap separators =>
        exact ⟨_, .run apart (List.cons_ne_nil a []) alone
          (fun b mem => separators b (List.mem_of_mem_head? mem)) (.gap separators)⟩
      | @run blanks w rest ws separators some solid ended more =>
        cases blanks with
        | nil =>
          exact ⟨_, .run apart (List.cons_ne_nil a w) (List.forall_mem_cons.2 ⟨kind, solid⟩) ended
            more⟩
        | cons b blanks =>
          refine ⟨_, .run apart (List.cons_ne_nil a []) alone (fun c mem => ?_)
            (.run separators some solid ended more)⟩
          exact separators c (List.mem_cons.2 (.inl (Option.some.inj mem).symm))

/-- The runs are those that the list shows. -/
theorem runs_eq_iff {as : List α} {ws : List (List α)} : runs p as = ws ↔ Spaced p as ws := by
  refine ⟨fun same => ?_, Spaced.runs_eq⟩
  obtain ⟨shown, spaced⟩ := exists_spaced (p := p) as
  rwa [← same, spaced.runs_eq]

/-- Runs that are written with a separator before each, and what follows them. -/
theorem spaced_flatMap {b : α} (separator : p b = true) {ws : List (List α)}
    (words : ∀ w ∈ ws, w ≠ [] ∧ ∀ a ∈ w, p a = false) {rest : List α}
    (ended : ∀ a ∈ rest.head?, p a = true) :
    Spaced p (ws.flatMap (b :: ·) ++ rest) (ws ++ runs p rest) := by
  induction ws with
  | nil => exact runs_eq_iff.1 rfl
  | cons w ws ih =>
    obtain ⟨⟨some, solid⟩, others⟩ := List.forall_mem_cons.1 words
    have next : ∀ a ∈ (ws.flatMap (b :: ·) ++ rest).head?, p a = true := by
      cases ws with
      | nil => exact ended
      | cons v vs => exact fun a mem => Option.some.inj mem ▸ separator
    have before : ∀ a ∈ [b], p a = true := fun a mem => by rwa [List.mem_singleton.1 mem]
    have spaced := Spaced.run before some solid next (ih others)
    simpa only [List.flatMap_cons, List.cons_append, List.nil_append, List.append_assoc] using
      spaced

end ProcMeter.Text
