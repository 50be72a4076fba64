/-! Taking lists apart: at every separator, at the first or the last one, or
after a given start. -/
namespace ProcMeter.Text

/-- The pieces between the elements at which `p` holds. There is always one
more piece than there are such elements. -/
def pieces {α : Type} (p : α → Bool) : List α → List (List α)
  | [] => [[]]
  | a :: as =>
    if p a then [] :: pieces p as
    else
      match pieces p as with
      | [] => [[a]]
      | q :: qs => (a :: q) :: qs

theorem pieces_ne_nil {α : Type} (p : α → Bool) (as : List α) : pieces p as ≠ [] := by
  cases as with
  | nil => simp [pieces]
  | cons a as =>
    rw [pieces]
    split
    · simp
    · split <;> simp

/-- The pieces that are not empty. -/
def runs {α : Type} (p : α → Bool) (as : List α) : List (List α) :=
  (pieces p as).filter fun q => !q.isEmpty

/-- What follows `lead`, when the text starts with it. -/
def after? (lead : List Char) (cs : List Char) : Option (List Char) :=
  match lead, cs with
  | [], cs => some cs
  | _ :: _, [] => none
  | l :: ls, c :: cs => if l == c then after? ls cs else none

theorem after?_eq_some_iff {lead cs rest : List Char} :
    after? lead cs = some rest ↔ cs = lead ++ rest := by
  induction lead generalizing cs with
  | nil => simp [after?]
  | cons l ls ih =>
    cases cs with
    | nil => simp [after?]
    | cons c cs =>
      rw [after?]
      split
      case isTrue h => simp [ih, eq_of_beq h]
      case isFalse h =>
        have ne : c ≠ l := fun e => h (by simp [e])
        simp [ne]

/-- The texts before and after the first `sep`. -/
def cut? (sep : Char) : List Char → Option (List Char × List Char)
  | [] => none
  | c :: cs =>
    if c == sep then some ([], cs)
    else (cut? sep cs).map fun (x, y) => (c :: x, y)

theorem cut?_eq_none_iff {sep : Char} {cs : List Char} : cut? sep cs = none ↔ sep ∉ cs := by
  induction cs with
  | nil => simp [cut?]
  | cons c cs ih =>
    rw [cut?]
    split
    case isTrue h => simp [eq_of_beq h]
    case isFalse h =>
      have ne : sep ≠ c := fun e => h (by simp [e])
      simp [ih, ne]

/-- The first separator parts the text: there is none before it. -/
theorem cut?_eq_some_iff {sep : Char} {cs x y : List Char} :
    cut? sep cs = some (x, y) ↔ cs = x ++ sep :: y ∧ sep ∉ x := by
  induction cs generalizing x with
  | nil => simp [cut?]
  | cons c cs ih =>
    rw [cut?]
    split
    case isTrue h =>
      have same : c = sep := eq_of_beq h
      cases x with
      | nil => simp [same, eq_comm]
      | cons a x => simp [same]; grind
    case isFalse h =>
      have ne : c ≠ sep := fun e => h (by simp [e])
      cases x with
      | nil => simp [ne]
      | cons a x => simp [Option.map_eq_some_iff, ih]; grind

/-- The texts before and after the last `sep`. -/
def cutLast? (sep : Char) : List Char → Option (List Char × List Char)
  | [] => none
  | c :: cs =>
    match cutLast? sep cs with
    | some (x, y) => some (c :: x, y)
    | none => if c == sep then some ([], cs) else none

theorem cutLast?_eq_none_iff {sep : Char} {cs : List Char} : cutLast? sep cs = none ↔ sep ∉ cs := by
  induction cs with
  | nil => simp [cutLast?]
  | cons c cs ih =>
    rw [cutLast?]
    split
    case h_1 x y found =>
      have mem : sep ∈ cs := by
        refine Classical.byContradiction fun no => ?_
        rw [ih.2 no] at found
        cases found
      simp [mem]
    case h_2 missing =>
      have no : sep ∉ cs := ih.1 missing
      by_cases same : c = sep
      · simp [same]
      · simp [same, no, Ne.symm same]

/-- The last separator parts the text: there is none after it. -/
theorem cutLast?_eq_some_iff {sep : Char} {cs x y : List Char} :
    cutLast? sep cs = some (x, y) ↔ cs = x ++ sep :: y ∧ sep ∉ y := by
  induction cs generalizing x y with
  | nil => simp [cutLast?]
  | cons c cs ih =>
    rw [cutLast?]
    split
    case h_1 u v found =>
      have parts := ih.1 found
      constructor
      · intro same
        cases same
        simp [parts]
      · intro ⟨whole, no⟩
        cases x with
        | nil =>
          have tail : cs = y := by simpa using (List.cons.inj whole).2
          exact absurd (by simp [← tail, parts.1]) no
        | cons a x =>
          have ends : cs = x ++ sep :: y := (List.cons.inj whole).2
          have again := ih.2 ⟨ends, no⟩
          rw [found] at again
          cases again
          rw [(List.cons.inj whole).1]
    case h_2 missing =>
      have no : sep ∉ cs := cutLast?_eq_none_iff.1 missing
      cases x with
      | nil =>
        by_cases same : c = sep
        · simp [same]; grind
        · simp [same]
      | cons a x => simp; grind

end ProcMeter.Text
