import ProcMeter.Proofs.Words

/-! Lines that are written come back when they are read. A line feed ends every row, and a carriage
return that is read away with it is a blank, so it changes neither the words of a row nor where the
row is cut. -/
namespace ProcMeter.Text

variable {c sep : Char} {cs row rest x y : List Char} {rows ws : List (List Char)}

/-- Rows, each with a line feed after it. -/
def ended (rows : List (List Char)) : List Char := rows.flatMap (· ++ ['\n'])

theorem lines_append (flat : '\n' ∉ row) (rest : List Char) :
    lines (row ++ '\n' :: rest) = dropReturn row :: lines rest := by
  rw [lines, pieces_append (by rfl), pieces_of_solid (solid_of_not_mem flat),
    List.singleton_append, lines]
  cases split : pieces (· == '\n') rest with
  | nil => exact absurd split (pieces_ne_nil _ rest)
  | cons q qs => rfl

theorem lines_ended (flat : ∀ row ∈ rows, '\n' ∉ row) (rest : List Char) :
    lines (ended rows ++ rest) = rows.map dropReturn ++ lines rest := by
  induction rows with
  | nil => rfl
  | cons row rows ih =>
    obtain ⟨here, others⟩ := List.forall_mem_cons.mp flat
    have split : ended (row :: rows) ++ rest = row ++ '\n' :: (ended rows ++ rest) := by
      simp [ended]
    rw [split, lines_append here, ih others, List.map_cons, List.cons_append]

theorem lines_rows (flat : ∀ row ∈ rows, '\n' ∉ row) :
    lines (ended rows) = rows.map dropReturn := by
  have whole := lines_ended flat []
  rwa [List.append_nil, show lines [] = [] from rfl, List.append_nil] at whole

theorem lines_of_flat (flat : '\n' ∉ row) : lines row = if row.isEmpty then [] else [row] := by
  rw [lines, pieces_of_solid (solid_of_not_mem flat), endedLines]

/-! ### Carriage returns -/

theorem dropReturn_cons (other : c ≠ '\r') (cs : List Char) :
    dropReturn (c :: cs) = c :: dropReturn cs := by
  rw [dropReturn]
  rintro rfl
  contradiction

theorem eq_dropReturn_or (cs : List Char) : cs = dropReturn cs ∨ cs = dropReturn cs ++ ['\r'] := by
  induction cs using dropReturn.induct with
  | case1 => exact .inl rfl
  | case2 => exact .inr rfl
  | case3 c cs more ih =>
    rw [dropReturn.eq_3 c cs more, List.cons_append]
    rcases ih with same | same
    · exact .inl (congrArg (c :: ·) same)
    · exact .inr (congrArg (c :: ·) same)

theorem dropReturn_of_getLast? (ending : cs.getLast? ≠ some '\r') : dropReturn cs = cs := by
  rcases eq_dropReturn_or cs with same | same
  · exact same.symm
  · refine absurd ?_ ending
    rw [same, List.getLast?_concat]

theorem mem_of_mem_dropReturn (member : c ∈ dropReturn cs) : c ∈ cs := by
  rcases eq_dropReturn_or cs with same | same
  · rwa [same]
  · rw [same]
    exact List.mem_append_left _ member

theorem dropReturn_append (some : y ≠ []) (x : List Char) :
    dropReturn (x ++ y) = x ++ dropReturn y := by
  induction x with
  | nil => rfl
  | cons c x ih =>
    have more : x ++ y ≠ [] := List.append_ne_nil_of_right_ne_nil x some
    rw [List.cons_append, dropReturn.eq_3 c (x ++ y) (fun _ none => more none), ih]
    rfl

theorem words_dropReturn (cs : List Char) : words (dropReturn cs) = words cs := by
  rcases eq_dropReturn_or cs with same | same
  · rw [← same]
  · have blank : isBlank '\r' = true := by decide
    rw [congrArg words same, words, words, runs_append blank]
    exact (List.append_nil _).symm

theorem cut?_dropReturn (other : sep ≠ '\r') (cs : List Char) :
    cut? sep (dropReturn cs) = (cut? sep cs).map fun p => (p.1, dropReturn p.2) := by
  cases cut : cut? sep cs with
  | none =>
    rw [Option.map_none, cut?_eq_none_iff]
    exact mt mem_of_mem_dropReturn (cut?_eq_none_iff.mp cut)
  | some p =>
    obtain ⟨x, y⟩ := p
    obtain ⟨rfl, before⟩ := cut?_eq_some_iff.mp cut
    rw [dropReturn_append (List.cons_ne_nil sep y), dropReturn_cons other, Option.map_some]
    exact cut?_eq_some_iff.mpr ⟨rfl, before⟩

/-! ### Words on a line -/

/-- A text that is one word. -/
def IsWord (w : List Char) : Prop := w ≠ [] ∧ ∀ c ∈ w, isBlank c = false

instance (w : List Char) : Decidable (IsWord w) :=
  decidable_of_iff (w.isEmpty = false ∧ w.all (fun c => !isBlank c) = true) (by simp [IsWord])

theorem words_intercalate (solid : ∀ w ∈ ws, IsWord w) : words ([' '].intercalate ws) = ws :=
  runs_intercalate (by decide) solid

theorem mem_intercalate (member : c ∈ [sep].intercalate ws) : c = sep ∨ ∃ w ∈ ws, c ∈ w := by
  induction ws with
  | nil => contradiction
  | cons w ws ih =>
    cases ws with
    | nil =>
      rw [List.intercalate_singleton] at member
      exact .inr ⟨w, List.mem_cons_self, member⟩
    | cons v ws =>
      rw [List.intercalate_cons_cons, List.append_assoc, List.mem_append, List.mem_append,
        List.mem_singleton] at member
      rcases member with here | between | later
      · exact .inr ⟨w, List.mem_cons_self, here⟩
      · exact .inl between
      · refine (ih later).imp_right ?_
        rintro ⟨u, there, inside⟩
        exact ⟨u, List.mem_cons_of_mem w there, inside⟩

end ProcMeter.Text
