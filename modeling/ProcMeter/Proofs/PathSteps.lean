import Mathlib.Data.List.DropRight
import ProcMeter.Proofs.Numerals
import ProcMeter.Proofs.Words
import ProcMeter.Resolver

/-! Paths below a root. A path leads on from where its root stands, step by step, however its text is
written: slashes may be repeated, and a `.` is no step. A path from the host's own root takes the
same steps as one without it, so neither takes the place of the resolver's root. -/
namespace ProcMeter

namespace Path

variable {p q s : List Char} {ss : List (List Char)} {c : Component}

/-- The components that lead somewhere: all but a `.` at the start. -/
def steps (p : List Char) : List Component := (components p).filter (· ≠ .here)

/-! ### The two parts of a path -/

/-- What a path starts from. -/
def lead (p : List Char) : List Component :=
  if isAbsolute p then [.root]
  else if (segments p).head? == some ['.'] then [.here]
  else []

/-- The names of a path, and its ways up. -/
def body (p : List Char) : List Component :=
  ((segments p).filter fun s => !isIdle s).map Component.ofSegment

theorem components_eq (p : List Char) : components p = lead p ++ body p := by
  rw [components, lead]
  split
  · rfl
  · split <;> rfl

/-- A path has no component of these kinds after its start. -/
theorem filter_body (outer : c = .here ∨ c = .root) (p : List Char) :
    (body p).filter (· ≠ c) = body p := by
  rw [List.filter_eq_self]
  intro d member
  obtain ⟨s, -, rfl⟩ := List.mem_map.mp member
  rw [decide_eq_true_eq, Component.ofSegment]
  rintro rfl
  split at outer <;> simp at outer

theorem steps_eq (p : List Char) :
    steps p = (if isAbsolute p then [.root] else []) ++ body p := by
  rw [steps, components_eq, List.filter_append, filter_body (.inl rfl), lead]
  split
  · rfl
  · split <;> rfl

/-- All steps but the one to the root. -/
theorem filter_steps (p : List Char) : (steps p).filter (· ≠ .root) = body p := by
  rw [steps_eq, List.filter_append, filter_body (.inr rfl)]
  split <;> rfl

/-! ### Segments -/

theorem segments_append (p q : List Char) : segments (p ++ '/' :: q) = segments p ++ segments q :=
  Text.pieces_append (by rfl) p q

theorem segments_of_whole (whole : '/' ∉ s) : segments s = [s] :=
  Text.pieces_of_solid (Text.solid_of_not_mem whole)

theorem whole_of_mem_segments (member : s ∈ segments p) : '/' ∉ s := by
  intro inside
  have solid := Text.solid_of_mem_pieces member '/' inside
  contradiction

theorem body_append (p q : List Char) : body (p ++ '/' :: q) = body p ++ body q := by
  rw [body, segments_append, List.filter_append, List.map_append, body, body]

theorem body_joinSegments (whole : ∀ s ∈ ss, '/' ∉ s) :
    body (joinSegments ss) = (ss.filter fun s => !isIdle s).map Component.ofSegment := by
  induction ss with
  | nil => rfl
  | cons s ss ih =>
    obtain ⟨here, others⟩ := List.forall_mem_cons.mp whole
    cases ss with
    | nil => rw [joinSegments, body, segments_of_whole here]
    | cons t ts =>
      have written : joinSegments (s :: t :: ts) = s ++ '/' :: joinSegments (t :: ts) := rfl
      rw [written, body_append, ih others, body, segments_of_whole here, ← List.map_append,
        ← List.filter_append, List.singleton_append]

/-- Trimming takes off idle segments at both ends, and all of them at the front. -/
theorem exists_trimIdle (ss : List (List Char)) :
    ∃ front back, ss = front ++ (trimIdle ss ++ back) ∧ (∀ s ∈ front, isIdle s = true) ∧
      (∀ s ∈ back, isIdle s = true) ∧ ∀ s ∈ (trimIdle ss).head?, isIdle s = false := by
  have trimmed : trimIdle ss = (ss.dropWhile isIdle).rdropWhile isIdle := rfl
  have rejoined := List.rdropWhile_append_rtakeWhile (p := isIdle) (l := ss.dropWhile isIdle)
  rw [trimmed]
  refine ⟨ss.takeWhile isIdle, (ss.dropWhile isIdle).rtakeWhile isIdle, ?_, ?_, ?_, ?_⟩
  · rw [rejoined, List.takeWhile_append_dropWhile]
  · exact fun s member => List.mem_takeWhile_imp member
  · exact fun s member => List.mem_rtakeWhile_imp member
  · intro s first
    have kept := List.head?_dropWhile_not isIdle ss
    rw [← rejoined, List.head?_append, Option.mem_def.mp first] at kept
    exact kept

theorem filter_trimIdle (ss : List (List Char)) :
    (trimIdle ss).filter (fun s => !isIdle s) = ss.filter fun s => !isIdle s := by
  obtain ⟨front, back, split, before, after, -⟩ := exists_trimIdle ss
  have gone (idle : List (List Char)) (all : ∀ s ∈ idle, isIdle s = true) :
      idle.filter (fun s => !isIdle s) = [] := by
    rw [List.filter_eq_nil_iff]
    intro s member
    simp [all s member]
  conv_rhs => rw [split]
  rw [List.filter_append, List.filter_append, gone front before, gone back after, List.nil_append,
    List.append_nil]

theorem whole_of_mem_trimIdle (member : s ∈ trimIdle (segments p)) : '/' ∉ s := by
  obtain ⟨front, back, split, -⟩ := exists_trimIdle (segments p)
  refine whole_of_mem_segments (p := p) ?_
  rw [split]
  exact List.mem_append_right _ (List.mem_append_left _ member)

theorem body_withoutRoot (p : List Char) : body (withoutRoot p) = body p := by
  rw [withoutRoot]
  split
  · rw [body_joinSegments fun _ member => whole_of_mem_trimIdle member, filter_trimIdle, body]
  · rfl

/-- What is left of a path does not start at a root again, however many slashes it had. -/
theorem isAbsolute_withoutRoot (p : List Char) : isAbsolute (withoutRoot p) = false := by
  rw [withoutRoot]
  split
  · obtain ⟨_, _, _, _, _, solid⟩ := exists_trimIdle (segments p)
    cases trimmed : trimIdle (segments p) with
    | nil => rfl
    | cons s ss =>
      have whole : '/' ∉ s := whole_of_mem_trimIdle (p := p) (by simp [trimmed])
      have proper : isIdle s = false := solid s (by rw [trimmed]; rfl)
      cases s with
      | nil => contradiction
      | cons c s =>
        have first : (joinSegments ((c :: s) :: ss)).head? = some c := by
          cases ss <;> rfl
        rw [isAbsolute, first, beq_eq_false_iff_ne]
        rintro ⟨⟩
        exact whole List.mem_cons_self
  · rename_i relative
    exact Bool.eq_false_iff.mpr relative

/-! ### Joining -/

theorem lead_append (p q : List Char) :
    lead (p ++ '/' :: q) = if p = [] then [.root] else lead p := by
  have first : (segments (p ++ '/' :: q)).head? = (segments p).head? := by
    rw [segments_append]
    exact List.head?_append_of_ne_nil _ (Text.pieces_ne_nil _ p)
  rw [lead, first]
  cases p with
  | nil => rfl
  | cons c p => rfl

theorem components_append (p q : List Char) :
    components (p ++ '/' :: q) = (if p = [] then [.root] else lead p) ++ (body p ++ body q) := by
  rw [components_eq, lead_append, body_append]

/-- A slash is put between two paths unless the first one ends in a slash. -/
theorem components_join (some : p ≠ []) (relative : isAbsolute q = false) :
    components (join p q) = components p ++ body q := by
  rw [join, if_neg (Bool.eq_false_iff.mp relative)]
  split
  · rename_i closed
    have last : p.getLast? = Option.some '/' := by simpa [some] using closed
    obtain ⟨base, rfl⟩ := List.getLast?_eq_some_iff.mp last
    have nothing : body [] = [] := rfl
    rw [List.append_assoc, List.singleton_append, components_append, components_append, nothing,
      List.append_nil, List.append_assoc]
  · rw [components_append, if_neg some, components_eq, List.append_assoc]

theorem steps_join (relative : isAbsolute q = false) : steps (join p q) = steps p ++ body q := by
  cases p with
  | nil =>
    have alone : join [] q = q := by
      rw [join, if_neg (Bool.eq_false_iff.mp relative)]
      rfl
    rw [alone, steps_eq, relative]
    rfl
  | cons c p =>
    rw [steps, components_join (List.cons_ne_nil c p) relative, List.filter_append,
      filter_body (.inl rfl), steps]

theorem isAbsolute_of_whole (whole : '/' ∉ s) : isAbsolute s = false := by
  rw [isAbsolute, beq_eq_false_iff_ne]
  intro first
  exact whole (List.mem_of_mem_head? first)

theorem body_of_whole (whole : '/' ∉ s) (proper : isIdle s = false) (down : s ≠ ['.', '.']) :
    body s = [.name s] := by
  rw [body, segments_of_whole whole, List.filter_cons_of_pos (by simp [proper]), List.filter_nil,
    List.map_singleton, Component.ofSegment, if_neg (by simp [down])]

end Path

namespace Resolver

open ProcMeter.Path

variable {pid pid' : Pid} {c : Char} (r : Resolver)

theorem steps_resolve (path : String) :
    steps (r.resolve path).toList =
      steps r.root.toList ++ (steps path.toList).filter (· ≠ .root) := by
  rw [resolve, String.toList_ofList, steps_join (isAbsolute_withoutRoot _), body_withoutRoot,
    filter_steps]

theorem steps_resolve_slash (path : String) :
    steps (r.resolve ("/" ++ path)).toList = steps (r.resolve path).toList := by
  have slash : ("/" ++ path).toList = [] ++ '/' :: path.toList := by simp
  rw [steps_resolve, steps_resolve, filter_steps, filter_steps, slash, body_append]
  rfl

/-! ### Directories of processes -/

theorem not_mem_pid (other : Text.isDecimal c = false) (pid : Pid) : c ∉ (toString pid).toList := by
  intro member
  rw [Text.isDecimal_of_mem_int32 member] at other
  contradiction

theorem body_pid (pid : Pid) : body (toString pid).toList = [.name (toString pid).toList] := by
  have undotted : '.' ∉ (toString pid).toList := not_mem_pid (by decide) pid
  refine body_of_whole (not_mem_pid (by decide) pid) ?_ ?_
  · rw [isIdle, Bool.or_eq_false_iff, beq_eq_false_iff_ne, beq_eq_false_iff_ne]
    constructor
    · intro empty
      have read := Text.int32?_toString pid
      rw [empty] at read
      contradiction
    · intro dot
      simp [dot] at undotted
  · intro dots
    simp [dots] at undotted

theorem components_procDir (pid : Pid) :
    components (r.procDir pid).toList =
      components (r.resolve "/proc").toList ++ [.name (toString pid).toList] := by
  have some : (r.resolve "/proc").toList ≠ [] := by
    intro empty
    have below := r.steps_resolve "/proc"
    have proc : (steps "/proc".toList).filter (· ≠ .root) = [.name "proc".toList] := by decide
    rw [empty, proc] at below
    simp [steps, components, segments, Text.pieces, isIdle, isAbsolute] at below
  have relative := isAbsolute_of_whole (not_mem_pid (c := '/') (by decide) pid)
  have inside : (r.procDir pid).toList =
      join (r.resolve "/proc").toList (toString pid).toList := String.toList_ofList
  rw [inside, components_join some relative, body_pid]

theorem same_procDir_iff : same (r.procDir pid).toList (r.procDir pid').toList = true ↔
    pid = pid' := by
  rw [same, beq_iff_eq, components_procDir, components_procDir, List.append_cancel_left_eq]
  constructor
  · intro named
    have texts : (toString pid).toList = (toString pid').toList := by simpa using named
    have read := Text.int32?_toString pid
    rw [texts, Text.int32?_toString] at read
    exact (Option.some.inj read).symm
  · rintro rfl
    rfl

/-- Paths stay below the root. The steps of a resolved path are those of the root and after them
those of the path, without the one to a root of its own; so every resolved path begins with the
steps of the root, and a slash in front of a path changes nothing. The directory of a process has
one component more than that of all processes, and different processes have different ones. -/
theorem paths_stay_below_root (r : Resolver) :
    (∀ path : String, steps (r.resolve path).toList =
      steps r.root.toList ++ (steps path.toList).filter (· ≠ .root)) ∧
    (∀ path : String, steps r.root.toList <+: steps (r.resolve path).toList) ∧
    (∀ path : String, steps (r.resolve ("/" ++ path)).toList = steps (r.resolve path).toList) ∧
    (∀ pid : Pid, components (r.procDir pid).toList =
      components (r.resolve "/proc").toList ++ [.name (toString pid).toList]) ∧
    ∀ pid pid' : Pid, same (r.procDir pid).toList (r.procDir pid').toList = true ↔ pid = pid' := by
  refine ⟨r.steps_resolve, ?_, r.steps_resolve_slash, r.components_procDir, ?_⟩
  · intro path
    rw [steps_resolve]
    exact List.prefix_append _ _
  · intro pid pid'
    exact r.same_procDir_iff

/-- Slashes and dots wherever they can stand, in both paths. -/
example : (Resolver.mk "./host//").resolve "//a/.//./../b/." = "./host//a/.//./../b" ∧
    steps "./host//a/.//./../b".toList =
      [.name "host".toList, .name "a".toList, .up, .name "b".toList] := by
  decide +kernel

end Resolver

end ProcMeter
