import Mathlib.Algebra.Group.Nat.Even
import ProcMeter.Proofs.Lines
import ProcMeter.Proofs.Secrecy

/-! Files of network counters. A file comes to the sections of its pairs of lines, one after
another, whatever was known before; so what is written is read back, column by column, and files are
read in pieces as well as in one go. -/
namespace ProcMeter.Network

open Text

variable {m : NetworkCounters} {header values : List Char} {title name : String}

/-! ### What a file adds -/

/-- The sections that lines show, by pairs. -/
def sections : List (List Char) → List (String × List (String × Int64))
  | header :: values :: rest => (section? header values).toList ++ sections rest
  | _ => []

theorem addPairs_eq (m : NetworkCounters) (rows : List (List Char)) :
    addPairs m rows = (sections rows).foldl addSection m := by
  induction m, rows using addPairs.induct with
  | case1 m header values rest ih =>
    rw [addPairs, ih, sections, List.foldl_append, addPair]
    cases section? header values <;> rfl
  | case2 rows m few =>
    rw [addPairs.eq_2 m rows few, sections.eq_2 rows few, List.foldl_nil]

theorem parseInto_eq (m : NetworkCounters) (content : List Char) :
    parseInto m content = (sections (lines content)).foldl addSection m := addPairs_eq m _

theorem sections_append {rows : List (List Char)} (even : Even rows.length)
    (more : List (List Char)) : sections (rows ++ more) = sections rows ++ sections more := by
  induction rows using sections.induct with
  | case1 header values rest ih =>
    have fewer : Even rest.length := by
      simpa [Nat.even_add_one] using even
    simp only [List.cons_append, sections, ih fewer, List.append_assoc]
  | case2 rows few =>
    match rows, few, even with
    | [], _, _ => rfl
    | [_], _, odd => exact absurd odd Nat.not_even_one
    | header :: values :: rest, few, _ => exact absurd rfl (few header values rest)

/-- Where a line ends is no part of a section. -/
theorem section?_dropReturn (header values : List Char) : section? (dropReturn header)
    (dropReturn values) = section? header values := by
  have colon : ':' ≠ '\r' := by decide
  simp only [section?, cut?_dropReturn colon]
  cases cut? ':' header with
  | none => rfl
  | some p =>
    cases cut? ':' values with
    | none => rfl
    | some q => simp [words_dropReturn]

theorem sections_dropReturn (rows : List (List Char)) :
    sections (rows.map dropReturn) = sections rows := by
  induction rows using sections.induct with
  | case1 header values rest ih =>
    simp only [List.map_cons, sections, section?_dropReturn, ih]
  | case2 rows few =>
    match rows, few with
    | [], _ => rfl
    | [_], _ => rfl
    | header :: values :: rest, few => exact absurd rfl (few header values rest)

/-! ### What a section sets -/

/-- The counters of a section, each with the section's key. -/
def settings (s : String × List (String × Int64)) : List ((String × String) × Int64) :=
  s.2.map fun r => ((s.1, r.1), r.2)

theorem lookup_keyed (key : String) (rs : List (String × Int64)) (title name : String) :
    (rs.map fun r => ((key, r.1), r.2)).lookup (title, name) =
      if title = key then rs.lookup name else none := by
  induction rs with
  | nil => simp
  | cons r rs ih =>
    obtain ⟨other, value⟩ := r
    rw [List.map_cons, List.lookup_cons, List.lookup_cons]
    by_cases here : title = key
    · subst here
      have same : ((title, name) == (title, other)) = (name == other) := by
        rw [Bool.eq_iff_iff]
        simp
      rw [same, ih, if_pos rfl, if_pos rfl]
    · have apart : ((title, name) == (key, other)) = false :=
        beq_false_of_ne fun same => here (congrArg Prod.fst same)
      simp only [apart, ih, if_neg here]

theorem value?_addSection (m : NetworkCounters) (s : String × List (String × Int64))
    (title name : String) :
    value? (addSection m s) title name =
      ((settings s).reverse.lookup (title, name)).or (value? m title name) := by
  rw [settings, ← List.map_reverse, lookup_keyed, value?, addSection,
    Std.ExtTreeMap.getElem?_insert, value?]
  by_cases here : s.1 = title
  · subst here
    simp only [Std.LawfulEqCmp.compare_eq_iff_eq, if_true, Option.bind_some,
      Dict.getElem?_insertAll]
    cases m[s.1]? <;> simp
  · simp [here, Ne.symm here]

theorem mem_addSection (m : NetworkCounters) (s : String × List (String × Int64))
    (title : String) : title ∈ addSection m s ↔ title ∈ m ∨ s.1 = title := by
  rw [addSection, Std.ExtTreeMap.mem_insert, Std.LawfulEqCmp.compare_eq_iff_eq, or_comm]

/-- After all sections a counter has the value that it was given last, or the one it had. -/
theorem value?_foldl (m : NetworkCounters) (ss : List (String × List (String × Int64)))
    (title name : String) :
    value? (ss.foldl addSection m) title name =
      ((ss.flatMap settings).reverse.lookup (title, name)).or (value? m title name) := by
  induction ss generalizing m with
  | nil => rfl
  | cons s ss ih =>
    rw [List.foldl_cons, ih, value?_addSection, List.flatMap_cons, List.reverse_append,
      List.lookup_append, Option.or_assoc]

theorem mem_foldl (m : NetworkCounters) (ss : List (String × List (String × Int64)))
    (title : String) : title ∈ ss.foldl addSection m ↔ title ∈ m ∨ ∃ s ∈ ss, s.1 = title := by
  induction ss generalizing m with
  | nil => simp
  | cons s ss ih =>
    rw [List.foldl_cons, ih, mem_addSection, or_assoc]
    simp

/-! ### What is written -/

/-- Two lines that do not belong together. -/
inductive Apart : List Char → List Char → Prop where
  | untitled {header values : List Char} (bare : ':' ∉ header) : Apart header values
  | valueless {header values : List Char} (bare : ':' ∉ values) : Apart header values
  | other {title names title' numbers : List Char} (first : ':' ∉ title) (second : ':' ∉ title')
      (unlike : title ≠ title') : Apart (title ++ ':' :: names) (title' ++ ':' :: numbers)

/-- Two lines show a section unless they do not belong together. -/
theorem section?_eq_none_iff : section? header values = none ↔ Apart header values := by
  constructor
  · intro missing
    cases cut : cut? ':' header with
    | none => exact .untitled (cut?_eq_none_iff.mp cut)
    | some p =>
      cases cut' : cut? ':' values with
      | none => exact .valueless (cut?_eq_none_iff.mp cut')
      | some p' =>
        obtain ⟨title, names⟩ := p
        obtain ⟨title', numbers⟩ := p'
        obtain ⟨rfl, first⟩ := cut?_eq_some_iff.mp cut
        obtain ⟨rfl, second⟩ := cut?_eq_some_iff.mp cut'
        refine .other first second fun same => ?_
        rw [section?, cut, cut'] at missing
        simp [same] at missing
  · intro apart
    cases apart with
    | untitled bare => simp [section?, cut?_eq_none_iff.mpr bare]
    | valueless bare =>
      rw [section?, cut?_eq_none_iff.mpr bare]
      cases cut? ':' header <;> rfl
    | other first second unlike =>
      rw [section?, cut?_eq_some_iff.mpr ⟨rfl, first⟩, cut?_eq_some_iff.mpr ⟨rfl, second⟩]
      simp [unlike]

/-- A section as it can be written, with the names of its counters and the texts of their values
in columns. -/
structure Written where
  title : String
  names : List String
  values : List String
  flat : '\n' ∉ title.toList
  whole : ':' ∉ title.toList
  named : ∀ n ∈ names, IsWord n.toList
  valued : ∀ v ∈ values, IsWord v.toList

namespace Written

variable (s : Written)

/-- One of the two lines of a section. -/
def line (items : List String) : List Char := (s.title ++ ": " ++ " ".intercalate items).toList

def key : String := String.ofList (sectionKey (trim s.title.toList))

/-- What the columns say whose value is a number. -/
def sets : List ((String × String) × Int64) :=
  (s.names.zip s.values).filterMap fun (n, v) => (int64? v.toList).map fun i => ((s.key, n), i)

theorem line_eq (items : List String) :
    s.line items =
      s.title.toList ++ ':' :: ' ' :: [' '].intercalate (items.map String.toList) := by
  simp [line]

variable {s} {items : List String}

theorem words_items (solid : ∀ w ∈ items, IsWord w.toList) :
    words (' ' :: [' '].intercalate (items.map String.toList)) = items.map String.toList := by
  have blank : isBlank ' ' = true := by decide
  rw [words, runs_cons blank]
  exact words_intercalate (List.forall_mem_map.mpr solid)

theorem line_flat (solid : ∀ w ∈ items, IsWord w.toList) : '\n' ∉ s.line items := by
  rw [line_eq, List.mem_append, not_or]
  refine ⟨s.flat, fun member => ?_⟩
  simp only [List.mem_cons, Char.reduceEq, false_or] at member
  rcases mem_intercalate member with blank | ⟨_, among, inside⟩
  · contradiction
  · obtain ⟨w, there, rfl⟩ := List.mem_map.mp among
    have unblank := (solid w there).2 _ inside
    contradiction

/-- A section that is written is read with its key, and its columns with it. -/
theorem section?_lines (s : Written) :
    ∃ rs, section? (s.line s.names) (s.line s.values) = some (s.key, rs) ∧
      settings (s.key, rs) = s.sets := by
  have header : cut? ':' (s.line s.names) = _ :=
    cut?_eq_some_iff.mpr ⟨s.line_eq s.names, s.whole⟩
  have numbers : cut? ':' (s.line s.values) = _ :=
    cut?_eq_some_iff.mpr ⟨s.line_eq s.values, s.whole⟩
  refine ⟨readings (s.names.map String.toList) (s.values.map String.toList), ?_, ?_⟩
  · rw [section?, header, numbers]
    simp [words_items s.named, words_items s.valued, key]
  · simp only [settings, readings, sets, List.zip_map, List.filterMap_map, List.map_filterMap]
    congr 1
    funext column
    obtain ⟨n, v⟩ := column
    simp [Function.comp_def]

end Written

/-- Two lines of a file: a section, or lines that do not belong together. -/
inductive Pair where
  | held (s : Written)
  | stray (header values : List Char) (first : '\n' ∉ header) (second : '\n' ∉ values)
      (apart : Apart header values)

namespace Pair

def rows : Pair → List (List Char)
  | held s => [s.line s.names, s.line s.values]
  | stray header values _ _ _ => [header, values]

def sets : Pair → List ((String × String) × Int64)
  | held s => s.sets
  | stray _ _ _ _ _ => []

/-- The pair has a section with this key. -/
def Holds (p : Pair) (title : String) : Prop :=
  match p with
  | held s => s.key = title
  | stray _ _ _ _ _ => False

theorem rows_flat (p : Pair) : ∀ row ∈ p.rows, '\n' ∉ row := by
  cases p with
  | held s => simpa [rows] using ⟨Written.line_flat s.named, Written.line_flat s.valued⟩
  | stray header values first second _ => simpa [rows] using ⟨first, second⟩

theorem rows_even (p : Pair) : Even p.rows.length := by
  cases p <;> exact ⟨1, rfl⟩

theorem sections_rows (p : Pair) :
    (sections p.rows).flatMap settings = p.sets ∧
      ∀ title, (∃ s ∈ sections p.rows, s.1 = title) ↔ p.Holds title := by
  cases p with
  | held s =>
    obtain ⟨rs, shown, same⟩ := s.section?_lines
    simp [rows, sections, shown, same, sets, Holds]
  | stray header values _ _ apart =>
    simp [rows, sections, section?_eq_none_iff.mpr apart, sets, Holds]

end Pair

/-- The content of a file of pairs. -/
def written (pairs : List Pair) : List Char := ended (pairs.flatMap Pair.rows)

theorem sections_rows (pairs : List Pair) :
    sections (pairs.flatMap Pair.rows) = pairs.flatMap fun p => sections p.rows := by
  induction pairs with
  | nil => rfl
  | cons p pairs ih => rw [List.flatMap_cons, sections_append p.rows_even, ih, List.flatMap_cons]

theorem sections_written (pairs : List Pair) :
    sections (lines (written pairs)) = pairs.flatMap fun p => sections p.rows := by
  have flat : ∀ row ∈ pairs.flatMap Pair.rows, '\n' ∉ row := by
    intro row member
    obtain ⟨p, _, inside⟩ := List.mem_flatMap.mp member
    exact p.rows_flat row inside
  rw [written, lines_rows flat, sections_dropReturn, sections_rows]

theorem parseInto_append {rows : List (List Char)} (flat : ∀ row ∈ rows, '\n' ∉ row)
    (even : Even rows.length) (m : NetworkCounters) (rest : List Char) :
    parseInto m (ended rows ++ rest) = parseInto (parseInto m (ended rows)) rest := by
  have paired : Even (rows.map dropReturn).length := by rwa [List.length_map]
  rw [parseInto_eq, parseInto_eq, parseInto_eq, lines_ended flat, lines_rows flat,
    sections_append paired, List.foldl_append]

theorem value?_parseInto_written (m : NetworkCounters) (pairs : List Pair) (title name : String) :
    value? (parseInto m (written pairs)) title name =
      ((pairs.flatMap Pair.sets).reverse.lookup (title, name)).or (value? m title name) := by
  have same : (pairs.flatMap fun p => sections p.rows).flatMap settings =
      pairs.flatMap Pair.sets := by
    rw [List.flatMap_assoc]
    exact List.flatMap_congr fun p _ => p.sections_rows.1
  rw [parseInto_eq, sections_written, value?_foldl, same]

theorem mem_parseInto_written (m : NetworkCounters) (pairs : List Pair) (title : String) :
    title ∈ parseInto m (written pairs) ↔ title ∈ m ∨ ∃ p ∈ pairs, p.Holds title := by
  rw [parseInto_eq, sections_written, mem_foldl]
  refine or_congr_right ?_
  constructor
  · rintro ⟨s, among, same⟩
    obtain ⟨p, member, inside⟩ := List.mem_flatMap.mp among
    exact ⟨p, member, (p.sections_rows.2 title).mp ⟨s, inside, same⟩⟩
  · rintro ⟨p, member, holds⟩
    obtain ⟨s, inside, same⟩ := (p.sections_rows.2 title).mpr holds
    exact ⟨s, List.mem_flatMap.mpr ⟨p, member, inside⟩, same⟩

theorem parseInto_apart (first : '\n' ∉ header) (second : '\n' ∉ values)
    (apart : Apart header values) (m : NetworkCounters) :
    parseInto m (ended [header, values]) = m := by
  have flat : ∀ row ∈ [header, values], '\n' ∉ row := by simpa using ⟨first, second⟩
  have none : sections [header, values] = [] := by
    simp [sections, section?_eq_none_iff.mpr apart]
  rw [parseInto_eq, lines_rows flat, sections_dropReturn, none, List.foldl_nil]

/-- Files of counters are read back. A file of whole pairs of lines and what comes after it can be
read in one go or one after the other. From the pairs that are written, a counter has the last
number that it is given, and else the value that it had before; there are sections for those that
are written, even without a counter, and for those that were there; and lines that do not belong
together count for nothing. -/
theorem counters_read_back (m : NetworkCounters) :
    (∀ (rows : List (List Char)) (rest : List Char), (∀ row ∈ rows, '\n' ∉ row) →
      Even rows.length →
        parseInto m (ended rows ++ rest) = parseInto (parseInto m (ended rows)) rest) ∧
    (∀ pairs : List Pair,
      (∀ title name, value? (parseInto m (written pairs)) title name =
        ((pairs.flatMap Pair.sets).reverse.lookup (title, name)).or (value? m title name)) ∧
      ∀ title, title ∈ parseInto m (written pairs) ↔
        title ∈ m ∨ ∃ p ∈ pairs, p.Holds title) ∧
    ∀ header values : List Char, '\n' ∉ header → '\n' ∉ values → Apart header values →
      parseInto m (ended [header, values]) = m := by
  refine ⟨?_, ?_, ?_⟩
  · intro rows rest flat even
    exact parseInto_append flat even m rest
  · intro pairs
    exact ⟨value?_parseInto_written m pairs, mem_parseInto_written m pairs⟩
  · intro header values first second apart
    exact parseInto_apart first second apart m

/-- Three columns, with a value in the middle that is no number. -/
def Written.gapped : Written where
  title := "Ip"
  names := ["A", "B", "C"]
  values := ["7", "many", "-9"]
  flat := by decide
  whole := by decide
  named := by decide
  valued := by decide

/-- Another title with the same key, and a value too many. -/
def Written.colliding : Written where
  title := " ip"
  names := ["A"]
  values := ["8", "5"]
  flat := by decide
  whole := by decide
  named := by decide
  valued := by decide

theorem colliding_counters_read_back :
    let m : NetworkCounters := .ofList [("ip", .ofList [("A", 1), ("D", 4)])]
    let rows := ["Tcp: A".toList, "Tcp: 1".toList]
    let rest := "Tcp: A B\nTcp: 2 3".toList
    let read := parseInto m (written [.held .gapped, .held .colliding])
    (∀ row ∈ rows, '\n' ∉ row) ∧ Even rows.length ∧
      parseInto m (ended rows ++ rest) = parseInto (parseInto m (ended rows)) rest ∧
      value? read "ip" "A" = some 8 ∧ value? read "ip" "B" = none ∧
      value? read "ip" "C" = some (-9) ∧ value? read "ip" "D" = some 4 ∧ "tcp" ∉ read ∧
      Apart "Ip: A".toList "Tcp: 1".toList ∧
      parseInto m (ended ["Ip: A".toList, "Tcp: 1".toList]) = m := by
  intro m rows rest read
  obtain ⟨compose, shown, strays⟩ := counters_read_back m
  obtain ⟨counters, titles⟩ := shown [.held .gapped, .held .colliding]
  have flat : ∀ row ∈ rows, '\n' ∉ row := by decide
  have apart : Apart "Ip: A".toList "Tcp: 1".toList := section?_eq_none_iff.mp (by decide +kernel)
  refine ⟨flat, ⟨1, rfl⟩, compose rows rest flat ⟨1, rfl⟩, ?_, ?_, ?_, ?_, ?_, apart,
    strays _ _ (by decide) (by decide) apart⟩
  · rw [counters]
    decide +kernel
  · rw [counters]
    decide +kernel
  · rw [counters]
    decide +kernel
  · rw [counters]
    decide +kernel
  · rw [titles]
    simp only [List.mem_cons, List.not_mem_nil, or_false, exists_eq_or_imp, exists_eq_left,
      Pair.Holds]
    decide +kernel

end ProcMeter.Network
