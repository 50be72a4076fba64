import Mathlib
import ProcMeter.Proofs.CounterFiles

/-! The keys of sections are in snake case. Where a key has an underscore that the title has not is
told by two characters of the title, so the key is known place by place, and a key is its own key. -/
namespace ProcMeter.Network

open Text

variable {c : Char} {title : List Char}

/-! ### Kinds of characters -/

theorem isUpper_eq (c : Char) : isUpper c = c.isUpper := by
  rw [isUpper, Char.isUpper, Bool.decide_and]
  rfl

theorem isLowerOrDigit_eq (c : Char) : isLowerOrDigit c = (c.isLower || c.isDigit) := by
  simp only [isLowerOrDigit, Char.isLower, Char.isDigit]
  rfl

theorem not_isLowerOrDigit_of_isUpper (upper : c.isUpper = true) : isLowerOrDigit c = false := by
  simp [isLowerOrDigit, Char.isUpper, Char.le_def, UInt32.le_iff_toNat_le] at upper ⊢
  omega

/-! ### Place by place -/

/-- An upper-case letter stands at this place, just after a lower-case letter or a digit. -/
def startsWord (title : List Char) : Nat → Bool
  | 0 => false
  | i + 1 => title[i]?.any (fun c => c.isLower || c.isDigit) && title[i + 1]?.any Char.isUpper

/-- What stands in the key for the character at a place. -/
def spelled (title : List Char) : Char × Nat → List Char
  | (c, i) => if startsWord title i then ['_', c.toLower] else [c.toLower]

theorem startsWord_append (before : List Char) (c : Char) (after : List Char) :
    startsWord (before ++ c :: after) before.length =
      (before.getLast?.any isLowerOrDigit && c.isUpper) := by
  rcases List.eq_nil_or_concat before with rfl | ⟨before, d, rfl⟩
  · rfl
  · simp [startsWord, isLowerOrDigit_eq]

/-- The flag is a fact about the characters that have been read, whatever follows. -/
theorem snakeFrom_eq (before rest : List Char) :
    snakeFrom (before.getLast?.any isLowerOrDigit) rest =
      (rest.zipIdx before.length).flatMap (spelled (before ++ rest)) := by
  induction rest generalizing before with
  | nil => rfl
  | cons c rest ih =>
    have next := ih (before ++ [c])
    rw [List.getLast?_concat, Option.any_some, List.length_append, List.length_singleton,
      List.append_assoc, List.singleton_append] at next
    rw [List.zipIdx_cons, List.flatMap_cons, ← next, spelled, startsWord_append, snakeFrom,
      isUpper_eq]
    cases upper : c.isUpper with
    | true =>
      rw [not_isLowerOrDigit_of_isUpper upper]
      cases before.getLast?.any isLowerOrDigit <;> rfl
    | false =>
      rw [Char.toLower_eq_of_not_isUpper (by simp [upper])]
      simp

theorem sectionKey_eq (title : List Char) :
    sectionKey title = title.zipIdx.flatMap (spelled title) :=
  snakeFrom_eq [] title

theorem isUpper_of_mem_sectionKey (member : c ∈ sectionKey title) : c.isUpper = false := by
  rw [sectionKey_eq, List.mem_flatMap] at member
  obtain ⟨⟨d, i⟩, -, inside⟩ := member
  rw [spelled] at inside
  split at inside
  · rcases List.mem_cons.mp inside with rfl | lowered
    · rfl
    · rw [List.mem_singleton.mp lowered, Char.isUpper_toLower_eq_false]
  · rw [List.mem_singleton.mp inside, Char.isUpper_toLower_eq_false]

/-! ### Keys of keys -/

theorem snakeFrom_of_lower (lower : ∀ c ∈ title, c.isUpper = false) (afterLower : Bool) :
    snakeFrom afterLower title = title := by
  induction title generalizing afterLower with
  | nil => rfl
  | cons c rest ih =>
    obtain ⟨here, others⟩ := List.forall_mem_cons.mp lower
    rw [snakeFrom, isUpper_eq, here, if_neg Bool.false_ne_true, ih others]

theorem sectionKey_eq_self_iff : sectionKey title = title ↔ ∀ c ∈ title, c.isUpper = false := by
  constructor
  · intro same c member
    rw [← same] at member
    exact isUpper_of_mem_sectionKey member
  · intro lower
    exact snakeFrom_of_lower lower false

theorem sectionKey_sectionKey (title : List Char) :
    sectionKey (sectionKey title) = sectionKey title :=
  sectionKey_eq_self_iff.mpr fun _ member => isUpper_of_mem_sectionKey member

theorem exists_title_of_mem_sections {s : String × List (String × Int64)}
    {rows : List (List Char)} (member : s ∈ sections rows) :
    ∃ title, s.1 = String.ofList (sectionKey title) := by
  induction rows using sections.induct with
  | case1 header values rest ih =>
    rw [sections, List.mem_append, Option.mem_toList] at member
    rcases member with shown | later
    · simp only [section?, Option.bind_eq_bind, Option.bind_eq_some_iff,
        Option.ite_none_right_eq_some] at shown
      obtain ⟨⟨title, names⟩, -, ⟨title', numbers⟩, -, -, same⟩ := shown
      rw [← Option.some.inj same]
      exact ⟨trim title, rfl⟩
    · exact ih later
  | case2 rows few =>
    rw [sections.eq_2 rows few] at member
    contradiction

/-- Whatever a file adds is found by a name that is its own key. -/
theorem sectionKey_of_mem_parseInto {m : NetworkCounters} {content : List Char} {name : String}
    (member : name ∈ parseInto m content) (new : name ∉ m) :
    sectionKey name.toList = name.toList := by
  rw [parseInto_eq, mem_foldl] at member
  rcases member with old | ⟨s, among, rfl⟩
  · contradiction
  · obtain ⟨title, same⟩ := exists_title_of_mem_sections among
    rw [same, String.toList_ofList, sectionKey_sectionKey]

/-- Keys are canonical. A key has no upper-case letter. It has the characters of the title in their
order, upper-case letters in lower case, and an underscore before each of these that stands just
after a lower-case letter or a digit. The key of a key is the key itself. -/
theorem section_keys_canonical (title : List Char) :
    (∀ c ∈ sectionKey title, c.isUpper = false) ∧
    (sectionKey title = title.zipIdx.flatMap fun (c, i) =>
      if startsWord title i then ['_', c.toLower] else [c.toLower]) ∧
    sectionKey (sectionKey title) = sectionKey title :=
  ⟨fun _ member => isUpper_of_mem_sectionKey member, sectionKey_eq title,
    sectionKey_sectionKey title⟩

/-- Capitals after a capital, a digit, a letter beyond ASCII and an underscore. -/
theorem mixed_section_keys_canonical :
    let title := "MPTcp6ExtÉX_Y".toList
    let key := sectionKey title
    'É' ∈ key ∧ 'É'.isUpper = false ∧ key = "mptcp6_extÉx_y".toList ∧ sectionKey key = key := by
  intro title key
  obtain ⟨lower, places, same⟩ := section_keys_canonical title
  have member : 'É' ∈ key := by decide +kernel
  exact ⟨member, lower 'É' member, places.trans (by decide +kernel), same⟩

end ProcMeter.Network
