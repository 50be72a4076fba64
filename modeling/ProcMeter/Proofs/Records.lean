import Mathlib.Data.List.Nodup
import ProcMeter.Json.Record

/-! Objects with distinct names as records. Such an object says of a field what its one member of
that name says, so a record that is written member by member is read field by field, whatever other
members stand between. -/
namespace ProcMeter

section
variable {V : Type}

/-- What an object says about a field of which it has this value, or none. -/
def Slot.ofValue? : Option V → Slot V
  | none => .unnamed
  | some v => .given v

/-- Members of one name are at most one when names are distinct. -/
theorem filter_name_eq {ms : List (String × V)} (distinct : (ms.map Prod.fst).Nodup)
    (name : String) :
    (ms.filter fun m => m.1 == name) = ((ms.lookup name).map fun v => (name, v)).toList := by
  induction ms with
  | nil => rfl
  | cons m ms ih =>
    obtain ⟨fresh, distinct⟩ := List.nodup_cons.1 distinct
    by_cases same : m.1 = name
    · have others : (ms.filter fun m => m.1 == name) = [] := by
        refine List.filter_eq_nil_iff.2 fun other mem named => fresh ?_
        rw [same, ← eq_of_beq named]
        exact List.mem_map_of_mem mem
      rw [List.filter_cons, if_pos (beq_iff_eq.2 same), others, List.lookup_cons,
        beq_iff_eq.2 same.symm, ← same]
      rfl
    · have differs : (name == m.1) = false := beq_eq_false_iff_ne.2 (Ne.symm same)
      rw [List.filter_cons, if_neg (fun named => same (eq_of_beq named)), ih distinct,
        List.lookup_cons, differs]

/-- A field with one spelling is the member of that name. -/
theorem Slot.ofMembers?_single {ms : List (String × V)} (distinct : (ms.map Prod.fst).Nodup)
    (name : String) : Slot.ofMembers? ms [name] = some (.ofValue? (ms.lookup name)) := by
  have spelled : (ms.filter fun m => [name].contains m.1) = ms.filter fun m => m.1 == name :=
    List.filter_congr fun m _ => by
      rw [List.contains_cons, List.contains_nil, Bool.or_false]
  rw [Slot.ofMembers?, spelled, filter_name_eq distinct]
  cases ms.lookup name <;> rfl

@[simp]
theorem Slot.required?_ofValue? {α : Type} (o : Option V) (dec : V → Option α) :
    (Slot.ofValue? o).required? dec = o.bind dec := by
  cases o <;> rfl

end

/-- What each element is read back from, all are read back from. -/
theorem mapM_map_eq_some {α β : Type} {f : α → β} {dec : β → Option α} {xs : List α}
    (read : ∀ x ∈ xs, dec (f x) = some x) : (xs.map f).mapM dec = some xs := by
  induction xs with
  | nil => rfl
  | cons x xs ih =>
    obtain ⟨first, others⟩ := List.forall_mem_cons.1 read
    simp only [List.map_cons, List.mapM_cons, first, ih others, Option.bind_eq_bind,
      Option.bind_some]
    rfl

namespace Json

/-- The fields of an object with distinct names, each with one spelling. -/
theorem slots?_single {ms : List (String × Json)} (distinct : (ms.map Prod.fst).Nodup)
    (names : List String) :
    slots? (names.map fun n => [n]) (.obj ms) =
      some (names.map fun n => .ofValue? (ms.lookup n)) := by
  rw [slots?]
  induction names with
  | nil => rfl
  | cons n ns ih =>
    simp only [List.map_cons, List.mapM_cons, Slot.ofMembers?_single distinct, ih,
      Option.bind_eq_bind, Option.bind_some]
    rfl

/-- Only the named fields matter. -/
theorem slots?_congr {ms ms' : List (String × Json)} (distinct : (ms.map Prod.fst).Nodup)
    (distinct' : (ms'.map Prod.fst).Nodup) {names : List String}
    (same : ∀ n ∈ names, ms.lookup n = ms'.lookup n) :
    slots? (names.map fun n => [n]) (.obj ms) = slots? (names.map fun n => [n]) (.obj ms') := by
  rw [slots?_single distinct, slots?_single distinct']
  exact congrArg some (List.map_congr_left fun n mem => by rw [same n mem])

section
variable {α : Type}

theorem lookup_cons (name k : String) (v : Json) (ms : List (String × Json)) :
    ((name, v) :: ms).lookup k = if k == name then some v else ms.lookup k := by
  rw [List.lookup_cons]
  cases k == name <;> rfl

theorem lookup_member? (name k : String) (f : α → Json) (o : Option α) :
    (member? name f o).lookup k = if k == name then o.map f else none := by
  cases o with
  | none => exact (ite_self _).symm
  | some a =>
    rw [member?, List.lookup_cons, List.lookup_nil]
    cases k == name <;> rfl

/-- A field that may be missing, when it is written as a member or left out. -/
theorem optional?_written {f : α → Json} {dec : Json → Option α} {o : Option α}
    (read : ∀ a ∈ o, dec (f a) = some a) (present : ∀ a ∈ o, f a ≠ .null) :
    (Slot.ofValue? (o.map f)).optional? dec = some o := by
  cases o with
  | none => rfl
  | some a =>
    have value := read a rfl
    have shown := present a rfl
    cases split : f a with
    | null => exact absurd split shown
    | _ =>
      rw [split] at value
      simp only [Option.map_some, Slot.ofValue?, Slot.optional?, split, value]

end

end Json

/-- A value that is there was read from one. -/
theorem Slot.exists_of_optional? {α : Type} {s : Slot Json} {dec : Json → Option α} {o : Option α}
    (read : s.optional? dec = some o) {a : α} (mem : a ∈ o) : ∃ v, dec v = some a := by
  unfold Slot.optional? at read
  split at read
  case h_1 | h_3 =>
    cases read
    contradiction
  case h_2 v _ =>
    obtain ⟨b, decoded, rfl⟩ := Option.map_eq_some_iff.1 read
    exact ⟨v, Option.some.inj mem ▸ decoded⟩
  case h_4 => contradiction

theorem Slot.exists_of_required? {α : Type} {s : Slot Json} {dec : Json → Option α} {a : α}
    (read : s.required? dec = some a) : ∃ v, dec v = some a := by
  cases s with
  | given v => exact ⟨v, read⟩
  | _ => contradiction

end ProcMeter
