import Std.Data.ExtTreeMap

/-! Finite maps from names, in the order of the names' UTF-8 bytes, which is the
order of their characters. Two maps are equal when they hold the same bindings. -/
namespace ProcMeter

abbrev Dict (α : Type) := Std.ExtTreeMap String α compare

namespace Dict

/-- Bindings from first to last; a later one of the same name wins. -/
def ofList {α : Type} (bindings : List (String × α)) : Dict α :=
  bindings.foldl (fun d b => d.insert b.1 b.2) ∅

/-- `m` overridden by the bindings, from first to last. -/
def insertAll {α : Type} (m : Dict α) (bindings : List (String × α)) : Dict α :=
  bindings.foldl (fun d b => d.insert b.1 b.2) m

/-- The last binding of a name decides, and the map where there is none. -/
theorem getElem?_insertAll {α : Type} (m : Dict α) (bindings : List (String × α)) (name : String) :
    (insertAll m bindings)[name]? = (bindings.reverse.lookup name).or m[name]? := by
  unfold insertAll
  induction bindings generalizing m with
  | nil => rfl
  | cons b bindings ih =>
    obtain ⟨key, value⟩ := b
    rw [List.foldl_cons, ih, Std.ExtTreeMap.getElem?_insert, List.reverse_cons,
      List.lookup_append, Option.or_assoc]
    by_cases same : key = name
    · simp [same]
    · have other : (name == key) = false := beq_false_of_ne (Ne.symm same)
      simp [same, List.lookup_cons, other]

theorem getElem?_ofList {α : Type} (bindings : List (String × α)) (name : String) :
    (ofList bindings)[name]? = bindings.reverse.lookup name := by
  have read := getElem?_insertAll (∅ : Dict α) bindings name
  rw [Std.ExtTreeMap.getElem?_empty, Option.or_none] at read
  exact read

theorem getElem?_filter_name {α : Type} (d : Dict α) (keep : String → Bool) (name : String) :
    (d.filter fun name _ => keep name)[name]? = if keep name = true then d[name]? else none := by
  rw [Std.ExtTreeMap.getElem?_filter']
  cases keep name with
  | true => cases d[name]? <;> rfl
  | false => cases d[name]? <;> rfl

end Dict

end ProcMeter
