import Mathlib.Tactic.Common
import ProcMeter.Process.Form
import ProcMeter.Proofs.Records

/-! Values in JSON and what is read of them. Integers of every width, finite numbers within reach
of the decimal, lists and maps are read as they were written. Values that hold no null and in which
no object names a member twice are built member by member. -/
namespace ProcMeter

theorem Numeral.toInt?_ofInt (n : Int) : (Numeral.ofInt n).toInt? = some n := by
  by_cases negative : n < 0
  · have nonzero : n.natAbs ≠ 0 := by omega
    have magnitude : -(n.natAbs : Int) = n := by omega
    simp only [Numeral.ofInt, Numeral.toInt?, decide_eq_true negative, Bool.not_true,
      Bool.false_eq_true, if_false, if_true, if_neg nonzero, magnitude]
  · have magnitude : (n.natAbs : Int) = n := by omega
    simp only [Numeral.ofInt, Numeral.toInt?, decide_eq_false negative, Bool.not_true,
      Bool.false_eq_true, if_false, magnitude]

namespace Json

theorem toIntWithin?_ofInt {lo hi n : Int} (least : lo ≤ n) (greatest : n ≤ hi) :
    toIntWithin? lo hi (.ofInt n) = some n := by
  rw [Json.ofInt, toIntWithin?, Numeral.toInt?_ofInt, Option.filter_some, if_pos]
  rw [Bool.and_eq_true, decide_eq_true_eq, decide_eq_true_eq]
  exact ⟨least, greatest⟩

theorem ofNat_eq_ofInt (n : Nat) : Json.ofNat n = .ofInt n := by
  simp only [Json.ofNat, Json.ofInt, Numeral.ofNat, Numeral.ofInt, Int.natAbs_natCast]
  rw [decide_eq_false (Int.not_lt.2 (Int.natCast_nonneg n))]

theorem toUInt64?_ofUInt64 (n : UInt64) : toUInt64? (.ofUInt64 n) = some n := by
  have below := n.toNat_lt
  rw [toUInt64?, Json.ofUInt64, ofNat_eq_ofInt, toIntWithin?_ofInt (by omega) (by omega),
    Option.map_some, Int.toNat_natCast, UInt64.ofNat_toNat]

theorem toUInt32?_ofNat (n : UInt32) : toUInt32? (.ofNat n.toNat) = some n := by
  have below := n.toNat_lt
  rw [toUInt32?, ofNat_eq_ofInt, toIntWithin?_ofInt (by omega) (by omega), Option.map_some,
    Int.toNat_natCast, UInt32.ofNat_toNat]

theorem toInt32?_ofInt32 (n : Int32) : toInt32? (.ofInt32 n) = some n := by
  have least := n.le_toInt
  have greatest := n.toInt_lt
  rw [toInt32?, Json.ofInt32, toIntWithin?_ofInt (by omega) (by omega), Option.map_some,
    Int32.ofInt_toInt]

theorem toInt64?_ofInt (n : Int64) : toInt64? (.ofInt n.toInt) = some n := by
  have least := n.le_toInt
  have greatest := n.toInt_lt
  rw [toInt64?, toIntWithin?_ofInt (by omega) (by omega), Option.map_some, Int64.ofInt_toInt]

theorem ofFloat_of_isFinite {x : Float} (finite : x.isFinite = true) :
    Json.ofFloat x = .num (.ofFloat x) := if_pos finite

theorem toFloat?_ofFloat {x : Float} (finite : x.isFinite = true)
    (exact : (Numeral.ofFloat x).toFloat = x) : toFloat? (.ofFloat x) = some x := by
  rw [ofFloat_of_isFinite finite, toFloat?, exact, Option.filter_some, if_pos finite]

theorem isFinite_of_toFloat? {v : Json} {x : Float} (read : toFloat? v = some x) :
    x.isFinite = true := by
  cases v with
  | num n =>
    rw [toFloat?, Option.filter_eq_some_iff] at read
    exact read.2
  | _ => contradiction

theorem toList?_map {α : Type} {f : α → Json} {dec : Json → Option α} {xs : List α}
    (read : ∀ x ∈ xs, dec (f x) = some x) : toList? dec (.arr (xs.map f)) = some xs :=
  mapM_map_eq_some read

/-- A value in which no null stands and no object names a member twice. -/
inductive Solid : Json → Prop where
  | bool (b : Bool) : Solid (.bool b)
  | num (n : Numeral) : Solid (.num n)
  | str (s : String) : Solid (.str s)
  | arr {vs : List Json} (each : ∀ v ∈ vs, Solid v) : Solid (.arr vs)
  | obj {ms : List (String × Json)} (distinct : (ms.map Prod.fst).Nodup)
      (each : ∀ m ∈ ms, Solid m.2) : Solid (.obj ms)

theorem Solid.ne_null {v : Json} (solid : Solid v) : v ≠ .null := by
  rintro rfl
  cases solid

theorem solid_ofFloat {x : Float} (finite : x.isFinite = true) : Solid (.ofFloat x) :=
  ofFloat_of_isFinite finite ▸ .num _

theorem solid_strings (xs : List String) : Solid (.strings xs) := by
  refine .arr fun v mem => ?_
  obtain ⟨s, -, rfl⟩ := List.mem_map.1 mem
  exact .str s

theorem optional?_ofUInt64 (o : Option UInt64) :
    (Slot.ofValue? (o.map .ofUInt64)).optional? Json.toUInt64? = some o :=
  Json.optional?_written (fun n _ => Json.toUInt64?_ofUInt64 n) fun _ _ => Json.noConfusion

theorem optional?_ofFloat {o : Option Float} (finite : ∀ x ∈ o, x.isFinite = true)
    (exact : ∀ x ∈ o, (Numeral.ofFloat x).toFloat = x) :
    (Slot.ofValue? (o.map .ofFloat)).optional? Json.toFloat? = some o :=
  Json.optional?_written (fun x mem => Json.toFloat?_ofFloat (finite x mem) (exact x mem))
    fun x mem => (Json.solid_ofFloat (finite x mem)).ne_null

theorem lookup_listMember (name k : String) (xs : List String) :
    (listMember name xs).lookup k =
      if k == name then (if xs = [] then none else some (.strings xs)) else none := by
  cases xs with
  | nil => exact (ite_self _).symm
  | cons x xs => exact lookup_cons name k _ []

/-- A list that is left out when it is empty is empty when it is missing. -/
theorem orDefault?_listMember (xs : List String) :
    (Slot.ofValue? (if xs = [] then none else some (Json.strings xs))).orDefault? []
      (toList? toString?) = some xs := by
  split
  case isTrue empty => rw [empty]; rfl
  case isFalse => exact toList?_map fun s _ => rfl

/-- The members have some of these names, in this order, and solid values. -/
structure Tidy (names : List String) (ms : List (String × Json)) : Prop where
  named : (ms.map Prod.fst).Sublist names
  solid : ∀ m ∈ ms, Solid m.2

namespace Tidy

theorem distinct {names : List String} {ms : List (String × Json)} (tidy : Tidy names ms)
    (nodup : names.Nodup) : (ms.map Prod.fst).Nodup := nodup.sublist tidy.named

theorem obj {names : List String} {ms : List (String × Json)} (tidy : Tidy names ms)
    (nodup : names.Nodup) : Solid (.obj ms) := .obj (tidy.distinct nodup) tidy.solid

theorem append {ns ns' : List String} {ms ms' : List (String × Json)} (first : Tidy ns ms)
    (second : Tidy ns' ms') : Tidy (ns ++ ns') (ms ++ ms') :=
  ⟨List.map_append ▸ first.named.append second.named,
    List.forall_mem_append.2 ⟨first.solid, second.solid⟩⟩

/-- No member has another name. -/
theorem lookup_eq_none {names : List String} {ms : List (String × Json)} (tidy : Tidy names ms)
    {name : String} (other : name ∉ names) : ms.lookup name = .none := by
  refine List.lookup_eq_none_iff.2 fun m mem => ?_
  rw [bne_iff_ne]
  rintro rfl
  exact other (tidy.named.subset (List.mem_map_of_mem mem))

theorem one {name : String} {v : Json} (solid : v.Solid) : Tidy [name] [(name, v)] :=
  ⟨List.Sublist.refl _, fun _ mem => by rwa [List.mem_singleton.1 mem]⟩

theorem none {name : String} : Tidy [name] [] :=
  ⟨List.nil_sublist _, fun _ mem => absurd mem List.not_mem_nil⟩

theorem member? {α : Type} {name : String} {f : α → Json} {o : Option α}
    (each : ∀ a ∈ o, (f a).Solid) : Tidy [name] (Json.member? name f o) := by
  cases o with
  | none => exact none
  | some a => exact one (each a rfl)

theorem listMember {name : String} {xs : List String} : Tidy [name] (Json.listMember name xs) := by
  cases xs with
  | nil => exact none
  | cons x xs => exact one (solid_strings _)

end Tidy

end Json

theorem Instant.ofJson?_toJson {t : Instant} (exact : Instant.parse? t.render = some t) :
    Instant.ofJson? t.toJson = some t := by
  rw [Instant.toJson, Instant.ofJson?, String.toList_ofList, exact]

namespace Dict

variable {α : Type}

theorem ofList_toList (d : Dict α) : Dict.ofList d.toList = d := by
  have made : Dict.ofList d.toList = Std.ExtTreeMap.ofList d.toList compare :=
    Std.ExtTreeMap.ofList_eq_foldl.symm
  rw [made]
  refine Std.ExtTreeMap.ext_getElem? fun {k} => ?_
  cases found : d[k]? with
  | none =>
    refine Std.ExtTreeMap.getElem?_ofList_of_contains_eq_false ?_
    rw [Std.ExtTreeMap.map_fst_toList_eq_keys, List.contains_eq_mem, decide_eq_false_iff_not,
      Std.ExtTreeMap.mem_keys]
    intro mem
    rw [← Std.ExtTreeMap.isSome_getElem?_iff_mem, found] at mem
    contradiction
  | some v =>
    exact Std.ExtTreeMap.getElem?_ofList_of_mem Std.ReflCmp.compare_self d.distinct_keys_toList
      (Std.ExtTreeMap.mem_toList_iff_getElem?_eq_some.2 found)

theorem ofJson?_toJson {f : α → Json} {dec : Json → Option α} (read : ∀ a, dec (f a) = some a)
    (d : Dict α) : Dict.ofJson? dec (d.toJson f) = some d := by
  have bindings : (d.toList.map fun b : String × α => (b.1, f b.2)).mapM
      (fun m => (dec m.2).map fun a => (m.1, a)) = some d.toList :=
    mapM_map_eq_some fun b _ => by rw [read, Option.map_some]
  rw [Dict.toJson, Dict.ofJson?, bindings, Option.map_some, ofList_toList]

theorem solid_toJson {f : α → Json} (each : ∀ a, (f a).Solid) (d : Dict α) :
    (d.toJson f).Solid := by
  refine .obj ?_ fun m mem => ?_
  · rw [List.map_map, List.nodup_iff_pairwise_ne, List.pairwise_map]
    refine d.distinct_keys_toList.imp fun {a b} differ same => differ ?_
    exact Std.LawfulEqCmp.compare_eq_iff_eq.2 same
  · obtain ⟨b, -, rfl⟩ := List.mem_map.1 mem
    exact each b.2

end Dict

end ProcMeter
