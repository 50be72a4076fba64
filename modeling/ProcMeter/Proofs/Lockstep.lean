import Mathlib.Data.List.Forall2
import ProcMeter.Proofs.Worlds

/-! Two computations side by side, in worlds of two kinds. They need not come to the same: what
they come to is related, and so are the worlds that they leave. Steps that only one of them takes
are allowed where they leave the worlds related. -/
namespace ProcMeter

theorem except_cases_of_map_eq {ε α β : Type} {f : α → β} {a b : Except ε α}
    (same : a.map f = b.map f) :
    (∃ err, a = .error err ∧ b = .error err) ∨ ∃ x y, a = .ok x ∧ b = .ok y ∧ f x = f y := by
  cases a with
  | error err =>
    cases b with
    | error err' => exact .inl ⟨err, rfl, by rw [Except.error.inj same]⟩
    | ok y => contradiction
  | ok x =>
    cases b with
    | error err => contradiction
    | ok y => exact .inr ⟨x, y, rfl, rfl, Except.ok.inj same⟩

section
variable {σ τ α β γ δ : Type} {L : σ → Prop} {P : α → Prop} {R : σ → τ → Prop} {S : α → β → Prop}
  {T : γ → δ → Prop} {x : StateM σ α} {y : StateM τ β}

/-- It does not lead out of the worlds of the kind `L`. -/
def Stays (L : σ → Prop) (x : StateM σ α) : Prop := ∀ w, L w → L (x w).2

/-- In related worlds both come to related results, and leave related worlds. -/
def Lockstep (R : σ → τ → Prop) (S : α → β → Prop) (x : StateM σ α) (y : StateM τ β) : Prop :=
  ∀ w w', R w w' → S (x w).1 (y w').1 ∧ R (x w).2 (y w').2

theorem Stays.pure (a : α) : Stays L (Pure.pure a) := fun _ kept => kept

theorem Stays.bind {f : α → StateM σ γ} (first : Stays L x) (rest : ∀ a, Stays L (f a)) :
    Stays L (x >>= f) :=
  fun w kept => rest _ _ (first w kept)

theorem Stays.bind_knowing {f : α → StateM σ γ} (first : Stays L x) (comes : ∀ w, P (x w).1)
    (rest : ∀ a, P a → Stays L (f a)) : Stays L (x >>= f) :=
  fun w kept => rest _ (comes w) _ (first w kept)

theorem Alike.lockstep {y : StateM τ α} (alike : Alike R x y) : Lockstep R Eq x y := alike

/-- What the one comes to in a world, the other comes to in every related world. -/
theorem Alike.answer {y : StateM τ α} {w w₁ : σ} {w' : τ} {a : α} (alike : Alike R x y)
    (worlds : R w w') (comes : x w = (a, w₁)) : ∃ w₁', y w' = (a, w₁') ∧ R w₁ w₁' := by
  obtain ⟨same, worlds⟩ := alike w w' worlds
  rw [comes] at same worlds
  exact ⟨(y w').2, Prod.ext same.symm rfl, worlds⟩

/-- Looking for an identity asks for nothing but the identity. -/
theorem Engine.identityFor_stays {e : Engine (StateM σ)} {status : Status}
    (stays : Stays L (e.source.identity status.pid)) (registry : Registry) :
    Stays L (e.identityFor registry status) := by
  unfold Engine.identityFor
  split
  · exact .pure _
  · refine stays.bind fun answer => ?_
    cases answer with
    | ok identity => exact .pure _
    | error err =>
      dsimp only
      split
      · exact .pure _
      · exact .pure _

namespace Lockstep

theorem pure {a : α} {b : β} (related : S a b) : Lockstep R S (Pure.pure a) (Pure.pure b) :=
  fun _ _ worlds => ⟨related, worlds⟩

theorem bind {f : α → StateM σ γ} {g : β → StateM τ δ} (first : Lockstep R S x y)
    (rest : ∀ a b, S a b → Lockstep R T (f a) (g b)) : Lockstep R T (x >>= f) (y >>= g) := by
  intro w w' worlds
  obtain ⟨related, worlds⟩ := first w w' worlds
  exact rest _ _ related _ _ worlds

theorem mono {S' : α → β → Prop} (both : Lockstep R S x y) (weaker : ∀ a b, S a b → S' a b) :
    Lockstep R S' x y := by
  intro w w' worlds
  obtain ⟨related, worlds⟩ := both w w' worlds
  exact ⟨weaker _ _ related, worlds⟩

/-- What the first always comes to may be taken for granted. -/
theorem knowing (both : Lockstep R S x y) (comes : ∀ w, P (x w).1) :
    Lockstep R (fun a b => S a b ∧ P a) x y := by
  intro w w' worlds
  obtain ⟨related, worlds⟩ := both w w' worlds
  exact ⟨⟨related, comes w⟩, worlds⟩

/-- The first takes a step, and the second does not. -/
theorem bind_left {f : α → StateM σ γ} {z : StateM τ δ} (stays : ∀ w', Stays (R · w') x)
    (comes : ∀ w, P (x w).1) (rest : ∀ a, P a → Lockstep R T (f a) z) :
    Lockstep R T (x >>= f) z :=
  fun w w' worlds => rest _ (comes w) _ _ (stays w' w worlds)

/-- The second takes a step, and the first does not. -/
theorem bind_right {Q : β → Prop} {g : β → StateM τ δ} {z : StateM σ γ}
    (stays : ∀ w, Stays (R w) y) (comes : ∀ w', Q (y w').1)
    (rest : ∀ b, Q b → Lockstep R T z (g b)) : Lockstep R T z (y >>= g) :=
  fun w w' worlds => rest _ (comes w') _ _ (stays w w' worlds)

end Lockstep

/-- The same call, in related worlds. -/
def Turn.Alongside (R : σ → τ → Prop) (t : Turn σ) (t' : Turn τ) : Prop :=
  t.call = t'.call ∧ R t.world t'.world

/-- What one call comes to when both engines answer it in lockstep. -/
theorem Engine.answer_alongside {S : Call → Reply × Record → Reply × Record → Prop}
    {e : Engine (StateM σ)} {f : Engine (StateM τ)} {r r' : Record} {t : Turn σ} {t' : Turn τ}
    (both : Turn.Alongside R t t')
    (answers : ∀ call, Lockstep R (S call) (e.answer r call) (f.answer r' call)) :
    S t.call (e.reply r t, e.after r t) (f.reply r' t', f.after r' t') := by
  obtain ⟨call, w⟩ := t
  obtain ⟨call', w'⟩ := t'
  obtain ⟨called, worlds⟩ := both
  obtain rfl : call = call' := called
  exact (answers call w w' worlds).1

/-- What every call passes on from records to records holds after runs of the same calls. -/
theorem Engine.run_alongside {Q : Record → Record → Prop} {e : Engine (StateM σ)}
    {f : Engine (StateM τ)} (start : Q .empty .empty)
    (step : ∀ {r r' t t'}, Q r r' → Turn.Alongside R t t' → Q (e.after r t) (f.after r' t'))
    {turns : List (Turn σ)} {turns' : List (Turn τ)}
    (alongside : List.Forall₂ (Turn.Alongside R) turns turns') :
    Q (e.run turns) (f.run turns') := by
  have from_records (r r' : Record) (holds : Q r r') :
      Q (e.runFrom r turns) (f.runFrom r' turns') := by
    induction alongside generalizing r r' with
    | nil => exact holds
    | cons both _ ih => exact ih _ _ (step holds both)
  exact from_records .empty .empty start

end

end ProcMeter
