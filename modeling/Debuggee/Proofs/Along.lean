import Debuggee.Action

/-!
What holds between the states before and after. A relation that holds of each step, and of nothing
done at all, holds of whatever is done step by step, also where it fails half way.
-/

namespace Debuggee

variable {σ α β : Type}

structure IsPreorder (R : σ → σ → Prop) : Prop where
  refl : ∀ s, R s s
  trans : ∀ {s s' s''}, R s s' → R s' s'' → R s s''

def Along (R : σ → σ → Prop) (x : StateM σ α) : Prop := ∀ s, R s (x s).2

namespace Along

variable {R : σ → σ → Prop}

theorem pure (hR : IsPreorder R) (a : α) : Along R (Pure.pure a : StateM σ α) := hR.refl

theorem bind (hR : IsPreorder R) {x : StateM σ α} {f : α → StateM σ β} (hx : Along R x)
    (hf : ∀ a, Along R (f a)) : Along R (x >>= f) :=
  fun s => hR.trans (hx s) (hf _ _)

theorem bind_or (hR : IsPreorder R) {c : Prop} [Decidable c] {x : StateM σ α} {f : α → StateM σ β}
    (hx : Along R x) (a : α) (hf : ∀ a, Along R (f a)) :
    Along R (if c then x >>= f else f a) := by
  split
  · exact bind hR hx hf
  · exact hf a

theorem attempt {x : Action σ α} (hx : Along R x) : Along R x.attempt := by
  intro s
  rw [Action.attempt_apply]
  exact hx s

theorem orFail {x : Action σ α} (hx : Along R x) (e : Error) : Along R (x.orFail e) := by
  intro s
  have h := hx s
  unfold Action.orFail
  rcases hs : x s with ⟨_ | _, s'⟩ <;> rw [hs] at h <;> exact h

theorem andThen (hR : IsPreorder R) {x : Action σ α} {f : α → Action σ β} (hx : Along R x)
    (hf : ∀ a, Along R (f a)) : Along R (x >>= f : Action σ β) := by
  refine bind hR (f := ExceptT.bindCont f) hx fun r => ?_
  cases r with
  | ok a => exact hf a
  | error e => exact hR.refl

end Along

def Gives (I : σ → Prop) (Q : α → Prop) (x : StateM σ α) : Prop :=
  ∀ s, I s → Q (x s).1 ∧ I (x s).2

namespace Gives

variable {I : σ → Prop}

theorem pure {Q : α → Prop} {a : α} (ha : Q a) : Gives I Q (Pure.pure a : StateM σ α) :=
  fun _ hs => ⟨ha, hs⟩

theorem bind {Q : α → Prop} {Q' : β → Prop} {x : StateM σ α} {f : α → StateM σ β}
    (hx : Gives I Q x) (hf : ∀ a, Q a → Gives I Q' (f a)) : Gives I Q' (x >>= f) :=
  fun s hs => hf (x s).1 (hx s hs).1 (x s).2 (hx s hs).2

end Gives

def Keeps (I : σ → Prop) (s s' : σ) : Prop := I s → I s'

theorem isPreorder_keeps (I : σ → Prop) : IsPreorder (Keeps I) where
  refl _ := id
  trans h h' := h' ∘ h

/-- What `p` tells of a state stays. -/
def Leaves (p : σ → α) (s s' : σ) : Prop := p s' = p s

theorem isPreorder_leaves (p : σ → α) : IsPreorder (Leaves p) where
  refl _ := rfl
  trans h h' := Eq.trans h' h

theorem Along.gives {I : σ → Prop} {x : StateM σ α} (hx : Along (Keeps I) x) :
    Gives I (fun _ => True) x :=
  fun s hs => ⟨trivial, hx s hs⟩

theorem Gives.along {I : σ → Prop} {Q : α → Prop} {x : StateM σ α} (hx : Gives I Q x) :
    Along (Keeps I) x :=
  fun s hs => (hx s hs).2

end Debuggee
