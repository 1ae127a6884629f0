import Debuggee.Proofs.Along

/-!
Two programs on states that stand for each other. Where each step of the one agrees with a step of
the other, they agree as a whole: from such states they come to such states, and to answers that
are equal or stand for each other too.
-/

namespace Debuggee

variable {σ ρ α α' β β' : Type}

def Matches (S : σ → ρ → Prop) (A : α → α' → Prop) (x : StateM σ α) (y : StateM ρ α') : Prop :=
  ∀ s t, S s t → A (x s).1 (y t).1 ∧ S (x s).2 (y t).2

def Concur (S : σ → ρ → Prop) (x : StateM σ α) (y : StateM ρ α) : Prop := Matches S Eq x y

/-- The same error, or answers that stand for each other. -/
inductive Outcomes (A : α → α' → Prop) : Except Error α → Except Error α' → Prop
  | ok {a : α} {b : α'} : A a b → Outcomes A (.ok a) (.ok b)
  | error (e : Error) : Outcomes A (.error e) (.error e)

variable {S : σ → ρ → Prop}

namespace Matches

variable {A : α → α' → Prop} {B : β → β' → Prop}

theorem pure {a : α} {b : α'} (h : A a b) :
    Matches S A (Pure.pure a : StateM σ α) (Pure.pure b : StateM ρ α') :=
  fun _ _ hs => ⟨h, hs⟩

theorem bind {x : StateM σ α} {y : StateM ρ α'} {f : α → StateM σ β} {g : α' → StateM ρ β'}
    (hx : Matches S A x y) (hf : ∀ a b, A a b → Matches S B (f a) (g b)) :
    Matches S B (x >>= f) (y >>= g) :=
  fun s t hs => hf _ _ (hx s t hs).1 _ _ (hx s t hs).2

theorem attempt {x : Action σ α} {y : Action ρ α'} (hx : Matches S (Outcomes A) x y) :
    Matches S (Option.Rel A) x.attempt y.attempt := by
  intro s t hs
  obtain ⟨hanswer, hstate⟩ := hx s t hs
  rw [Action.attempt_apply, Action.attempt_apply]
  refine ⟨?_, hstate⟩
  generalize (x s).1 = r, (y t).1 = r' at hanswer
  cases hanswer with
  | ok h => exact .some h
  | error e => exact .none

theorem andThen {x : Action σ α} {y : Action ρ α'} {f : α → Action σ β} {g : α' → Action ρ β}
    (hx : Matches S (Outcomes A) x y) (hf : ∀ a b, A a b → Concur S (f a) (g b)) :
    Concur S (x >>= f : Action σ β) (y >>= g : Action ρ β) := by
  refine bind (f := ExceptT.bindCont f) (g := ExceptT.bindCont g) hx ?_
  rintro _ _ (h | e)
  · exact hf _ _ h
  · exact pure rfl

end Matches

theorem Outcomes.refl {A : α → α → Prop} (hA : ∀ a, A a a) (r : Except Error α) :
    Outcomes A r r := by
  cases r with
  | ok a => exact .ok (hA a)
  | error e => exact .error e

namespace Concur

theorem pure (a : α) : Concur S (Pure.pure a : StateM σ α) (Pure.pure a : StateM ρ α) :=
  Matches.pure rfl

theorem ok (a : α) : Concur S (Pure.pure a : Action σ α) (Pure.pure a : Action ρ α) :=
  Matches.pure rfl

theorem throw (e : Error) : Concur S (throw e : Action σ α) (throw e : Action ρ α) :=
  Matches.pure rfl

theorem ask {f : σ → α} {g : ρ → α} (h : ∀ s t, S s t → f s = g t) :
    Concur S (Action.ask f) (Action.ask g) :=
  fun s t hs => ⟨congrArg _ (h s t hs), hs⟩

theorem bind {x : StateM σ α} {y : StateM ρ α} {f : α → StateM σ β} {g : α → StateM ρ β}
    (hx : Concur S x y) (hf : ∀ a, Concur S (f a) (g a)) : Concur S (x >>= f) (y >>= g) :=
  Matches.bind hx fun a _ h => h ▸ hf a

theorem bind_or {c : Prop} [Decidable c] {x : StateM σ α} {y : StateM ρ α} {f : α → StateM σ β}
    {g : α → StateM ρ β} (hx : Concur S x y) (a : α) (hf : ∀ a, Concur S (f a) (g a)) :
    Concur S (if c then x >>= f else f a) (if c then y >>= g else g a) := by
  split
  · exact bind hx hf
  · exact hf a

theorem get_bind {f : σ → StateM σ α} {g : ρ → StateM ρ α}
    (h : ∀ s t, S s t → Concur S (f s) (g t)) : Concur S (get >>= f) (get >>= g) :=
  fun s t hs => h s t hs s t hs

theorem attempt {x : Action σ α} {y : Action ρ α} (hx : Concur S x y) :
    Concur S x.attempt y.attempt := by
  intro s t hs
  rw [Action.attempt_apply, Action.attempt_apply, (hx s t hs).1]
  exact ⟨rfl, (hx s t hs).2⟩

theorem orFail {x : Action σ α} {y : Action ρ α} (hx : Concur S x y) (e : Error) :
    Concur S (x.orFail e) (y.orFail e) := by
  intro s t hs
  obtain ⟨hanswer, hstate⟩ := hx s t hs
  unfold Action.orFail
  rcases hx : x s with ⟨r, s'⟩
  rcases hy : y t with ⟨r', t'⟩
  rw [hx, hy] at hanswer hstate
  obtain rfl : r = r' := hanswer
  cases r <;> exact ⟨rfl, hstate⟩

theorem of_refl {A : α → α → Prop} {x : StateM σ α} {y : StateM ρ α} (hx : Concur S x y)
    (hA : ∀ a, A a a) : Matches S A x y :=
  fun s t hs => ⟨(hx s t hs).1 ▸ hA _, (hx s t hs).2⟩

theorem ofState {x : StateM σ α} {y : StateM ρ α} (hx : Concur S x y) :
    Concur S (Action.ofState x) (Action.ofState y) :=
  fun s t hs => ⟨congrArg Except.ok (hx s t hs).1, (hx s t hs).2⟩

theorem andThen {x : Action σ α} {y : Action ρ α} {f : α → Action σ β} {g : α → Action ρ β}
    (hx : Concur S x y) (hf : ∀ a, Concur S (f a) (g a)) :
    Concur S (x >>= f : Action σ β) (y >>= g : Action ρ β) :=
  (hx.of_refl (Outcomes.refl fun _ => rfl)).andThen fun a _ h => h ▸ hf a

end Concur

/-- The same state twice, to which `R` leads from `s`. -/
def Reached (R : σ → σ → Prop) (s t u : σ) : Prop := t = u ∧ R s t

theorem Along.concur {R : σ → σ → Prop} (hR : IsPreorder R) {x : StateM σ α} (hx : Along R x)
    (s : σ) : Concur (Reached R s) x x := by
  rintro t _ ⟨rfl, ht⟩
  exact ⟨rfl, rfl, hR.trans ht (hx t)⟩

/-- What holds of the single steps of a program it is enough to know of two that concur. -/
theorem Along.of_matches {R : σ → σ → Prop} (hR : IsPreorder R) {A : α → α → Prop}
    {x : StateM σ α} (hx : ∀ s, Matches (Reached R s) A x x) : Along R x :=
  fun s => (hx s s s ⟨rfl, hR.refl s⟩).2.2

end Debuggee
