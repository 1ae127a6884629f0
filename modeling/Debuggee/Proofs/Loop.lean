import Debuggee.Action

/-!
What comes of loops that no number bounds. The body of a loop ends it with an answer, or goes on
from another place, or fails.
-/

namespace Debuggee.Action

variable {σ α β : Type}

def Settles (x : Action σ α) (s : σ) (P : α → Prop) (Q : Error → Prop) : Prop :=
  (∃ a, P a ∧ x s = (.ok a, s)) ∨ ∃ e, Q e ∧ x s = (.error e, s)

namespace Settles

variable {s : σ} {Q : Error → Prop}

theorem pure {a : α} {P : α → Prop} (h : P a) : Settles (Pure.pure a) s P Q := .inl ⟨a, h, rfl⟩

theorem bind {x : Action σ α} {f : α → Action σ β} {P : α → Prop} {R : β → Prop}
    (hx : Settles x s P Q) (hf : ∀ a, P a → Settles (f a) s R Q) : Settles (x >>= f) s R Q := by
  unfold Settles
  rw [bind_apply]
  rcases hx with ⟨a, ha, hx⟩ | ⟨e, he, hx⟩ <;> rw [hx]
  · exact hf a ha
  · exact .inr ⟨e, he, rfl⟩

theorem mono {x : Action σ α} {P P' : α → Prop} {Q' : Error → Prop} (h : Settles x s P Q)
    (hP : ∀ a, P a → P' a) (hQ : ∀ e, Q e → Q' e) : Settles x s P' Q' :=
  h.imp (fun ⟨a, ha, hx⟩ => ⟨a, hP a ha, hx⟩) fun ⟨e, he, hx⟩ => ⟨e, hQ e he, hx⟩

theorem of_eq_ok {x : Action σ α} {P : α → Prop} (h : Settles x s P Q) {a : α} {t : σ}
    (hx : x s = (.ok a, t)) : t = s ∧ P a := by
  rcases h with ⟨b, hb, h⟩ | ⟨e, -, h⟩ <;> cases hx.symm.trans h
  exact ⟨rfl, hb⟩

end Settles

abbrev Ending (σ α : Type) : Type := σ → Except Error α → σ → Prop

namespace Ending

def of (x : Action σ α) : Ending σ α := fun s r t => x s = (r, t)

inductive Then (X : Ending σ α) (F : α → Ending σ β) : Ending σ β
  | failed {s t : σ} {e : Error} : X s (.error e) t → Then X F s (.error e) t
  | went {s s' t : σ} {a : α} {r : Except Error β} : X s (.ok a) s' → F a s' r t → Then X F s r t

/-- From one place to the next, until the body ends the loop or fails. -/
inductive Loop (body : α → Action σ (α ⊕ β)) : α → Ending σ β
  | failed {a : α} {s t : σ} {e : Error} : body a s = (.error e, t) → Loop body a s (.error e) t
  | ended {a : α} {b : β} {s t : σ} : body a s = (.ok (.inr b), t) → Loop body a s (.ok b) t
  | again {a a' : α} {s s' t : σ} {r : Except Error β} : body a s = (.ok (.inl a'), s') →
      Loop body a' s' r t → Loop body a s r t

/-- In this state the one thing that may come of it is what the action does. -/
def IsThat (X : Ending σ α) (x : Action σ α) (s : σ) : Prop := ∀ r t, X s r t ↔ x s = (r, t)

variable {s : σ}

theorem isThat_of (x : Action σ α) (s : σ) : (of x).IsThat x s := fun _ _ => Iff.rfl

theorem IsThat.then {X : Ending σ α} {F : α → Ending σ β} {x : Action σ α}
    {f : α → Action σ β} (hX : X.IsThat x s)
    (hF : ∀ a s', x s = (.ok a, s') → (F a).IsThat (f a) s') : (Then X F).IsThat (x >>= f) s := by
  intro r t
  rw [bind_apply]
  rcases hx : x s with ⟨e | a, s'⟩
  · constructor
    · intro h
      cases h with
      | failed h =>
        cases hx.symm.trans ((hX _ _).1 h)
        rfl
      | went h => cases hx.symm.trans ((hX _ _).1 h)
    · rintro ⟨⟩
      exact .failed ((hX _ _).2 hx)
  · constructor
    · intro h
      cases h with
      | failed h => cases hx.symm.trans ((hX _ _).1 h)
      | went h h' =>
        cases hx.symm.trans ((hX _ _).1 h)
        exact (hF a s' hx _ _).1 h'
    · intro h
      exact .went ((hX _ _).2 hx) ((hF a s' hx _ _).2 h)

namespace Loop

variable {body : α → Action σ (α ⊕ β)} {a : α} {t t' : σ} {r r' : Except Error β}

theorem unique (h : Loop body a s r t) (h' : Loop body a s r' t') : r' = r ∧ t' = t := by
  induction h generalizing r' t' with
  | failed hbody =>
    cases h' with
    | failed hbody' =>
      cases hbody.symm.trans hbody'
      exact ⟨rfl, rfl⟩
    | ended hbody' | again hbody' => cases hbody.symm.trans hbody'
  | ended hbody =>
    cases h' with
    | ended hbody' =>
      cases hbody.symm.trans hbody'
      exact ⟨rfl, rfl⟩
    | failed hbody' | again hbody' => cases hbody.symm.trans hbody'
  | again hbody _ ih =>
    cases h' with
    | failed hbody' | ended hbody' => cases hbody.symm.trans hbody'
    | again hbody' h' =>
      cases hbody.symm.trans hbody'
      exact ih h'

def follow (bounded : Nat → α → Action σ β) (last : α → β) (depth : Nat) : α ⊕ β → Action σ β
  | .inr b => pure b
  | .inl a =>
    match depth with
    | 0 => pure (last a)
    | depth + 1 => bounded depth a

theorem isThat {bounded : Nat → α → Action σ β} {last : α → β} (room : α → Nat)
    (hbounded : ∀ depth a, bounded depth a = body a >>= follow bounded last depth)
    (hroom : ∀ {a a' s'}, body a s = (.ok (.inl a'), s') → s' = s ∧ room a = room a' + 1) (a : α) :
    (Loop body a).IsThat (bounded (room a) a) s := by
  have hrun : Loop body a s (bounded (room a) a s).1 (bounded (room a) a s).2 := by
    induction hdepth : room a generalizing a with
    | zero =>
      rw [hbounded, bind_apply]
      rcases hbody : body a s with ⟨e | a' | b, s'⟩
      · exact .failed hbody
      · have hnext := (hroom hbody).2
        omega
      · exact .ended hbody
    | succ depth ih =>
      rw [hbounded, bind_apply]
      rcases hbody : body a s with ⟨e | a' | b, s'⟩
      · exact .failed hbody
      · obtain ⟨rfl, hnext⟩ := hroom hbody
        exact .again hbody (ih a' (by omega))
      · exact .ended hbody
  intro r t
  constructor
  · intro h
    obtain ⟨hr, ht⟩ := h.unique hrun
    exact Prod.ext hr ht
  · intro h
    rwa [h] at hrun

section

variable {P : β → Prop} {Q : Error → Prop}

theorem ends_with {Inv : α → Prop}
    (hstep : ∀ a, Inv a → Settles (body a) s (Sum.elim Inv P) Q)
    (h : Loop body a s r t) (ha : Inv a) :
    t = s ∧ ((∃ b, P b ∧ r = .ok b) ∨ ∃ e, Q e ∧ r = .error e) := by
  induction h with
  | failed hbody =>
    rcases hstep _ ha with ⟨_, -, h⟩ | ⟨_, he, h⟩ <;> cases hbody.symm.trans h
    exact ⟨rfl, .inr ⟨_, he, rfl⟩⟩
  | ended hbody =>
    obtain ⟨rfl, hb⟩ := (hstep _ ha).of_eq_ok hbody
    exact ⟨rfl, .inl ⟨_, hb, rfl⟩⟩
  | again hbody _ ih =>
    obtain ⟨rfl, ha'⟩ := (hstep _ ha).of_eq_ok hbody
    exact ih hstep ha'

theorem settles (Inv : α → Prop) {x : Action σ β}
    (hstep : ∀ a, Inv a → Settles (body a) s (Sum.elim Inv P) Q)
    (hx : (Loop body a).IsThat x s) (ha : Inv a) : Settles x s P Q := by
  obtain ⟨ht, hends⟩ := ends_with hstep ((hx _ _).2 (Prod.eta _).symm) ha
  rcases hends with ⟨b, hb, hr⟩ | ⟨e, he, hr⟩
  · exact .inl ⟨b, hb, Prod.ext hr ht⟩
  · exact .inr ⟨e, he, Prod.ext hr ht⟩

end

end Loop

end Ending

end Debuggee.Action
