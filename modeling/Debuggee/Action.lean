import Debuggee.Error

namespace Debuggee

/-- From a state to an answer or an error, and a state. -/
abbrev Action (σ α : Type) : Type := ExceptT Error (StateM σ) α

namespace Action

variable {σ τ α β : Type}

def ask (f : σ → α) : Action σ α := fun s => (.ok (f s), s)

def query (f : σ → Except Error α) : Action σ α := fun s => (f s, s)

def change (f : σ → σ) : Action σ Unit := fun s => (.ok (), f s)

def fail (e : Error) : Action σ α := fun s => (.error e, s)

def attempt (x : Action σ α) : StateM σ (Option α) := fun s =>
  match x s with
  | (.ok a, s) => (some a, s)
  | (.error _, s) => (none, s)

def orFail (x : Action σ α) (e : Error) : Action σ α := fun s =>
  match x s with
  | (.ok a, s) => (.ok a, s)
  | (.error _, s) => (.error e, s)

def ofState (x : StateM σ α) : Action σ α := fun s =>
  let (a, s) := x s
  (.ok a, s)

def thenAlways (x : Action σ α) (after : Action σ β) : Action σ α := fun s =>
  let (r, s) := x s
  (r, (after s).2)

def within (get : τ → σ) (put : σ → τ → τ) (x : Action σ α) : Action τ α := fun t =>
  let (r, s) := x (get t)
  (r, put s t)

@[simp] theorem pure_apply (a : α) (s : σ) : (pure a : Action σ α) s = (.ok a, s) := rfl

@[simp] theorem throw_apply (e : Error) (s : σ) : (throw e : Action σ α) s = (.error e, s) := rfl

@[simp] theorem bind_apply (x : Action σ α) (f : α → Action σ β) (s : σ) :
    (x >>= f) s = match x s with
      | (.ok a, s) => f a s
      | (.error e, s) => (.error e, s) := by
  show (ExceptT.bind x f) s = _
  rcases h : x s with ⟨_ | _, _⟩
  · simp [ExceptT.bind, ExceptT.bindCont, ExceptT.mk, bind, StateT.bind, h]
    rfl
  · simp [ExceptT.bind, ExceptT.bindCont, ExceptT.mk, bind, StateT.bind, h]

@[simp] theorem map_apply (f : α → β) (x : Action σ α) (s : σ) :
    (f <$> x) s = match x s with
      | (.ok a, s) => (.ok (f a), s)
      | (.error e, s) => (.error e, s) := by
  show (ExceptT.map f x) s = _
  rcases h : x s with ⟨_ | _, _⟩ <;>
    simp [ExceptT.map, ExceptT.mk, bind, StateT.bind, h] <;> rfl

@[simp] theorem ask_apply (f : σ → α) (s : σ) : ask f s = (.ok (f s), s) := rfl

@[simp] theorem query_apply (f : σ → Except Error α) (s : σ) : query f s = (f s, s) := rfl

@[simp] theorem change_apply (f : σ → σ) (s : σ) : change f s = (.ok (), f s) := rfl

@[simp] theorem fail_apply (e : Error) (s : σ) : (fail e : Action σ α) s = (.error e, s) := rfl

theorem attempt_apply (x : Action σ α) (s : σ) : x.attempt s = ((x s).1.toOption, (x s).2) := by
  unfold attempt
  split <;> simp_all [Except.toOption]

theorem ofState_apply (x : StateM σ α) (s : σ) : ofState x s = (.ok (x s).1, (x s).2) := rfl

theorem within_apply (get : τ → σ) (put : σ → τ → τ) (x : Action σ α) (t : τ) :
    x.within get put t = ((x (get t)).1, put (x (get t)).2 t) := rfl

@[simp] theorem snd_thenAlways (x : Action σ α) (after : Action σ β) (s : σ) :
    (x.thenAlways after s).2 = (after (x s).2).2 := rfl

@[simp] theorem fst_thenAlways (x : Action σ α) (after : Action σ β) (s : σ) :
    (x.thenAlways after s).1 = (x s).1 := rfl

end Action

end Debuggee
