import Debuggee.Auxv
import Debuggee.Cache
import Debuggee.Config
import Debuggee.Process

namespace Debuggee

structure RegisterPlace : Type where
  ptid : Option Ptid
  level : Option Nat
  name : String
  deriving DecidableEq, Repr

structure Caches : Type where
  values : Cache RegisterPlace (Option UInt64) := {}
  bases : Cache (Option Ptid × Segment) UInt64 := {}
  descriptors : Cache String (Option UInt64) := {}
  readable : Cache Address Bool := {}
  upper : Cache (Address × Nat) Address := {}
  lower : Cache (Address × Nat) Address := {}
  auxv : Cache Unit Auxv := {}

namespace Caches

def empty : Caches := {}

def onEvent (c : Caches) (e : Event) : Caches where
  values := c.values.after [.stop, .prompt, .registerChanged] e
  bases := c.bases.after [.stop] e
  descriptors := c.descriptors.after [.stop] e
  readable := c.readable.after [.stop] e
  upper := c.upper.after [.stop] e
  lower := c.lower.after [.stop] e
  auxv := c.auxv.after [.start, .newModule] e

end Caches

structure Table (κ α : Type) : Type where
  get : Caches → Cache κ α
  put : Cache κ α → Caches → Caches

namespace Table

def values : Table RegisterPlace (Option UInt64) :=
  ⟨Caches.values, fun t c => { c with values := t }⟩
def bases : Table (Option Ptid × Segment) UInt64 := ⟨Caches.bases, fun t c => { c with bases := t }⟩
def descriptors : Table String (Option UInt64) :=
  ⟨Caches.descriptors, fun t c => { c with descriptors := t }⟩
def readable : Table Address Bool := ⟨Caches.readable, fun t c => { c with readable := t }⟩
def upper : Table (Address × Nat) Address := ⟨Caches.upper, fun t c => { c with upper := t }⟩
def lower : Table (Address × Nat) Address := ⟨Caches.lower, fun t c => { c with lower := t }⟩
def auxv : Table Unit Auxv := ⟨Caches.auxv, fun t c => { c with auxv := t }⟩

end Table

abbrev Snapshot := List (String × Option UInt64)

structure Observer : Type where
  config : Config
  caches : Caches := {}
  last : Snapshot := []
  previous : Snapshot := []

structure View (σ : Type) : Type where
  observer : Observer
  engine : σ

namespace View

variable {σ κ α : Type}

def ask (x : StateM σ α) : StateM (View σ) α := fun v =>
  let (a, s) := x v.engine
  (a, { v with engine := s })

def act (x : Action σ α) : Action (View σ) α :=
  x.within (·.engine) fun s v => { v with engine := s }

def modifyCaches (f : Caches → Caches) : StateM (View σ) Unit :=
  modify fun v => { v with observer := { v.observer with caches := f v.observer.caches } }

def remembered [DecidableEq κ] (t : Table κ α) (k : κ) (compute : StateM (View σ) α) :
    StateM (View σ) α := do
  match (t.get (← get).observer.caches).get? k with
  | some a => return a
  | none =>
    let a ← compute
    modifyCaches fun c => t.put ((t.get c).insert k a) c
    return a

theorem remembered_of_get? [DecidableEq κ] {t : Table κ α} {k : κ} {compute : StateM (View σ) α}
    {v : View σ} {a : α} (h : (t.get v.observer.caches).get? k = some a) :
    remembered t k compute v = (a, v) := by
  show (match (t.get v.observer.caches).get? k with
    | some a => (pure a : StateM (View σ) α)
    | none => _) v = _
  rw [h]
  rfl

theorem remembered_of_get?_eq_none [DecidableEq κ] {t : Table κ α} {k : κ}
    {compute : StateM (View σ) α} {v : View σ} (h : (t.get v.observer.caches).get? k = none) :
    remembered t k compute v =
      ((compute v).1,
        (modifyCaches (fun c => t.put ((t.get c).insert k (compute v).1) c) (compute v).2).2) := by
  show (match (t.get v.observer.caches).get? k with
    | some a => (pure a : StateM (View σ) α)
    | none => _) v = _
  rw [h]
  rfl

end View

end Debuggee
