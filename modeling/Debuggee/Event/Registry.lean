import Debuggee.Event

/-!
Who waits for which events, and how events reach them. A handler is a program: whatever it does to
the registry or to the world it lives in, it does in steps. An event raised while another is being
delivered waits in a queue, so that the handlers of one event are never interrupted by another.
-/

namespace Debuggee

/-- What a handler does: nothing more, or one step and then the rest. -/
inductive Program (H W : Type) : Type
  | done : Program H W
  | raise : Event → Program H W → Program H W
  | subscribe : List Event → H → (Nat → Program H W) → Program H W
  | unsubscribe : Nat → (Bool → Program H W) → Program H W
  | effect : (W → W) → (W → Program H W) → Program H W

namespace Program

variable {H W : Type}

def andThen : Program H W → Program H W → Program H W
  | .done, q => q
  | .raise e p, q => .raise e (p.andThen q)
  | .subscribe events h p, q => .subscribe events h fun id => (p id).andThen q
  | .unsubscribe id p, q => .unsubscribe id fun found => (p found).andThen q
  | .effect f p, q => .effect f fun w => (p w).andThen q

def change (f : W → W) : Program H W := .effect f fun _ => .done

@[simp] theorem andThen_done (p : Program H W) : p.andThen .done = p := by
  induction p with
  | done => rfl
  | raise e p ih => simp only [andThen, ih]
  | subscribe events h p ih => simp only [andThen, ih]
  | unsubscribe id p ih => simp only [andThen, ih]
  | effect f p ih => simp only [andThen, ih]

end Program

structure Subscription (H : Type) : Type where
  id : Nat
  events : List Event
  handler : H

structure Registry (H : Type) : Type where
  subscriptions : List (Subscription H) := []
  nextId : Nat := 0
  pending : List Event := []
  dispatching : Bool := false

namespace Registry

variable {H W : Type}

def empty : Registry H := {}

def size (r : Registry H) : Nat := r.subscriptions.length

def subscribe (r : Registry H) (events : List Event) (handler : H) : Nat × Registry H :=
  (r.nextId, { r with
    subscriptions := r.subscriptions ++ [⟨r.nextId, events, handler⟩]
    nextId := r.nextId + 1 })

def knows (r : Registry H) (id : Nat) : Bool := r.subscriptions.any (·.id == id)

def unsubscribe (r : Registry H) (id : Nat) : Bool × Registry H :=
  (r.knows id, { r with subscriptions := r.subscriptions.filter (·.id != id) })

def raise (r : Registry H) (e : Event) : Registry H := { r with pending := r.pending ++ [e] }

def waiting (r : Registry H) (e : Event) : List H :=
  (r.subscriptions.filter (·.events.contains e)).map (·.handler)

def perform : Program H W → Registry H → W → Registry H × W
  | .done, r, w => (r, w)
  | .raise e p, r, w => perform p (r.raise e) w
  | .subscribe events h p, r, w => perform (p (r.subscribe events h).1) (r.subscribe events h).2 w
  | .unsubscribe id p, r, w => perform (p (r.unsubscribe id).1) (r.unsubscribe id).2 w
  | .effect f p, r, w => perform (p (f w)) r (f w)

def call (react : H → Event → Program H W) (e : Event) :
    List H → Registry H → W → Registry H × W
  | [], r, w => (r, w)
  | h :: hs, r, w =>
    let (r, w) := perform (react h e) r w
    call react e hs r w

def deliver (react : H → Event → Program H W) (e : Event) (r : Registry H) (w : W) :
    Registry H × W :=
  call react e (r.waiting e) r w

def drain (react : H → Event → Program H W) : Nat → Registry H → W → Option (Registry H × W)
  | limit, r, w =>
    match r.pending, limit with
    | [], _ => some ({ r with dispatching := false }, w)
    | _ :: _, 0 => none
    | e :: rest, limit + 1 =>
      let (r, w) := deliver react e { r with pending := rest } w
      drain react limit r w

/--
Raises an event from outside, which delivers it and all that is raised on the way, or from inside
a delivery, which queues it.
-/
def dispatch (react : H → Event → Program H W) (limit : Nat) (e : Event)
    (r : Registry H) (w : W) : Option (Registry H × W) :=
  if r.dispatching then some (r.raise e, w)
  else drain react limit { r.raise e with dispatching := true } w

@[simp] theorem size_subscribe (r : Registry H) (events : List Event) (h : H) :
    (r.subscribe events h).2.size = r.size + 1 := by
  simp [subscribe, size]

@[simp] theorem knows_unsubscribe (r : Registry H) (id : Nat) :
    (r.unsubscribe id).2.knows id = false := by
  simp [unsubscribe, knows]

theorem perform_andThen (p q : Program H W) (r : Registry H) (w : W) :
    perform (p.andThen q) r w = perform q (perform p r w).1 (perform p r w).2 := by
  induction p generalizing r w with
  | done => rfl
  | raise e p ih => exact ih _ _
  | subscribe events h p ih => exact ih _ _ _
  | unsubscribe id p ih => exact ih _ _ _
  | effect f p ih => exact ih _ _ _

theorem call_append (react : H → Event → Program H W) (e : Event) (hs hs' : List H)
    (r : Registry H) (w : W) :
    call react e (hs ++ hs') r w =
      call react e hs' (call react e hs r w).1 (call react e hs r w).2 := by
  induction hs generalizing r w with
  | nil => rfl
  | cons h hs ih => exact ih _ _

theorem idle_of_drain {react : H → Event → Program H W} {limit : Nat} {r r' : Registry H}
    {w w' : W} (h : drain react limit r w = some (r', w')) :
    r'.pending = [] ∧ r'.dispatching = false := by
  fun_induction drain react limit r w with
  | case1 limit r w hp =>
    cases h
    exact ⟨hp, rfl⟩
  | case2 => cases h
  | case3 e rest limit r w r₁ w₁ _ hd ih => exact ih h

end Registry

end Debuggee
