import Debuggee.Event.Registry

namespace Debuggee

namespace Counted

inductive Act : Type
  | dispatch : Event → Act
  | unsubscribe : String → Act
  | subscribe : String → List Event → List (Event × Nat × Act) → Act

abbrev Rule := Event × Nat × Act

mutual

/-- How many events an action can cause to be raised each time it is used. -/
def Act.weight : Act → Nat
  | .dispatch _ => 1
  | .unsubscribe _ => 0
  | .subscribe _ _ rules => weightAll rules

def weightAll : List (Event × Nat × Act) → Nat
  | [] => 0
  | rule :: rules => weightOne rule + weightAll rules

def weightOne : Event × Nat × Act → Nat
  | (_, uses, act) => uses * act.weight

end

structure Handler : Type where
  tag : String
  rules : List Rule

structure World : Type where
  handlers : List Handler := []
  ids : List (String × Nat) := []
  log : List String := []

namespace World

def write (w : World) (line : String) : World := { w with log := w.log ++ [line] }

def bind (w : World) (tag : String) (id : Nat) : World := { w with ids := (tag, id) :: w.ids }

def add (w : World) (tag : String) (rules : List Rule) : World :=
  { w with handlers := w.handlers ++ [⟨tag, rules⟩] }

def rules (w : World) (handler : Nat) : List Rule := (w.handlers[handler]?.map (·.rules)).getD []

def tag (w : World) (handler : Nat) : String := (w.handlers[handler]?.map (·.tag)).getD ""

def spend (w : World) (handler rule : Nat) : World :=
  { w with handlers := w.handlers.modify handler fun h =>
      { h with rules := h.rules.modify rule fun (e, uses, act) => (e, uses - 1, act) } }

/-- The events that the handlers can still raise, or cause to be raised. -/
def budget (w : World) : Nat := w.handlers.foldr (fun h n => weightAll h.rules + n) 0

end World

def performAct : Act → World → Program Nat World
  | .dispatch e, _ => .raise e .done
  | .unsubscribe tag, w =>
    match w.ids.lookup tag with
    | none => .change (·.write "gone:false")
    | some id => .unsubscribe id fun found => .change (·.write s!"gone:{found}")
  | .subscribe tag events rules, w =>
    .subscribe events w.handlers.length fun id => .change fun w => (w.add tag rules).bind tag id

def performRule (handler : Nat) (e : Event) (rule : Nat) : Program Nat World :=
  .effect id fun w =>
    match (w.rules handler)[rule]? with
    | some (on, _ + 1, act) =>
      if on = e then .effect (·.spend handler rule) (performAct act) else .done
    | _ => .done

def react (handler : Nat) (e : Event) : Program Nat World :=
  .effect (fun w => w.write (w.tag handler ++ ":" ++ e.text)) fun w =>
    ((List.range (w.rules handler).length).map (performRule handler e)).foldr .andThen .done

structure Registry : Type where
  registry : Debuggee.Registry Nat := {}
  world : World := {}

namespace Registry

def subscribe (r : Registry) (tag : String) (events : List Event) (rules : List Rule) :
    Nat × Registry :=
  let (id, registry) := r.registry.subscribe events r.world.handlers.length
  (id, ⟨registry, (r.world.add tag rules).bind tag id⟩)

def unsubscribe (r : Registry) (tag : String) : Bool × Registry :=
  match r.world.ids.lookup tag with
  | none => (false, r)
  | some id =>
    let (found, registry) := r.registry.unsubscribe id
    (found, { r with registry })

def dispatch (r : Registry) (e : Event) : Registry :=
  match r.registry.dispatch react (r.world.budget + 1) e r.world with
  | some (registry, world) => ⟨registry, world⟩
  | none => r

def takeLog (r : Registry) : List String × Registry :=
  (r.world.log, { r with world := { r.world with log := [] } })

end Registry

end Counted

end Debuggee
