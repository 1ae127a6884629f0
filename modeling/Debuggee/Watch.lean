import Debuggee.Debugger

namespace Debuggee

/-- Watchers are numbered, so that each raises its further event once. -/
structure Watcher : Type where
  number : Nat
  tag : String
  register : Option String
  further : Option Event
  deriving DecidableEq, Repr

structure Notice : Type where
  name : String
  refuses : Bool
  deriving DecidableEq, Repr

inductive Entry : Type
  | saw : String → Event → Entry
  | read : String → Event → Option UInt64 → Entry
  | called : String → String → String → Bool → Entry
  deriving DecidableEq, Repr

structure Journal : Type where
  entries : List Entry := []
  observer : Option Nat := none
  due : List Nat := []
  deriving DecidableEq, Repr

namespace Journal

def note (entry : Entry) (j : Journal) : Journal := { j with entries := entry :: j.entries }

def spend (number : Nat) (j : Journal) : Journal := { j with due := j.due.erase number }

def take (j : Journal) : List Entry × Journal := (j.entries.reverse, { j with entries := [] })

end Journal

namespace Watch

def extension : Extension := ⟨Watcher, Notice, Journal⟩

variable {σ ν τ : Type} (E : Engine σ ν τ)

def modifyJournal (f : Journal → Journal) (w : World σ extension) : World σ extension :=
  { w with state := f w.state }

def journal (w : World σ extension) : Journal := w.state

/-- Without an observer no register has a value. -/
def write (h : Watcher) (e : Event) (w : World σ extension) : World σ extension :=
  match h.register, (journal w).observer with
  | none, _ => modifyJournal (.note (.saw h.tag e)) w
  | some _, none => modifyJournal (.note (.read h.tag e none)) w
  | some register, some number =>
    let (value, w) := w.look number (Registers.get E register)
    modifyJournal (.note (.read h.tag e value.join)) w

def react (h : Watcher) (e : Event) : Program (Handler extension) (World σ extension) :=
  .effect (write E h e) fun w =>
    match h.further with
    | none => .done
    | some further =>
      if (journal w).due.contains h.number then
        .effect (modifyJournal (.spend h.number)) fun _ => .raise further .done
      else .done

def run (c : Notice) (arguments : String) (typed : Bool) : Action (Debugger σ extension) Unit := do
  let address ← Debugger.onEngine (Action.ofState (E.addressText 0x10))
  let entry : Entry := .called c.name address arguments typed
  modify fun d => { d with world := modifyJournal (.note entry) d.world }
  if c.refuses then throw (.invalidArgument arguments)

def behavior : Behavior σ extension where
  react := react E
  budget := fun (j : Journal) => j.due.length
  run := run E

end Watch

end Debuggee
