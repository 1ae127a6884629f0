import Debuggee.Proofs.Auxv.Quiet
import Debuggee.Proofs.Registers.Remembered

namespace Debuggee.Registers

variable {σ ν τ : Type}

inductive Reading : Type
  | get : String → Reading
  | lookup : String → Reading
  | items : Reading
  | pc : Reading
  | sp : Reading
  | changed : Reading

inductive Answer : Type
  | value : Option UInt64 → Answer
  | snapshot : Snapshot → Answer
  | names : List String → Answer

inductive Use : Type
  | read : Reading → Use
  | write : String → UInt64 → Use
  | base : Segment → Use
  | interruptTable : Use
  | interruptTableLimit : Use
  | instructionSet : Use
  | isReadable : Address → Use
  | upper : Address → Option Nat → Use
  | lower : Address → Option Nat → Use
  | string : Address → Option Nat → Use
  | auxv : Use
  | invalidate : Use

/--
What can happen to an observer and its engine. Whatever no other incident is changes the engine: so
do threads and frames that are selected, and the debuggee when it runs.
-/
inductive Incident (σ : Type) : Type
  | forget : Event → Incident σ
  | snapshot : Incident σ
  | reset : Incident σ
  | use : Use → Incident σ
  | change : (σ → σ) → Incident σ

section

variable (E : Engine σ ν τ)

def Incident.switchThread (t : Thread) : Incident σ := .change fun s => (E.switchThread t s).2

def Incident.selectFrame (f : Frame) : Incident σ := .change fun s => (E.selectFrame f s).2

def Reading.perform : Reading → StateM (View σ) Answer
  | .get name => return .value (← Registers.get E name)
  | .lookup name => return .value (← Registers.lookup E name)
  | .items => return .snapshot (← Registers.items E)
  | .pc => return .value (← Registers.pc E)
  | .sp => return .value (← Registers.sp E)
  | .changed => return .names (← Registers.changed E)

def Use.perform (v : View σ) : Use → View σ
  | .read r => (r.perform E v).2
  | .write name value => (Registers.write E name value v).2
  | .base segment => (segmentBase E segment v).2
  | .interruptTable => (Registers.interruptTable E v).2
  | .interruptTableLimit => (Registers.interruptTableLimit E v).2
  | .instructionSet => (Registers.instructionSet E v).2
  | .isReadable a => (Boundary.isReadable E a v).2
  | .upper a max? => (Boundary.upper E a max? v).2
  | .lower a max? => (Boundary.lower E a max? v).2
  | .string a max? => (Boundary.stringBuffered E a max? v).2
  | .auxv => (AuxvSource.get E v).2
  | .invalidate => (View.modifyCaches (fun _ => .empty) v).2

def Incident.perform (v : View σ) : Incident σ → View σ
  | .forget e => (View.modifyCaches (·.onEvent e) v).2
  | .snapshot => (snapshotCommon E v).2
  | .reset => (Registers.reset v).2
  | .use u => u.perform E v
  | .change f => { v with engine := f v.engine }

def lived (v : View σ) : List (Incident σ) → View σ
  | [] => v
  | i :: past => i.perform E (lived v past)

def attached (config : Config) (s : σ) : View σ := ⟨{ config }, s⟩

/-- What an event does to an observer: it forgets, and when the debuggee runs or halts it takes a
snapshot. -/
def hear (e : Event) : StateM (View σ) Unit := do
  View.modifyCaches (·.onEvent e)
  if e = .continue ∨ e = .stop then snapshotCommon E

end

def dueAt (e : Event) : List (Incident σ) :=
  if e = .continue ∨ e = .stop then [.snapshot, .forget e] else [.forget e]

variable {E : Engine σ ν τ}

theorem lived_append (v : View σ) (later past : List (Incident σ)) :
    lived E v (later ++ past) = lived E (lived E v past) later := by
  induction later with
  | nil => rfl
  | cons i later ih => exact congrArg (i.perform E) ih

theorem lived_dueAt (e : Event) (v : View σ) : lived E v (dueAt e) = (hear E e v).2 := by
  by_cases he : e = .continue ∨ e = .stop
  · rw [dueAt, if_pos he]
    simp only [hear, he, if_true]
    rfl
  · rw [dueAt, if_neg he]
    simp only [hear, he, if_false]
    rfl

theorem values_onEvent (c : Caches) (e : Event) :
    (c.onEvent e).values = .empty ∧ e ∈ [Event.stop, .prompt, .registerChanged] ∨
      (c.onEvent e).values = c.values ∧ e ∉ [Event.stop, .prompt, .registerChanged] := by
  cases e <;> simp [Caches.onEvent, Cache.after, Cache.clear, Cache.empty]

theorem write_apply (name : String) (value : UInt64) (v : View σ) :
    write E name value v =
      match E.frame? v.engine with
      | (none, s) => (.error .noFrame, ⟨v.observer, s⟩)
      | (some f, s) =>
        match E.writeRegister f (RegisterName.bare name) value s with
        | (.ok true, s) => (.ok (), ⟨{ v.observer with caches := { v.observer.caches with
            values := v.observer.caches.values.clear,
            bases := v.observer.caches.bases.clear } }, s⟩)
        | (.ok false, s) => (.error (.invalidArgument
            s!"no register named '{RegisterName.bare name}'"), ⟨v.observer, s⟩)
        | (.error e, s) => (.error e, ⟨v.observer, s⟩) := by
  have hask : View.ask E.frame? v = ((E.frame? v.engine).1, ⟨v.observer, (E.frame? v.engine).2⟩) :=
    rfl
  unfold write
  rw [Action.bind_apply, Action.ofState_apply, hask]
  dsimp only
  rcases E.frame? v.engine with ⟨_ | f, s⟩
  · rfl
  · dsimp only
    rw [Action.bind_apply, View.act, Action.within_apply]
    rcases E.writeRegister f (RegisterName.bare name) value s with ⟨_ | _ | _, s'⟩ <;> rfl

theorem write_cases (name : String) (value : UInt64) (v : View σ) :
    (write E name value v).1 = .ok () ∧
        (write E name value v).2.observer = { v.observer with
          caches := { v.observer.caches with values := .empty, bases := .empty } } ∨
      (∃ e, (write E name value v).1 = .error e) ∧
        (write E name value v).2.observer = v.observer := by
  rw [write_apply]
  rcases E.frame? v.engine with ⟨_ | f, s⟩
  · exact .inr ⟨⟨_, rfl⟩, rfl⟩
  · dsimp only
    rcases E.writeRegister f (RegisterName.bare name) value s with ⟨e | _ | _, s'⟩
    · exact .inr ⟨⟨_, rfl⟩, rfl⟩
    · exact .inr ⟨⟨_, rfl⟩, rfl⟩
    · exact .inl ⟨rfl, rfl⟩

theorem write_of_frame? {name : String} {value : UInt64} {f : Frame} {s : σ}
    (hf : E.frame? v.engine = (some f, s))
    (hok : (E.writeRegister f (RegisterName.bare name) value s).1.toOption = some true) :
    (write E name value v).1 = .ok () ∧ (write E name value v).2.engine =
      (E.writeRegister f (RegisterName.bare name) value s).2 := by
  rw [write_apply, hf]
  dsimp only
  revert hok
  rcases E.writeRegister f (RegisterName.bare name) value s with ⟨_ | _ | _, s'⟩
  · exact nofun
  · exact nofun
  · exact fun _ => ⟨rfl, rfl⟩

end Debuggee.Registers
