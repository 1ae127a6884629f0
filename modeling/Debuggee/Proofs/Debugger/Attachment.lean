import Debuggee.Debugger
import Debuggee.Proofs.Event.Run
import Debuggee.Proofs.Registers.Run

namespace Debuggee

variable {σ ν τ α β : Type} {X : Extension}

namespace Stage

variable {R : Type}

def debugger (m : Stage R (Handler X) (World σ X)) : Debugger σ X :=
  { world := m.world, registry := m.registry }

def ofDebugger (record : R) (d : Debugger σ X) : Stage R (Handler X) (World σ X) :=
  ⟨record, d.registry, d.world⟩

end Stage

namespace World

def putView (w : World σ X) (number : Nat) (v : View σ) : World σ X :=
  { w.putObserver number v.observer with engine := v.engine }

theorem attachment?_putView (w : World σ X) (number : Nat) (v : View σ) :
    (w.putView number v).attachment? number =
      (w.attachment? number).map ({ · with observer := v.observer }) := by
  unfold attachment? putView putObserver
  induction w.attachments with
  | nil => rfl
  | cons a rest ih =>
    by_cases h : a.number = number
    · simp [h]
    · simpa [h] using ih

theorem putObserver_putObserver (w : World σ X) (number : Nat) (o o' : Observer) :
    (w.putObserver number o).putObserver number o' = w.putObserver number o' := by
  unfold putObserver
  rw [List.map_map]
  congr 2
  funext a
  by_cases h : a.number = number <;> simp [h]

theorem putView_putView (w : World σ X) (number : Nat) (v v' : View σ) :
    (w.putView number v).putView number v' = w.putView number v' := by
  show { (w.putObserver number v.observer).putObserver number v'.observer with
    engine := v'.engine } = w.putView number v'
  rw [putObserver_putObserver]
  rfl

theorem look_of_attachment? {w : World σ X} {number : Nat} {a : Attachment}
    (h : w.attachment? number = some a) (x : StateM (View σ) α) :
    w.look number x =
      (some (x ⟨a.observer, w.engine⟩).1, w.putView number (x ⟨a.observer, w.engine⟩).2) := by
  rw [look, h]
  rfl

theorem look_look (w : World σ X) (number : Nat) (x : StateM (View σ) α) (y : StateM (View σ) β) :
    ((w.look number x).2.look number y).2 = (w.look number (do let _ ← x; y)).2 := by
  cases h : w.attachment? number with
  | none => simp only [look, h]
  | some a =>
    have hput (v : View σ) :
        (w.putView number v).attachment? number = some { a with observer := v.observer } := by
      rw [attachment?_putView, h, Option.map_some]
    rw [look_of_attachment? h, look_of_attachment? (hput _), look_of_attachment? h]
    exact putView_putView w number _ _

end World

section

variable (E : Engine σ ν τ) (B : Behavior σ X)

def Attachment.waiting (number : Nat) (e : Event) : List (Handler X) :=
  ([(Event.all, Handler.forget number), ([.continue, .stop], .takeSnapshot number)].filter
    (·.1.contains e)).map (·.2)

theorem call_waiting (number : Nat) (e : Event) (r : Registry (Handler X)) (w : World σ X) :
    Registry.call (react E B) e (Attachment.waiting number e) r w =
      (r, (w.look number (Registers.hear E e)).2) := by
  have hforget : w.forget number e = (w.look number (View.modifyCaches (·.onEvent e))).2 := rfl
  by_cases he : e = .continue ∨ e = .stop
  · have hw : Attachment.waiting (X := X) number e = [.forget number, .takeSnapshot number] := by
      rcases he with rfl | rfl <;> rfl
    rw [hw]
    show (r, (w.forget number e).takeSnapshot E number) = _
    rw [World.takeSnapshot, hforget, World.look_look]
    simp only [Registers.hear, he, if_true]
  · have hw : Attachment.waiting (X := X) number e = [.forget number] := by
      cases e <;> simp_all [Attachment.waiting, Event.all]
    rw [hw]
    show (r, w.forget number e) = _
    rw [hforget]
    simp only [Registers.hear, he, if_false]
    rfl

end

end Debuggee
