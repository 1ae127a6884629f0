import Debuggee.Engine.Scene
import Debuggee.Proofs.Registers.Live

namespace Debuggee.Machine

theorem isQuiet : Machine.engine.IsQuiet := by
  constructor <;> intros <;> rfl

theorem arch?_congr {m m' : Machine} (ha : m'.arch = m.arch) (hp : m'.present = m.present) :
    (Machine.engine.arch? m').1 = (Machine.engine.arch? m).1 := by
  simp only [Engine.arch?, Engine.currentArch, Engine.inferior, Engine.archOf, Action.attempt_apply,
    Action.bind_apply, Action.ask_apply, engine, hp]
  cases m.present with
  | false => rfl
  | true =>
    simp only [if_true, Action.pure_apply, ha]
    cases ArchName.ofEngine m.arch.name <;> rfl

theorem frame?_apply (m : Machine) : Machine.engine.frame? m = (m.selectedFrame, m) := by
  simp only [Engine.frame?, Action.attempt_apply, engine, Action.query_apply, currentFrame]
  cases m.selectedFrame <;> rfl

theorem writeMemory_apply (m : Machine) (i : Inferior) (a : Address) (bytes : Bytes) :
    Machine.engine.writeMemory i a bytes m =
      match m.memory.write a bytes with
      | .ok memory => (.ok (), { m with memory })
      | .error e => (.error e, m) := by
  simp only [engine, Action.step]
  cases m.memory.write a bytes <;> rfl

theorem modifyFrame_id (m : Machine) (f : Frame) : m.modifyFrame f id = m := by
  rw [modifyFrame, List.modify_id]

theorem writeRegister_registers (m : Machine) (f : Frame) (name : String) (value : UInt64) :
    ∃ g : List (String × Register) → List (String × Register),
      (Machine.engine.writeRegister f name value m).2 =
        m.modifyFrame f fun state => { state with registers := g state.registers } := by
  simp only [engine, Action.step, writeRegister]
  cases m.findFrame f with
  | error e => exact ⟨id, (modifyFrame_id m f).symm⟩
  | ok state =>
    simp only [bind, Except.bind]
    cases state.registers.lookup (m.registerName state name) with
    | none => exact ⟨id, (modifyFrame_id m f).symm⟩
    | some r => exact ⟨Assoc.store _ _, rfl⟩

theorem snd_writeRegister (m : Machine) (f : Frame) (name : String) (value : UInt64) :
    ∃ g : FrameState → FrameState, (∀ state, (g state).live = state.live) ∧
      (Machine.engine.writeRegister f name value m).2 = m.modifyFrame f g := by
  obtain ⟨g, hm⟩ := writeRegister_registers m f name value
  exact ⟨fun state => { state with registers := g state.registers }, fun _ => rfl, hm⟩

theorem sameRegisters_select (m : Machine) (t : Option Thread) (f : Option Frame) :
    Machine.engine.SameRegisters m { m with selectedThread := t, selectedFrame := f } := by
  constructor <;> intros <;> rfl

theorem switchThread_apply (m : Machine) (t : Thread) :
    Machine.engine.switchThread t m =
      match m.findThread t with
      | .ok _ => (.ok (), { m with selectedThread := some t, selectedFrame := m.innermost? t })
      | .error e => (.error e, m) := by
  simp only [engine, Action.step, switchThread]
  cases m.findThread t <;> rfl

theorem selectFrame_apply (m : Machine) (f : Frame) :
    Machine.engine.selectFrame f m =
      match m.findFrame f with
      | .ok _ => (.ok (), { m with selectedFrame := some f })
      | .error e => (.error e, m) := by
  simp only [engine, Action.step, selectFrame]
  cases m.findFrame f <;> rfl

theorem sameRegisters_selectFrame (m : Machine) (f : Frame) :
    Machine.engine.SameRegisters m (Machine.engine.selectFrame f m).2 := by
  rw [selectFrame_apply]
  cases m.findFrame f with
  | error e => exact .refl _ m
  | ok _ => exact sameRegisters_select m _ _

end Debuggee.Machine
