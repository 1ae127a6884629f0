import Debuggee.Auxv.Stack
import Debuggee.Proofs.Along
import Debuggee.Proofs.Engine.Machine

namespace Debuggee

variable {σ ν τ α β : Type}

namespace Action

def Answers (x : Action σ α) (s : σ) (a : α) : Prop := x s = (.ok a, s)

namespace Answers

variable {s : σ}

theorem pure (a : α) : Answers (Pure.pure a : Action σ α) s a := rfl

theorem bind {x : Action σ α} {f : α → Action σ β} {a : α} {b : β} (hx : x.Answers s a)
    (hf : (f a).Answers s b) : (x >>= f).Answers s b := by
  show (x >>= f) s = _
  rw [bind_apply, hx]
  exact hf

theorem ask (f : σ → α) : (Action.ask f).Answers s (f s) := rfl

theorem ofState {x : StateM σ α} {a : α} (hx : x s = (a, s)) : (Action.ofState x).Answers s a := by
  show Action.ofState x s = _
  rw [ofState_apply, hx]

theorem orFail {x : Action σ α} {a : α} (hx : x.Answers s a) (e : Error) :
    (x.orFail e).Answers s a := by
  show x.orFail e s = _
  unfold Action.orFail
  rw [hx]

theorem attempt {x : Action σ α} {a : α} (hx : x.Answers s a) : x.attempt s = (some a, s) := by
  rw [attempt_apply, hx]
  rfl

end Answers

end Action

def Unchanged (s s' : σ) : Prop := s' = s

theorem isPreorder_unchanged : IsPreorder (Unchanged (σ := σ)) where
  refl _ := rfl
  trans h h' := h'.trans h

theorem Along.of_unchanged {R : σ → σ → Prop} (hR : IsPreorder R) {x : StateM σ α}
    (hx : Along Unchanged x) : Along R x := by
  intro s
  rw [hx s]
  exact hR.refl s

namespace Engine

/-- What an engine is asked to read memory and strings, or prints of itself, changes nothing. -/
structure IsStill (E : Engine σ ν τ) : Prop extends E.IsQuiet where
  readMemory : ∀ i a size s, (E.readMemory i a size s).2 = s
  makeValue : ∀ n s, (E.makeValue n s).2 = s
  pointerTo : ∀ t s, (E.pointerTo t s).2 = s
  stringOf : ∀ v s, (E.stringOf v s).2 = s
  listAuxv : ∀ s, (E.listAuxv s).2 = s
  showAbi : ∀ s, (E.ask "show osabi" s).2 = s

theorem IsQuiet.snd_archOf {E : Engine σ ν τ} (hE : E.IsQuiet) (i : Inferior) (s : σ) :
    (E.archOf i s).2 = s := by
  have h := hE.arch i s
  rw [archOf, Action.bind_apply]
  rcases hr : E.arch i s with ⟨_ | reported, s'⟩ <;> rw [hr] at h <;> dsimp only
  · exact h
  · cases ArchName.ofEngine reported.name <;> exact h

end Engine

namespace Machine

theorem isStill : Machine.engine.IsStill := by
  refine ⟨Machine.isQuiet, ?_, ?_, ?_, ?_, ?_, ?_⟩ <;> intros <;> rfl

theorem fst_archOf {m : Machine} {name : ArchName} (h : ArchName.ofEngine m.arch.name = .ok name)
    (i : Inferior) : (engine.archOf i m).1 = .ok ⟨name, m.arch.pointerSize, m.arch.order⟩ := by
  simp only [Engine.archOf, Action.bind_apply, engine, Action.ask_apply, h]
  rfl

theorem fst_archOf_x8664 {m : Machine} (h : m.arch = ⟨"i386:x86-64", 8, .little⟩) (i : Inferior) :
    (engine.archOf i m).1 = .ok ⟨.x8664, 8, .little⟩ := by
  have hname : ArchName.ofEngine m.arch.name = .ok .x8664 := by rw [h]; rfl
  rw [fst_archOf hname, h]

theorem fst_ask {m : Machine} (h : m.refusedCommands = []) (command : String) :
    (engine.ask command m).1 = .ok ((m.outputs.lookup command).getD "") := by
  simp [Engine.ask, engine, execute, h]

theorem fst_runsLinux {m : Machine} (h : m.refusedCommands = [])
    (ho : m.outputs = [("show osabi", linuxAbi)]) : (engine.runsLinux m).1 = true := by
  have habi : currentAbi? linuxAbi = some "GNU/Linux" := by decide +kernel
  have hask : engine.ask "show osabi" m = (.ok linuxAbi, m) := by
    refine Prod.ext ((fst_ask h _).trans ?_) rfl
    rw [ho]
    rfl
  unfold Engine.runsLinux
  simp only [bind, StateT.bind, Action.attempt_apply, hask]
  show (decide (currentAbi? linuxAbi = some "GNU/Linux")) = true
  rw [habi, decide_eq_true rfl]

end Machine

end Debuggee
