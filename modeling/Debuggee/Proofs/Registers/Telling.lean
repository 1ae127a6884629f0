import Debuggee.Proofs.Registers.Mirrored

namespace Debuggee

variable {σ ν τ : Type}

/-- Holds of whatever an observer asks an engine and tells it, and of nothing done at all. -/
structure Engine.AllowsTelling (E : Engine σ ν τ) (R : σ → σ → Prop) : Prop
    extends E.AllowsQuestions R where
  memoryMap : ∀ i, Along R (E.memoryMap i)
  monitor : Along R (E.monitor "info registers")
  writeRegister : ∀ f name value, Along R (E.writeRegister f name value)

namespace Engine.AllowsTelling

variable {E : Engine σ ν τ} {R : σ → σ → Prop} (hR : E.AllowsTelling R)

include hR

theorem question {α : Type} {x : StateM σ α} (hx : E.IsQuestion x) : Along R x :=
  hx _ hR.toAllowsQuestions

theorem mirrors (s : σ) : E.Mirrors E (Reached R s) Eq Eq :=
  { hR.toAllowsQuestions.mirrors s with
    memoryMap := fun i => (hR.memoryMap i).concur hR.toIsPreorder s
    monitor := hR.monitor.concur hR.toIsPreorder s
    writeRegister := fun f name value => (hR.writeRegister f name value).concur hR.toIsPreorder s }

theorem probe (a : Address) : Along R (Memory.probe E a) :=
  .of_matches hR.toIsPreorder fun s => Registers.concur_probe (hR.mirrors s) a

theorem readInterruptTable : Along R (Registers.readInterruptTable E) :=
  .of_matches hR.toIsPreorder fun s => Registers.concur_readInterruptTable (hR.mirrors s)

theorem mirrors_view (v : View σ) : v.Mirrors (Reached R v.engine) v := ⟨rfl, rfl, hR.refl _⟩

theorem write (name : String) (value : UInt64) :
    Along (fun v v' : View σ => R v.engine v'.engine) (Registers.write E name value) := fun v =>
  (Registers.concur_write (hR.mirrors v.engine) name value v v (hR.mirrors_view v)).2.engine.2

end Engine.AllowsTelling

theorem Registers.engine_perform {E : Engine σ ν τ} {R : σ → σ → Prop} (hR : E.AllowsTelling R)
    {i : Incident σ} (hi : ∀ f, i ≠ .change f) (v : View σ) :
    R v.engine (i.perform E v).engine := by
  have hsame : i.Mirrors (Reached R v.engine) i := by
    cases i with
    | change f => exact absurd rfl (hi f)
    | _ => constructor
  exact (mirrors_perform (hR.mirrors v.engine) hsame (hR.mirrors_view v)).engine.2

end Debuggee
