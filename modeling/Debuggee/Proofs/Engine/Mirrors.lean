import Debuggee.Proofs.Concur
import Debuggee.Registers

/-!
Engines that stand for each other. Their states, values and types may differ, as long as they agree
on everything that can be asked of them: an engine that numbers the values that it hands out agrees
with one that does not.
-/

namespace Debuggee

variable {σ ρ ν μ τ υ : Type}

namespace Engine

/-- What is read of the registers of a frame is the same. -/
structure MirrorsRegisters (E : Engine σ ν τ) (F : Engine ρ μ υ) (S : σ → ρ → Prop)
    (V : ν → μ → Prop) (T : τ → υ → Prop) : Prop where
  selectedInferior : ∀ s t, S s t → E.selectedInferior s = F.selectedInferior t
  typeOf : ∀ s t, S s t → ∀ v w, V v w → T (E.typeOf s v) (F.typeOf t w)
  sizeOf : ∀ s t, S s t → ∀ a b, T a b → E.sizeOf s a = F.sizeOf t b
  arch : ∀ i, Concur S (E.arch i) (F.arch i)
  readRegister : ∀ f name,
    Matches S (Outcomes (Option.Rel V)) (E.readRegister f name) (F.readRegister f name)
  typeNamed : ∀ name, Matches S (Outcomes T) (E.typeNamed name) (F.typeNamed name)
  cast : ∀ v w a b, V v w → T a b → Matches S (Outcomes V) (E.cast v a) (F.cast w b)
  toInt : ∀ v w, V v w → Concur S (E.toInt v) (F.toInt w)

/-- So is what is selected. -/
structure MirrorsSelection (E : Engine σ ν τ) (F : Engine ρ μ υ) (S : σ → ρ → Prop)
    (V : ν → μ → Prop) (T : τ → υ → Prop) : Prop extends MirrorsRegisters E F S V T where
  selectedThread : ∀ s t, S s t → E.selectedThread s = F.selectedThread t
  selectedFrame : Concur S E.selectedFrame F.selectedFrame
  ptid : ∀ t, Concur S (E.ptid t) (F.ptid t)
  level : ∀ f, Concur S (E.level f) (F.level f)

/-- So is what is read of memory and strings, and what the engine prints of itself. -/
structure MirrorsQuestions (E : Engine σ ν τ) (F : Engine ρ μ υ) (S : σ → ρ → Prop)
    (V : ν → μ → Prop) (T : τ → υ → Prop) : Prop extends MirrorsSelection E F S V T where
  connection : ∀ s t, S s t → E.connection s = F.connection t
  prctl : ∀ s t, S s t → E.prctl s = F.prctl t
  readMemory : ∀ i a size, Concur S (E.readMemory i a size) (F.readMemory i a size)
  makeValue : ∀ n, Matches S (Outcomes V) (E.makeValue n) (F.makeValue n)
  pointerTo : ∀ a b, T a b → Matches S (Outcomes T) (E.pointerTo a) (F.pointerTo b)
  stringOf : ∀ v w, V v w → Concur S (E.stringOf v) (F.stringOf w)
  listAuxv : Concur S E.listAuxv F.listAuxv
  showAbi : Concur S (E.ask "show osabi") (F.ask "show osabi")

/-- So is the rest of what an observer asks an engine and tells it. -/
structure Mirrors (E : Engine σ ν τ) (F : Engine ρ μ υ) (S : σ → ρ → Prop)
    (V : ν → μ → Prop) (T : τ → υ → Prop) : Prop extends MirrorsQuestions E F S V T where
  memoryMap : ∀ i, Concur S (E.memoryMap i) (F.memoryMap i)
  monitor : Concur S (E.monitor "info registers") (F.monitor "info registers")
  writeRegister : ∀ f name value,
    Concur S (E.writeRegister f name value) (F.writeRegister f name value)

variable {E : Engine σ ν τ} {F : Engine ρ μ υ} {S : σ → ρ → Prop} {V : ν → μ → Prop}
  {T : τ → υ → Prop}

section

variable (h : E.MirrorsRegisters F S V T)

include h

theorem concur_inferior : Concur S E.inferior F.inferior := by
  refine .andThen (.ask h.selectedInferior) fun i? => ?_
  cases i? with
  | none => exact .throw _
  | some i => exact .ok i

theorem concur_archOf (i : Inferior) : Concur S (E.archOf i) (F.archOf i) := by
  refine .andThen (h.arch i) fun reported => ?_
  cases ArchName.ofEngine reported.name with
  | ok name => exact .ok _
  | error e => exact .throw e

theorem concur_arch? : Concur S E.arch? F.arch? :=
  .attempt (.andThen (concur_inferior h) (concur_archOf h))

theorem matches_readSpelling (f : Frame) (names : List String) :
    Matches S (Option.Rel V) (Registers.readSpelling E f names)
      (Registers.readSpelling F f names) := by
  induction names with
  | nil => exact .pure .none
  | cons name names ih =>
    refine .bind (h.readRegister f name).attempt ?_
    rintro _ _ (hv? | _)
    · cases hv? with
      | none => exact ih
      | some hv => exact .pure (.some hv)
    · exact ih

theorem concur_toUnsigned {v : ν} {w : μ} (hv : V v w) (unsigned : String) :
    Concur S (do
      let _ ← E.inferior
      E.toInt (← E.cast v (← E.typeNamed unsigned)) : Action σ Int) (do
      let _ ← F.inferior
      F.toInt (← F.cast w (← F.typeNamed unsigned)) : Action ρ Int) :=
  .andThen (concur_inferior h) fun _ => (h.typeNamed unsigned).andThen fun a b hab =>
    (h.cast v w a b hv hab).andThen fun v' w' hv' => h.toInt v' w' hv'

theorem concur_readInteger (f : Frame) (name : String) :
    Concur S (Registers.readInteger E f name) (Registers.readInteger F f name) := by
  refine Matches.bind (matches_readSpelling h f _) ?_
  rintro _ _ (hv | _)
  · refine Concur.bind (concur_arch? h) fun arch? => ?_
    cases arch? with
    | none => exact .pure none
    | some arch =>
      refine .get_bind fun s t hs => ?_
      rw [h.sizeOf s t hs _ _ (h.typeOf s t hs _ _ hv)]
      exact .bind (concur_toUnsigned h hv _).attempt fun _ => .pure _
  · exact Concur.pure none

end

section

variable (h : E.MirrorsSelection F S V T)

include h

theorem concur_frame? : Concur S E.frame? F.frame? := .attempt h.selectedFrame

theorem concur_selectedPtid? : Concur S E.selectedPtid? F.selectedPtid? := by
  refine .get_bind fun s t hs => ?_
  rw [h.selectedThread s t hs]
  cases F.selectedThread t with
  | none => exact .pure none
  | some thread => exact .attempt (h.ptid thread)

end

end Engine

end Debuggee
