import Debuggee.Proofs.Engine.Still

/-!
Questions that a debugger asks of an engine about a debuggee, one after the other: whatever holds
of each single question, and of nothing asked at all, holds of all of them together.
-/

namespace Debuggee

variable {σ ν τ α β : Type}

namespace Engine

variable {E : Engine σ ν τ}

structure AllowsQuestions (E : Engine σ ν τ) (R : σ → σ → Prop) : Prop extends IsPreorder R where
  selectedFrame : Along R E.selectedFrame
  ptid : ∀ t, Along R (E.ptid t)
  level : ∀ f, Along R (E.level f)
  readRegister : ∀ f name, Along R (E.readRegister f name)
  arch : ∀ i, Along R (E.arch i)
  typeNamed : ∀ name, Along R (E.typeNamed name)
  cast : ∀ v t, Along R (E.cast v t)
  toInt : ∀ v, Along R (E.toInt v)
  readMemory : ∀ i a size, Along R (E.readMemory i a size)
  makeValue : ∀ n, Along R (E.makeValue n)
  pointerTo : ∀ t, Along R (E.pointerTo t)
  stringOf : ∀ v, Along R (E.stringOf v)
  listAuxv : Along R E.listAuxv
  showAbi : Along R (E.ask "show osabi")

theorem IsStill.allowsQuestions (hE : E.IsStill) {R : σ → σ → Prop} (hR : IsPreorder R) :
    E.AllowsQuestions R where
  toIsPreorder := hR
  selectedFrame := .of_unchanged hR hE.selectedFrame
  ptid t := .of_unchanged hR (hE.ptid t)
  level f := .of_unchanged hR (hE.level f)
  readRegister f name := .of_unchanged hR (hE.readRegister f name)
  arch i := .of_unchanged hR (hE.arch i)
  typeNamed name := .of_unchanged hR (hE.typeNamed name)
  cast v t := .of_unchanged hR (hE.cast v t)
  toInt v := .of_unchanged hR (hE.toInt v)
  readMemory i a size := .of_unchanged hR (hE.readMemory i a size)
  makeValue n := .of_unchanged hR (hE.makeValue n)
  pointerTo t := .of_unchanged hR (hE.pointerTo t)
  stringOf v := .of_unchanged hR (hE.stringOf v)
  listAuxv := .of_unchanged hR hE.listAuxv
  showAbi := .of_unchanged hR hE.showAbi

theorem AllowsQuestions.mirrors {R : σ → σ → Prop} (hR : E.AllowsQuestions R) (s : σ) :
    E.MirrorsQuestions E (Reached R s) Eq Eq :=
  have hsame {β : Type} {x : StateM σ β} (hx : Along R x) : Concur (Reached R s) x x :=
    hx.concur hR.toIsPreorder s
  have heq {β : Type} {x : Action σ β} (hx : Along R x) :
      Matches (Reached R s) (Outcomes Eq) x x :=
    (hsame hx).of_refl (Outcomes.refl fun _ => rfl)
  { selectedInferior := by rintro t _ ⟨rfl, -⟩; rfl
    typeOf := by rintro t _ ⟨rfl, -⟩ v _ rfl; rfl
    sizeOf := by rintro t _ ⟨rfl, -⟩ a _ rfl; rfl
    arch := fun i => hsame (hR.arch i)
    readRegister := fun f name => (hsame (hR.readRegister f name)).of_refl
      (Outcomes.refl fun v? => by cases v? <;> constructor; rfl)
    typeNamed := fun name => heq (hR.typeNamed name)
    cast := by rintro v _ a _ rfl rfl; exact heq (hR.cast v a)
    toInt := by rintro v _ rfl; exact hsame (hR.toInt v)
    selectedThread := by rintro t _ ⟨rfl, -⟩; rfl
    selectedFrame := hsame hR.selectedFrame
    ptid := fun t => hsame (hR.ptid t)
    level := fun f => hsame (hR.level f)
    connection := by rintro t _ ⟨rfl, -⟩; rfl
    prctl := by rintro t _ ⟨rfl, -⟩; rfl
    readMemory := fun i a size => hsame (hR.readMemory i a size)
    makeValue := fun n => heq (hR.makeValue n)
    pointerTo := by rintro a _ rfl; exact heq (hR.pointerTo a)
    stringOf := by rintro v _ rfl; exact hsame (hR.stringOf v)
    listAuxv := hsame hR.listAuxv
    showAbi := hsame hR.showAbi }

/-- Made of questions about a debuggee, and of nothing else. -/
def IsQuestion (E : Engine σ ν τ) (x : StateM σ α) : Prop :=
  ∀ R : σ → σ → Prop, E.AllowsQuestions R → Along R x

namespace IsQuestion

theorem of_matches {A : α → α → Prop} {x : StateM σ α}
    (hx : ∀ S : σ → σ → Prop, E.MirrorsQuestions E S Eq Eq → Matches S A x x) : E.IsQuestion x :=
  fun _ hR => .of_matches hR.toIsPreorder fun s => hx _ (hR.mirrors s)

theorem unchanged {x : StateM σ α} (hx : E.IsQuestion x) (hE : E.IsStill) : Along Unchanged x :=
  hx Unchanged (hE.allowsQuestions isPreorder_unchanged)

theorem of_snd {x : StateM σ α} (hx : ∀ s, (x s).2 = s) : E.IsQuestion x := by
  intro R hR s
  rw [hx]
  exact hR.refl s

theorem andThen {x : Action σ α} {f : α → Action σ β} (hx : E.IsQuestion x)
    (hf : ∀ a, E.IsQuestion (f a)) : E.IsQuestion (x >>= f : Action σ β) :=
  fun R hR => .andThen hR.toIsPreorder (hx R hR) fun a => hf a R hR

theorem attempt {x : Action σ α} (hx : E.IsQuestion x) : E.IsQuestion x.attempt :=
  fun R hR => .attempt (hx R hR)

end IsQuestion

variable (E)

theorem isQuestion_archOf (i : Inferior) : E.IsQuestion (E.archOf i) :=
  .of_matches fun _ h => concur_archOf h.toMirrorsRegisters i

theorem isQuestion_arch? : E.IsQuestion E.arch? :=
  .of_matches fun _ h => concur_arch? h.toMirrorsRegisters

theorem isQuestion_frame? : E.IsQuestion E.frame? :=
  .of_matches fun _ h => concur_frame? h.toMirrorsSelection

theorem isQuestion_selectedPtid? : E.IsQuestion E.selectedPtid? :=
  .of_matches fun _ h => concur_selectedPtid? h.toMirrorsSelection

theorem isQuestion_level (f : Frame) : E.IsQuestion (E.level f).attempt :=
  .of_matches fun _ h => (h.level f).attempt

theorem isQuestion_readSpelling (f : Frame) (names : List String) :
    E.IsQuestion (Registers.readSpelling E f names) :=
  .of_matches fun _ h => matches_readSpelling h.toMirrorsRegisters f names

theorem isQuestion_toUnsigned (v : ν) (unsigned : String) :
    E.IsQuestion (do
      let _ ← E.inferior
      E.toInt (← E.cast v (← E.typeNamed unsigned)) : Action σ Int) :=
  .of_matches fun _ h => concur_toUnsigned h.toMirrorsRegisters rfl unsigned

end Engine

end Debuggee
