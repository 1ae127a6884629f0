import Debuggee.Proofs.Engine.Mirrors

namespace Debuggee

variable {σ ν τ α : Type}

namespace Engine

/--
Asking about registers, and about the thread and the frame they belong to, changes nothing. Values
stand for what they denote and states for what can be asked of them: an engine that numbers each
value it hands out tells an observer what the one without numbers does (`reading_numbered`).
-/
structure IsQuiet (E : Engine σ ν τ) : Prop where
  selectedFrame : ∀ s, (E.selectedFrame s).2 = s
  ptid : ∀ t s, (E.ptid t s).2 = s
  level : ∀ f s, (E.level f s).2 = s
  readRegister : ∀ f name s, (E.readRegister f name s).2 = s
  arch : ∀ i s, (E.arch i s).2 = s
  typeNamed : ∀ name s, (E.typeNamed name s).2 = s
  cast : ∀ v t s, (E.cast v t s).2 = s
  toInt : ∀ v s, (E.toInt v s).2 = s

/-- All that a register reads as, in any frame, is the same; what is selected may differ. -/
structure SameRegisters (E : Engine σ ν τ) (s s' : σ) : Prop where
  selectedInferior : E.selectedInferior s' = E.selectedInferior s
  typeOf : ∀ v, E.typeOf s' v = E.typeOf s v
  sizeOf : ∀ t, E.sizeOf s' t = E.sizeOf s t
  arch : ∀ i, (E.arch i s').1 = (E.arch i s).1
  readRegister : ∀ f name, (E.readRegister f name s').1 = (E.readRegister f name s).1
  typeNamed : ∀ name, (E.typeNamed name s').1 = (E.typeNamed name s).1
  cast : ∀ v t, (E.cast v t s').1 = (E.cast v t s).1
  toInt : ∀ v, (E.toInt v s').1 = (E.toInt v s).1

theorem SameRegisters.refl (E : Engine σ ν τ) (s : σ) : E.SameRegisters s s := by
  constructor <;> intros <;> rfl

theorem SameRegisters.trans {E : Engine σ ν τ} {s s' s'' : σ} (h : E.SameRegisters s s')
    (h' : E.SameRegisters s' s'') : E.SameRegisters s s'' where
  selectedInferior := h'.selectedInferior.trans h.selectedInferior
  typeOf v := (h'.typeOf v).trans (h.typeOf v)
  sizeOf t := (h'.sizeOf t).trans (h.sizeOf t)
  arch i := (h'.arch i).trans (h.arch i)
  readRegister f name := (h'.readRegister f name).trans (h.readRegister f name)
  typeNamed name := (h'.typeNamed name).trans (h.typeNamed name)
  cast v t := (h'.cast v t).trans (h.cast v t)
  toInt v := (h'.toInt v).trans (h.toInt v)

end Engine

structure Asks (E : Engine σ ν τ) (x : StateM σ α) : Prop where
  quiet : ∀ s, (x s).2 = s
  same : ∀ {s s'}, E.SameRegisters s s' → (x s').1 = (x s).1

namespace Engine.IsQuiet

variable {E : Engine σ ν τ} (hE : E.IsQuiet)

include hE

theorem mirrorsRegisters {s t : σ} (h : E.SameRegisters t s) :
    E.MirrorsRegisters E (fun s' t' => s' = s ∧ t' = t) Eq Eq :=
  have hquiet {β : Type} {x : StateM σ β} (hx : ∀ u, (x u).2 = u) (hxs : (x s).1 = (x t).1) :
      Concur (fun s' t' => s' = s ∧ t' = t) x x := by
    rintro _ _ ⟨rfl, rfl⟩
    exact ⟨hxs, hx _, hx _⟩
  { selectedInferior := by rintro _ _ ⟨rfl, rfl⟩; exact h.selectedInferior
    typeOf := by rintro _ _ ⟨rfl, rfl⟩ v _ rfl; exact h.typeOf v
    sizeOf := by rintro _ _ ⟨rfl, rfl⟩ a _ rfl; exact h.sizeOf a
    arch := fun i => hquiet (hE.arch i) (h.arch i)
    readRegister := fun f name => (hquiet (hE.readRegister f name) (h.readRegister f name)).of_refl
      (Outcomes.refl fun v? => by cases v? <;> constructor; rfl)
    typeNamed := fun name => (hquiet (hE.typeNamed name) (h.typeNamed name)).of_refl
      (Outcomes.refl fun _ => rfl)
    cast := by
      rintro v _ a _ rfl rfl
      exact (hquiet (hE.cast v a) (h.cast v a)).of_refl (Outcomes.refl fun _ => rfl)
    toInt := by rintro v _ rfl; exact hquiet (hE.toInt v) (h.toInt v) }

theorem mirrorsSelection (s : σ) :
    E.MirrorsSelection E (fun s' t' => s' = s ∧ t' = s) Eq Eq :=
  have hquiet {β : Type} {x : StateM σ β} (hx : ∀ u, (x u).2 = u) :
      Concur (fun s' t' => s' = s ∧ t' = s) x x := by
    rintro _ _ ⟨rfl, rfl⟩
    exact ⟨rfl, hx _, hx _⟩
  { hE.mirrorsRegisters (.refl E s) with
    selectedThread := by rintro _ _ ⟨rfl, rfl⟩; rfl
    selectedFrame := hquiet hE.selectedFrame
    ptid := fun t => hquiet (hE.ptid t)
    level := fun f => hquiet (hE.level f) }

theorem asks {x : StateM σ α}
    (hx : ∀ S : σ → σ → Prop, E.MirrorsRegisters E S Eq Eq → Concur S x x) : Asks E x where
  quiet s := (hx _ (hE.mirrorsRegisters (.refl E s)) s s ⟨rfl, rfl⟩).2.1
  same h := (hx _ (hE.mirrorsRegisters h) _ _ ⟨rfl, rfl⟩).1

theorem asks_inferior : Asks E E.inferior := hE.asks fun _ h => concur_inferior h

theorem asks_arch? : Asks E E.arch? := hE.asks fun _ h => concur_arch? h

theorem asks_toUnsigned (v : ν) (unsigned : String) :
    Asks E (do
      let _ ← E.inferior
      E.toInt (← E.cast v (← E.typeNamed unsigned)) : Action σ Int) :=
  hE.asks fun _ h => concur_toUnsigned h rfl unsigned

theorem asks_readInteger (f : Frame) (name : String) :
    Asks E (Registers.readInteger E f name) :=
  hE.asks fun _ h => concur_readInteger h f name

theorem snd_frame? (s : σ) : (E.frame? s).2 = s :=
  (concur_frame? (hE.mirrorsSelection s) s s ⟨rfl, rfl⟩).2.1

theorem snd_selectedPtid? (s : σ) : (E.selectedPtid? s).2 = s :=
  (concur_selectedPtid? (hE.mirrorsSelection s) s s ⟨rfl, rfl⟩).2.1

theorem snd_level (f : Frame) (s : σ) : ((E.level f).attempt s).2 = s :=
  ((hE.mirrorsSelection s).level f |>.attempt s s ⟨rfl, rfl⟩).2.1

end Engine.IsQuiet

@[simp] theorem RegisterName.bare_cs : RegisterName.bare "cs" = "cs" := rfl

namespace Registers

variable (E : Engine σ ν τ)

def readOver (segment : Option UInt64) (f : Frame) (name : String) (s : σ) : Option UInt64 :=
  match (readInteger E f name s).1 with
  | none => none
  | some (arch, n) =>
    if arch.isSegmented name then segment.map fun base => arch.readsAs n (some base)
    else some (arch.readsAs n none)

def readAt (f : Frame) (name : String) (s : σ) : Option UInt64 :=
  readOver E (readOver E none f "cs" s) f name s

def liveLookup (name : String) : StateM σ (Option UInt64) := do
  let mask := ((← E.arch?).map (·.mask)).getD (byteMask 8)
  return (← live E (RegisterName.lowered name)).map (· &&& mask)

def liveAll (names : List String) (s : σ) : Snapshot :=
  names.map fun name => (name, (liveLookup E name s).1)

def groupAt {α : Type} (f : RegisterSet → List α) (s : σ) : List α :=
  (((E.arch? s).1.map (·.name.registers)).map f).getD []

variable {E}

theorem readOver_cs (segment : Option UInt64) (f : Frame) (s : σ) :
    readOver E segment f "cs" s = readOver E none f "cs" s := by
  unfold readOver
  split <;> simp [Arch.isSegmented]

theorem readAt_cs (f : Frame) (s : σ) : readAt E f "cs" s = readOver E none f "cs" s :=
  readOver_cs _ f s

theorem bind_readOver (frame? : Option Frame) (name : String) (s : σ) :
    (frame?.bind fun f => readOver E (frame?.bind fun f => readOver E none f "cs" s) f name s) =
      frame?.bind fun f => readAt E f name s := by
  cases frame? with
  | none => simp only [Option.bind_none]
  | some f => simp only [Option.bind_some, readAt]

theorem readAt_congr (hE : E.IsQuiet) {s s' : σ} (h : E.SameRegisters s s') (f : Frame)
    (name : String) : readAt E f name s' = readAt E f name s := by
  simp only [readAt, readOver, (hE.asks_readInteger f _).same h]

theorem readIn_id (hE : E.IsQuiet) {segment : StateM σ (Option UInt64)} {base : Option UInt64}
    (f : Frame) (name : String) {s : σ} (hs : segment s = (base, s)) :
    readIn E id segment f name s = (readOver E base f name s, s) := by
  have hi : readInteger E f name s = ((readInteger E f name s).1, s) :=
    Prod.ext rfl ((hE.asks_readInteger f name).quiet s)
  show (match (readInteger E f name s).1 with
    | none => (pure none : StateM σ (Option UInt64))
    | some (arch, n) => _) (readInteger E f name s).2 = _
  rw [readOver, hi]
  cases (readInteger E f name s).1 with
  | none => rfl
  | some p =>
    dsimp only
    split
    · show ((segment s).1.map _, (segment s).2) = _
      rw [hs]
    · rfl

theorem liveWith_apply (hE : E.IsQuiet) {segment : StateM σ (Option UInt64)}
    {base : Option UInt64} (name : String) {s : σ} (hs : segment s = (base, s)) :
    liveWith E segment name s =
      ((E.frame? s).1.bind fun f => readOver E base f (RegisterName.bare name) s, s) := by
  have hs' : E.frame? s = ((E.frame? s).1, s) := Prod.ext rfl (hE.snd_frame? s)
  simp only [liveWith, bind, StateT.bind]
  rw [hs']
  cases (E.frame? s).1 with
  | none => rfl
  | some f =>
    rw [Option.bind_some]
    exact readIn_id hE f (RegisterName.bare name) hs

theorem live_apply (hE : E.IsQuiet) (name : String) (s : σ) :
    live E name s =
      ((E.frame? s).1.bind fun f => readAt E f (RegisterName.bare name) s, s) := by
  have hcs : liveWith E (pure none) "cs" s =
      ((E.frame? s).1.bind fun f => readOver E none f "cs" s, s) := by
    have hn : (pure none : StateM σ (Option UInt64)) s = (none, s) := rfl
    rw [liveWith_apply hE "cs" hn, RegisterName.bare_cs]
  rw [live, liveWith_apply hE name hcs, bind_readOver]

theorem liveLookup_apply (hE : E.IsQuiet) (name : String) (s : σ) :
    liveLookup E name s = ((live E (RegisterName.lowered name) s).1.map
      (· &&& ((E.arch? s).1.map (·.mask)).getD (byteMask 8)), s) := by
  show ((live E (RegisterName.lowered name) (E.arch? s).2).1.map
    (· &&& ((E.arch? s).1.map (·.mask)).getD (byteMask 8)), (live E _ (E.arch? s).2).2) = _
  rw [hE.asks_arch?.quiet, live_apply hE]

end Registers

end Debuggee
