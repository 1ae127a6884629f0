import Debuggee.Proofs.Registers.Mirrored

/-!
An engine that numbers its values. It is never quiet, since no call leaves its state alone and no
two of its values are the same; but an observer cannot tell.
-/

namespace Debuggee

variable {σ ν τ α β : Type}

/-- Counts the calls that are made, and makes the number of a call part of what it answers. -/
def Action.numbered (f : Nat → α → β) (x : Action σ α) : Action (σ × Nat) β := fun s =>
  ((x s.1).1.map (f s.2), ((x s.1).2, s.2 + 1))

def Action.counted (x : Action σ α) : Action (σ × Nat) α := x.numbered fun _ a => a

def Engine.numbered (E : Engine σ ν τ) : Engine (σ × Nat) (Nat × ν) τ where
  version s := E.version s.1
  selectedInferior s := E.selectedInferior s.1
  connection s := E.connection s.1
  selectedThread s := E.selectedThread s.1
  optimizedOut s v := E.optimizedOut s.1 v.2
  typeOf s v := E.typeOf s.1 v.2
  typeName s := E.typeName s.1
  sizeOf s := E.sizeOf s.1
  alignOf s := E.alignOf s.1
  typeNumber s := E.typeNumber s.1
  prctl s := E.prctl s.1
  execute command typed captured := (E.execute command typed captured).counted
  evaluate text isGlobal := (E.evaluate text isGlobal).numbered Prod.mk
  splitArguments line := (E.splitArguments line).counted
  defineCommand name := (E.defineCommand name).counted
  arch i := (E.arch i).counted
  threads i := (E.threads i).counted
  readMemory i a size := (E.readMemory i a size).counted
  writeMemory i a bytes := (E.writeMemory i a bytes).counted
  memoryMap i := (E.memoryMap i).counted
  switchThread t := (E.switchThread t).counted
  ptid t := (E.ptid t).counted
  selectedFrame := E.selectedFrame.counted
  newestFrame := E.newestFrame.counted
  selectFrame f := (E.selectFrame f).counted
  level f := (E.level f).counted
  readRegister f name := (E.readRegister f name).numbered fun n v? => v?.map (n, ·)
  writeRegister f name value := (E.writeRegister f name value).counted
  makeValue n := (E.makeValue n).numbered Prod.mk
  addressOf v := (E.addressOf v.2).counted
  dereference v := (E.dereference v.2).numbered Prod.mk
  stringOf v := (E.stringOf v.2).counted
  fetch v := (E.fetch v.2).counted
  toInt v := (E.toInt v.2).counted
  cast v t := (E.cast v.2 t).numbered Prod.mk
  fields t := (E.fields t).counted
  arrayOf t count := (E.arrayOf t count).counted
  pointerTo t := (E.pointerTo t).counted
  followTypedefs t := (E.followTypedefs t).counted
  targetOf t := (E.targetOf t).counted
  typeNamed name := (E.typeNamed name).counted

/-- The state of an engine beneath that of one that counts. -/
def Beneath (s : σ × Nat) (t : σ) : Prop := s.1 = t

theorem matches_numbered {f : Nat → α → β} {A : β → α → Prop} (hf : ∀ n a, A (f n a) a)
    (x : Action σ α) : Matches Beneath (Outcomes A) (x.numbered f) x := by
  rintro s _ rfl
  refine ⟨?_, rfl⟩
  show Outcomes A ((x s.1).1.map (f s.2)) (x s.1).1
  cases (x s.1).1 with
  | ok a => exact .ok (hf _ a)
  | error e => exact .error e

theorem concur_counted (x : Action σ α) : Concur Beneath x.counted x := by
  rintro s _ rfl
  refine ⟨?_, rfl⟩
  show (x s.1).1.map (fun a => a) = (x s.1).1
  cases (x s.1).1 <;> rfl

def IsNumbered (v : Nat × ν) (w : ν) : Prop := v.2 = w

theorem Engine.mirrors_numbered (E : Engine σ ν τ) :
    E.numbered.Mirrors E Beneath IsNumbered Eq :=
  have heq (x : Action σ τ) : Matches Beneath (Outcomes Eq) x.counted x :=
    (concur_counted x).of_refl (Outcomes.refl fun _ => rfl)
  have hpair (n : Nat) (w : ν) : IsNumbered (n, w) w := rfl
  have hvalue (x : Action σ ν) :
      Matches Beneath (Outcomes IsNumbered) (x.numbered Prod.mk) x :=
    matches_numbered hpair x
  { selectedInferior := by rintro s _ rfl; rfl
    typeOf := by rintro s _ rfl v _ rfl; rfl
    sizeOf := by rintro s _ rfl a _ rfl; rfl
    arch := fun _ => concur_counted _
    readRegister := fun f name => matches_numbered
      (fun n v? => by cases v? <;> constructor; exact hpair n _) (E.readRegister f name)
    typeNamed := fun _ => heq _
    cast := by rintro v _ a _ rfl rfl; exact hvalue _
    toInt := by rintro v _ rfl; exact concur_counted _
    selectedThread := by rintro s _ rfl; rfl
    selectedFrame := concur_counted _
    ptid := fun _ => concur_counted _
    level := fun _ => concur_counted _
    connection := by rintro s _ rfl; rfl
    prctl := by rintro s _ rfl; rfl
    readMemory := fun _ _ _ => concur_counted _
    makeValue := fun _ => hvalue _
    pointerTo := by rintro a _ rfl; exact heq _
    stringOf := by rintro v _ rfl; exact concur_counted _
    listAuxv := concur_counted _
    showAbi := concur_counted _
    memoryMap := fun _ => concur_counted _
    monitor := concur_counted _
    writeRegister := fun _ _ _ => concur_counted _ }

theorem Engine.not_isQuiet_numbered [Nonempty σ] (E : Engine σ ν τ) : ¬E.numbered.IsQuiet := by
  intro hE
  obtain ⟨s⟩ := ‹Nonempty σ›
  have h : (0 + 1 : Nat) = 0 := congrArg Prod.snd (hE.selectedFrame (s, 0))
  cases h

namespace Registers

def Incident.numbered : Incident σ → Incident (σ × Nat)
  | .forget e => .forget e
  | .snapshot => .snapshot
  | .reset => .reset
  | .use u => .use u
  | .change f => .change fun s => (f s.1, s.2)

theorem Incident.mirrors_numbered (i : Incident σ) : i.numbered.Mirrors Beneath i := by
  cases i with
  | change f => exact .change fun s _ hs => congrArg f hs
  | _ => constructor

/-- What is proved of the readings of a quiet engine holds with numbers, too. -/
theorem reading_numbered (E : Engine σ ν τ) (v : View (σ × Nat)) (life : List (Incident σ))
    (r : Reading) :
    (r.perform E.numbered (lived E.numbered v (life.map Incident.numbered))).1 =
      (r.perform E (lived E ⟨v.observer, v.engine.1⟩ life)).1 := by
  have hlife : List.Forall₂ (Incident.Mirrors Beneath) (life.map Incident.numbered) life := by
    rw [List.forall₂_map_left_iff]
    exact List.forall₂_same.2 fun i _ => i.mirrors_numbered
  have hv : v.Mirrors Beneath ⟨v.observer, v.engine.1⟩ := ⟨rfl, rfl⟩
  exact reading_mirrored E.mirrors_numbered hlife hv r

end Registers

end Debuggee
