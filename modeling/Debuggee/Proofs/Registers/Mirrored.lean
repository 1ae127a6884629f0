import Debuggee.Proofs.Registers.Life
import Mathlib.Data.List.Forall2

/-!
Observers of engines that stand for each other. What happens to the one and to the other leaves
them the same, and what they answer is the same.
-/

namespace Debuggee

variable {σ ρ ν μ τ υ α κ : Type} {E : Engine σ ν τ} {F : Engine ρ μ υ} {S : σ → ρ → Prop}
  {V : ν → μ → Prop} {T : τ → υ → Prop}

namespace View

/-- The same observer, of engines in states that stand for each other. -/
structure Mirrors (S : σ → ρ → Prop) (v : View σ) (w : View ρ) : Prop where
  observer : v.observer = w.observer
  engine : S v.engine w.engine

theorem concur_ask {x : StateM σ α} {y : StateM ρ α} (hx : Concur S x y) :
    Concur (Mirrors S) (View.ask x) (View.ask y) :=
  fun _ _ h => ⟨(hx _ _ h.engine).1, h.observer, (hx _ _ h.engine).2⟩

theorem concur_act {x : Action σ α} {y : Action ρ α} (hx : Concur S x y) :
    Concur (Mirrors S) (View.act x) (View.act y) :=
  concur_ask hx

theorem concur_modifyCaches (f : Caches → Caches) :
    Concur (Mirrors S) (View.modifyCaches f) (View.modifyCaches f) := by
  rintro ⟨o, s⟩ ⟨_, t⟩ ⟨rfl, hs⟩
  exact ⟨rfl, rfl, hs⟩

theorem concur_remembered [DecidableEq κ] {t : Table κ α} (k : κ) {x : StateM (View σ) α}
    {y : StateM (View ρ) α} (hx : Concur (Mirrors S) x y) :
    Concur (Mirrors S) (View.remembered t k x) (View.remembered t k y) := by
  refine .get_bind fun v w h => ?_
  rw [h.observer]
  cases (t.get w.observer.caches).get? k with
  | some a => exact .pure a
  | none => exact .bind hx fun a => .bind (concur_modifyCaches _) fun _ => .pure a

end View

open View

namespace Registers

section

variable (h : E.MirrorsSelection F S V T)

include h

theorem concur_readIn {segment : StateM (View σ) (Option UInt64)}
    {segment' : StateM (View ρ) (Option UInt64)} (hs : Concur (Mirrors S) segment segment')
    (f : Frame) (name : String) :
    Concur (Mirrors S) (readIn E View.ask segment f name) (readIn F View.ask segment' f name) := by
  refine .bind (concur_ask (Engine.concur_readInteger h.toMirrorsRegisters f name)) fun p? => ?_
  cases p? with
  | none => exact .pure none
  | some p =>
    dsimp only
    split
    · exact .bind hs fun _ => .pure _
    · exact .pure _

theorem concur_getWith {segment : StateM (View σ) (Option UInt64)}
    {segment' : StateM (View ρ) (Option UInt64)} (hs : Concur (Mirrors S) segment segment')
    (name : String) : Concur (Mirrors S) (getWith E segment name) (getWith F segment' name) := by
  refine .bind (concur_ask (Engine.concur_frame? h)) fun f? => ?_
  cases f? with
  | none => exact .pure none
  | some f =>
    refine .bind (concur_ask (Engine.concur_selectedPtid? h)) fun ptid => ?_
    refine .bind (concur_ask (h.level f).attempt) fun level => ?_
    exact concur_remembered _ (concur_readIn h hs f _)

theorem concur_get (name : String) : Concur (Mirrors S) (get E name) (get F name) :=
  concur_getWith h (concur_getWith h (.pure none) "cs") name

theorem concur_arch? : Concur (Mirrors S) (View.ask E.arch?) (View.ask F.arch?) :=
  concur_ask (Engine.concur_arch? h.toMirrorsRegisters)

theorem concur_lookup (name : String) : Concur (Mirrors S) (lookup E name) (lookup F name) :=
  .bind (concur_arch? h) fun _ => .bind (concur_get h _) fun _ => .pure _

theorem concur_group (f : RegisterSet → List α) :
    Concur (Mirrors S) (group E f) (group F f) :=
  .bind (.bind (concur_arch? h) fun _ => .pure _) fun _ => .pure _

theorem concur_lookupAll (names : List String) :
    Concur (Mirrors S) (lookupAll E names) (lookupAll F names) := by
  induction names with
  | nil => exact .pure _
  | cons name names ih =>
    exact .bind (concur_lookup h name) fun _ => .bind ih fun _ => .pure _

theorem concur_changedAmong (snapshot : Snapshot) :
    Concur (Mirrors S) (changedAmong E snapshot) (changedAmong F snapshot) := by
  induction snapshot with
  | nil => exact .pure _
  | cons entry rest ih =>
    exact .bind (concur_lookup h _) fun _ => .bind ih fun _ => .pure _

theorem concur_reading (r : Reading) : Concur (Mirrors S) (r.perform E) (r.perform F) := by
  have hanswer {α : Type} {x : StateM (View σ) α} {y : StateM (View ρ) α} (f : α → Answer)
      (hx : Concur (Mirrors S) x y) :
      Concur (Mirrors S) (do return f (← x)) (do return f (← y)) :=
    .bind hx fun _ => .pure _
  cases r with
  | get name => exact hanswer _ (concur_get h name)
  | lookup name => exact hanswer _ (concur_lookup h name)
  | items => exact hanswer _ (.bind (concur_group h _) (concur_lookupAll h))
  | pc => exact hanswer _ (concur_get h "pc")
  | sp => exact hanswer _ (concur_get h "sp")
  | changed =>
    refine hanswer _ (.get_bind fun v w hv => ?_)
    rw [hv.observer]
    exact concur_changedAmong h _

omit h in
theorem concur_reset : Concur (Mirrors S) reset reset := by
  rintro ⟨o, s⟩ ⟨_, t⟩ ⟨rfl, hs⟩
  exact ⟨rfl, rfl, hs⟩

theorem concur_snapshotCommon : Concur (Mirrors S) (snapshotCommon E) (snapshotCommon F) := by
  refine .bind (concur_group h _) fun names => .bind (concur_lookupAll h names) fun snapshot => ?_
  rintro ⟨o, s⟩ ⟨_, t⟩ ⟨rfl, hs⟩
  exact ⟨rfl, rfl, hs⟩

theorem concur_instructionSet :
    Concur (Mirrors S) (Registers.instructionSet E) (Registers.instructionSet F) := by
  refine .bind (.bind (concur_arch? h) fun arch? => ?_) fun _ => .pure _
  cases arch? with
  | none => exact .pure none
  | some arch =>
    show Concur _ (arch.name.readInstructionSetBit (get E))
      (arch.name.readInstructionSetBit (get F))
    unfold ArchName.readInstructionSetBit
    cases arch.name.instructionSetBit? with
    | none => exact .pure none
    | some p => exact .bind (concur_get h _) fun _ => .pure _

end

theorem concur_segmentBase (h : E.MirrorsQuestions F S V T) (segment : Segment) :
    Concur (Mirrors S) (segmentBase E segment) (segmentBase F segment) := by
  have hsel := h.toMirrorsSelection
  refine .bind (concur_ask (Engine.concur_selectedPtid? hsel)) fun ptid => ?_
  refine concur_remembered _ (.bind (concur_arch? hsel) fun arch? => ?_)
  cases arch? with
  | none => exact .pure _
  | some arch =>
    dsimp only
    split
    · exact .bind (concur_get hsel _) fun _ => .pure _
    · refine .get_bind fun v w hv => ?_
      rw [h.selectedInferior _ _ hv.engine]
      cases F.selectedInferior w.engine with
      | none => exact .pure _
      | some i =>
        refine .bind (concur_ask (Engine.concur_isRemote h i)) fun isRemote => ?_
        cases isRemote with
        | true => exact .pure _
        | false =>
          refine .get_bind fun v w hv => ?_
          rw [h.prctl _ _ hv.engine]
          exact .pure _

end Registers

namespace Boundary

variable (h : E.MirrorsQuestions F S V T)

include h

theorem concur_upper (a : Address) (max? : Option Nat) :
    Concur (Mirrors S) (upper E a max?) (upper F a max?) := by
  refine .bind (.get_bind fun v w hv => ?_) fun max =>
    concur_remembered _ (concur_ask (concur_findUpper h a max))
  rw [hv.observer]
  exact .pure _

theorem concur_lower (a : Address) (max? : Option Nat) :
    Concur (Mirrors S) (lower E a max?) (lower F a max?) := by
  refine .bind (.get_bind fun v w hv => ?_) fun max =>
    concur_remembered _ (concur_ask (concur_findLower h a max))
  rw [hv.observer]
  exact .pure _

theorem concur_string (a : Address) (max? : Option Nat) :
    Concur (Mirrors S) (string E a max?) (string F a max?) := by
  refine .get_bind fun v w hv => ?_
  rw [hv.observer]
  exact concur_ask (Memory.concur_string h a _)

theorem concur_stringBuffered (a : Address) (max? : Option Nat) :
    Concur (Mirrors S) (stringBuffered E a max?) (stringBuffered F a max?) := by
  refine .get_bind fun v w hv => ?_
  rw [hv.observer]
  exact concur_ask (Memory.concur_stringBuffered h a _)

end Boundary

namespace AuxvSource

variable (h : E.MirrorsQuestions F S V T)

include h

theorem concur_fromStackPointer (i : Inferior) (skew : Nat) :
    Concur (Mirrors S) (fromStackPointer E i skew) (fromStackPointer F i skew) := by
  refine .andThen (.ofState (Registers.concur_get h.toMirrorsSelection "sp")) fun sp? => ?_
  cases sp? with
  | none => exact .ok _
  | some sp =>
    exact concur_act <| .andThen (Engine.concur_archOf h.toMirrorsRegisters i) fun arch =>
      .andThen (.ofState (Boundary.concur_stackTop h sp)) fun top =>
        concur_readStack h arch.pointerSize top skew

theorem concur_fileNameFromStack :
    Concur (Mirrors S) (fileNameFromStack E) (fileNameFromStack F) := by
  refine .bind (Registers.concur_get h.toMirrorsSelection "sp") fun sp? => ?_
  cases sp? with
  | none => exact .pure _
  | some sp =>
    refine .bind (concur_ask (Memory.concur_peek h sp)) fun first? => ?_
    dsimp only
    split
    · exact .pure _
    · refine .bind (Boundary.concur_upper h sp none) fun top => ?_
      refine .bind (concur_ask (concur_lastString? h top)) fun start? => ?_
      cases start? with
      | none => exact .pure _
      | some a =>
        refine .bind (Boundary.concur_string h a _) fun name => ?_
        split
        · exact .pure _
        · refine .get_bind fun v w hv => ?_
          rw [hv.observer]
          exact .pure _

theorem concur_fromStack (i : Inferior) :
    Concur (Mirrors S) (fromStack E i) (fromStack F i) := by
  have hwalk (skew : Nat) : Concur (Mirrors S) (walk E i skew) (walk F i skew) :=
    .bind (concur_fromStackPointer h i skew).attempt fun _ => .pure _
  refine .bind (concur_ask (Engine.concur_runsLinux h)) fun isLinux => ?_
  cases isLinux with
  | false => exact .pure _
  | true =>
    refine .bind (concur_ask (Engine.concur_isEmulatedKernel h i)) fun isKernel => ?_
    cases isKernel with
    | true => exact .pure _
    | false =>
      refine .bind (hwalk 0) fun aligned => ?_
      refine .bind_or (hwalk 1) aligned fun v => ?_
      dsimp only
      split
      · refine .bind (concur_fileNameFromStack h) fun path? => ?_
        cases path? <;> exact .pure _
      · exact .pure _

theorem concur_get : Concur (Mirrors S) (get E) (get F) := by
  refine concur_remembered _ (.get_bind fun v w hv => ?_)
  rw [h.selectedInferior _ _ hv.engine]
  cases F.selectedInferior w.engine with
  | none => exact .pure _
  | some i =>
    refine .bind (concur_ask (concur_listed? h)) fun listed? => ?_
    cases listed? with
    | none => exact concur_fromStack h i
    | some listed => exact .pure _

end AuxvSource

namespace Registers

/-- The same happens to both, where what changes the one engine has its like in the other. -/
inductive Incident.Mirrors (S : σ → ρ → Prop) : Incident σ → Incident ρ → Prop
  | forget (e : Event) : Incident.Mirrors S (.forget e) (.forget e)
  | snapshot : Incident.Mirrors S .snapshot .snapshot
  | reset : Incident.Mirrors S .reset .reset
  | use (u : Use) : Incident.Mirrors S (.use u) (.use u)
  | change {f : σ → σ} {g : ρ → ρ} : (∀ s t, S s t → S (f s) (g t)) →
      Incident.Mirrors S (.change f) (.change g)

variable (h : E.Mirrors F S V T)

include h

theorem concur_write (name : String) (value : UInt64) :
    Concur (Mirrors S) (write E name value) (write F name value) := by
  refine .andThen (.ofState (concur_ask (Engine.concur_frame? h.toMirrorsSelection))) fun f? => ?_
  cases f? with
  | none => exact .throw _
  | some f =>
    refine .andThen (concur_act (h.writeRegister f _ value)) fun isKnown => ?_
    split
    · exact .ofState (concur_modifyCaches _)
    · exact .throw _

theorem concur_probe (a : Address) : Concur S (Memory.probe E a) (Memory.probe F a) := by
  have hmap := Concur.andThen (Engine.concur_inferior h.toMirrorsRegisters) h.memoryMap
  refine .bind hmap.attempt fun map? => ?_
  split
  · exact .bind (Memory.concur_peek h.toMirrorsQuestions a) fun _ => .pure _
  · exact .pure _

theorem concur_readInterruptTable :
    Concur S (readInterruptTable E) (readInterruptTable F) := by
  refine .get_bind fun s t hs => ?_
  rw [h.selectedInferior s t hs]
  cases F.selectedInferior t with
  | none => exact .pure _
  | some i =>
    refine .bind (Engine.concur_isEmulatedKernel h.toMirrorsQuestions i) fun isKernel => ?_
    cases isKernel with
    | false => exact .pure _
    | true =>
      refine .bind (Engine.concur_archOf h.toMirrorsRegisters i).attempt fun arch? => ?_
      cases arch? with
      | none => exact .pure _
      | some arch =>
        dsimp only
        split
        · exact .pure _
        · refine .bind (Engine.concur_frame? h.toMirrorsSelection) fun f? => ?_
          split
          · exact .pure _
          · refine .bind h.monitor.attempt fun output? => ?_
            cases output? <;> exact .pure _

theorem mirrors_use (u : Use) {v : View σ} {w : View ρ} (hv : v.Mirrors S w) :
    (u.perform E v).Mirrors S (u.perform F w) := by
  have hdescriptor (key : String) (f : UInt64 × UInt64 → UInt64) :=
    concur_remembered (t := .descriptors) key <|
      Concur.bind (concur_ask (concur_readInterruptTable h)) fun table? =>
        .pure (table?.map f)
  cases u with
  | read r => exact (concur_reading h.toMirrorsSelection r v w hv).2
  | write name value => exact (concur_write h name value v w hv).2
  | base segment => exact (concur_segmentBase h.toMirrorsQuestions segment v w hv).2
  | interruptTable => exact (hdescriptor _ _ v w hv).2
  | interruptTableLimit => exact (hdescriptor _ _ v w hv).2
  | instructionSet => exact (concur_instructionSet h.toMirrorsSelection v w hv).2
  | isReadable a => exact (concur_remembered a (concur_ask (concur_probe h a)) v w hv).2
  | upper a max? => exact (Boundary.concur_upper h.toMirrorsQuestions a max? v w hv).2
  | lower a max? => exact (Boundary.concur_lower h.toMirrorsQuestions a max? v w hv).2
  | string a max? => exact (Boundary.concur_stringBuffered h.toMirrorsQuestions a max? v w hv).2
  | auxv => exact (AuxvSource.concur_get h.toMirrorsQuestions v w hv).2
  | invalidate => exact (concur_modifyCaches _ v w hv).2

theorem mirrors_perform {i : Incident σ} {j : Incident ρ} (hi : i.Mirrors S j) {v : View σ}
    {w : View ρ} (hv : v.Mirrors S w) : (i.perform E v).Mirrors S (j.perform F w) := by
  cases hi with
  | forget e => exact (concur_modifyCaches _ v w hv).2
  | snapshot => exact (concur_snapshotCommon h.toMirrorsSelection v w hv).2
  | reset => exact (concur_reset v w hv).2
  | use u => exact mirrors_use h u hv
  | change hchange => exact ⟨hv.observer, hchange _ _ hv.engine⟩

theorem mirrors_lived {life : List (Incident σ)} {life' : List (Incident ρ)}
    (hlife : List.Forall₂ (Incident.Mirrors S) life life') {v : View σ} {w : View ρ}
    (hv : v.Mirrors S w) : (lived E v life).Mirrors S (lived F w life') := by
  induction hlife with
  | nil => exact hv
  | cons hi _ ih => exact mirrors_perform h hi ih

/-- What an observer answers tells nothing about its engine but what that answers itself. -/
theorem reading_mirrored {life : List (Incident σ)} {life' : List (Incident ρ)}
    (hlife : List.Forall₂ (Incident.Mirrors S) life life') {v : View σ} {w : View ρ}
    (hv : v.Mirrors S w) (r : Reading) :
    (r.perform E (lived E v life)).1 = (r.perform F (lived F w life')).1 :=
  (concur_reading h.toMirrorsSelection r _ _ (mirrors_lived h hlife hv)).1

end Registers

end Debuggee
