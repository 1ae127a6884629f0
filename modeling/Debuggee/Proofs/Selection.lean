import Debuggee.Chunk
import Debuggee.Engine.Recorder
import Debuggee.Process
import Debuggee.Proofs.Along
import Debuggee.Proofs.Engine.Machine
import Debuggee.Selection

namespace Debuggee

variable {σ ν τ α β : Type}

inductive Operation (ν τ : Type) : Type
  | evaluateIn : Frame → String → Operation ν τ
  | innermostFrame : Thread → Operation ν τ
  | level : Frame → Operation ν τ
  | readRegister : Frame → String → Operation ν τ
  | writeRegister : Frame → String → UInt64 → Operation ν τ
  | ptid : Thread → Operation ν τ
  | evaluate : String → Operation ν τ
  | read : Inferior → Address → Nat → Operation ν τ
  | readBuffered : Inferior → Address → Nat → Operation ν τ
  | write : Inferior → Address → Bytes → Operation ν τ
  | writePrefix : Inferior → Address → Bytes → Operation ν τ
  | memoryMap : Inferior → Operation ν τ
  | archOf : Inferior → Operation ν τ
  | threads : Inferior → Operation ν τ
  | makeValue : UInt64 → Operation ν τ
  | addressOf : ν → Operation ν τ
  | dereference : ν → Operation ν τ
  | stringOf : ν → Operation ν τ
  | fetch : ν → Operation ν τ
  | toInt : ν → Operation ν τ
  | cast : ν → τ → Operation ν τ
  | fields : τ → Operation ν τ
  | arrayType : τ → Nat → Operation ν τ
  | pointerTo : τ → Operation ν τ
  | followTypedefs : τ → Operation ν τ
  | targetOf : τ → Operation ν τ
  | typeNamed : String → Operation ν τ

namespace Operation

def perform (E : Engine σ ν τ) (s : σ) : Operation ν τ → σ
  | .evaluateIn f text => (E.evaluateIn f text s).2
  | .innermostFrame t => (E.innermostFrame t s).2
  | .level f => (E.level f s).2
  | .readRegister f name => (E.readRegister f name s).2
  | .writeRegister f name value => (E.writeRegister f name value s).2
  | .ptid t => (E.ptid? t s).2
  | .evaluate text => (E.evaluate text true s).2
  | .read i a size => (E.read i a size s).2
  | .readBuffered i a size => (E.readBuffered i a size s).2
  | .write i a bytes => (E.write i a bytes s).2
  | .writePrefix i a bytes => (E.writePrefix i a bytes s).2
  | .memoryMap i => (E.memoryMap i s).2
  | .archOf i => (E.archOf i s).2
  | .threads i => (E.threads i s).2
  | .makeValue n => (E.makeValue n s).2
  | .addressOf v => (E.addressOf v s).2
  | .dereference v => (E.dereference v s).2
  | .stringOf v => (E.stringOf v s).2
  | .fetch v => (E.fetch v s).2
  | .toInt v => (E.toInt v s).2
  | .cast v t => (E.cast v t s).2
  | .fields t => (E.fields t s).2
  | .arrayType t count => (E.arrayType t count s).2
  | .pointerTo t => (E.pointerTo t s).2
  | .followTypedefs t => (E.followTypedefs t s).2
  | .targetOf t => (E.targetOf t s).2
  | .typeNamed name => (E.typeNamed name s).2

def IsAtHome (E : Engine σ ν τ) (s : σ) : Operation ν τ → Prop
  | .evaluateIn f _ => (E.frame? s).1 = some f
  | .innermostFrame t => E.selectedThread s = some t
  | _ => True

def performAll (E : Engine σ ν τ) (s : σ) (ops : List (Operation ν τ)) : σ :=
  ops.foldl (perform E) s

end Operation

/-- The calls of an engine that are made on the way, but for those that select. -/
inductive Engine.IsCall (E : Engine σ ν τ) : ∀ {α : Type}, Action σ α → Prop
  | evaluate (text isGlobal) : IsCall E (E.evaluate text isGlobal)
  | arch (i) : IsCall E (E.arch i)
  | threads (i) : IsCall E (E.threads i)
  | readMemory (i a size) : IsCall E (E.readMemory i a size)
  | writeMemory (i a bytes) : IsCall E (E.writeMemory i a bytes)
  | memoryMap (i) : IsCall E (E.memoryMap i)
  | ptid (t) : IsCall E (E.ptid t)
  | selectedFrame : IsCall E E.selectedFrame
  | newestFrame : IsCall E E.newestFrame
  | level (f) : IsCall E (E.level f)
  | readRegister (f name) : IsCall E (E.readRegister f name)
  | writeRegister (f name value) : IsCall E (E.writeRegister f name value)
  | makeValue (n) : IsCall E (E.makeValue n)
  | addressOf (v) : IsCall E (E.addressOf v)
  | dereference (v) : IsCall E (E.dereference v)
  | stringOf (v) : IsCall E (E.stringOf v)
  | fetch (v) : IsCall E (E.fetch v)
  | toInt (v) : IsCall E (E.toInt v)
  | cast (v t) : IsCall E (E.cast v t)
  | fields (t) : IsCall E (E.fields t)
  | arrayOf (t count) : IsCall E (E.arrayOf t count)
  | pointerTo (t) : IsCall E (E.pointerTo t)
  | followTypedefs (t) : IsCall E (E.followTypedefs t)
  | targetOf (t) : IsCall E (E.targetOf t)
  | typeNamed (name) : IsCall E (E.typeNamed name)

theorem ThreadGuard.enter_apply (E : Engine σ ν τ) (target : Thread) (s : σ) :
    enter E target s =
      if E.selectedThread s = some target then (.ok ⟨none⟩, s)
      else match E.switchThread target (E.frame? s).2 with
        | (.ok _, s') => (.ok ⟨(E.selectedThread s).map (·, (E.frame? s).1)⟩, s')
        | (.error e, s') => (.error e, s') := by
  simp only [enter, Action.bind_apply, Action.ask_apply]
  split
  · rfl
  · simp only [Action.bind_apply, Action.ofState_apply, Engine.frame?]
    rcases E.switchThread target (E.selectedFrame.attempt s).2 with ⟨_ | _, s'⟩ <;> rfl

theorem FrameGuard.enter_apply (E : Engine σ ν τ) (target : Frame) (s : σ) :
    enter E target s =
      if (E.frame? s).1 = some target then (.ok ⟨none⟩, (E.frame? s).2)
      else match E.selectFrame target (E.frame? s).2 with
        | (.ok _, s') => (.ok ⟨(E.frame? s).1⟩, s')
        | (.error e, s') => (.error e, s') := by
  simp only [enter, Action.bind_apply, Action.ofState_apply]
  show (if (E.frame? s).1 = some target then _ else _ : Action σ FrameGuard) (E.frame? s).2 = _
  split
  · rfl
  · rw [Action.bind_apply]
    rcases E.selectFrame target (E.frame? s).2 with ⟨_ | _, s'⟩ <;> rfl

namespace Engine

variable {E : Engine σ ν τ}

theorem snd_inThread (target : Thread) (x : Action σ α) (s : σ) :
    (E.inThread target x s).2 = match ThreadGuard.enter E target s with
      | (.ok guard, s') => (guard.leave E (x s').2).2
      | (.error _, s') => s' := by
  rw [inThread, Action.bind_apply]
  rcases ThreadGuard.enter E target s with ⟨_ | _, s'⟩ <;> rfl

theorem snd_inFrame (target : Frame) (x : Action σ α) (s : σ) :
    (E.inFrame target x s).2 = match FrameGuard.enter E target s with
      | (.ok guard, s') => (guard.leave E (x s').2).2
      | (.error _, s') => s' := by
  rw [inFrame, Action.bind_apply]
  rcases FrameGuard.enter E target s with ⟨_ | _, s'⟩ <;> rfl

theorem snd_inThread_of_selected {target : Thread} (x : Action σ α) {s : σ}
    (h : E.selectedThread s = some target) : (E.inThread target x s).2 = (x s).2 := by
  rw [snd_inThread, ThreadGuard.enter_of_selected h]
  rfl

theorem snd_inFrame_of_selected {target : Frame} (x : Action σ α) {s : σ}
    (h : (E.frame? s).1 = some target) : (E.inFrame target x s).2 = (x (E.frame? s).2).2 := by
  rw [snd_inFrame, FrameGuard.enter_apply, if_pos h]
  rfl

end Engine

section

variable {E : Engine σ ν τ} {R : σ → σ → Prop} (hR : IsPreorder R)
  (hcall : ∀ {α : Type} {x : Action σ α}, E.IsCall x → Along R x)

include hR hcall

theorem along_readChunks (i : Inferior) (stop pages start : Nat) :
    Along R (E.readChunks i stop pages start) := by
  induction pages generalizing start with
  | zero => exact .pure hR _
  | succ pages ih =>
    refine .bind hR (.attempt (hcall (.readMemory ..))) fun bytes? => ?_
    cases bytes? with
    | none => exact .pure hR _
    | some bytes => exact .bind hR (ih _) fun _ => .pure hR _

theorem along_readBuffered (i : Inferior) (a : Address) (size : Nat) :
    Along R (E.readBuffered i a size) := by
  unfold Engine.readBuffered
  split
  · exact .bind hR (along_readChunks hR hcall i _ _ _) fun _ => .pure hR _
  · exact .pure hR _

theorem along_writeChunks (i : Inferior) (chunks : List (Address × Nat)) (bytes : Bytes) :
    Along R (E.writeChunks i chunks bytes) := by
  induction chunks generalizing bytes with
  | nil => exact .pure hR _
  | cons chunk chunks ih =>
    refine .bind hR (.attempt (hcall (.writeMemory ..))) fun done? => ?_
    cases done? with
    | none => exact .pure hR _
    | some _ => exact ih _

theorem along_archOf (i : Inferior) : Along R (E.archOf i) := by
  refine .andThen hR (hcall (.arch i)) fun r => ?_
  cases ArchName.ofEngine r.name with
  | ok name => exact hR.refl
  | error e => exact hR.refl

theorem along_arrayType (t : τ) (count : Nat) : Along R (E.arrayType t count) := by
  unfold Engine.arrayType
  split
  · exact hR.refl
  · exact hcall (.arrayOf t count)

theorem Operation.perform_of_isAtHome {s : σ} {op : Operation ν τ} (h : op.IsAtHome E s) :
    R s (op.perform E s) := by
  cases op with
  | evaluateIn f text =>
    rw [perform, Engine.evaluateIn, Engine.snd_inFrame_of_selected _ h]
    exact hR.trans (Along.attempt (hcall .selectedFrame) s) (hcall (.evaluate text false) _)
  | innermostFrame t =>
    rw [perform, Engine.innermostFrame, Engine.snd_inThread_of_selected _ h]
    exact hcall .newestFrame s
  | level f => exact hcall (.level f) s
  | readRegister f name => exact hcall (.readRegister f name) s
  | writeRegister f name value => exact hcall (.writeRegister f name value) s
  | ptid t => exact Along.attempt (hcall (.ptid t)) s
  | evaluate text => exact hcall (.evaluate text true) s
  | read i a size => exact Along.orFail (hcall (.readMemory i a size)) _ s
  | readBuffered i a size => exact along_readBuffered hR hcall i a size s
  | write i a bytes => exact Along.orFail (hcall (.writeMemory i a bytes)) _ s
  | writePrefix i a bytes => exact along_writeChunks hR hcall i _ bytes s
  | memoryMap i => exact hcall (.memoryMap i) s
  | archOf i => exact along_archOf hR hcall i s
  | threads i => exact hcall (.threads i) s
  | makeValue n => exact hcall (.makeValue n) s
  | addressOf v => exact hcall (.addressOf v) s
  | dereference v => exact hcall (.dereference v) s
  | stringOf v => exact hcall (.stringOf v) s
  | fetch v => exact hcall (.fetch v) s
  | toInt v => exact hcall (.toInt v) s
  | cast v t => exact hcall (.cast v t) s
  | fields t => exact hcall (.fields t) s
  | arrayType t count => exact along_arrayType hR hcall t count s
  | pointerTo t => exact hcall (.pointerTo t) s
  | followTypedefs t => exact hcall (.followTypedefs t) s
  | targetOf t => exact hcall (.targetOf t) s
  | typeNamed name => exact hcall (.typeNamed name) s

end

structure Liveness (σ : Type) : Type where
  thread : σ → Thread → Prop
  frame : σ → Frame → Prop

structure Liveness.Keeps (L : Liveness σ) (s s' : σ) : Prop where
  thread : ∀ t, L.thread s t → L.thread s' t
  frame : ∀ f, L.frame s f → L.frame s' f

theorem Liveness.Keeps.refl (L : Liveness σ) (s : σ) : L.Keeps s s := ⟨fun _ => id, fun _ => id⟩

theorem Liveness.Keeps.trans {L : Liveness σ} {s s' s'' : σ} (h : L.Keeps s s')
    (h' : L.Keeps s' s'') : L.Keeps s s'' :=
  ⟨fun t ht => h'.thread t (h.thread t ht), fun f hf => h'.frame f (h.frame f hf)⟩

namespace Engine

structure SameSelection (E : Engine σ ν τ) (L : Liveness σ) (s s' : σ) : Prop where
  thread : E.selectedThread s' = E.selectedThread s
  frame : (E.frame? s').1 = (E.frame? s).1
  live : L.Keeps s s'

/--
What is live can be selected, a selection that fails changes nothing, and no other call touches
the selection or ends what is live. Which frame is selected along with a thread does not matter.
-/
structure Selects (E : Engine σ ν τ) (L : Liveness σ) : Prop where
  switchThread : ∀ {s t}, L.thread s t → (E.switchThread t s).1 = .ok ()
  switchThread_ok : ∀ {s t s'}, E.switchThread t s = (.ok (), s') →
    E.selectedThread s' = some t ∧ L.Keeps s s'
  switchThread_error : ∀ {s t e s'}, E.switchThread t s = (.error e, s') → s' = s
  selectFrame : ∀ {s f}, L.frame s f → (E.selectFrame f s).1 = .ok ()
  selectFrame_ok : ∀ {s f s'}, E.selectFrame f s = (.ok (), s') →
    E.selectedThread s' = E.selectedThread s ∧ (E.frame? s').1 = some f ∧ L.Keeps s s'
  selectFrame_error : ∀ {s f e s'}, E.selectFrame f s = (.error e, s') → s' = s
  call : ∀ {α : Type} {x : Action σ α}, E.IsCall x → ∀ s, E.SameSelection L s (x s).2

variable {E : Engine σ ν τ} {L : Liveness σ}

theorem isPreorder_sameSelection : IsPreorder (E.SameSelection L) where
  refl s := ⟨rfl, rfl, .refl L s⟩
  trans h h' :=
    ⟨h'.thread.trans h.thread, h'.frame.trans h.frame, h.live.trans h'.live⟩

theorem Selects.sameSelection_frame? (hE : E.Selects L) (s : σ) :
    E.SameSelection L s (E.frame? s).2 := Along.attempt (hE.call .selectedFrame) s

theorem Selects.leave_frame (hE : E.Selects L) {s : σ} {f : Frame} (hf : L.frame s f) :
    let s' := (FrameGuard.leave E ⟨some f⟩ s).2
    E.selectedThread s' = E.selectedThread s ∧ (E.frame? s').1 = some f ∧ L.Keeps s s' :=
  hE.selectFrame_ok (Prod.ext (hE.selectFrame hf) rfl)

theorem Selects.leave_thread (hE : E.Selects L) {s : σ} {t : Thread} {f : Frame}
    (ht : L.thread s t) (hf : L.frame s f) :
    let s' := (ThreadGuard.leave E ⟨some (t, some f)⟩ s).2
    E.selectedThread s' = some t ∧ (E.frame? s').1 = some f ∧ L.Keeps s s' := by
  have hs : E.switchThread t s = (.ok (), (E.switchThread t s).2) :=
    Prod.ext (hE.switchThread ht) rfl
  obtain ⟨hthread, hlive⟩ := hE.switchThread_ok hs
  obtain ⟨hthread', hframe, hlive'⟩ :=
    hE.selectFrame_ok (Prod.ext (hE.selectFrame (hlive.frame f hf)) rfl)
  show E.selectedThread ((E.switchThread t >>= fun _ => E.selectFrame f : Action σ Unit) s).2 = _ ∧
    (E.frame? ((E.switchThread t >>= fun _ => E.selectFrame f : Action σ Unit) s).2).1 = _ ∧
    L.Keeps s ((E.switchThread t >>= fun _ => E.selectFrame f : Action σ Unit) s).2
  rw [Action.bind_apply, hs]
  exact ⟨hthread'.trans hthread, hframe, hlive.trans hlive'⟩

theorem Selects.sameSelection_inFrame (hE : E.Selects L) {s : σ} {f : Frame}
    (hf : (E.frame? s).1 = some f) (hlf : L.frame s f) (target : Frame) {x : Action σ α}
    (hx : ∀ s, E.SameSelection L s (x s).2) : E.SameSelection L s (E.inFrame target x s).2 := by
  by_cases h : (E.frame? s).1 = some target
  · rw [snd_inFrame_of_selected x h]
    exact isPreorder_sameSelection.trans (hE.sameSelection_frame? s) (hx _)
  · have h₀ := hE.sameSelection_frame? s
    rw [snd_inFrame, FrameGuard.enter_apply, if_neg h, hf]
    rcases hs : E.selectFrame target (E.frame? s).2 with ⟨e | _, s₁⟩
    · dsimp only
      rw [hE.selectFrame_error hs]
      exact h₀
    · obtain ⟨hthread, -, hlive⟩ := hE.selectFrame_ok hs
      have h₁ := hx s₁
      -- nothing up to here ends the frame to go back to
      have hkept : L.Keeps s (x s₁).2 := h₀.live.trans (hlive.trans h₁.live)
      obtain ⟨hthread', hframe, hlive'⟩ := hE.leave_frame (hkept.frame f hlf)
      refine ⟨?_, hframe.trans hf.symm, hkept.trans hlive'⟩
      exact hthread'.trans (h₁.thread.trans (hthread.trans h₀.thread))

theorem Selects.sameSelection_inThread (hE : E.Selects L) {s : σ} {t : Thread} {f : Frame}
    (ht : E.selectedThread s = some t) (hlt : L.thread s t) (hf : (E.frame? s).1 = some f)
    (hlf : L.frame s f) (target : Thread) {x : Action σ α}
    (hx : ∀ s, E.SameSelection L s (x s).2) : E.SameSelection L s (E.inThread target x s).2 := by
  by_cases h : E.selectedThread s = some target
  · rw [snd_inThread_of_selected x h]
    exact hx s
  · have h₀ := hE.sameSelection_frame? s
    rw [snd_inThread, ThreadGuard.enter_apply, if_neg h, ht, hf]
    rcases hs : E.switchThread target (E.frame? s).2 with ⟨e | _, s₁⟩
    · dsimp only
      rw [hE.switchThread_error hs]
      exact h₀
    · obtain ⟨-, hlive⟩ := hE.switchThread_ok hs
      -- the switch has selected another frame too, so both have to be selected again
      have hkept : L.Keeps s (x s₁).2 := h₀.live.trans (hlive.trans (hx s₁).live)
      obtain ⟨hthread, hframe, hlive'⟩ :=
        hE.leave_thread (hkept.thread t hlt) (hkept.frame f hlf)
      exact ⟨hthread.trans ht.symm, hframe.trans hf.symm, hkept.trans hlive'⟩

end Engine

namespace Operation

variable {E : Engine σ ν τ} {L : Liveness σ}

theorem sameSelection_perform (hE : E.Selects L) {s : σ} {t : Thread} {f : Frame}
    (ht : E.selectedThread s = some t) (hlt : L.thread s t) (hf : (E.frame? s).1 = some f)
    (hlf : L.frame s f) (op : Operation ν τ) : E.SameSelection L s (op.perform E s) := by
  have hhome (h : op.IsAtHome E s) : E.SameSelection L s (op.perform E s) :=
    perform_of_isAtHome Engine.isPreorder_sameSelection hE.call h
  cases op with
  | evaluateIn target text =>
    exact hE.sameSelection_inFrame hf hlf target (hE.call (.evaluate text false))
  | innermostFrame target =>
    exact hE.sameSelection_inThread ht hlt hf hlf target (hE.call .newestFrame)
  | _ => exact hhome trivial

def selections (calls : List Call) : List Call :=
  calls.filter fun
    | .switchThread _ | .selectFrame _ => true
    | _ => false

theorem isPreorder_selections :
    IsPreorder fun r r' : Recorded σ => selections r'.calls = selections r.calls where
  refl _ := rfl
  trans h h' := h'.trans h

theorem selections_of_isCall {x : Action (Recorded σ) α} (h : E.recorded.IsCall x) :
    Along (fun r r' : Recorded σ => selections r'.calls = selections r.calls) x := by
  intro r
  cases h with
  | readMemory i a size =>
    simp only [Engine.recorded, Action.bind_apply, Recorded.noteRead, Action.change_apply]
    rfl
  | writeMemory i a bytes =>
    simp only [Engine.recorded, Action.bind_apply, Recorded.note, Action.change_apply]
    rfl
  | writeRegister f name value =>
    simp only [Engine.recorded, Action.bind_apply, Recorded.note, Action.change_apply]
    rfl
  | _ => rfl

/--
The user's selection is kept. After any operations in any order, whether they succeed or fail, the
thread and the frame are selected that were selected before; and an operation that finds selected
what it needs makes no call that selects.
-/
theorem selection_performAll (hE : E.Selects L) {s : σ} {t : Thread} {f : Frame}
    (ht : E.selectedThread s = some t) (hlt : L.thread s t) (hf : (E.frame? s).1 = some f)
    (hlf : L.frame s f) :
    (∀ ops : List (Operation ν τ), E.selectedThread (performAll E s ops) = some t ∧
      (E.frame? (performAll E s ops)).1 = some f) ∧
    (∀ (r : Recorded σ) (op : Operation ν τ), op.IsAtHome E r.engine →
      selections (op.perform E.recorded r).calls = selections r.calls) := by
  constructor
  · intro ops
    induction ops generalizing s with
    | nil => exact ⟨ht, hf⟩
    | cons op ops ih =>
      have h := sameSelection_perform hE ht hlt hf hlf op
      exact ih (h.thread.trans ht) (h.live.thread t hlt) (h.frame.trans hf) (h.live.frame f hlf)
  · intro r op hop
    refine perform_of_isAtHome isPreorder_selections selections_of_isCall ?_
    cases op with
    | evaluateIn target text =>
      have hr : (E.recorded.frame? r).1 = (E.frame? r.engine).1 := by
        rw [Engine.frame?, Engine.frame?, Action.attempt_apply, Action.attempt_apply]
        rfl
      exact hr.trans hop
    | innermostFrame target => exact hop
    | _ => exact hop

end Operation

namespace Machine

def liveness : Liveness Machine where
  thread m t := ∃ ptid, m.findThread t = .ok ptid
  frame m f := ∃ state, m.findFrame f = .ok state

theorem keeps_of_eq {m m' : Machine} (ht : m'.threads = m.threads) (hf : m'.frames = m.frames) :
    liveness.Keeps m m' where
  thread t h := by
    show ∃ ptid, m'.findThread t = .ok ptid
    rw [findThread, ht]
    exact h
  frame f h := by
    show ∃ state, m'.findFrame f = .ok state
    rw [findFrame, hf]
    exact h

theorem findFrame_eq_ok_iff {m : Machine} {f : Frame} {state : FrameState} :
    m.findFrame f = .ok state ↔ m.frames[f.number]? = some state ∧ state.live = true := by
  unfold findFrame
  cases m.frames[f.number]? with
  | none => simp
  | some state' =>
    cases hl : state'.live with
    | false =>
      simp only [Option.filter, hl, Option.some.injEq]
      refine iff_of_false nofun ?_
      rintro ⟨rfl, h⟩
      cases hl.symm.trans h
    | true =>
      simp only [Option.filter, hl, Option.some.injEq, if_true, Except.ok.injEq]
      refine ⟨?_, And.left⟩
      rintro rfl
      exact ⟨rfl, hl⟩

theorem keeps_modifyFrame (m : Machine) (f : Frame) {g : FrameState → FrameState}
    (hg : ∀ state, (g state).live = state.live) : liveness.Keeps m (m.modifyFrame f g) where
  thread _ := id
  frame f' h := by
    obtain ⟨state, h⟩ := h
    obtain ⟨hget, hlive⟩ := findFrame_eq_ok_iff.1 h
    have hget' : (m.modifyFrame f g).frames[f'.number]? =
        some (if f.number = f'.number then g state else state) := by
      show (m.frames.modify f.number g)[f'.number]? = _
      rw [List.getElem?_modify, hget]
      rfl
    refine ⟨_, findFrame_eq_ok_iff.2 ⟨hget', ?_⟩⟩
    split
    · rw [hg, hlive]
    · exact hlive

theorem sameSelection_writeMemory (m : Machine) (i : Inferior) (a : Address) (bytes : Bytes) :
    Machine.engine.SameSelection liveness m (Machine.engine.writeMemory i a bytes m).2 := by
  rw [writeMemory_apply]
  cases m.memory.write a bytes with
  | error e => exact Engine.isPreorder_sameSelection.refl m
  | ok memory => exact ⟨rfl, by rw [frame?_apply, frame?_apply], keeps_of_eq rfl rfl⟩

theorem sameSelection_writeRegister (m : Machine) (f : Frame) (name : String) (value : UInt64) :
    Machine.engine.SameSelection liveness m (Machine.engine.writeRegister f name value m).2 := by
  obtain ⟨g, hg, hm⟩ := snd_writeRegister m f name value
  rw [hm]
  refine ⟨rfl, ?_, keeps_modifyFrame m f hg⟩
  rw [frame?_apply, frame?_apply]
  rfl

theorem selects : Machine.engine.Selects liveness where
  switchThread {m t} h := by
    obtain ⟨ptid, h⟩ := h
    rw [switchThread_apply, h]
  switchThread_ok {m t m'} h := by
    rw [switchThread_apply] at h
    split at h
    · cases h
      exact ⟨rfl, keeps_of_eq rfl rfl⟩
    · cases h
  switchThread_error {m t e m'} h := by
    rw [switchThread_apply] at h
    split at h
    · cases h
    · cases h
      rfl
  selectFrame {m f} h := by
    obtain ⟨state, h⟩ := h
    rw [selectFrame_apply, h]
  selectFrame_ok {m f m'} h := by
    rw [selectFrame_apply] at h
    split at h
    · cases h
      exact ⟨rfl, by rw [frame?_apply], keeps_of_eq rfl rfl⟩
    · cases h
  selectFrame_error {m f e m'} h := by
    rw [selectFrame_apply] at h
    split at h
    · cases h
    · cases h
      rfl
  call {α x} h m := by
    cases h with
    | writeMemory i a bytes => exact sameSelection_writeMemory m i a bytes
    | writeRegister f name value => exact sameSelection_writeRegister m f name value
    | _ => exact Engine.isPreorder_sameSelection.refl m

def twoThreads : Machine :=
  { Machine.initial ⟨"i386:x86-64", 8, .little⟩ with
    threads := [(⟨1⟩, some ⟨7, 7, 0⟩), (⟨2⟩, none)]
    frames := [
      { thread := ⟨1⟩, level := 0 },
      { thread := ⟨1⟩, level := 1, locals := [("x", 5)] },
      { thread := ⟨2⟩, level := 0 },
      { thread := ⟨1⟩, level := 2, live := false }]
    selectedThread := some ⟨1⟩
    selectedFrame := some ⟨1⟩ }

theorem selection_performAll_twoThreads :
    let ops : List (Operation Value CType) := [
      .evaluateIn ⟨0⟩ "x", .evaluateIn ⟨3⟩ "x", .evaluateIn ⟨2⟩ "1", .innermostFrame ⟨2⟩,
      .innermostFrame ⟨9⟩, .writeRegister ⟨1⟩ "rax" 1, .evaluateIn ⟨1⟩ "x"]
    let s := Operation.performAll Machine.engine twoThreads ops
    Machine.engine.selectedThread s = some ⟨1⟩ ∧ (Machine.engine.frame? s).1 = some ⟨1⟩ ∧
      Operation.selections ((Operation.evaluateIn ⟨1⟩ "x").perform Machine.engine.recorded
        ⟨twoThreads, [], []⟩).calls = [] := by
  intro ops s
  obtain ⟨hkept, hcalls⟩ := Operation.selection_performAll selects (s := twoThreads) (t := ⟨1⟩)
    (f := ⟨1⟩) rfl ⟨_, rfl⟩ rfl ⟨_, rfl⟩
  exact ⟨(hkept ops).1, (hkept ops).2, hcalls ⟨twoThreads, [], []⟩ (.evaluateIn ⟨1⟩ "x") rfl⟩

end Machine

end Debuggee
