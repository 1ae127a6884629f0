import Debuggee.Proofs.Selection

namespace Debuggee

variable {σ ν τ α : Type}

structure Stacks (σ : Type) : Type extends Liveness σ where
  innermost : σ → Thread → Option Frame

structure Stacks.Same (K : Stacks σ) (s s' : σ) : Prop where
  thread : ∀ t, K.thread s' t ↔ K.thread s t
  frame : ∀ f, K.frame s' f ↔ K.frame s f
  innermost : ∀ t, K.innermost s' t = K.innermost s t

theorem Stacks.Same.trans {K : Stacks σ} {s s' s'' : σ} (h : K.Same s s') (h' : K.Same s' s'') :
    K.Same s s'' where
  thread t := (h'.thread t).trans (h.thread t)
  frame f := (h'.frame f).trans (h.frame f)
  innermost t := (h'.innermost t).trans (h.innermost t)

namespace Engine

def selection (E : Engine σ ν τ) (s : σ) : Option Thread × Option Frame :=
  (E.selectedThread s, (E.frame? s).1)

structure Rests (E : Engine σ ν τ) (K : Stacks σ) (s s' : σ) : Prop where
  selection : E.selection s' = E.selection s
  same : K.Same s s'

/--
A thread is selected along with its innermost frame, and a frame alone. What has ended cannot be
selected, and to try it changes nothing; nor does any other call.
-/
structure SelectsInnermost (E : Engine σ ν τ) (K : Stacks σ) : Prop where
  switchThread_ok : ∀ {s t s'}, E.switchThread t s = (.ok (), s') →
    K.thread s t ∧ E.selection s' = (some t, K.innermost s t) ∧ K.Same s s'
  switchThread_error : ∀ {s t e s'}, E.switchThread t s = (.error e, s') →
    ¬ K.thread s t ∧ E.Rests K s s'
  selectFrame_ok : ∀ {s f s'}, E.selectFrame f s = (.ok (), s') →
    K.frame s f ∧ E.selection s' = (E.selectedThread s, some f) ∧ K.Same s s'
  selectFrame_error : ∀ {s f e s'}, E.selectFrame f s = (.error e, s') →
    ¬ K.frame s f ∧ E.Rests K s s'
  call : ∀ {α : Type} {x : Action σ α}, E.IsCall x → ∀ s, E.Rests K s (x s).2

variable {E : Engine σ ν τ} {K : Stacks σ} {s : σ}

theorem Rests.trans {s' s'' : σ} (h : E.Rests K s s') (h' : E.Rests K s' s'') : E.Rests K s s'' :=
  ⟨h'.selection.trans h.selection, h.same.trans h'.same⟩

theorem Rests.selectedThread {s' : σ} (h : E.Rests K s s') :
    E.selectedThread s' = E.selectedThread s :=
  congrArg Prod.fst h.selection

theorem selection_of_frame? (hs : (E.frame? s).1 = none) :
    E.selection s = (E.selectedThread s, none) := by
  rw [selection, hs]

namespace SelectsInnermost

theorem rests_frame? (hE : E.SelectsInnermost K) (s : σ) : E.Rests K s (E.frame? s).2 :=
  Along.attempt (hE.call .selectedFrame) s

theorem selection_inFrame (hE : E.SelectsInnermost K) (hs : (E.frame? s).1 = none) (f : Frame)
    {x : Action σ α} (hx : ∀ s, E.Rests K s (x s).2) :
    K.frame s f ∧ E.selection (E.inFrame f x s).2 = (E.selectedThread s, some f) ∨
      ¬ K.frame s f ∧ E.selection (E.inFrame f x s).2 = E.selection s := by
  have h₀ := hE.rests_frame? s
  have hother : (E.frame? s).1 ≠ some f := by simp [hs]
  rw [snd_inFrame, FrameGuard.enter_apply, if_neg hother, hs]
  rcases hselect : E.selectFrame f (E.frame? s).2 with ⟨e | _, s₁⟩
  · obtain ⟨hstale, h₁⟩ := hE.selectFrame_error hselect
    exact .inr ⟨mt (h₀.same.frame f).2 hstale, (h₀.trans h₁).selection⟩
  · obtain ⟨hlive, hselection, -⟩ := hE.selectFrame_ok hselect
    refine .inl ⟨(h₀.same.frame f).1 hlive, ?_⟩
    calc E.selection (x s₁).2
      _ = E.selection s₁ := (hx s₁).selection
      _ = (E.selectedThread (E.frame? s).2, some f) := hselection
      _ = (E.selectedThread s, some f) := by rw [h₀.selectedThread]

theorem selection_leave (hE : E.SelectsInnermost K) (u : Thread) (s : σ) :
    let s' := (ThreadGuard.leave E ⟨some (u, none)⟩ s).2
    K.thread s u ∧ E.selection s' = (some u, K.innermost s u) ∨
      ¬ K.thread s u ∧ E.selection s' = E.selection s := by
  show K.thread s u ∧ E.selection (E.switchThread u s).2 = _ ∨
    ¬ K.thread s u ∧ E.selection (E.switchThread u s).2 = _
  rcases hswitch : E.switchThread u s with ⟨e | _, s'⟩
  · obtain ⟨hstale, h⟩ := hE.switchThread_error hswitch
    exact .inr ⟨hstale, h.selection⟩
  · obtain ⟨hlive, hselection, -⟩ := hE.switchThread_ok hswitch
    exact .inl ⟨hlive, hselection⟩

/-- What is selected once a thread has been visited, while no frame was selected. -/
inductive Visited (E : Engine σ ν τ) (K : Stacks σ) (s : σ) (t : Thread) :
    Option Thread × Option Frame → Prop
  | home : E.selectedThread s = some t → Visited E K s t (E.selection s)
  | stale : ¬ K.thread s t → Visited E K s t (E.selection s)
  | staying : E.selectedThread s = none → K.thread s t → Visited E K s t (some t, K.innermost s t)
  | returned {u} : u ≠ t → E.selectedThread s = some u → K.thread s t → K.thread s u →
      Visited E K s t (some u, K.innermost s u)
  | stranded {u} : u ≠ t → E.selectedThread s = some u → K.thread s t → ¬ K.thread s u →
      Visited E K s t (some t, K.innermost s t)

theorem visited_inThread (hE : E.SelectsInnermost K) (hs : (E.frame? s).1 = none) (t : Thread)
    {x : Action σ α} (hx : ∀ s, E.Rests K s (x s).2) :
    Visited E K s t (E.selection (E.inThread t x s).2) := by
  by_cases hhome : E.selectedThread s = some t
  · rw [snd_inThread_of_selected x hhome, (hx s).selection]
    exact .home hhome
  have h₀ := hE.rests_frame? s
  rw [snd_inThread, ThreadGuard.enter_apply, if_neg hhome, hs]
  rcases hswitch : E.switchThread t (E.frame? s).2 with ⟨e | _, s₁⟩
  · obtain ⟨hstale, h₁⟩ := hE.switchThread_error hswitch
    dsimp only
    rw [(h₀.trans h₁).selection]
    exact .stale (mt (h₀.same.thread t).2 hstale)
  obtain ⟨hlive, hselection, h₁⟩ := hE.switchThread_ok hswitch
  have hlive : K.thread s t := (h₀.same.thread t).1 hlive
  have h₂ : K.Same s (x s₁).2 := (h₀.same.trans h₁).trans (hx s₁).same
  have hthere : E.selection (x s₁).2 = (some t, K.innermost s t) := by
    rw [(hx s₁).selection, hselection, h₀.same.innermost]
  cases hthread : E.selectedThread s with
  | none =>
    show Visited E K s t (E.selection (x s₁).2)
    rw [hthere]
    exact .staying hthread hlive
  | some u =>
    have hne : u ≠ t := by
      rintro rfl
      exact hhome hthread
    show Visited E K s t (E.selection (ThreadGuard.leave E ⟨some (u, none)⟩ (x s₁).2).2)
    rcases hE.selection_leave u (x s₁).2 with ⟨hback, hleft⟩ | ⟨hgone, hleft⟩
    · rw [hleft, h₂.innermost]
      exact .returned hne hthread hlive ((h₂.thread u).1 hback)
    · rw [hleft, hthere]
      exact .stranded hne hthread hlive (mt (h₂.thread u).2 hgone)

theorem Visited.eq_selection_iff (hs : (E.frame? s).1 = none) {t : Thread}
    {p : Option Thread × Option Frame} (h : Visited E K s t p) :
    p = E.selection s ↔ E.selectedThread s = some t ∨ ¬ K.thread s t ∨
      ∃ u, E.selectedThread s = some u ∧ K.thread s u ∧ K.innermost s u = none := by
  have hselection := selection_of_frame? hs
  cases h with
  | home hthread => exact iff_of_true rfl (.inl hthread)
  | stale hstale => exact iff_of_true rfl (.inr (.inl hstale))
  | staying hthread hlive => simp [hselection, hthread, hlive]
  | returned hne hthread hlive hback => simp [hselection, hthread, hlive, hback, hne]
  | stranded hne hthread hlive hgone => simp [hselection, hthread, hlive, hgone, hne, hne.symm]

end SelectsInnermost

/--
Where no frame is selected, a frame in which an expression is evaluated remains selected, whether
the evaluation succeeds or fails, unless the frame has ended. To look for the innermost frame of a
thread selects that thread and its innermost frame if no thread was selected or the one that was
has ended, and else the innermost frame of that one. So nothing is selected that was not before
just if the thread is the selected one, or has ended, or the selected one has no frame.
-/
theorem selection_of_absent (hE : E.SelectsInnermost K) (hs : (E.frame? s).1 = none) :
    (∀ f text, let s' := (E.evaluateIn f text s).2
      (E.selection s' = E.selection s ↔ ¬ K.frame s f) ∧
        (K.frame s f → E.selection s' = (E.selectedThread s, some f))) ∧
    ∀ t, let s' := (E.innermostFrame t s).2
      (E.selection s' = E.selection s ↔ E.selectedThread s = some t ∨ ¬ K.thread s t ∨
        ∃ u, E.selectedThread s = some u ∧ K.thread s u ∧ K.innermost s u = none) ∧
      SelectsInnermost.Visited E K s t (E.selection s') := by
  refine ⟨fun f text => ?_, fun t => ?_⟩
  · have hevaluated := hE.selection_inFrame hs f (hE.call (.evaluate text false))
    rcases hevaluated with ⟨hlive, hselected⟩ | ⟨hstale, hselected⟩
    · refine ⟨iff_of_false (fun hsame => ?_) (not_not_intro hlive), fun _ => hselected⟩
      have hframe := congrArg Prod.snd (hselected.symm.trans hsame)
      rw [selection_of_frame? hs] at hframe
      cases hframe
    · exact ⟨iff_of_true hselected hstale, fun hlive => absurd hlive hstale⟩
  · have hvisited := hE.visited_inThread hs t (hE.call .newestFrame)
    exact ⟨hvisited.eq_selection_iff hs, hvisited⟩

end Engine

theorem findIdx?_modify {p : α → Bool} {g : α → α} (h : ∀ a, p (g a) = p a) (l : List α) (n : Nat) :
    (l.modify n g).findIdx? p = l.findIdx? p := by
  induction l generalizing n with
  | nil => simp
  | cons a l ih => cases n <;> simp [List.findIdx?_cons, h, ih]

namespace Machine

def layers : Stacks Machine := { liveness with innermost := innermost? }

theorem selection_apply (m : Machine) :
    engine.selection m = (m.selectedThread, m.selectedFrame) := by
  rw [Engine.selection, frame?_apply]
  rfl

theorem exists_findFrame_iff {m : Machine} {f : Frame} :
    (∃ state, m.findFrame f = .ok state) ↔ m.frames[f.number]?.any (·.live) = true := by
  simp only [findFrame_eq_ok_iff, Option.any_eq_true]

theorem same_of_eq {m m' : Machine} (ht : m'.threads = m.threads) (hf : m'.frames = m.frames) :
    layers.Same m m' where
  thread t := by
    show (∃ ptid, m'.findThread t = .ok ptid) ↔ ∃ ptid, m.findThread t = .ok ptid
    rw [findThread, findThread, ht]
  frame f := by
    show (∃ state, m'.findFrame f = .ok state) ↔ ∃ state, m.findFrame f = .ok state
    rw [findFrame, findFrame, hf]
  innermost t := by
    show m'.innermost? t = m.innermost? t
    rw [innermost?, innermost?, hf]

theorem same_modifyRegisters (m : Machine) (f : Frame)
    (g : List (String × Register) → List (String × Register)) :
    layers.Same m (m.modifyFrame f fun state => { state with registers := g state.registers }) where
  thread _ := Iff.rfl
  frame f' := by
    show (∃ state, findFrame _ f' = .ok state) ↔ ∃ state, m.findFrame f' = .ok state
    rw [exists_findFrame_iff, exists_findFrame_iff, modifyFrame, List.getElem?_modify]
    split
    · simp only [Option.map_eq_map, Option.any_map]
    · simp only [Option.map_eq_map, Option.map_id']
  innermost t := by
    show (innermost? _ t) = m.innermost? t
    rw [innermost?, innermost?, modifyFrame, findIdx?_modify]
    intro state
    rfl

theorem rests_writeRegister (m : Machine) (f : Frame) (name : String) (value : UInt64) :
    engine.Rests layers m (engine.writeRegister f name value m).2 := by
  obtain ⟨g, hm⟩ := writeRegister_registers m f name value
  rw [hm]
  refine ⟨?_, same_modifyRegisters m f g⟩
  rw [selection_apply, selection_apply]
  rfl

theorem selectsInnermost : engine.SelectsInnermost layers where
  switchThread_ok {m t m'} h := by
    rw [switchThread_apply] at h
    split at h
    · next ptid ht =>
      cases h
      exact ⟨⟨ptid, ht⟩, selection_apply _, same_of_eq rfl rfl⟩
    · cases h
  switchThread_error {m t e m'} h := by
    rw [switchThread_apply] at h
    split at h
    · cases h
    · next he =>
      cases h
      exact ⟨by simp [layers, liveness, he], rfl, same_of_eq rfl rfl⟩
  selectFrame_ok {m f m'} h := by
    rw [selectFrame_apply] at h
    split at h
    · next state hf =>
      cases h
      exact ⟨⟨state, hf⟩, selection_apply _, same_of_eq rfl rfl⟩
    · cases h
  selectFrame_error {m f e m'} h := by
    rw [selectFrame_apply] at h
    split at h
    · cases h
    · next he =>
      cases h
      exact ⟨by simp [layers, liveness, he], rfl, same_of_eq rfl rfl⟩
  call {α x} h m := by
    cases h with
    | writeMemory i a bytes =>
      rw [writeMemory_apply]
      cases m.memory.write a bytes with
      | error e => exact ⟨rfl, same_of_eq rfl rfl⟩
      | ok memory => exact ⟨by rw [selection_apply, selection_apply], same_of_eq rfl rfl⟩
    | writeRegister f name value => exact rests_writeRegister m f name value
    | _ => exact ⟨rfl, same_of_eq rfl rfl⟩

def frameless : Machine :=
  { twoThreads with
    threads := twoThreads.threads ++ [(⟨3⟩, none)]
    selectedThread := some ⟨3⟩
    selectedFrame := none }

theorem selection_of_absent_frameless :
    engine.selection (engine.evaluateIn ⟨3⟩ "x" frameless).2 = (some ⟨3⟩, none) ∧
      engine.selection (engine.evaluateIn ⟨1⟩ "x" frameless).2 = (some ⟨3⟩, some ⟨1⟩) ∧
      engine.selection (engine.innermostFrame ⟨2⟩ frameless).2 = (some ⟨3⟩, none) := by
  have hs : (engine.frame? frameless).1 = none := rfl
  obtain ⟨hframe, hthread⟩ := Engine.selection_of_absent selectsInnermost hs
  refine ⟨(hframe ⟨3⟩ "x").1.2 ?_, (hframe ⟨1⟩ "x").2 ⟨_, rfl⟩, (hthread ⟨2⟩).1.2 ?_⟩
  · rintro ⟨state, hstate⟩
    cases hstate
  · exact .inr (.inr ⟨⟨3⟩, rfl, ⟨_, rfl⟩, rfl⟩)

/--
Of a thread with frames none of which is selected one is selected afterwards, whether something is
evaluated in a frame or another thread is asked for its own; and so if no thread is selected either.
-/
theorem selection_ne_of_absent :
    let suspended := { twoThreads with selectedFrame := none }
    let unselected := { suspended with selectedThread := none }
    engine.selection (engine.evaluateIn ⟨1⟩ "x" suspended).2 ≠ engine.selection suspended ∧
      engine.selection (engine.evaluateIn ⟨1⟩ "y" unselected).2 ≠ engine.selection unselected ∧
      engine.selection (engine.innermostFrame ⟨2⟩ suspended).2 ≠ engine.selection suspended ∧
      engine.selection (engine.innermostFrame ⟨2⟩ unselected).2 ≠ engine.selection unselected := by
  decide

end Machine

end Debuggee
