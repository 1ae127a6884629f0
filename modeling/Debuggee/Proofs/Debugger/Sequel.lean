import Debuggee.Engine.Recorder
import Debuggee.Proofs.Debugger.Session
import Debuggee.Proofs.Event.Delivery
import Debuggee.Proofs.Registers.Telling

/-!
The life of a debugger after its set up, as it matters to the width of the engine's output: when
resizes are noted, when events are delivered, and when what passes resizes on is called. Main
statements: whoever announces an event, sets up again, or attaches and gives up observers takes such
a life further, if the handlers of others do no more than anybody may.
-/

namespace Debuggee

open Registers Debugger

variable {σ ν τ α : Type} {X : Extension}

def Call.isWidth : Call → Bool
  | .execute command _ _ => "set width".toList.isPrefixOf command.toList
  | _ => false

namespace Recorded

def widths (r : Recorded σ) : List Call := r.calls.filter (·.isWidth)

def SameWidths (r r' : Recorded σ) : Prop := r'.widths = r.widths

theorem isPreorder_sameWidths : IsPreorder (SameWidths (σ := σ)) where
  refl _ := rfl
  trans h h' := h'.trans h

end Recorded

namespace Engine

variable (E : Engine σ ν τ)

theorem ask_recorded (command : String) (r : Recorded σ) :
    (E.recorded.ask command r).2 =
      { r with
        engine := (E.ask command r.engine).2
        calls := .execute command false true :: r.calls } := by
  simp only [ask, recorded, Action.bind_apply, Recorded.note, Action.change_apply]
  rfl

theorem sameWidths_ask {command : String} (h : (Call.execute command false true).isWidth = false) :
    Along Recorded.SameWidths (E.recorded.ask command) := by
  intro r
  rw [ask_recorded]
  exact List.filter_cons_of_neg (by rw [h]; exact Bool.false_ne_true)

theorem allowsTelling_recorded : E.recorded.AllowsTelling Recorded.SameWidths where
  toIsPreorder := Recorded.isPreorder_sameWidths
  selectedFrame _ := rfl
  ptid _ _ := rfl
  level _ _ := rfl
  readRegister _ _ _ := rfl
  arch _ _ := rfl
  typeNamed _ _ := rfl
  cast _ _ _ := rfl
  toInt _ _ := rfl
  readMemory i a size r := by
    simp only [recorded, Action.bind_apply, Recorded.noteRead, Action.change_apply]
    rfl
  makeValue _ _ := rfl
  pointerTo _ _ := rfl
  stringOf _ _ := rfl
  listAuxv := E.sameWidths_ask (by decide)
  showAbi := E.sameWidths_ask (by decide)
  memoryMap _ _ := rfl
  monitor := E.sameWidths_ask (by decide)
  writeRegister f name value r := by
    simp only [recorded, Action.bind_apply, Recorded.note, Action.change_apply]
    rfl

end Engine

inductive Happening : Type
  | noted : Happening
  | delivered : Event → Happening
  | applied : Nat → Happening

namespace Happening

def event? : Happening → Option Event
  | .delivered e => some e
  | _ => none

def events (past : List Happening) : List Event := past.filterMap (·.event?)

theorem events_append (later past : List Happening) :
    events (later ++ past) = events later ++ events past := List.filterMap_append

end Happening

theorem World.Spares.trans {w w' w'' : World σ X} (h : w.Spares w') (h' : w'.Spares w'') :
    w.Spares w'' :=
  ⟨h'.seats.trans h.seats, h'.nextObserver.trans h.nextObserver, h'.configured ∘ h.configured⟩

def Stage.setUp (E : Engine σ ν τ) (m : Stage (Roll X) (Handler X) (World σ X)) :
    Stage (Roll X) (Handler X) (World σ X) :=
  .ofDebugger (m.record.finish m.registry.nextId) (configure E m.debugger).2

structure Annals (X : Extension) : Type where
  roll : Roll X
  past : List Happening := []

def Stage.roll {H W : Type} (m : Stage (Annals X) H W) : Stage (Roll X) H W :=
  ⟨m.record.roll, m.registry, m.world⟩

section

variable (E : Engine σ ν τ)

/--
What anybody may make of a world, with what happens by it. Short of a resize that is noted this
leaves the mark of a resize alone, and except through an observer the width of the engine.
-/
inductive World.Becomes :
    World (Recorded σ) X → List Happening → World (Recorded σ) X → Prop
  | note (w) : Becomes w [.noted] { w with terminal := w.terminal.noteResize }
  | look {α w number} {x : StateM (View (Recorded σ)) α} {i : Incident (Recorded σ)} :
      (∀ f, i ≠ .change f) → (∀ v, (x v).2 = i.perform E.recorded v) →
        Becomes w [] (w.look number x).2
  | other {w w'} : w.Spares w' → w'.terminal.resized = w.terminal.resized →
      w.engine.SameWidths w'.engine → Becomes w [] w'
  | andThen {w w' w'' told later} : Becomes w told w' → Becomes w' later w'' →
      Becomes w (later ++ told) w''

variable (B : Behavior (Recorded σ) X)

inductive Attends : Stage (Annals X) (Handler X) (World (Recorded σ) X) → Handler X → Event →
    Program (Handler X) (World (Recorded σ) X) →
    Stage (Annals X) (Handler X) (World (Recorded σ) X) → Prop
  | resize {m e} : Attends m .applyResize e .done
      ⟨{ m.record with past := .applied m.world.terminal.size.columns :: m.record.past },
        m.registry, m.world.applyResize E.recorded⟩
  | other {m h e} : h.isResize = false → Attends m h e (react E.recorded B h e) m

def annals : Keeper (react E.recorded B) (Annals X) where
  Subscribes m events h annals :=
    (rolls E.recorded B).Subscribes m.roll events h annals.roll ∧ annals.past = m.record.past
  Unsubscribes m id annals :=
    (rolls E.recorded B).Unsubscribes m.roll id annals.roll ∧ annals.past = m.record.past
  Becomes m w annals := ∃ told, m.world.Becomes E told w ∧
    annals = { m.record with past := told ++ m.record.past }
  Does p m p' m' := Own E.recorded p m.roll p' m'.roll ∧ m'.record.past = m.record.past
  Calls := Attends E B
  hears annals e := { annals with past := .delivered e :: annals.past }
  perform_does h := h.1.perform_eq
  perform_calls h := by
    cases h <;> rfl

inductive Ensues : Stage (Roll X) (Handler X) (World (Recorded σ) X) →
    Stage (Annals X) (Handler X) (World (Recorded σ) X) →
    Program (Handler X) (World (Recorded σ) X) → List (Handler X × Event) → Prop
  | setUp {heard m p due} : Session E.recorded B heard m (configuring E.recorded p) due →
      m.world.configured = false → (configure E.recorded m.debugger).1 = .ok () →
      Ensues (m.setUp E.recorded) (.ofDebugger ⟨(m.setUp E.recorded).record, []⟩
        (configure E.recorded m.debugger).2) (p (.ok ())) due

abbrev Sequel (m₀ : Stage (Roll X) (Handler X) (World (Recorded σ) X)) :
    List Event → Stage (Annals X) (Handler X) (World (Recorded σ) X) →
      Program (Handler X) (World (Recorded σ) X) → List (Handler X × Event) → Prop :=
  (annals E B).Run (Ensues E B m₀)

end

variable {E : Engine σ ν τ} {B : Behavior (Recorded σ) X} {w w' : World (Recorded σ) X}
  {m₀ : Stage (Roll X) (Handler X) (World (Recorded σ) X)}
  {m m' : Stage (Annals X) (Handler X) (World (Recorded σ) X)} {heard : List Event}
  {told : List Happening} {p p' : Program (Handler X) (World (Recorded σ) X)}
  {due : List (Handler X × Event)}

theorem World.Becomes.refl (w : World (Recorded σ) X) : w.Becomes E [] w :=
  .other (.refl w) rfl rfl

theorem World.Becomes.spares (h : w.Becomes E told w') : w.Spares w' := by
  induction h with
  | note w => exact ⟨rfl, rfl, id⟩
  | look _ _ => exact .look _ _ _
  | other hspares => exact hspares
  | andThen _ _ ih ih' => exact ih.trans ih'

theorem World.Becomes.events_eq (h : w.Becomes E told w') : Happening.events told = [] := by
  induction h with
  | note => rfl
  | look => rfl
  | other => rfl
  | andThen _ _ ih ih' => rw [Happening.events_append, ih, ih', List.append_nil]

theorem step_roll (h : (annals E B).Step p m p' m') :
    (rolls E.recorded B).Step p m.roll p' m'.roll := by
  cases h with
  | raise e => exact .raise e
  | subscribe h => exact .subscribe h.1
  | unsubscribe h => exact .unsubscribe h.1
  | effect h =>
    obtain ⟨told, hw, rfl⟩ := h
    exact .effect ⟨hw.spares, rfl⟩
  | whole h => exact .whole h.1

theorem complete_of_step {E : Engine σ ν τ} {B : Behavior σ X}
    {m m' : Stage (Roll X) (Handler X) (World σ X)} {p p' : Program (Handler X) (World σ X)}
    (h : (rolls E B).Step p m p' m') (hm : m.record.complete = true) :
    m'.record.complete = true := by
  cases h with
  | raise => exact hm
  | subscribe h =>
    obtain ⟨_, -, rfl⟩ := h
    exact hm
  | unsubscribe h =>
    obtain ⟨-, rfl⟩ := h
    exact hm
  | effect h =>
    obtain ⟨-, rfl⟩ := h
    exact hm
  | whole h =>
    cases h with
    | setUp => rfl
    | _ => exact hm

theorem Own.world_eq {E : Engine σ ν τ} {m m' : Stage (Roll X) (Handler X) (World σ X)}
    {p p' : Program (Handler X) (World σ X)} (h : Own E p m p' m')
    (hm : m.world.configured = true) :
    m'.world.terminal = m.world.terminal ∧ m'.world.engine = m.world.engine := by
  cases h with
  | setUp hnew =>
    rw [hm] at hnew
    cases hnew
  | join config => exact ⟨rfl, rfl⟩
  | @detach m p a ha =>
    show (m.debugger.detach a.number).world.terminal = m.world.terminal ∧ _
    unfold Debugger.detach
    split <;> exact ⟨rfl, rfl⟩

theorem becomes_of_step (h : (annals E B).Step p m p' m') (hm : m.world.configured = true) :
    ∃ told w, m.world.Becomes E told w ∧ m'.record.past = told ++ m.record.past ∧
      m'.world.terminal = w.terminal ∧ m'.world.engine = w.engine := by
  cases h with
  | raise => exact ⟨[], _, .refl _, rfl, rfl, rfl⟩
  | subscribe h => exact ⟨[], _, .refl _, h.2, rfl, rfl⟩
  | unsubscribe h => exact ⟨[], _, .refl _, h.2, rfl, rfl⟩
  | effect h =>
    obtain ⟨told, hw, rfl⟩ := h
    exact ⟨told, _, hw, rfl, rfl, rfl⟩
  | whole h => exact ⟨[], m.world, .refl _, h.2, h.1.world_eq hm⟩

namespace Sequel

theorem session (h : Sequel E B m₀ heard m p due) :
    ∃ heard, Session E.recorded B heard m.roll p due := by
  induction h with
  | start h =>
    cases h with
    | setUp h hnew hok => exact ⟨_, h.step (.whole (.setUp hnew hok))⟩
  | happen _ hw ih =>
    obtain ⟨told, hw, rfl⟩ := hw
    obtain ⟨heard, ih⟩ := ih
    exact ⟨heard, ih.happen ⟨hw.spares, rfl⟩⟩
  | act p _ ih =>
    obtain ⟨heard, ih⟩ := ih
    exact ⟨heard, ih.act p⟩
  | step _ hstep ih =>
    obtain ⟨heard, ih⟩ := ih
    exact ⟨heard, ih.step (step_roll hstep)⟩
  | announce e _ ih =>
    obtain ⟨heard, ih⟩ := ih
    exact ⟨heard, ih.announce e⟩
  | deliver _ hp ih =>
    obtain ⟨heard, ih⟩ := ih
    exact ⟨_, ih.deliver hp⟩
  | call _ hcalls ih =>
    obtain ⟨heard, ih⟩ := ih
    have hcall := ih.call ⟨rfl, rfl⟩
    cases hcalls with
    | resize => exact ⟨heard, hcall.step (.effect ⟨.applyResize .., rfl⟩)⟩
    | other => exact ⟨heard, hcall⟩
  | rest _ hp ih =>
    obtain ⟨heard, ih⟩ := ih
    exact ⟨heard, ih.rest hp⟩

theorem isExact (h : Sequel E B m₀ heard m p due) : m.roll.IsExact :=
  have ⟨_, h⟩ := h.session
  h.isExact

theorem complete (h : Sequel E B m₀ heard m p due) : m.record.roll.complete = true := by
  refine Keeper.Run.keeps (P := fun m => m.record.roll.complete = true) ?_ ?_ ?_ ?_ ?_ ?_ h
  · rintro _ _ _ ⟨⟩
    rfl
  · rintro m w _ hm ⟨told, -, rfl⟩
    exact hm
  · exact fun _ _ _ _ hm hstep => complete_of_step (step_roll hstep) hm
  · rintro m h e p m' hm ⟨⟩ <;> exact hm
  · exact fun _ _ _ hm => hm
  · exact fun _ _ hm => hm

theorem configured (h : Sequel E B m₀ heard m p due) : m.world.configured = true :=
  h.isExact.configured h.complete

theorem events_eq (h : Sequel E B m₀ heard m p due) : Happening.events m.record.past = heard := by
  induction h with
  | start h =>
    cases h
    rfl
  | happen _ hw ih =>
    obtain ⟨told, hw, rfl⟩ := hw
    rw [Happening.events_append, hw.events_eq]
    exact ih
  | step h hstep ih =>
    obtain ⟨told, w, hw, hpast, -⟩ := becomes_of_step hstep (configured h)
    rw [hpast, Happening.events_append, hw.events_eq]
    exact ih
  | deliver _ _ ih => exact congrArg (_ :: ·) ih
  | call _ hcalls ih => cases hcalls <;> exact ih
  | act _ _ ih => exact ih
  | announce _ _ ih => exact ih
  | rest _ _ ih => exact ih

theorem step_own {m₁ : Stage (Roll X) (Handler X) (World (Recorded σ) X)}
    (h : Own E.recorded p m.roll p' m₁) :
    (annals E B).Step p m p' ⟨⟨m₁.record, m.record.past⟩, m₁.registry, m₁.world⟩ :=
  .whole ⟨h, rfl⟩

variable {roll : Roll X} {past : List Happening} {d d' : Debugger (Recorded σ) X}

theorem ofConfigure (h : Session E.recorded B heard (.ofDebugger roll d) .done [])
    (hnew : d.world.configured = false) (hok : (Debugger.configure E.recorded d).1 = .ok ()) :
    ∃ roll', Sequel E B (.ofDebugger roll' (Debugger.configure E.recorded d).2) []
      (.ofDebugger ⟨roll', []⟩ (Debugger.configure E.recorded d).2) .done [] := by
  obtain ⟨hanswer, hregistry, hworld⟩ := configure_ofDebugger (E := E.recorded) roll d
  have hsetUp := Ensues.setUp (h.act (configuring E.recorded fun _ => .done)) hnew
    (hanswer.trans hok)
  refine ⟨roll.finish d.registry.nextId, ?_⟩
  simp only [Stage.ofDebugger, ← hregistry, ← hworld]
  exact .start hsetUp

theorem configure (h : Sequel E B m₀ heard (.ofDebugger ⟨roll, past⟩ d) .done []) :
    Debugger.configure E.recorded d = (.ok (), d) :=
  configure_of_configured h.configured

theorem attach (h : Sequel E B m₀ heard (.ofDebugger ⟨roll, past⟩ d) .done []) (config : Config) :
    ∃ roll', Sequel E B m₀ heard
      (.ofDebugger ⟨roll', past⟩ (Debugger.attach E.recorded config d).2) .done [] := by
  rw [attach_apply, h.configure]
  exact ⟨_, h.perform (.single (step_own (.join config)))
    (d.perform_joining config fun _ => .done)⟩

theorem detach (h : Sequel E B m₀ heard (.ofDebugger ⟨roll, past⟩ d) .done []) (number : Nat) :
    ∃ roll', Sequel E B m₀ heard (.ofDebugger ⟨roll', past⟩ (d.detach number)) .done [] := by
  cases ha : d.world.attachment? number with
  | none =>
    rw [Debugger.detach, ha]
    exact ⟨roll, h⟩
  | some a =>
    obtain rfl : a.number = number := by simpa using List.find?_some ha
    have ha : a ∈ d.world.attachments := List.mem_of_find?_eq_some ha
    exact ⟨_, h.perform (.single (step_own (.detach ha))) (d.perform_detaching a.number .done)⟩

theorem subscribe (h : Sequel E B m₀ heard (.ofDebugger ⟨roll, past⟩ d) .done [])
    (events : List Event) (handler : X.Handler) :
    ∃ roll', Sequel E B m₀ heard
      (.ofDebugger ⟨roll', past⟩ (d.subscribe events handler).2) .done [] := by
  have hsubscribes : (annals E B).Subscribes (.ofDebugger ⟨roll, past⟩ d) events (.other handler)
      ⟨_, past⟩ := ⟨⟨handler, rfl, rfl⟩, rfl⟩
  exact ⟨_, h.perform (p := .subscribe events (.other handler) fun _ => .done)
    (.single (.subscribe hsubscribes)) rfl⟩

theorem noteResize (h : Sequel E B m₀ heard (.ofDebugger ⟨roll, past⟩ d) .done []) :
    Sequel E B m₀ heard (.ofDebugger ⟨roll, .noted :: past⟩ d.noteResize) .done [] :=
  h.happen ⟨[.noted], .note _, rfl⟩

theorem resizeWindow (h : Sequel E B m₀ heard (.ofDebugger ⟨roll, past⟩ d) .done [])
    (size : WindowSize) :
    Sequel E B m₀ heard (.ofDebugger ⟨roll, past⟩ { d with
      world := { d.world with terminal := { d.world.terminal with size } } }) .done [] :=
  have hw : d.world.Becomes E [] { d.world with terminal := { d.world.terminal with size } } :=
    .other ⟨rfl, rfl, id⟩ rfl rfl
  h.happen ⟨[], hw, rfl⟩

end Sequel

theorem exists_steps_becomes {f : World (Recorded σ) X → World (Recorded σ) X}
    {p : World (Recorded σ) X → Program (Handler X) (World (Recorded σ) X)}
    (hf : m.world.Becomes E told (f m.world))
    (hp : ∀ annals', ∃ m', (annals E B).Steps (p (f m.world)) ⟨annals', m.registry, f m.world⟩ m') :
    ∃ m', (annals E B).Steps (.effect f p) m m' := by
  obtain ⟨m', hsteps⟩ := hp _
  exact ⟨m', .step (.effect ⟨told, hf, rfl⟩) hsteps⟩

/-- The handlers of others do no more than anybody may. -/
def Behavior.IsModest (E : Engine σ ν τ) (B : Behavior (Recorded σ) X) : Prop :=
  ∀ h e (m : Stage (Annals X) (Handler X) (World (Recorded σ) X)), m.roll.IsExact →
    m.record.roll.complete = true → ∃ m', (annals E B).Steps (B.react h e) m m'

theorem Behavior.IsModest.follows (hB : B.IsModest E) : (annals E B).Follows (Ensues E B m₀) := by
  intro heard m due h e hrun
  by_cases hh : h = .applyResize
  · subst hh
    exact ⟨_, _, _, .resize, .done⟩
  suffices hsteps : ∃ m', (annals E B).Steps (Debuggee.react E.recorded B h e) m m' by
    obtain ⟨m', hsteps⟩ := hsteps
    refine ⟨_, m, m', .other ?_, hsteps⟩
    cases h <;> first | rfl | exact absurd rfl hh
  cases h with
  | applyResize => exact absurd rfl hh
  | forget number =>
    exact exists_steps_becomes (.look (i := .forget e) nofun fun _ => rfl) fun _ => ⟨_, .done⟩
  | takeSnapshot number =>
    exact exists_steps_becomes (.look (i := .snapshot) nofun fun _ => rfl) fun _ => ⟨_, .done⟩
  | other h => exact hB h e m (Sequel.isExact hrun) (Sequel.complete hrun)

theorem Sequel.notify {roll : Roll X} {past : List Happening} {d d' : Debugger (Recorded σ) X}
    (hB : B.IsModest E) (h : Sequel E B m₀ heard (.ofDebugger ⟨roll, past⟩ d) .done [])
    {e : Event} (hd : d.notify E.recorded B e = some d') :
    ∃ roll' past' later, Sequel E B m₀ (later ++ heard) (.ofDebugger ⟨roll', past'⟩ d') .done [] ∧
      (d.registry.Idle → d'.registry.Idle ∧ ∃ blocks : List (Block (Handler X)),
        blocks.map (·.event) = e :: blocks.flatMap Block.raised ∧
          later = (blocks.map (·.event)).reverse) := by
  obtain ⟨⟨r, w⟩, hdispatch, hd⟩ := Option.bind_eq_some_iff.1 hd
  cases hd
  obtain ⟨⟨roll', past'⟩, later, hrun, hidle⟩ := h.dispatch hB.follows hdispatch
  exact ⟨roll', past', later, hrun, hidle⟩

end Debuggee
