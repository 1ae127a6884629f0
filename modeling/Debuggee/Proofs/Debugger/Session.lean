import Debuggee.Proofs.Debugger.Roster

/-!
The life of a debugger with its observers and with the handlers of others. Whatever happens in it,
outside or while an event is delivered, happens in steps: to set up, to attach and to give up an
observer are steps too.
-/

namespace Debuggee

variable {σ ν τ α : Type} {X : Extension}

namespace Debugger

def joining (config : Config) (p : Nat → Program (Handler X) (World σ X)) :
    Program (Handler X) (World σ X) :=
  .effect id fun w => .subscribe Event.all (.forget w.nextObserver) fun forgetId =>
    .subscribe [.continue, .stop] (.takeSnapshot w.nextObserver) fun snapshotId =>
      .effect (fun w => { w with
        attachments := w.attachments ++ [⟨w.nextObserver, { config }, forgetId, snapshotId⟩]
        nextObserver := w.nextObserver + 1 }) fun _ => p w.nextObserver

def detaching (number : Nat) (p : Program (Handler X) (World σ X)) :
    Program (Handler X) (World σ X) :=
  .effect id fun w =>
    match w.attachment? number with
    | none => p
    | some a => .unsubscribe a.forgetId fun _ => .unsubscribe a.snapshotId fun _ =>
      .effect (fun w => { w with
        attachments := w.attachments.filter (·.number != number) }) fun _ => p

variable (E : Engine σ ν τ)

def configuring (p : Except Error Unit → Program (Handler X) (World σ X)) :
    Program (Handler X) (World σ X) :=
  .effect id fun w =>
    if w.configured then p (.ok ())
    else match executeAll E (settings E w) w.engine with
      | (.ok _, s) =>
        .effect (fun w => { w with
          configured := true
          engine := (E.ask (flavorSetting w) s).2 }) fun _ =>
        .subscribe [.prompt] .applyResize fun _ => p (.ok ())
      | (.error e, s) =>
        .effect (fun w => { w with configured := true, engine := s }) fun _ => p (.error e)

def attaching (config : Config) (p : Except Error Nat → Program (Handler X) (World σ X)) :
    Program (Handler X) (World σ X) :=
  configuring E fun
    | .ok () => joining config fun number => p (.ok number)
    | .error e => p (.error e)

variable {E} (d : Debugger σ X)

theorem perform_joining (config : Config) (p : Nat → Program (Handler X) (World σ X)) :
    Registry.perform (joining config p) d.registry d.world =
      Registry.perform (p d.world.nextObserver) (d.join config).registry (d.join config).world :=
  rfl

theorem perform_detaching (number : Nat) (p : Program (Handler X) (World σ X)) :
    Registry.perform (detaching number p) d.registry d.world =
      Registry.perform p (d.detach number).registry (d.detach number).world := by
  rw [detach, detaching, Registry.perform]
  simp only [id]
  cases d.world.attachment? number <;> rfl

theorem perform_configuring (p : Except Error Unit → Program (Handler X) (World σ X)) :
    Registry.perform (configuring E p) d.registry d.world =
      Registry.perform (p (configure E d).1) (configure E d).2.registry
        (configure E d).2.world := by
  rw [configuring, Registry.perform]
  cases hc : d.world.configured with
  | true =>
    rw [configure_of_configured hc]
    simp only [id, hc, if_true]
  | false =>
    rw [configure_of_not_configured hc]
    simp only [id, hc, Bool.false_eq_true, if_false]
    rcases executeAll E (settings E d.world) d.world.engine with ⟨_ | _, s⟩ <;> rfl

theorem perform_attaching (config : Config)
    (p : Except Error Nat → Program (Handler X) (World σ X)) :
    Registry.perform (attaching E config p) d.registry d.world =
      Registry.perform (p (attach E config d).1) (attach E config d).2.registry
        (attach E config d).2.world := by
  rw [attaching, perform_configuring, attach_apply]
  rcases configure E d with ⟨_ | _, d'⟩
  · rfl
  · exact d'.perform_joining config _

end Debugger

open Debugger

section

variable (E : Engine σ ν τ)

inductive Own : Program (Handler X) (World σ X) → Stage (Roll X) (Handler X) (World σ X) →
    Program (Handler X) (World σ X) → Stage (Roll X) (Handler X) (World σ X) → Prop
  | setUp {m p} : m.world.configured = false → (configure E m.debugger).1 = .ok () →
      Own (configuring E p) m (p (.ok ()))
        (.ofDebugger (m.record.finish m.registry.nextId) (configure E m.debugger).2)
  | join {m p} (config : Config) :
      Own (joining config p) m (p m.world.nextObserver)
        (.ofDebugger
          (m.record.take
            (.observer m.world.nextObserver m.registry.nextId (m.registry.nextId + 1)))
          (m.debugger.join config))
  | detach {m p a} : a ∈ m.world.attachments →
      Own (detaching a.number p) m p
        (.ofDebugger (m.record.leave a.number) (m.debugger.detach a.number))

variable {E} in
theorem Own.perform_eq {p p' : Program (Handler X) (World σ X)}
    {m m' : Stage (Roll X) (Handler X) (World σ X)} (h : Own E p m p' m') :
    Registry.perform p m.registry m.world = Registry.perform p' m'.registry m'.world := by
  cases h with
  | setUp hnew hok =>
    refine (m.debugger.perform_configuring _).trans ?_
    rw [hok]
    rfl
  | join config => rfl
  | detach => exact m.debugger.perform_detaching _ _

variable (B : Behavior σ X)

/--
The roll as the record of a run. Nobody can take away a subscription of an observer or of the
debugger itself, as nobody is told its id.
-/
def rolls : Keeper (react E B) (Roll X) where
  Subscribes m events h roll :=
    ∃ handler, h = .other handler ∧ roll = m.record.take (.other m.registry.nextId events handler)
  Unsubscribes m id roll := m.record.IsOthers id ∧ roll = m.record.drop id
  Becomes m w roll := m.world.Spares w ∧ roll = m.record
  Does := Own E
  Calls m h e p m' := p = react E B h e ∧ m' = m
  hears roll _ := roll
  perform_does := Own.perform_eq
  perform_calls := by
    rintro m h e p m' ⟨rfl, rfl⟩
    rfl

variable {E} in
theorem configure_ofDebugger {R : Type} (record : R) (d : Debugger σ X) :
    (configure E (Stage.ofDebugger record d).debugger).1 = (configure E d).1 ∧
      (configure E (Stage.ofDebugger record d).debugger).2.registry = (configure E d).2.registry ∧
      (configure E (Stage.ofDebugger record d).debugger).2.world = (configure E d).2.world := by
  cases hc : d.world.configured with
  | true =>
    rw [configure_of_configured hc,
      configure_of_configured (d := (Stage.ofDebugger record d).debugger) hc]
    exact ⟨rfl, rfl, rfl⟩
  | false =>
    rw [configure_of_not_configured hc,
      configure_of_not_configured (d := (Stage.ofDebugger record d).debugger) hc]
    simp only [Stage.ofDebugger, Stage.debugger]
    rcases executeAll E (settings E d.world) d.world.engine with ⟨_ | _, s⟩ <;>
      exact ⟨rfl, rfl, rfl⟩

inductive Opens : Stage (Roll X) (Handler X) (World σ X) → Program (Handler X) (World σ X) →
    List (Handler X × Event) → Prop
  | new {w} : w.attachments = [] → w.configured = false → Opens ⟨{}, {}, w⟩ .done []

abbrev Session : List Event → Stage (Roll X) (Handler X) (World σ X) →
    Program (Handler X) (World σ X) → List (Handler X × Event) → Prop :=
  (rolls E B).Run Opens

end

variable {E : Engine σ ν τ} {B : Behavior σ X} {heard : List Event}
  {m m' m'' : Stage (Roll X) (Handler X) (World σ X)}
  {p p' : Program (Handler X) (World σ X)} {due : List (Handler X × Event)}

namespace Stage.IsExact

theorem own (hm : m.IsExact) (h : Own E p m p' m') : m'.IsExact := by
  cases h with
  | setUp hnew hok =>
    rw [configure_of_not_configured (d := m.debugger) hnew] at hok ⊢
    rcases hrun : executeAll E (settings E m.debugger.world) m.debugger.world.engine with
      ⟨_ | _, s⟩
    · rw [hrun] at hok
      cases hok
    · exact hm.finish hnew rfl rfl rfl
  | join config => exact hm.join config
  | detach ha => exact hm.detach ha

theorem step (hm : m.IsExact) (h : (rolls E B).Step p m p' m') : m'.IsExact := by
  cases h with
  | raise e => exact hm.requeue _ _
  | subscribe h =>
    obtain ⟨handler, rfl, rfl⟩ := h
    exact hm.subscribe _ handler
  | unsubscribe h =>
    obtain ⟨hid, rfl⟩ := h
    exact hm.unsubscribe hid
  | effect h =>
    obtain ⟨hw, rfl⟩ := h
    exact hm.spares hw
  | whole h => exact hm.own h

end Stage.IsExact

theorem Session.isExact (h : Session E B heard m p due) : m.IsExact := by
  refine Keeper.Run.keeps (P := Stage.IsExact) ?_ ?_ (fun _ _ _ _ hm => hm.step) ?_
    (fun _ _ _ hm => hm.requeue _ _) (fun _ _ hm => hm) h
  · rintro _ _ _ ⟨hattachments, -⟩
    exact .empty hattachments
  · rintro m w _ hm ⟨hw, rfl⟩
    exact hm.spares hw
  · rintro m h e p m' hm ⟨rfl, rfl⟩
    exact hm

theorem gone_subset_of_step (h : (rolls E B).Step p m p' m') :
    m.record.gone ⊆ m'.record.gone := by
  cases h with
  | raise => exact List.Subset.refl _
  | subscribe h =>
    obtain ⟨_, -, rfl⟩ := h
    exact List.Subset.refl _
  | unsubscribe h =>
    obtain ⟨-, rfl⟩ := h
    exact List.Subset.refl _
  | effect h =>
    obtain ⟨-, rfl⟩ := h
    exact List.Subset.refl _
  | whole h =>
    cases h with
    | detach => exact List.subset_cons_self ..
    | _ => exact List.Subset.refl _

namespace World.Spares

theorem refl (w : World σ X) : w.Spares w := ⟨rfl, rfl, id⟩

theorem look (w : World σ X) (number : Nat) (x : StateM (View σ) α) :
    w.Spares (w.look number x).2 := by
  cases ha : w.attachment? number with
  | none =>
    rw [World.look, ha]
    exact refl w
  | some a =>
    rw [look_of_attachment? ha]
    refine ⟨?_, rfl, id⟩
    show (w.attachments.map _).map _ = _
    rw [List.map_map]
    refine List.map_congr_left fun a _ => ?_
    by_cases hn : a.number = number <;> simp [hn, Attachment.seat]

theorem applyResize (E : Engine σ ν τ) (w : World σ X) : w.Spares (w.applyResize E) := by
  unfold World.applyResize
  split
  split <;> exact ⟨rfl, rfl, id⟩

end World.Spares

theorem exists_steps_effect {f : World σ X → World σ X}
    {p : World σ X → Program (Handler X) (World σ X)}
    (hf : m.world.Spares (f m.world))
    (hp : ∃ m', (rolls E B).Steps (p (f m.world)) { m with world := f m.world } m') :
    ∃ m', (rolls E B).Steps (.effect f p) m m' := by
  obtain ⟨m', hsteps⟩ := hp
  exact ⟨m', .step (.effect ⟨hf, rfl⟩) hsteps⟩

theorem exists_steps_joining (config : Config) {p : Nat → Program (Handler X) (World σ X)}
    (hp : ∀ number m, ∃ m', (rolls E B).Steps (p number) m m')
    (m : Stage (Roll X) (Handler X) (World σ X)) :
    ∃ m', (rolls E B).Steps (joining config p) m m' := by
  obtain ⟨m', hsteps⟩ := hp m.world.nextObserver _
  exact ⟨m', .step (.whole (.join config)) hsteps⟩

theorem exists_steps_configuring {p : Except Error Unit → Program (Handler X) (World σ X)}
    (hp : ∀ answer m, ∃ m', (rolls E B).Steps (p answer) m m')
    (m : Stage (Roll X) (Handler X) (World σ X)) :
    ∃ m', (rolls E B).Steps (configuring E p) m m' := by
  cases hc : m.world.configured with
  | true =>
    obtain ⟨m', hsteps⟩ := hp (.ok ()) m
    refine exists_steps_effect (.refl _) ⟨m', ?_⟩
    simpa only [id, hc, if_true] using hsteps
  | false =>
    rcases hrun : executeAll E (settings E m.world) m.world.engine with ⟨e | _, s⟩
    · obtain ⟨m', hsteps⟩ := hp (.error e)
        { m with world := { m.world with configured := true, engine := s } }
      refine exists_steps_effect (.refl _) ?_
      simp only [id, hc, hrun, Bool.false_eq_true, if_false]
      exact exists_steps_effect ⟨rfl, rfl, fun _ => rfl⟩ ⟨m', hsteps⟩
    · obtain ⟨m', hsteps⟩ := hp (.ok ()) _
      refine ⟨m', .step (.whole (.setUp hc ?_)) hsteps⟩
      have hrun :
          executeAll E (settings E m.debugger.world) m.debugger.world.engine = (.ok (), s) := hrun
      rw [configure_of_not_configured (d := m.debugger) hc, hrun]

theorem exists_steps_attaching (config : Config)
    {p : Except Error Nat → Program (Handler X) (World σ X)}
    (hp : ∀ answer m, ∃ m', (rolls E B).Steps (p answer) m m')
    (m : Stage (Roll X) (Handler X) (World σ X)) :
    ∃ m', (rolls E B).Steps (attaching E config p) m m' := by
  refine exists_steps_configuring (fun answer m => ?_) m
  cases answer with
  | error e => exact hp (.error e) m
  | ok => exact exists_steps_joining config (fun number => hp (.ok number)) m

/-- The handlers of others do, whatever else, what anybody may do. -/
def Behavior.IsFair (E : Engine σ ν τ) (B : Behavior σ X) : Prop :=
  ∀ h e (m : Stage (Roll X) (Handler X) (World σ X)), m.IsExact →
    ∃ m', (rolls E B).Steps (B.react h e) m m'

theorem Behavior.IsFair.follows (hB : B.IsFair E) : (rolls E B).Follows Opens := by
  intro heard m due h e hrun
  suffices hsteps : ∃ m', (rolls E B).Steps (Debuggee.react E B h e) m m' by
    obtain ⟨m', hsteps⟩ := hsteps
    exact ⟨_, m, m', ⟨rfl, rfl⟩, hsteps⟩
  cases h with
  | applyResize => exact exists_steps_effect (.applyResize E _) ⟨_, .done⟩
  | forget number => exact exists_steps_effect (.look _ number _) ⟨_, .done⟩
  | takeSnapshot number => exact exists_steps_effect (.look _ number _) ⟨_, .done⟩
  | other h => exact hB h e m (Session.isExact hrun)

namespace Session

variable {roll : Roll X} {d d' : Debugger σ X}

theorem configure (h : Session E B heard (.ofDebugger roll d) .done []) :
    ∃ roll', Session E B heard (.ofDebugger roll' (Debugger.configure E d).2) .done [] := by
  obtain ⟨m', hsteps⟩ := exists_steps_configuring (fun _ m => ⟨m, .done⟩) (.ofDebugger roll d)
  exact ⟨m'.record, h.perform hsteps (d.perform_configuring fun _ => .done)⟩

theorem attach (h : Session E B heard (.ofDebugger roll d) .done []) (config : Config) :
    ∃ roll', Session E B heard (.ofDebugger roll' (Debugger.attach E config d).2) .done [] := by
  obtain ⟨m', hsteps⟩ := exists_steps_attaching config (fun _ m => ⟨m, .done⟩) (.ofDebugger roll d)
  exact ⟨m'.record, h.perform hsteps (d.perform_attaching config fun _ => .done)⟩

theorem detach (h : Session E B heard (.ofDebugger roll d) .done []) {a : Attachment}
    (ha : a ∈ d.world.attachments) :
    Session E B heard (.ofDebugger (roll.leave a.number) (d.detach a.number)) .done [] :=
  h.perform (.single (.whole (.detach ha))) (d.perform_detaching a.number .done)

theorem subscribe (h : Session E B heard (.ofDebugger roll d) .done []) (events : List Event)
    (handler : X.Handler) :
    Session E B heard (.ofDebugger (roll.take (.other d.registry.nextId events handler))
      (d.subscribe events handler).2) .done [] :=
  h.perform (p := .subscribe events (.other handler) fun _ => .done)
    (.single (.subscribe ⟨handler, rfl, rfl⟩)) rfl

theorem unsubscribe (h : Session E B heard (.ofDebugger roll d) .done []) {id : Nat}
    (hid : roll.IsOthers id) :
    Session E B heard (.ofDebugger (roll.drop id) (d.unsubscribe id).2) .done [] :=
  h.perform (p := .unsubscribe id fun _ => .done) (.single (.unsubscribe ⟨hid, rfl⟩)) rfl

theorem notify (hB : B.IsFair E) (h : Session E B heard (.ofDebugger roll d) .done []) {e : Event}
    (hd : d.notify E B e = some d') :
    ∃ roll' heard', Session E B heard' (.ofDebugger roll' d') .done [] := by
  obtain ⟨⟨r, w⟩, hdispatch, hd⟩ := Option.bind_eq_some_iff.1 hd
  cases hd
  obtain ⟨roll', later, hrun, -⟩ := h.dispatch hB.follows hdispatch
  exact ⟨roll', _, hrun⟩

theorem attach_error {config : Config} {error : Error} {d d' : Debugger σ X}
    (h : Debugger.attach E config d = (.error error, d')) :
    d'.registry = d.registry ∧ d'.world.attachments = d.world.attachments := by
  rw [attach_apply] at h
  cases hc : d.world.configured with
  | true =>
    rw [configure_of_configured hc] at h
    cases h
  | false =>
    rw [configure_of_not_configured hc] at h
    rcases hrun : executeAll E (settings E d.world) d.world.engine with ⟨_ | _, s⟩
    · rw [hrun] at h
      cases h
      exact ⟨rfl, rfl⟩
    · rw [hrun] at h
      cases h

/--
An observer that forgets empties the tables that live until the event, and keeps the others: when
the debuggee halts all but the auxiliary vector, at a prompt and when a register has changed the
values of registers, and when the debuggee starts or loads a module the auxiliary vector.
-/
theorem attachment?_forget (h : Session E B heard m p due) {a : Attachment}
    (ha : a ∈ m.world.attachments) (e : Event) :
    let caches := a.observer.caches
    let left : Caches := match e with
      | .stop => { Caches.empty with auxv := caches.auxv }
      | .prompt | .registerChanged => { caches with values := .empty }
      | .start | .newModule => { caches with auxv := .empty }
      | _ => caches
    (m.world.forget a.number e).attachment? a.number =
      some { a with observer := { a.observer with caches := left } } := by
  intro caches left
  have hleft : caches.onEvent e = left := by
    cases e <;> rfl
  rw [World.forget, World.look_of_attachment? (h.isExact.attachment?_eq ha),
    World.attachment?_putView, h.isExact.attachment?_eq ha, ← hleft]
  rfl

end Session

namespace Watch

theorem spares_write (E : Engine σ ν τ) (h : Watcher) (e : Event) (w : World σ extension) :
    w.Spares (write E h e w) := by
  unfold write
  split
  · exact ⟨rfl, rfl, id⟩
  · exact ⟨rfl, rfl, id⟩
  · next register number _ _ =>
    have hlook := World.Spares.look w number (Registers.get E register)
    exact ⟨hlook.seats, hlook.nextObserver, hlook.configured⟩

theorem isFair_behavior (E : Engine σ ν τ) : (behavior E).IsFair E := by
  intro h e m _
  have hspend (w : World σ extension) : w.Spares (modifyJournal (.spend h.number) w) :=
    ⟨rfl, rfl, id⟩
  refine exists_steps_effect (spares_write E h e m.world) ?_
  cases h.further with
  | none => exact ⟨_, .done⟩
  | some further =>
    dsimp only
    split
    · exact exists_steps_effect (hspend _) ⟨_, .single (.raise further)⟩
    · exact ⟨_, .done⟩

end Watch

end Debuggee
