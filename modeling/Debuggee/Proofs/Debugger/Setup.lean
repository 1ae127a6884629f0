import Debuggee.Engine.Scene
import Debuggee.Workbench

namespace Debuggee

variable {σ ν τ : Type} {X : Extension}

inductive Engine.Obeys (E : Engine σ ν τ) : σ → List String → σ → Prop
  | nil {s} : Obeys E s [] s
  | cons {s s' s'' command commands output} : E.ask command s = (.ok output, s') →
      Obeys E s' commands s'' → Obeys E s (command :: commands) s''

def Handler.isResize : Handler X → Bool
  | .applyResize => true
  | _ => false

namespace Debugger

section

variable (E : Engine σ ν τ)

def flavorSetting (w : World σ X) : String := s!"set disassembly-flavor {w.config.flavor}"

def resizes (r : Registry (Handler X)) : List (List Event) :=
  (r.subscriptions.filter (·.handler.isResize)).map (·.events)

structure IsNew (d : Debugger σ X) : Prop where
  configured : d.world.configured = false
  attachments : d.world.attachments = []
  fresh : ∀ s ∈ d.registry.subscriptions, s.id < d.registry.nextId
  resizes : resizes d.registry = []

/-- The engine has executed all the settings that the first debugger asks for. -/
def IsConfigured (d d' : Debugger σ X) : Prop :=
  ∃ s, E.Obeys d.world.engine (settings E d.world) s ∧
    d'.world.engine = (E.ask (flavorSetting d.world) s).2

/-- The engine has refused one of the settings, and has not been asked for those after it. -/
def IsAbandoned (d d' : Debugger σ X) (e : Error) : Prop :=
  ∃ done command rest s, settings E d.world = done ++ command :: rest ∧
    E.Obeys d.world.engine done s ∧ E.ask command s = (.error e, d'.world.engine)

def join (config : Config) (d : Debugger σ X) : Debugger σ X :=
  let number := d.world.nextObserver
  let forget := d.registry.subscribe Event.all (.forget number)
  let snapshot := forget.2.subscribe [.continue, .stop] (.takeSnapshot number)
  { d with
    registry := snapshot.2
    world := { d.world with
      attachments := d.world.attachments ++ [⟨number, { config }, forget.1, snapshot.1⟩]
      nextObserver := number + 1 } }

end

variable {E : Engine σ ν τ} {d : Debugger σ X}

theorem executeAll_cases (commands : List String) (s : σ) :
    (∃ s', E.Obeys s commands s' ∧ executeAll E commands s = (.ok (), s')) ∨
      ∃ done command rest s₁ e s', commands = done ++ command :: rest ∧ E.Obeys s done s₁ ∧
        E.ask command s₁ = (.error e, s') ∧ executeAll E commands s = (.error e, s') := by
  induction commands generalizing s with
  | nil => exact .inl ⟨s, .nil, rfl⟩
  | cons command commands ih =>
    rw [executeAll, Action.bind_apply]
    rcases hs : E.ask command s with ⟨e | output, s'⟩
    · exact .inr ⟨[], command, commands, s, e, s', rfl, .nil, hs, rfl⟩
    · rcases ih s' with ⟨s'', hobeys, hrun⟩ | ⟨done, refused, rest, s₁, e, s'', hc, hdone, he, hrun⟩
      · exact .inl ⟨s'', .cons hs hobeys, hrun⟩
      · exact .inr ⟨command :: done, refused, rest, s₁, e, s'', by rw [hc]; rfl, .cons hs hdone, he,
          hrun⟩

theorem configure_of_configured (h : d.world.configured = true) : configure E d = (.ok (), d) := by
  show (if d.world.configured then pure () else _ : Action (Debugger σ X) Unit) d = _
  rw [if_pos h]
  rfl

theorem configure_of_not_configured (h : d.world.configured = false) :
    configure E d = match executeAll E (settings E d.world) d.world.engine with
      | (.ok _, s) => (.ok (), { d with
          world := { d.world with
            configured := true
            engine := (E.ask (flavorSetting d.world) s).2 }
          registry := (d.registry.subscribe [.prompt] .applyResize).2 })
      | (.error e, s) => (.error e, { d with
          world := { d.world with configured := true, engine := s } }) := by
  show (if d.world.configured then pure () else _ : Action (Debugger σ X) Unit) d = _
  rw [if_neg (by rw [h]; exact Bool.false_ne_true)]
  simp only [Action.bind_apply, onEngine, Action.within_apply, Action.ofState_apply,
    Action.attempt_apply]
  show (match (executeAll E (settings E d.world) d.world.engine) with | (r, s) => _) = _
  rcases executeAll E (settings E d.world) d.world.engine with ⟨_ | _, s⟩ <;> rfl

theorem attach_apply (config : Config) :
    attach E config d = match configure E d with
      | (.ok _, d') => (.ok d'.world.nextObserver, d'.join config)
      | (.error e, d') => (.error e, d') := by
  rw [attach, Action.bind_apply]
  rcases configure E d with ⟨_ | _, d'⟩ <;> rfl

theorem resizes_subscribe (r : Registry (Handler X)) (events : List Event) {h : Handler X}
    (hh : h.isResize = false) : resizes (r.subscribe events h).2 = resizes r := by
  simp [resizes, Registry.subscribe, hh]

theorem resizes_unsubscribe {r : Registry (Handler X)} {id : Nat}
    (h : ∀ s ∈ r.subscriptions, s.handler.isResize = true → s.id ≠ id) :
    resizes (r.unsubscribe id).2 = resizes r := by
  unfold resizes Registry.unsubscribe
  rw [List.filter_filter]
  refine congrArg _ (List.filter_congr fun s hs => ?_)
  cases hr : s.handler.isResize with
  | false => rfl
  | true => simpa using h s hs hr

structure IsTidy (d : Debugger σ X) : Prop where
  configured : d.world.configured = true
  fresh : ∀ s ∈ d.registry.subscriptions, s.id < d.registry.nextId
  apart : ∀ a ∈ d.world.attachments, ∀ s ∈ d.registry.subscriptions, s.handler.isResize = true →
    s.id ≠ a.forgetId ∧ s.id ≠ a.snapshotId

theorem subscriptions_join (config : Config) (d : Debugger σ X) :
    (d.join config).registry.subscriptions = d.registry.subscriptions ++ [
      ⟨d.registry.nextId, Event.all, .forget d.world.nextObserver⟩,
      ⟨d.registry.nextId + 1, [.continue, .stop], .takeSnapshot d.world.nextObserver⟩] :=
  List.append_assoc _ _ _

theorem IsTidy.join (hd : d.IsTidy) (config : Config) :
    (d.join config).IsTidy ∧ resizes (d.join config).registry = resizes d.registry := by
  refine ⟨⟨hd.configured, fun s hs => ?_, fun a ha s hs hr => ?_⟩, ?_⟩
  · show s.id < d.registry.nextId + 2
    rw [subscriptions_join] at hs
    rcases List.mem_append.1 hs with hs | hs
    · have := hd.fresh s hs
      omega
    · simp only [List.mem_cons, List.not_mem_nil, or_false] at hs
      rcases hs with rfl | rfl
      · exact Nat.lt_succ_of_lt (Nat.lt_succ_self _)
      · exact Nat.lt_succ_self _
  · have hold : s ∈ d.registry.subscriptions := by
      rw [subscriptions_join] at hs
      rcases List.mem_append.1 hs with hs | hs
      · exact hs
      · simp only [List.mem_cons, List.not_mem_nil, or_false] at hs
        rcases hs with rfl | rfl <;> cases hr
    rcases List.mem_append.1 ha with ha | ha
    · exact hd.apart a ha s hold hr
    · rw [List.mem_singleton.1 ha]
      have := hd.fresh s hold
      exact ⟨Nat.ne_of_lt this, Nat.ne_of_lt (Nat.lt_succ_of_lt this)⟩
  · exact (resizes_subscribe _ _ rfl).trans (resizes_subscribe _ _ rfl)

theorem IsTidy.detach (hd : d.IsTidy) (number : Nat) :
    (d.detach number).IsTidy ∧ resizes (d.detach number).registry = resizes d.registry := by
  unfold Debugger.detach
  cases ha : d.world.attachment? number with
  | none => exact ⟨hd, rfl⟩
  | some a =>
    have ha : a ∈ d.world.attachments := List.mem_of_find?_eq_some ha
    refine ⟨⟨hd.configured, fun s hs => ?_, fun b hb s hs hr => ?_⟩, ?_⟩
    · exact hd.fresh s (List.mem_filter.1 (List.mem_filter.1 hs).1).1
    · exact hd.apart b (List.mem_filter.1 hb).1 s (List.mem_filter.1 (List.mem_filter.1 hs).1).1 hr
    · refine (resizes_unsubscribe fun s hs hr => ?_).trans
        (resizes_unsubscribe fun s hs hr => (hd.apart a ha s hs hr).1)
      exact (hd.apart a ha s (List.mem_filter.1 hs).1 hr).2

theorem configure_of_isNew (hd : d.IsNew) :
    let d₁ := (configure E d).2
    d₁.IsTidy ∧
      ((configure E d).1 = .ok () ∧ IsConfigured E d d₁ ∧ resizes d₁.registry = [[.prompt]] ∨
        ∃ e, (configure E d).1 = .error e ∧ IsAbandoned E d d₁ e ∧ resizes d₁.registry = []) := by
  rw [configure_of_not_configured hd.configured]
  rcases executeAll_cases (E := E) (settings E d.world) d.world.engine with
    ⟨s, hobeys, hrun⟩ | ⟨done, command, rest, s, e, s', hsettings, hobeys, hrefused, hrun⟩
  · rw [hrun]
    refine ⟨⟨rfl, fun s hs => ?_, ?_⟩, .inl ⟨rfl, ⟨s, hobeys, rfl⟩, ?_⟩⟩
    · rcases List.mem_append.1 hs with hs | hs
      · exact Nat.lt_succ_of_lt (hd.fresh s hs)
      · rw [List.mem_singleton.1 hs]
        exact Nat.lt_succ_self _
    · show ∀ a ∈ d.world.attachments, _
      rw [hd.attachments]
      exact nofun
    · show ((d.registry.subscriptions ++ [_]).filter _).map _ = _
      rw [List.filter_append, List.map_append]
      exact congrArg (· ++ [[Event.prompt]]) hd.resizes
  · rw [hrun]
    refine ⟨⟨rfl, hd.fresh, ?_⟩,
      .inr ⟨e, rfl, ⟨done, command, rest, s, hsettings, hobeys, hrefused⟩, hd.resizes⟩⟩
    show ∀ a ∈ d.world.attachments, _
    rw [hd.attachments]
    exact nofun

end Debugger

/-- Calls that set a debugger up, and what may happen in between to observers and the engine. -/
inductive Request (σ : Type) : Type
  | setUp : Request σ
  | attach : Config → Request σ
  | detach : Nat → Request σ
  | change : σ → Request σ

namespace Request

open Debugger

def SetsUp : Request σ → Prop
  | .setUp | .attach _ => True
  | _ => False

section

variable (E : Engine σ ν τ)

def perform (d : Debugger σ X) : Request σ → Except Error Unit × Debugger σ X
  | .setUp => configure E d
  | .attach config =>
    let (number, d) := Debugger.attach E config d
    (number.map fun _ => (), d)
  | .detach number => (.ok (), d.detach number)
  | .change s => (.ok (), { d with world := { d.world with engine := s } })

def after (d : Debugger σ X) : List (Request σ) → Debugger σ X
  | [] => d
  | request :: past => (request.perform E (after d past)).2

end

variable {E : Engine σ ν τ} {d : Debugger σ X}

theorem perform_of_setsUp {request : Request σ} (h : request.SetsUp) :
    (request.perform E d).1 = (configure E d).1 ∧
      ((request.perform E d).2 = (configure E d).2 ∨
        (configure E d).1 = .ok () ∧
          ∃ config, (request.perform E d).2 = (configure E d).2.join config) := by
  cases request with
  | setUp => exact ⟨rfl, .inl rfl⟩
  | attach config =>
    rw [perform, attach_apply]
    rcases configure E d with ⟨_ | _, d'⟩
    · exact ⟨rfl, .inl rfl⟩
    · exact ⟨rfl, .inr ⟨rfl, config, rfl⟩⟩
  | detach => cases h
  | change => cases h

theorem isTidy_perform (hd : d.IsTidy) (request : Request σ) :
    (request.perform E d).2.IsTidy ∧
      resizes (request.perform E d).2.registry = resizes d.registry := by
  cases request with
  | setUp =>
    rw [perform, configure_of_configured hd.configured]
    exact ⟨hd, rfl⟩
  | attach config =>
    rw [perform, attach_apply, configure_of_configured hd.configured]
    exact hd.join config
  | detach number => exact hd.detach number
  | change s => exact ⟨⟨hd.configured, hd.fresh, hd.apart⟩, rfl⟩

theorem isTidy_after (hd : d.IsTidy) (later : List (Request σ)) :
    (after E d later).IsTidy ∧ resizes (after E d later).registry = resizes d.registry := by
  induction later with
  | nil => exact ⟨hd, rfl⟩
  | cons request past ih =>
    obtain ⟨htidy, hresizes⟩ := isTidy_perform ih.1 request
    exact ⟨htidy, hresizes.trans ih.2⟩

theorem perform_of_isTidy (hd : d.IsTidy) {request : Request σ} (h : request.SetsUp) :
    (request.perform E d).1 = .ok () ∧
      (request.perform E d).2.world.engine = d.world.engine := by
  obtain ⟨hanswer, hleft⟩ := perform_of_setsUp (E := E) (d := d) h
  rw [configure_of_configured hd.configured] at hanswer hleft
  refine ⟨hanswer, ?_⟩
  rcases hleft with hleft | ⟨-, config, hleft⟩
  · rw [hleft]
  · rw [hleft]
    rfl

theorem perform_of_isNew (hd : d.IsNew) {request : Request σ} (h : request.SetsUp) :
    let d₁ := (request.perform E d).2
    d₁.IsTidy ∧
      ((request.perform E d).1 = .ok () ∧ IsConfigured E d d₁ ∧
          resizes d₁.registry = [[.prompt]] ∨
        ∃ e, (request.perform E d).1 = .error e ∧ IsAbandoned E d d₁ e ∧
          resizes d₁.registry = []) := by
  obtain ⟨htidy, hcases⟩ := configure_of_isNew (E := E) hd
  obtain ⟨hanswer, hleft | ⟨-, config, hleft⟩⟩ := perform_of_setsUp (E := E) (d := d) h
  · dsimp only
    rw [hanswer, hleft]
    exact ⟨htidy, hcases⟩
  · obtain ⟨htidy', hresizes⟩ := htidy.join config
    dsimp only
    rw [hanswer, hleft, hresizes]
    exact ⟨htidy', hcases⟩

/--
Every request to set a debugger up succeeds but the first, which fails if the engine refuses one
of the settings. If the first succeeds, the engine has executed every setting, and resizes are
passed on once from then on. If it fails, no later request executes a setting, and resizes are
never passed on, though each of these requests succeeds.
-/
theorem perform_after_first (hd : d.IsNew) {first : Request σ} (hfirst : first.SetsUp)
    (later : List (Request σ)) :
    let d₁ := (first.perform E d).2
    let d₂ := after E d₁ later
    ((first.perform E d).1 = .ok () ∧ IsConfigured E d d₁ ∧
        resizes d₂.registry = [[.prompt]] ∨
      ∃ e, (first.perform E d).1 = .error e ∧ IsAbandoned E d d₁ e ∧
        resizes d₂.registry = []) ∧
    ∀ request : Request σ, request.SetsUp →
      (request.perform E d₂).1 = .ok () ∧
        (request.perform E d₂).2.world.engine = d₂.world.engine ∧
        resizes (request.perform E d₂).2.registry = resizes d₂.registry := by
  intro d₁ d₂
  obtain ⟨htidy, hcases⟩ := perform_of_isNew (E := E) hd hfirst
  obtain ⟨htidy', hresizes⟩ := isTidy_after (E := E) htidy later
  refine ⟨?_, fun request hrequest => ?_⟩
  · rw [hresizes]
    exact hcases
  · obtain ⟨hok, hengine⟩ := perform_of_isTidy (E := E) htidy' hrequest
    exact ⟨hok, hengine, (isTidy_perform htidy' request).2⟩

def refusing (commands : List String) : Debugger Machine Watch.extension :=
  let m := { Machine.initial ⟨"i386:x86-64", 8, .little⟩ with refusedCommands := commands }
  (Workbench.ofEngine m {} ⟨.usual, false⟩ : Workbench Machine Value CType).debugger

theorem isNew_refusing (commands : List String) : (refusing commands).IsNew :=
  ⟨rfl, rfl, nofun, rfl⟩

theorem perform_after_first_willing :
    let d := refusing ["set disassembly-flavor"]
    let d₁ := (Request.setUp.perform Machine.engine d).2
    let d₂ := after Machine.engine d₁ [.detach 0, .attach {}]
    d.IsNew ∧ SetsUp (.setUp : Request Machine) ∧ IsConfigured Machine.engine d d₁ ∧
      resizes d₂.registry = [[.prompt]] ∧
      (Request.setUp.perform Machine.engine d₂).1 = .ok () := by
  intro d d₁ d₂
  have hnew : d.IsNew := isNew_refusing _
  have hsetsUp : SetsUp (.setUp : Request Machine) := trivial
  obtain ⟨hfirst, hlater⟩ := perform_after_first (E := Machine.engine) hnew hsetsUp
    [.detach 0, .attach {}]
  have hok : (Request.setUp.perform Machine.engine d).1.toOption = some () := by decide +kernel
  rcases hfirst with ⟨-, hconfigured, hresizes⟩ | ⟨e, herror, -⟩
  · exact ⟨hnew, hsetsUp, hconfigured, hresizes, (hlater .setUp trivial).1⟩
  · rw [herror] at hok
    cases hok

theorem perform_setUp_refused :
    let d := refusing ["set confirm"]
    let d₁ := (Request.setUp.perform Machine.engine d).2
    let d₂ := (Request.setUp.perform Machine.engine d₁).2
    (Request.setUp.perform Machine.engine d).1 =
        .error (.engine "command failed: set confirm off") ∧
      (Request.setUp.perform Machine.engine d₁).1 = .ok () ∧
      (¬ ∃ output m, Machine.engine.ask "set confirm off" d₂.world.engine = (.ok output, m)) ∧
      resizes d₂.registry = [] := by
  intro d d₁ d₂
  have hrefused : (Machine.engine.ask "set confirm off" d₂.world.engine).1 =
      .error (.engine "command failed: set confirm off") := rfl
  refine ⟨rfl, rfl, ?_, rfl⟩
  rintro ⟨output, m, h⟩
  rw [h] at hrefused
  cases hrefused

end Request

end Debuggee
