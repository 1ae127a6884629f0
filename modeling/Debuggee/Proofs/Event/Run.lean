import Debuggee.Proofs.Event.Delivery

/-!
Runs of a registry, step by step, with a record that somebody keeps of them. Which steps there are,
and what the record says after them, is for the keeper of the record to say; how events are queued,
delivered and handed to their handlers is the same for every keeper.
-/

namespace Debuggee

variable {R H W : Type}

structure Stage (R H W : Type) : Type where
  record : R
  registry : Registry H
  world : W

/--
Which subscriptions, which changes of the world and which longer parts of programs there are in a
run, how handlers are called, and what the record says afterwards.
-/
structure Keeper (react : H → Event → Program H W) (R : Type) : Type where
  Subscribes : Stage R H W → List Event → H → R → Prop
  Unsubscribes : Stage R H W → Nat → R → Prop
  Becomes : Stage R H W → W → R → Prop
  Does : Program H W → Stage R H W → Program H W → Stage R H W → Prop
  Calls : Stage R H W → H → Event → Program H W → Stage R H W → Prop
  hears : R → Event → R
  perform_does : ∀ {p m p' m'}, Does p m p' m' →
    Registry.perform p m.registry m.world = Registry.perform p' m'.registry m'.world
  perform_calls : ∀ {m h e p m'}, Calls m h e p m' →
    Registry.perform (react h e) m.registry m.world = Registry.perform p m'.registry m'.world

namespace Keeper

variable {react : H → Event → Program H W}

section

variable (K : Keeper react R)

inductive Step : Program H W → Stage R H W → Program H W → Stage R H W → Prop
  | raise {m p} (e : Event) : Step (.raise e p) m p { m with registry := m.registry.raise e }
  | subscribe {m events h p record} : K.Subscribes m events h record →
      Step (.subscribe events h p) m (p (m.registry.subscribe events h).1)
        ⟨record, (m.registry.subscribe events h).2, m.world⟩
  | unsubscribe {m id p record} : K.Unsubscribes m id record →
      Step (.unsubscribe id p) m (p (m.registry.unsubscribe id).1)
        ⟨record, (m.registry.unsubscribe id).2, m.world⟩
  | effect {m f p record} : K.Becomes m (f m.world) record →
      Step (.effect f p) m (p (f m.world)) ⟨record, m.registry, f m.world⟩
  | whole {p m p' m'} : K.Does p m p' m' → Step p m p' m'

inductive Steps : Program H W → Stage R H W → Stage R H W → Prop
  | done {m} : Steps .done m m
  | step {p m p' m' m''} : K.Step p m p' m' → Steps p' m' m'' → Steps p m m''

/--
What becomes of a registry, with the events that were delivered, the latest first. At each moment
some steps are left of the program that runs, and some handlers are still to be called with an
event. Programs are also run outside, and the world may change whenever it likes.
-/
inductive Run (Start : Stage R H W → Program H W → List (H × Event) → Prop) :
    List Event → Stage R H W → Program H W → List (H × Event) → Prop
  | start {m p due} : Start m p due → Run Start [] m p due
  | happen {heard m p due w record} : Run Start heard m p due → K.Becomes m w record →
      Run Start heard ⟨record, m.registry, w⟩ p due
  | act {heard m} (p : Program H W) : Run Start heard m .done [] → Run Start heard m p []
  | step {heard m p due p' m'} : Run Start heard m p due → K.Step p m p' m' →
      Run Start heard m' p' due
  | announce {heard m} (e : Event) : Run Start heard m .done [] →
      Run Start heard
        { m with registry := { m.registry.raise e with dispatching := true } } .done []
  | deliver {heard m e rest} : Run Start heard m .done [] → m.registry.pending = e :: rest →
      Run Start (e :: heard)
        ⟨K.hears m.record e, { m.registry with pending := rest }, m.world⟩ .done
        ((m.registry.waiting e).map (·, e))
  | call {heard m h e due p m'} : Run Start heard m .done ((h, e) :: due) →
      K.Calls m h e p m' → Run Start heard m' p due
  | rest {heard m} : Run Start heard m .done [] → m.registry.pending = [] →
      Run Start heard { m with registry := { m.registry with dispatching := false } } .done []

def Follows (Start : Stage R H W → Program H W → List (H × Event) → Prop) : Prop :=
  ∀ heard m due h e, K.Run Start heard m .done due →
    ∃ p m₁ m', K.Calls m h e p m₁ ∧ K.Steps p m₁ m'

end

variable {K : Keeper react R} {Start : Stage R H W → Program H W → List (H × Event) → Prop}
  {heard : List Event} {m m' : Stage R H W} {p p' : Program H W} {due : List (H × Event)}

theorem Step.perform_eq (h : K.Step p m p' m') :
    Registry.perform p m.registry m.world = Registry.perform p' m'.registry m'.world := by
  cases h with
  | whole h => exact K.perform_does h
  | _ => rfl

theorem Steps.perform_eq (h : K.Steps p m m') :
    Registry.perform p m.registry m.world = (m'.registry, m'.world) := by
  induction h with
  | done => rfl
  | step hstep _ ih => exact hstep.perform_eq.trans ih

theorem Steps.single (h : K.Step p m .done m') : K.Steps p m m' := .step h .done

namespace Run

theorem keeps {P : Stage R H W → Prop} (hstart : ∀ m p due, Start m p due → P m)
    (hbecomes : ∀ m w record, P m → K.Becomes m w record → P ⟨record, m.registry, w⟩)
    (hstep : ∀ p m p' m', P m → K.Step p m p' m' → P m')
    (hcalls : ∀ m h e p m', P m → K.Calls m h e p m' → P m')
    (hqueue : ∀ m pending dispatching, P m →
      P { m with registry := { m.registry with pending, dispatching } })
    (hhears : ∀ m e, P m → P { m with record := K.hears m.record e })
    (h : K.Run Start heard m p due) : P m := by
  induction h with
  | start h => exact hstart _ _ _ h
  | happen _ hw ih => exact hbecomes _ _ _ ih hw
  | act _ _ ih => exact ih
  | step _ h ih => exact hstep _ _ _ _ ih h
  | announce e _ ih => exact hqueue _ _ _ ih
  | @deliver heard m e rest _ _ ih => exact hhears _ e (hqueue m rest m.registry.dispatching ih)
  | call _ h ih => exact hcalls _ _ _ _ _ ih h
  | rest _ _ ih => exact hqueue _ _ _ ih

theorem steps (h : K.Run Start heard m p due) (hp : K.Steps p m m') :
    K.Run Start heard m' .done due := by
  induction hp with
  | done => exact h
  | step hstep _ ih => exact ih (h.step hstep)

theorem perform (h : K.Run Start heard m .done []) (hp : K.Steps p m m') {r : Registry H} {w : W}
    (hd : Registry.perform p m.registry m.world = (r, w)) :
    K.Run Start heard ⟨m'.record, r, w⟩ .done [] := by
  obtain ⟨rfl, rfl⟩ := Prod.mk.inj (hp.perform_eq.symm.trans hd)
  exact (h.act p).steps hp

theorem exists_call (hK : K.Follows Start) {e : Event} {hs : List H}
    (h : K.Run Start heard m .done (hs.map (·, e))) :
    ∃ m', K.Run Start heard m' .done [] ∧
      Registry.call react e hs m.registry m.world = (m'.registry, m'.world) := by
  induction hs generalizing m with
  | nil => exact ⟨m, h, rfl⟩
  | cons handler hs ih =>
    obtain ⟨p, m₁, m₂, hcalls, hsteps⟩ := hK _ _ _ handler e h
    obtain ⟨m', hrun, hcall⟩ := ih ((h.call hcalls).steps hsteps)
    refine ⟨m', hrun, ?_⟩
    rw [Registry.call, K.perform_calls hcalls, hsteps.perform_eq]
    exact hcall

theorem exists_drain (hK : K.Follows Start) {limit : Nat} {r r' : Registry H} {w w' : W}
    {record : R} (h : K.Run Start heard ⟨record, r, w⟩ .done [])
    (hd : Registry.drain react limit r w = some (r', w')) :
    ∃ record', ∃ blocks : List (Block H), Registry.Delivery r blocks r' ∧
      K.Run Start ((blocks.map (·.event)).reverse ++ heard) ⟨record', r', w'⟩ .done [] := by
  fun_induction Registry.drain react limit r w generalizing record heard with
  | case1 limit r w hp =>
    cases hd
    exact ⟨record, [], .idle hp, h.rest hp⟩
  | case2 => cases hd
  | case3 r w e rest limit hp r₁ w₁ hnext ih =>
    -- One block: the event is taken off the queue, its handlers are called, the rest is drained.
    obtain ⟨m₁, hrun, hcall⟩ := exists_call hK (h.deliver hp)
    have hdoes := Registry.deliver_does react e { r with pending := rest } w
    rw [hnext] at hdoes
    obtain ⟨rfl, rfl⟩ := Prod.mk.inj (hcall.symm.trans hnext)
    obtain ⟨record', blocks, hblocks, hrun'⟩ := ih hrun hd
    refine ⟨record', Registry.block react e { r with pending := rest } w :: blocks,
      .block hp (Registry.called_block ..) hdoes hblocks, ?_⟩
    rw [List.map_cons, List.reverse_cons, List.append_assoc]
    exact hrun'

/--
A dispatch that ends takes a run further. If nothing waited, what is heard in it is the event and
what is raised on the way, and nothing waits afterwards.
-/
theorem dispatch (hK : K.Follows Start) (h : K.Run Start heard m .done []) {limit : Nat}
    {e : Event} {r : Registry H} {w : W}
    (hd : m.registry.dispatch react limit e m.world = some (r, w)) :
    ∃ record later, K.Run Start (later ++ heard) ⟨record, r, w⟩ .done [] ∧
      (m.registry.Idle → r.Idle ∧ ∃ blocks : List (Block H),
        blocks.map (·.event) = e :: blocks.flatMap Block.raised ∧
        later = (blocks.map (·.event)).reverse) := by
  cases hr : m.registry.dispatching with
  | true =>
    rw [Registry.dispatch_of_dispatching hr] at hd
    cases hd
    refine ⟨m.record, [], (h.act (.raise e .done)).step (.raise e), fun hidle => ?_⟩
    rw [hidle.dispatching] at hr
    cases hr
  | false =>
    rw [Registry.dispatch, hr] at hd
    obtain ⟨record, blocks, hblocks, hrun⟩ := exists_drain hK (h.announce e) hd
    obtain ⟨hpending, hdispatching⟩ := Registry.idle_of_drain hd
    refine ⟨record, _, hrun, fun hidle => ⟨⟨hpending, hdispatching⟩, blocks, ?_, rfl⟩⟩
    rw [hblocks.events]
    show m.registry.pending ++ [e] ++ _ = _
    rw [hidle.pending]
    rfl

end Run

end Keeper

end Debuggee
