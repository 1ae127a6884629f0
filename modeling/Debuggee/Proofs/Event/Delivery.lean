import Debuggee.Proofs.Event.Deed

namespace Debuggee

variable {H W : Type}

inductive Note (H : Type) : Type
  | called : H → Event → Note H
  | did : Deed H → Note H

namespace Program

def take (n : Note H) (w : W × List (Note H)) : W × List (Note H) := (w.1, w.2 ++ [n])

def noted : Program H W → Program H (W × List (Note H))
  | .done => .done
  | .raise e p => .effect (take (.did (.raise e))) fun _ => .raise e p.noted
  | .subscribe events h p => .subscribe events h fun id =>
      .effect (take (.did (.subscribe ⟨id, events, h⟩))) fun _ => (p id).noted
  | .unsubscribe id p => .unsubscribe id fun found =>
      .effect (take (.did (.unsubscribe id found))) fun _ => (p found).noted
  | .effect f p => .effect (fun w => (f w.1, w.2)) fun w => (p w.1).noted

def attentive (react : H → Event → Program H W) (h : H) (e : Event) :
    Program H (W × List (Note H)) :=
  .effect (take (.called h e)) fun _ => (react h e).noted

def deeds : Program H W → Registry H → W → List (Deed H)
  | .done, _, _ => []
  | .raise e p, r, w => .raise e :: p.deeds (r.raise e) w
  | .subscribe events h p, r, w =>
    let (id, r) := r.subscribe events h
    .subscribe ⟨id, events, h⟩ :: (p id).deeds r w
  | .unsubscribe id p, r, w =>
    let (found, r) := r.unsubscribe id
    .unsubscribe id found :: (p found).deeds r w
  | .effect f p, r, w => (p (f w)).deeds r (f w)

end Program

/-- The delivery of an event, with the deeds of everybody who was called. -/
structure Block (H : Type) : Type where
  event : Event
  visits : List (Subscription H × List (Deed H))

namespace Block

def called (b : Block H) : List (Subscription H) := b.visits.map (·.1)

def deeds (b : Block H) : List (Deed H) := b.visits.flatMap (·.2)

def raised (b : Block H) : List Event := Deed.raised b.deeds

def notes (b : Block H) : List (Note H) :=
  b.visits.flatMap fun (s, deeds) => .called s.handler b.event :: deeds.map .did

end Block

namespace Registry

open Program

theorem perform_does (p : Program H W) (r : Registry H) (w : W) :
    Does r (p.deeds r w) (perform p r w).1 := by
  induction p generalizing r w with
  | done => exact .nil
  | raise e p ih => exact .raise e (ih _ _)
  | subscribe events h p ih => exact .subscribe events h (ih _ _ _)
  | unsubscribe id p ih => exact .unsubscribe id (ih _ _ _)
  | effect f p ih => exact ih _ _ _

theorem perform_noted (p : Program H W) (r : Registry H) (w : W) (notes : List (Note H)) :
    perform p.noted r (w, notes) =
      ((perform p r w).1, (perform p r w).2, notes ++ (p.deeds r w).map .did) := by
  induction p generalizing r w notes with
  | done => simp [noted, perform, deeds]
  | raise e p ih =>
    show perform p.noted (r.raise e) (w, notes ++ [.did (.raise e)]) = _
    rw [ih, List.append_assoc]
    rfl
  | subscribe events h p ih =>
    show perform (p r.nextId).noted (r.subscribe events h).2
      (w, notes ++ [.did (.subscribe ⟨r.nextId, events, h⟩)]) = _
    rw [ih, List.append_assoc]
    rfl
  | unsubscribe id p ih =>
    show perform (p (r.unsubscribe id).1).noted (r.unsubscribe id).2
      (w, notes ++ [.did (.unsubscribe id (r.unsubscribe id).1)]) = _
    rw [ih, List.append_assoc]
    rfl
  | effect f p ih => exact ih _ _ _ _

variable (react : H → Event → Program H W)

def visits (e : Event) : List (Subscription H) → Registry H → W →
    List (Subscription H × List (Deed H))
  | [], _, _ => []
  | s :: rest, r, w =>
    let (r', w') := perform (react s.handler e) r w
    (s, (react s.handler e).deeds r w) :: visits e rest r' w'

theorem map_fst_visits (e : Event) (waiting : List (Subscription H)) (r : Registry H) (w : W) :
    (visits react e waiting r w).map (·.1) = waiting := by
  induction waiting generalizing r w with
  | nil => rfl
  | cons s rest ih => exact congrArg (s :: ·) (ih _ _)

theorem call_does (e : Event) (waiting : List (Subscription H)) (r : Registry H) (w : W) :
    Does r ((visits react e waiting r w).flatMap (·.2))
      (call react e (waiting.map (·.handler)) r w).1 := by
  induction waiting generalizing r w with
  | nil => exact .nil
  | cons s rest ih => exact (perform_does (react s.handler e) r w).append (ih _ _)

theorem call_attentive (e : Event) (waiting : List (Subscription H)) (r : Registry H) (w : W)
    (notes : List (Note H)) :
    call (attentive react) e (waiting.map (·.handler)) r (w, notes) =
      ((call react e (waiting.map (·.handler)) r w).1,
        (call react e (waiting.map (·.handler)) r w).2,
        notes ++ Block.notes ⟨e, visits react e waiting r w⟩) := by
  induction waiting generalizing r w notes with
  | nil => simp [call, visits, Block.notes]
  | cons s rest ih =>
    have hs : perform (attentive react s.handler e) r (w, notes) =
        ((perform (react s.handler e) r w).1, (perform (react s.handler e) r w).2,
          notes ++ [.called s.handler e] ++ ((react s.handler e).deeds r w).map .did) :=
      perform_noted (react s.handler e) r w (notes ++ [Note.called s.handler e])
    simp only [List.map_cons, call, hs, ih]
    simp [visits, Block.notes]

def block (e : Event) (r : Registry H) (w : W) : Block H :=
  ⟨e, visits react e (r.subscriptions.filter (·.events.contains e)) r w⟩

theorem called_block (e : Event) (r : Registry H) (w : W) :
    (block react e r w).called = r.subscriptions.filter (·.events.contains e) :=
  map_fst_visits react e _ r w

theorem deliver_does (e : Event) (r : Registry H) (w : W) :
    Does r (block react e r w).deeds (deliver react e r w).1 :=
  call_does react e _ r w

theorem deliver_attentive (e : Event) (r : Registry H) (w : W) (notes : List (Note H)) :
    deliver (attentive react) e r (w, notes) =
      ((deliver react e r w).1, (deliver react e r w).2,
        notes ++ (block react e r w).notes) :=
  call_attentive react e _ r w notes

variable {react}

inductive Delivery : Registry H → List (Block H) → Registry H → Prop
  | idle {r} : r.pending = [] → Delivery r [] { r with dispatching := false }
  | block {r r' r'' rest b blocks} : r.pending = b.event :: rest →
      b.called = r.subscriptions.filter (·.events.contains b.event) →
      Does { r with pending := rest } b.deeds r' → Delivery r' blocks r'' →
      Delivery r (b :: blocks) r''

theorem drain_of_nil (limit : Nat) {r : Registry H} (h : r.pending = []) (w : W) :
    drain react limit r w = some ({ r with dispatching := false }, w) := by
  rcases r with ⟨subscriptions, nextId, pending, dispatching⟩
  cases h
  cases limit <;> rfl

theorem drain_of_cons (limit : Nat) {r : Registry H} {e : Event} {rest : List Event}
    (h : r.pending = e :: rest) (w : W) :
    drain react (limit + 1) r w =
      drain react limit (deliver react e { r with pending := rest } w).1
        (deliver react e { r with pending := rest } w).2 := by
  rcases r with ⟨subscriptions, nextId, pending, dispatching⟩
  cases h
  rfl

theorem drain_attentive {limit : Nat} {r r' : Registry H} {w w' : W}
    (h : drain react limit r w = some (r', w')) :
    ∃ blocks, Delivery r blocks r' ∧ ∀ notes, drain (attentive react) limit r (w, notes) =
      some (r', w', notes ++ blocks.flatMap Block.notes) := by
  fun_induction drain react limit r w with
  | case1 limit r w hp =>
    cases h
    refine ⟨[], .idle hp, fun notes => ?_⟩
    rw [drain_of_nil limit hp, List.flatMap_nil, List.append_nil]
  | case2 => cases h
  | case3 r w e rest limit hp r₁ w₁ hd ih =>
    obtain ⟨blocks, hblocks, hnotes⟩ := ih h
    have hdoes := deliver_does react e { r with pending := rest } w
    rw [hd] at hdoes
    refine ⟨block react e { r with pending := rest } w :: blocks,
      .block hp (called_block ..) hdoes hblocks, fun notes => ?_⟩
    rw [drain_of_cons limit hp, deliver_attentive, hd, hnotes, List.flatMap_cons,
      List.append_assoc]

namespace Delivery

variable {r r' : Registry H} {b : Block H} {blocks before later : List (Block H)}

theorem events (h : Delivery r blocks r') :
    blocks.map (·.event) = r.pending ++ blocks.flatMap Block.raised := by
  induction h with
  | idle hp =>
    rw [hp]
    rfl
  | block hp _ hdoes _ ih =>
    rw [List.map_cons, ih, hdoes.pending, hp, List.flatMap_cons, List.cons_append,
      List.append_assoc]
    rfl

theorem subscriptions (h : Delivery r blocks r') :
    r'.subscriptions = Deed.left r.subscriptions (blocks.flatMap Block.deeds) := by
  induction h with
  | idle => rfl
  | block _ _ hdoes _ ih =>
    rw [ih, hdoes.subscriptions, List.flatMap_cons, Deed.left_append]

theorem ordered (h : Delivery r blocks r') (hr : r.Ordered) : r'.Ordered := by
  induction h with
  | idle => exact ⟨hr.increasing, hr.fresh⟩
  | block _ _ hdoes _ ih => exact ih (hdoes.ordered ⟨hr.increasing, hr.fresh⟩)

theorem ne_of_gone (h : Delivery r blocks r') {id : Nat} (hid : r.Gone id) :
    ∀ c ∈ blocks, ∀ s ∈ c.called, s.id ≠ id := by
  induction h with
  | idle => exact nofun
  | block _ hcalled hdoes _ ih =>
    rw [List.forall_mem_cons]
    refine ⟨fun s hs => ?_, ih (hdoes.gone ⟨hid.given, hid.unknown⟩)⟩
    rw [hcalled] at hs
    exact hid.unknown s (List.mem_filter.1 hs).1

theorem split (h : Delivery r (before ++ b :: later) r') (hr : r.Ordered) :
    ∃ r₁ r₂, r₁.Ordered ∧ r.nextId ≤ r₁.nextId ∧
      r₁.subscriptions = Deed.left r.subscriptions (before.flatMap Block.deeds) ∧
      b.called = r₁.subscriptions.filter (·.events.contains b.event) ∧
      (∀ c ∈ before, ∀ s ∈ c.called, s.id < r₁.nextId) ∧
      Does r₁ b.deeds r₂ ∧ Delivery r₂ later r' := by
  induction before generalizing r with
  | nil =>
    cases h with
    | block _ hcalled hdoes hrest =>
      refine ⟨_, _, ?_, ?_, ?_, ?_, nofun, hdoes, hrest⟩
      · exact ⟨hr.increasing, hr.fresh⟩
      · exact Nat.le_refl _
      · rfl
      · exact hcalled
  | cons c before ih =>
    cases h with
    | block _ hcalled hdoes hrest =>
      obtain ⟨r₁, r₂, ho, hn, hs, hb, hbefore, hdoes', hrest'⟩ :=
        ih hrest (hdoes.ordered ⟨hr.increasing, hr.fresh⟩)
      have hle : r.nextId ≤ r₁.nextId := Nat.le_trans hdoes.nextId_le hn
      refine ⟨r₁, r₂, ho, hle, ?_, hb, ?_, hdoes', hrest'⟩
      · rw [hs, hdoes.subscriptions, List.flatMap_cons, Deed.left_append]
      · rw [List.forall_mem_cons]
        refine ⟨fun s hs => ?_, hbefore⟩
        rw [hcalled] at hs
        exact Nat.lt_of_lt_of_le (hr.fresh s (List.mem_filter.1 hs).1) hle

end Delivery

/-- The registries that there can be between two dispatches from outside. -/
inductive Reachable (react : H → Event → Program H W) : Registry H → Prop
  | empty : Reachable react Registry.empty
  | subscribe {r} (events : List Event) (h : H) : Reachable react r →
      Reachable react (r.subscribe events h).2
  | unsubscribe {r} (id : Nat) : Reachable react r → Reachable react (r.unsubscribe id).2
  | dispatch {r r' limit e w w'} : Reachable react r →
      r.dispatch react limit e w = some (r', w') → Reachable react r'

structure Idle (r : Registry H) : Prop where
  pending : r.pending = []
  dispatching : r.dispatching = false

theorem Idle.dispatch {r : Registry H} (hr : r.Idle) (react : H → Event → Program H W)
    (limit : Nat) (e : Event) (w : W) :
    r.dispatch react limit e w = drain react limit { r.raise e with dispatching := true } w := by
  rw [Registry.dispatch, hr.dispatching]
  rfl

theorem Reachable.idle_ordered {r : Registry H} (h : Reachable react r) : r.Idle ∧ r.Ordered := by
  induction h with
  | empty => exact ⟨⟨rfl, rfl⟩, .empty⟩
  | subscribe events h _ ih =>
    exact ⟨⟨ih.1.pending, ih.1.dispatching⟩, ih.2.subscribe events h⟩
  | unsubscribe id _ ih => exact ⟨⟨ih.1.pending, ih.1.dispatching⟩, ih.2.unsubscribe id⟩
  | dispatch _ hd ih =>
    rw [ih.1.dispatch] at hd
    obtain ⟨hp, hf⟩ := idle_of_drain hd
    obtain ⟨_, hblocks, -⟩ := drain_attentive hd
    exact ⟨⟨hp, hf⟩, hblocks.ordered ⟨ih.2.increasing, ih.2.fresh⟩⟩

theorem dispatch_of_dispatching {r : Registry H} (h : r.dispatching = true) (limit : Nat)
    (e : Event) (w : W) : r.dispatch react limit e w = some (r.raise e, w) := by
  rw [dispatch, if_pos h]

theorem Does.dispatch_of_raise {r r' : Registry H} {deeds later : List (Deed H)} {e : Event}
    (h : Does r (deeds ++ .raise e :: later) r') (hr : r.dispatching = true) :
    ∃ r₁, Does r deeds r₁ ∧ Does (r₁.raise e) later r' ∧
      ∀ limit w, r₁.dispatch react limit e w = some (r₁.raise e, w) := by
  obtain ⟨r₁, hd, hl⟩ := h.split
  have hr₁ : r₁.dispatching = true := hd.dispatching.trans hr
  cases hl with
  | raise e hl => exact ⟨r₁, hd, hl, fun limit w => dispatch_of_dispatching hr₁ limit e w⟩

/--
A dispatch from outside that ends has delivered its event first and then, in the order in which
they were raised, those that were raised on the way. In each block everybody is called once who
had subscribed to the event when the block began, in the order of subscription. Who is
unsubscribed in a block is not called in a later one, and who is subscribed in it not before.
-/
theorem dispatch_delivers {r r' : Registry H} {limit : Nat} {e : Event} {w w' : W}
    (hr : Reachable react r) (h : r.dispatch react limit e w = some (r', w')) :
    ∃ blocks : List (Block H),
      r.dispatch (attentive react) limit e (w, []) =
        some (r', w', blocks.flatMap Block.notes) ∧
      blocks.map (·.event) = e :: blocks.flatMap Block.raised ∧
      (∀ before b later, blocks = before ++ b :: later →
        b.called = (Deed.left r.subscriptions (before.flatMap Block.deeds)).filter
          (·.events.contains b.event) ∧
        (b.called.map (·.id)).Nodup ∧
        (∀ id, .unsubscribe id true ∈ b.deeds → ∀ c ∈ later, ∀ s ∈ c.called, s.id ≠ id) ∧
        (∀ s, .subscribe s ∈ b.deeds → ∀ c ∈ before ++ [b], ∀ s' ∈ c.called, s'.id ≠ s.id)) ∧
      r'.subscriptions = Deed.left r.subscriptions (blocks.flatMap Block.deeds) ∧
      r'.pending = [] ∧ r'.dispatching = false := by
  obtain ⟨hidle, ho⟩ := hr.idle_ordered
  rw [hidle.dispatch] at h
  obtain ⟨hp, hf⟩ := idle_of_drain h
  obtain ⟨blocks, hblocks, hnotes⟩ := drain_attentive h
  have hevents := hblocks.events
  refine ⟨blocks, ?_, ?_, ?_, hblocks.subscriptions, hp, hf⟩
  · rw [hidle.dispatch, hnotes, List.nil_append]
  · rw [hevents, raise, hidle.pending]
    rfl
  · rintro before b later rfl
    obtain ⟨r₁, r₂, ho₁, -, hs, hcalled, hbefore, hdoes, hlater⟩ :=
      hblocks.split ⟨ho.increasing, ho.fresh⟩
    refine ⟨hs ▸ hcalled, ?_, fun id hid => ?_, fun s hs => ?_⟩
    · rw [hcalled]
      exact List.pairwise_map.2 ((ho₁.increasing.filter _).imp Nat.ne_of_lt)
    · exact hlater.ne_of_gone (hdoes.gone_of_unsubscribe ho₁ hid)
    -- whoever was called so far had an id before this block began
    · have hle : r₁.nextId ≤ s.id := hdoes.nextId_le_of_subscribe hs
      intro c hc s' hs'
      have hlt : s'.id < r₁.nextId := by
        rcases List.mem_append.1 hc with hc | hc
        · exact hbefore c hc s' hs'
        · rw [List.mem_singleton.1 hc, hcalled] at hs'
          exact ho₁.fresh s' (List.mem_filter.1 hs').1
      exact Nat.ne_of_lt (Nat.lt_of_lt_of_le hlt hle)

def relay : Nat → Event → Program Nat Unit
  | 0, .stop => .raise .continue
      (.subscribe [.continue, .continue] 2 fun _ => .unsubscribe 1 fun _ => .done)
  | _, _ => .done

def relayed : Registry Nat :=
  ((Registry.empty.subscribe [.stop] 0).2.subscribe [.continue, .stop, .stop] 1).2

theorem dispatch_delivers_relayed :
    ∃ (blocks : List (Block Nat)) (r' : Registry Nat),
      relayed.dispatch relay 2 .stop () = some (r', ()) ∧
      blocks.flatMap Block.notes = [
        .called 0 .stop, .did (.raise .continue),
        .did (.subscribe ⟨2, [.continue, .continue], 2⟩), .did (.unsubscribe 1 true),
        .called 1 .stop, .called 2 .continue] ∧
      blocks.map (·.event) = .stop :: blocks.flatMap Block.raised ∧
      r'.pending = [] := by
  have hr : Reachable relay relayed := .subscribe _ _ (.subscribe _ _ .empty)
  have h : relayed.dispatch relay 2 .stop () = some (_, ()) := rfl
  obtain ⟨blocks, hnotes, hevents, -, -, hpending, -⟩ := dispatch_delivers hr h
  refine ⟨blocks, _, h, ?_, hevents, hpending⟩
  have hrun : relayed.dispatch (attentive relay) 2 .stop ((), []) = some (_, (), _) := rfl
  exact (Prod.mk.inj (Prod.mk.inj (Option.some.inj (hnotes.symm.trans hrun))).2).2

end Registry

end Debuggee
