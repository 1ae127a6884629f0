import Debuggee.Proofs.Event.Delivery

/-!
By which ids subscriptions are known. A registry is followed step by step, from when it is new,
through calls from outside and through whatever handlers do while they are called.
-/

namespace Debuggee

variable {H W : Type}

namespace Deed

def issued? : Deed H → Option Nat
  | .subscribe s => some s.id
  | _ => none

def issued (deeds : List (Deed H)) : List Nat := deeds.filterMap issued?

def removed? : Deed H → Option Nat
  | .unsubscribe id true => some id
  | _ => none

def removed (deeds : List (Deed H)) : List Nat := deeds.filterMap removed?

theorem issued_append (deeds deeds' : List (Deed H)) :
    issued (deeds ++ deeds') = issued deeds ++ issued deeds' :=
  List.filterMap_append

theorem removed_append (deeds deeds' : List (Deed H)) :
    removed (deeds ++ deeds') = removed deeds ++ removed deeds' :=
  List.filterMap_append

theorem issued_concat (deeds : List (Deed H)) {d : Deed H} (h : issued? d = none) :
    issued (deeds ++ [d]) = issued deeds := by
  rw [issued_append, issued, issued, List.filterMap_cons_none h, List.filterMap_nil,
    List.append_nil]

theorem removed_concat (deeds : List (Deed H)) {d : Deed H} (h : removed? d = none) :
    removed (deeds ++ [d]) = removed deeds := by
  rw [removed_append, removed, removed, List.filterMap_cons_none h, List.filterMap_nil,
    List.append_nil]

end Deed

namespace Registry

open Deed

theorem unsubscribe_of_not_knows {r : Registry H} {id : Nat} (h : r.knows id = false) :
    r.unsubscribe id = (false, r) := by
  have hkeep : r.subscriptions.filter (·.id != id) = r.subscriptions :=
    List.filter_eq_self.2 (by simpa [knows] using h)
  rw [unsubscribe, h, hkeep]

theorem Ordered.unsubscribe_of_knows {r : Registry H} (hr : r.Ordered) {id : Nat}
    (h : r.knows id = true) :
    ∃ before s after, r.subscriptions = before ++ s :: after ∧ s.id = id ∧
      r.unsubscribe id = (true, { r with subscriptions := before ++ after }) := by
  obtain ⟨s, hs, hid⟩ := List.any_eq_true.1 h
  obtain ⟨before, after, hsplit⟩ := List.append_of_mem hs
  have hincreasing := hr.increasing
  rw [hsplit] at hincreasing
  obtain ⟨-, hafter, hbefore⟩ := List.pairwise_append.1 hincreasing
  have hid : s.id = id := beq_iff_eq.1 hid
  have hkeepBefore : before.filter (·.id != id) = before := by
    refine List.filter_eq_self.2 fun s' hs' => ?_
    have hlt := hbefore s' hs' s (.head after)
    exact bne_iff_ne.2 (Nat.ne_of_lt (hid ▸ hlt))
  have hkeepAfter : after.filter (·.id != id) = after := by
    refine List.filter_eq_self.2 fun s' hs' => ?_
    have hlt := (List.pairwise_cons.1 hafter).1 s' hs'
    exact bne_iff_ne.2 (Nat.ne_of_gt (hid ▸ hlt))
  refine ⟨before, s, after, hsplit, hid, ?_⟩
  rw [Registry.unsubscribe, h, hsplit, List.filter_append, List.filter_cons_of_neg (by simp [hid]),
    hkeepBefore, hkeepAfter]

theorem knows_subscribe (r : Registry H) (events : List Event) (h : H) (id : Nat) :
    (r.subscribe events h).2.knows id = true ↔ r.knows id = true ∨ id = r.nextId := by
  simp [subscribe, knows, eq_comm (a := id)]

theorem knows_unsubscribe_iff (r : Registry H) (id other : Nat) :
    (r.unsubscribe id).2.knows other = true ↔ r.knows other = true ∧ other ≠ id := by
  simp only [unsubscribe, knows, List.any_filter, List.any_eq_true, Bool.and_eq_true,
    bne_iff_ne, beq_iff_eq]
  constructor
  · rintro ⟨s, hs, hne, rfl⟩
    exact ⟨⟨s, hs, rfl⟩, hne⟩
  · rintro ⟨⟨s, hs, rfl⟩, hne⟩
    exact ⟨s, hs, hne, rfl⟩

structure Accounts (deeds : List (Deed H)) (r : Registry H) : Prop where
  ordered : r.Ordered
  issued : issued deeds = List.range r.nextId
  known : ∀ id, r.knows id = true ↔ id ∈ Deed.issued deeds ∧ id ∉ removed deeds
  given : ∀ id ∈ removed deeds, id < r.nextId
  size : r.size + (removed deeds).length = r.nextId

namespace Accounts

variable {r : Registry H} {deeds : List (Deed H)}

theorem empty : Accounts [] (Registry.empty (H := H)) where
  ordered := .empty
  issued := rfl
  known := by simp [Registry.empty, knows, Deed.issued]
  given := nofun
  size := rfl

theorem of_eq (h : Accounts deeds r) {deeds' : List (Deed H)} {r' : Registry H}
    (hissued : Deed.issued deeds' = Deed.issued deeds) (hremoved : removed deeds' = removed deeds)
    (hsubscriptions : r'.subscriptions = r.subscriptions) (hnextId : r'.nextId = r.nextId) :
    Accounts deeds' r' where
  ordered := by
    refine ⟨?_, ?_⟩ <;> rw [hsubscriptions]
    · exact h.ordered.increasing
    · rw [hnextId]
      exact h.ordered.fresh
  issued := by rw [hissued, hnextId, h.issued]
  known id := by rw [knows, hsubscriptions, hissued, hremoved, ← h.known, knows]
  given := by
    rw [hremoved, hnextId]
    exact h.given
  size := by rw [Registry.size, hsubscriptions, hremoved, hnextId, ← h.size, Registry.size]

theorem subscribe (h : Accounts deeds r) (events : List Event) (handler : H) :
    Accounts (deeds ++ [.subscribe ⟨r.nextId, events, handler⟩])
      (r.subscribe events handler).2 := by
  have hissued : Deed.issued (deeds ++ [.subscribe ⟨r.nextId, events, handler⟩]) =
      Deed.issued deeds ++ [r.nextId] := issued_append _ _
  have hremoved : removed (deeds ++ [.subscribe ⟨r.nextId, events, handler⟩]) = removed deeds :=
    removed_concat deeds rfl
  refine ⟨h.ordered.subscribe events handler, ?_, fun id => ?_, ?_, ?_⟩
  · rw [hissued, h.issued]
    exact List.range_succ.symm
  · rw [knows_subscribe, h.known, hissued, hremoved, List.mem_append, List.mem_singleton]
    constructor
    · rintro (⟨hissued, hremoved⟩ | rfl)
      · exact ⟨.inl hissued, hremoved⟩
      · exact ⟨.inr rfl, fun hid => Nat.lt_irrefl _ (h.given _ hid)⟩
    · rintro ⟨hissued | rfl, hremoved⟩
      · exact .inl ⟨hissued, hremoved⟩
      · exact .inr rfl
  · intro id hid
    rw [hremoved] at hid
    exact Nat.lt_succ_of_lt (h.given id hid)
  · rw [hremoved, size_subscribe, Nat.succ_add, h.size]
    rfl

theorem unsubscribe (h : Accounts deeds r) (id : Nat) :
    Accounts (deeds ++ [.unsubscribe id (r.unsubscribe id).1]) (r.unsubscribe id).2 := by
  cases hk : r.knows id with
  | false =>
    rw [unsubscribe_of_not_knows hk]
    exact h.of_eq (issued_concat deeds rfl) (removed_concat deeds rfl) rfl rfl
  | true =>
    obtain ⟨before, s, after, hsplit, hid, hrun⟩ := h.ordered.unsubscribe_of_knows hk
    have hfound : (r.unsubscribe id).1 = true := hk
    have hissued : Deed.issued (deeds ++ [.unsubscribe id true]) = Deed.issued deeds :=
      issued_concat deeds rfl
    have hremoved : removed (deeds ++ [.unsubscribe id true]) = removed deeds ++ [id] :=
      removed_append _ _
    rw [hfound]
    refine ⟨h.ordered.unsubscribe id, hissued.trans h.issued, fun other => ?_, ?_, ?_⟩
    · rw [knows_unsubscribe_iff, h.known, hissued, hremoved, List.mem_append, List.mem_singleton,
        not_or, and_assoc]
    · intro other hother
      rw [hremoved, List.mem_append, List.mem_singleton] at hother
      rcases hother with hother | rfl
      · exact h.given other hother
      · exact hid ▸ h.ordered.fresh s (hsplit ▸ by simp)
    · have hsize : r.size = (r.unsubscribe id).2.size + 1 := by
        rw [hrun]
        simp [Registry.size, hsplit, Nat.add_assoc]
      rw [hremoved, List.length_append, List.length_singleton, ← Nat.add_assoc,
        Nat.add_right_comm, ← hsize]
      exact h.size

end Accounts

/--
A registry and the world of its handlers, what is left of the program of the handler that was
called, and the handlers who are still to be called with the event that is being delivered.
-/
structure Moment (H W : Type) : Type where
  registry : Registry H
  world : W
  running : Program H W := .done
  due : List (H × Event) := []

variable (react : H → Event → Program H W)

/--
One call from outside, one step of a handler, or one step of the delivery itself, and what was done
to the registry by it. From outside nothing is called while a delivery goes on. A handler that fails
ends the delivery at once.
-/
inductive Step : Moment H W → List (Deed H) → Moment H W → Prop
  | world {r w} (w' : W) : r.dispatching = false → Step ⟨r, w, .done, []⟩ [] ⟨r, w', .done, []⟩
  | subscribe {r w} (events : List Event) (h : H) : r.dispatching = false →
      Step ⟨r, w, .done, []⟩ [.subscribe ⟨(r.subscribe events h).1, events, h⟩]
        ⟨(r.subscribe events h).2, w, .done, []⟩
  | unsubscribe {r w} (id : Nat) : r.dispatching = false →
      Step ⟨r, w, .done, []⟩ [.unsubscribe id (r.unsubscribe id).1]
        ⟨(r.unsubscribe id).2, w, .done, []⟩
  | dispatch {r w} (e : Event) : r.dispatching = false →
      Step ⟨r, w, .done, []⟩ [.raise e] ⟨{ r.raise e with dispatching := true }, w, .done, []⟩
  | deliver {r w e rest} : r.dispatching = true → r.pending = e :: rest →
      Step ⟨r, w, .done, []⟩ []
        ⟨{ r with pending := rest }, w, .done, ({ r with pending := rest }.waiting e).map (·, e)⟩
  | call {r w h e due} : Step ⟨r, w, .done, (h, e) :: due⟩ [] ⟨r, w, react h e, due⟩
  | handlerRaise {r w e p due} : Step ⟨r, w, .raise e p, due⟩ [.raise e] ⟨r.raise e, w, p, due⟩
  | handlerSubscribe {r w events h p due} :
      Step ⟨r, w, .subscribe events h p, due⟩ [.subscribe ⟨(r.subscribe events h).1, events, h⟩]
        ⟨(r.subscribe events h).2, w, p (r.subscribe events h).1, due⟩
  | handlerUnsubscribe {r w id p due} :
      Step ⟨r, w, .unsubscribe id p, due⟩ [.unsubscribe id (r.unsubscribe id).1]
        ⟨(r.unsubscribe id).2, w, p (r.unsubscribe id).1, due⟩
  | handlerEffect {r w f p due} : Step ⟨r, w, .effect f p, due⟩ [] ⟨r, f w, p (f w), due⟩
  | finish {r w} : r.dispatching = true → r.pending = [] →
      Step ⟨r, w, .done, []⟩ [] ⟨{ r with dispatching := false }, w, .done, []⟩
  | fail {r w p due} : r.dispatching = true →
      Step ⟨r, w, p, due⟩ [] ⟨{ r with dispatching := false }, w, .done, []⟩

/-- All steps since the registry was new, with all that was done to it. -/
inductive Run : List (Deed H) → Moment H W → Prop
  | start (w : W) : Run [] ⟨empty, w, .done, []⟩
  | step {deeds new m m'} : Run deeds m → Step react m new m' → Run (deeds ++ new) m'

variable {react} {deeds : List (Deed H)} {m m' : Moment H W}

theorem Step.accounts {new : List (Deed H)} (h : Step react m new m')
    (hm : Accounts deeds m.registry) : Accounts (deeds ++ new) m'.registry := by
  have hraise (e : Event) (dispatching : Bool) :
      Accounts (deeds ++ [.raise e]) { m.registry.raise e with dispatching } :=
    hm.of_eq (issued_concat deeds rfl) (removed_concat deeds rfl) rfl rfl
  cases h with
  | subscribe events h => exact hm.subscribe events h
  | unsubscribe id => exact hm.unsubscribe id
  | dispatch e => exact hraise e true
  | handlerRaise => exact hraise _ _
  | handlerSubscribe => exact hm.subscribe _ _
  | handlerUnsubscribe => exact hm.unsubscribe _
  | _ => exact hm.of_eq (by rw [List.append_nil]) (by rw [List.append_nil]) rfl rfl

theorem Run.accounts (h : Run react deeds m) : Accounts deeds m.registry := by
  induction h with
  | start w => exact .empty
  | step _ hstep ih => exact hstep.accounts ih

theorem Run.perform {r : Registry H} {w : W} {p : Program H W} {due : List (H × Event)}
    (h : Run react deeds ⟨r, w, p, due⟩) :
    Run react (deeds ++ p.deeds r w)
      ⟨(Registry.perform p r w).1, (Registry.perform p r w).2, .done, due⟩ := by
  induction p generalizing deeds r w with
  | done =>
    rw [Program.deeds, List.append_nil]
    exact h
  | raise e p ih =>
    have hrest := ih (h.step .handlerRaise)
    rw [List.append_assoc] at hrest
    exact hrest
  | subscribe events handler p ih =>
    have hrest := ih _ (h.step .handlerSubscribe)
    rw [List.append_assoc] at hrest
    exact hrest
  | unsubscribe id p ih =>
    have hrest := ih _ (h.step .handlerUnsubscribe)
    rw [List.append_assoc] at hrest
    exact hrest
  | effect f p ih =>
    have hrest := ih _ (h.step .handlerEffect)
    rw [List.append_nil] at hrest
    exact hrest

theorem Run.call {e : Event} {subscriptions : List (Subscription H)} {r : Registry H} {w : W}
    (h : Run react deeds ⟨r, w, .done, subscriptions.map fun s => (s.handler, e)⟩) :
    Run react (deeds ++ (visits react e subscriptions r w).flatMap (·.2))
      ⟨(Registry.call react e (subscriptions.map (·.handler)) r w).1,
        (Registry.call react e (subscriptions.map (·.handler)) r w).2, .done, []⟩ := by
  induction subscriptions generalizing deeds r w with
  | nil =>
    rw [visits, List.flatMap_nil, List.append_nil]
    exact h
  | cons s rest ih =>
    have hrest := ih (h.step .call).perform
    rw [List.append_nil, List.append_assoc] at hrest
    exact hrest

theorem Run.deliver {e : Event} {rest : List Event} {r : Registry H} {w : W}
    (h : Run react deeds ⟨r, w, .done, []⟩) (hr : r.dispatching = true)
    (hp : r.pending = e :: rest) :
    Run react (deeds ++ (block react e { r with pending := rest } w).deeds)
      ⟨(Registry.deliver react e { r with pending := rest } w).1,
        (Registry.deliver react e { r with pending := rest } w).2, .done, []⟩ := by
  have hnext := h.step (.deliver hr hp)
  rw [List.append_nil, waiting, List.map_map] at hnext
  exact hnext.call

theorem Run.drain {limit : Nat} {r r' : Registry H} {w w' : W}
    (h : Run react deeds ⟨r, w, .done, []⟩) (hr : r.dispatching = true)
    (hd : drain react limit r w = some (r', w')) :
    ∃ new, Run react (deeds ++ new) ⟨r', w', .done, []⟩ := by
  fun_induction Registry.drain react limit r w generalizing deeds with
  | case1 limit r w hp =>
    cases hd
    exact ⟨[], h.step (.finish hr hp)⟩
  | case2 => cases hd
  | case3 r w e rest limit hp r₁ w₁ hdeliver ih =>
    have hnext := h.deliver hr hp
    have hdispatching := (deliver_does react e { r with pending := rest } w).dispatching
    rw [hdeliver] at hnext hdispatching
    obtain ⟨new, hrest⟩ := ih hnext (hdispatching.trans hr) hd
    exact ⟨_, List.append_assoc .. ▸ hrest⟩

theorem Run.dispatch {limit : Nat} {e : Event} {r r' : Registry H} {w w' : W}
    (h : Run react deeds ⟨r, w, .done, []⟩) (hr : r.dispatching = false)
    (hd : r.dispatch react limit e w = some (r', w')) :
    ∃ new, Run react (deeds ++ .raise e :: new) ⟨r', w', .done, []⟩ := by
  rw [Registry.dispatch, hr] at hd
  obtain ⟨new, hrest⟩ := (h.step (.dispatch e hr)).drain rfl hd
  exact ⟨new, List.append_assoc deeds [.raise e] new ▸ hrest⟩

/--
At every moment of every run the ids of the subscriptions increase and are below the next one. All
ids ever given out are different: they are the numbers in order, so that each of fewer than `2 ^ 64`
fits into a word. An id that was given out and not yet taken back belongs to one subscription, and
to take it back removes this one and moves no other; any other id is not known, and to take it back
changes nothing. As many subscriptions are left as were made and not taken back. A dispatch from
outside that ends is part of such a run.
-/
theorem Run.identity (h : Run react deeds m) :
    m.registry.subscriptions.Pairwise (·.id < ·.id) ∧
      (∀ s ∈ m.registry.subscriptions, s.id < m.registry.nextId) ∧
      (issued deeds).Nodup ∧ issued deeds = List.range m.registry.nextId ∧
      (∀ id, id ∈ issued deeds ∧ id ∉ removed deeds →
        ∃ before s after, m.registry.subscriptions = before ++ s :: after ∧ s.id = id ∧
          m.registry.unsubscribe id =
            (true, { m.registry with subscriptions := before ++ after })) ∧
      (∀ id, ¬(id ∈ issued deeds ∧ id ∉ removed deeds) →
        m.registry.unsubscribe id = (false, m.registry)) ∧
      m.registry.size + (removed deeds).length = (issued deeds).length ∧
      (m.running = .done → m.due = [] → m.registry.dispatching = false →
        ∀ limit e r' w', m.registry.dispatch react limit e m.world = some (r', w') →
          ∃ new, Run react (deeds ++ .raise e :: new) ⟨r', w', .done, []⟩) := by
  have haccounts := h.accounts
  refine ⟨haccounts.ordered.increasing, haccounts.ordered.fresh, ?_, haccounts.issued, ?_, ?_, ?_,
    ?_⟩
  · rw [haccounts.issued]
    exact List.nodup_range
  · intro id hid
    exact haccounts.ordered.unsubscribe_of_knows ((haccounts.known id).2 hid)
  · intro id hid
    rw [← haccounts.known, Bool.not_eq_true] at hid
    exact unsubscribe_of_not_knows hid
  · rw [haccounts.size, haccounts.issued, List.length_range]
  · rcases m with ⟨r, w, running, due⟩
    rintro rfl rfl hr limit e r' w' hd
    exact h.dispatch hr hd

theorem run_relay :
    ∃ m, Run relay [.subscribe ⟨0, [.stop], 0⟩, .subscribe ⟨1, [.stop], 1⟩, .raise .stop,
        .raise .continue, .subscribe ⟨2, [.continue, .continue], 2⟩, .unsubscribe 1 true] m ∧
      m.due = [(1, .stop)] ∧ m.registry.unsubscribe 1 = (false, m.registry) ∧
      m.registry.size + 1 = 3 := by
  have hstart : Run relay [] ⟨empty, (), .done, []⟩ := .start ()
  have hsubscribed := (hstart.step (.subscribe [.stop] 0 rfl)).step (.subscribe [.stop] 1 rfl)
  have hcalled := ((hsubscribed.step (.dispatch .stop rfl)).step (.deliver rfl rfl)).step .call
  have hdid := ((hcalled.step .handlerRaise).step .handlerSubscribe).step .handlerUnsubscribe
  obtain ⟨-, -, -, -, -, hunknown, hsize, -⟩ := hdid.identity
  exact ⟨_, hdid, rfl, hunknown 1 (by decide), hsize⟩

end Registry

end Debuggee
