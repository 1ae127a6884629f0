import Debuggee.Proofs.Debugger.Attachment
import Debuggee.Proofs.Debugger.Setup
import Mathlib.Data.List.Nodup

namespace Debuggee

variable {σ ν τ : Type} {X : Extension}

inductive Seat (X : Extension) : Type
  | resize : Nat → Seat X
  | other : Nat → List Event → X.Handler → Seat X
  | observer : Nat → Nat → Nat → Seat X

namespace Seat

def subscriptions : Seat X → List (Subscription (Handler X))
  | resize id => [⟨id, [.prompt], .applyResize⟩]
  | other id events h => [⟨id, events, .other h⟩]
  | observer number forgetId snapshotId =>
    [⟨forgetId, Event.all, .forget number⟩, ⟨snapshotId, [.continue, .stop], .takeSnapshot number⟩]

def ids (s : Seat X) : List Nat := s.subscriptions.map (·.id)

def isResize : Seat X → Bool
  | resize _ => true
  | _ => false

def isOther : Seat X → Bool
  | other _ _ _ => true
  | _ => false

def number? : Seat X → Option Nat
  | observer number _ _ => some number
  | _ => none

def waiting (s : Seat X) (e : Event) : List (Handler X) :=
  (s.subscriptions.filter (·.events.contains e)).map (·.handler)

theorem number?_of_mem {s : Seat X} {sub : Subscription (Handler X)} (h : sub ∈ s.subscriptions)
    {number : Nat} (hn : sub.handler = .forget number ∨ sub.handler = .takeSnapshot number) :
    s.number? = some number := by
  cases s <;> simp [subscriptions] at h <;> grind [number?]

theorem filter_flatMap {seats : List (Seat X)} {keep : Seat X → Bool}
    {keeps : Subscription (Handler X) → Bool}
    (h : ∀ s ∈ seats, ∀ sub ∈ s.subscriptions, keeps sub = keep s) :
    (seats.flatMap subscriptions).filter keeps = (seats.filter keep).flatMap subscriptions := by
  induction seats with
  | nil => rfl
  | cons s seats ih =>
    obtain ⟨hs, hseats⟩ := List.forall_mem_cons.1 h
    rw [List.flatMap_cons, List.filter_append, ih hseats, List.filter_cons]
    cases hk : keep s with
    | true => simp [List.filter_eq_self.2 fun sub hsub => (hs sub hsub).trans hk]
    | false =>
      have hnone : s.subscriptions.filter keeps = [] :=
        List.filter_eq_nil_iff.2 fun sub hsub => by simp [hs sub hsub, hk]
      simp [hnone]

end Seat

def Attachment.seat (a : Attachment) : Seat X := .observer a.number a.forgetId a.snapshotId

theorem Attachment.waiting_seat (a : Attachment) (e : Event) :
    (a.seat : Seat X).waiting e = Attachment.waiting a.number e := by
  cases e <;> rfl

/-- The seats in their order, the observers that were given up, and whether the set up is done. -/
structure Roll (X : Extension) : Type where
  seats : List (Seat X) := []
  gone : List Nat := []
  complete : Bool := false

namespace Roll

def numbers (roll : Roll X) : List Nat := roll.seats.filterMap (·.number?)

def take (roll : Roll X) (s : Seat X) : Roll X := { roll with seats := roll.seats ++ [s] }

def finish (roll : Roll X) (id : Nat) : Roll X := { roll.take (.resize id) with complete := true }

def drop (roll : Roll X) (id : Nat) : Roll X :=
  { roll with seats := roll.seats.filter (!·.ids.contains id) }

def leave (roll : Roll X) (number : Nat) : Roll X :=
  { roll with
    seats := roll.seats.filter (·.number? != some number)
    gone := number :: roll.gone }

def IsOthers (roll : Roll X) (id : Nat) : Prop := ∀ s ∈ roll.seats, id ∈ s.ids → s.isOther

theorem numbers_take (roll : Roll X) (s : Seat X) :
    (roll.take s).numbers = roll.numbers ++ s.number?.toList := by
  cases hs : s.number? <;> simp [numbers, take, hs]

theorem numbers_take_of_none {roll : Roll X} {s : Seat X} (hs : s.number? = none) :
    (roll.take s).numbers = roll.numbers := by
  rw [numbers_take, hs]
  exact List.append_nil _

theorem numbers_leave (roll : Roll X) (number : Nat) :
    (roll.leave number).numbers.Sublist roll.numbers :=
  List.filter_sublist.filterMap _

theorem not_mem_numbers_leave (roll : Roll X) (number : Nat) :
    number ∉ (roll.leave number).numbers := by
  simp [numbers, leave]

theorem filter_drop {roll : Roll X} {id : Nat} (hid : roll.IsOthers id) {p : Seat X → Bool}
    (hp : ∀ s, p s → s.isOther = false) : (roll.drop id).seats.filter p = roll.seats.filter p := by
  rw [drop, List.filter_filter]
  refine List.filter_congr fun s hs => ?_
  have := hid s hs
  have := hp s
  grind

theorem numbers_eq_filterMap (roll : Roll X) :
    roll.numbers = (roll.seats.filter (·.number?.isSome)).filterMap (·.number?) := by
  rw [numbers, List.filterMap_filter]
  refine List.filterMap_congr fun s _ => ?_
  cases s <;> rfl

theorem numbers_drop {roll : Roll X} {id : Nat} (hid : roll.IsOthers id) :
    (roll.drop id).numbers = roll.numbers := by
  rw [numbers_eq_filterMap, filter_drop hid, ← numbers_eq_filterMap]
  intro s hs
  cases s <;> first | rfl | cases hs

end Roll

namespace Stage

/-- The subscriptions are those of the roll, and the observers those who have a seat. -/
structure IsExact (m : Stage (Roll X) (Handler X) (World σ X)) : Prop where
  subscriptions : m.registry.subscriptions = m.record.seats.flatMap Seat.subscriptions
  ordered : m.registry.Ordered
  attachments : m.world.attachments.map Attachment.seat = m.record.seats.filter (·.number?.isSome)
  numbers : m.record.numbers.Pairwise (· < ·)
  fresh : ∀ number ∈ m.record.numbers, number < m.world.nextObserver
  gone : ∀ number ∈ m.record.gone, number < m.world.nextObserver ∧ number ∉ m.record.numbers
  resize : m.record.seats.countP (·.isResize) = if m.record.complete then 1 else 0
  configured : m.record.complete = true → m.world.configured = true

end Stage

/-- What those who are not observers do to a world leaves its observers subscribed as they are. -/
structure World.Spares (w w' : World σ X) : Prop where
  seats : w'.attachments.map (Attachment.seat (X := X)) = w.attachments.map Attachment.seat
  nextObserver : w'.nextObserver = w.nextObserver
  configured : w.configured = true → w'.configured = true

theorem Registry.Ordered.eq_of_id_eq {r : Registry (Handler X)} (hr : r.Ordered)
    {s s' : Subscription (Handler X)} (hs : s ∈ r.subscriptions) (hs' : s' ∈ r.subscriptions)
    (h : s.id = s'.id) : s = s' :=
  List.inj_on_of_nodup_map (List.pairwise_map.2 (hr.increasing.imp Nat.ne_of_lt)) hs hs' h

namespace Stage.IsExact

variable {m : Stage (Roll X) (Handler X) (World σ X)}

theorem empty {w : World σ X} (hw : w.attachments = []) :
    IsExact (⟨{}, {}, w⟩ : Stage (Roll X) (Handler X) (World σ X)) where
  subscriptions := rfl
  ordered := .empty
  attachments := by
    rw [hw]
    rfl
  numbers := .nil
  fresh := nofun
  gone := nofun
  resize := rfl
  configured := nofun

theorem requeue (h : m.IsExact) (pending : List Event) (dispatching : Bool) :
    IsExact { m with registry := { m.registry with pending, dispatching } } :=
  { h with ordered := ⟨h.ordered.increasing, h.ordered.fresh⟩ }

theorem spares (h : m.IsExact) {w : World σ X} (hw : m.world.Spares w) :
    IsExact { m with world := w } :=
  { h with
    attachments := hw.seats.trans h.attachments
    fresh := fun number hn => hw.nextObserver ▸ h.fresh number hn
    gone := fun number hn => hw.nextObserver ▸ h.gone number hn
    configured := fun hc => hw.configured (h.configured hc) }

theorem subscribe (h : m.IsExact) (events : List Event) (handler : X.Handler) :
    IsExact { m with
      record := m.record.take (.other m.registry.nextId events handler)
      registry := (m.registry.subscribe events (.other handler)).2 } := by
  have hnumbers : (m.record.take (.other m.registry.nextId events handler)).numbers =
      m.record.numbers := Roll.numbers_take_of_none rfl
  refine ⟨?_, h.ordered.subscribe events _, ?_, hnumbers ▸ h.numbers, hnumbers ▸ h.fresh,
    hnumbers ▸ h.gone, ?_, h.configured⟩
  · show m.registry.subscriptions ++ _ = (m.record.seats ++ [_]).flatMap _
    rw [h.subscriptions, List.flatMap_append]
    rfl
  · show _ = (m.record.seats ++ [_]).filter _
    rw [h.attachments, List.filter_append]
    exact (List.append_nil _).symm
  · show (m.record.seats ++ [_]).countP _ = _
    rw [List.countP_append]
    exact h.resize

theorem unsubscribe (h : m.IsExact) {id : Nat} (hid : m.record.IsOthers id) :
    IsExact { m with
      record := m.record.drop id
      registry := (m.registry.unsubscribe id).2 } where
  subscriptions := by
    show m.registry.subscriptions.filter _ = _
    rw [h.subscriptions]
    refine Seat.filter_flatMap fun s hs sub hsub => ?_
    have hothers := hid s hs
    have hmem : sub.id ∈ s.ids := List.mem_map_of_mem hsub
    cases s <;> grind [Seat.subscriptions, Seat.ids, Seat.isOther]
  ordered := h.ordered.unsubscribe id
  attachments := by
    refine h.attachments.trans (Roll.filter_drop hid fun s hs => ?_).symm
    cases s <;> first | rfl | cases hs
  numbers := (Roll.numbers_drop hid).symm ▸ h.numbers
  fresh := (Roll.numbers_drop hid).symm ▸ h.fresh
  gone := (Roll.numbers_drop hid).symm ▸ h.gone
  resize := by
    rw [List.countP_eq_length_filter, Roll.filter_drop hid, ← List.countP_eq_length_filter]
    · exact h.resize
    · intro s hs
      cases s <;> first | rfl | cases hs
  configured := h.configured

theorem finish (h : m.IsExact) (hnew : m.world.configured = false) {w : World σ X}
    (hattachments : w.attachments = m.world.attachments)
    (hnext : w.nextObserver = m.world.nextObserver) (hconfigured : w.configured = true) :
    IsExact { m with
      record := m.record.finish m.registry.nextId
      registry := (m.registry.subscribe [.prompt] .applyResize).2
      world := w } := by
  have hnumbers : (m.record.finish m.registry.nextId).numbers = m.record.numbers :=
    Roll.numbers_take_of_none (s := .resize m.registry.nextId) rfl
  have hcomplete : m.record.complete = false := by
    by_contra hc
    rw [h.configured (eq_true_of_ne_false hc)] at hnew
    cases hnew
  refine ⟨?_, h.ordered.subscribe [.prompt] _, ?_, hnumbers ▸ h.numbers, hnext ▸ hnumbers ▸ h.fresh,
    hnext ▸ hnumbers ▸ h.gone, ?_, fun _ => hconfigured⟩
  · show m.registry.subscriptions ++ _ = (m.record.seats ++ [_]).flatMap _
    rw [h.subscriptions, List.flatMap_append]
    rfl
  · show w.attachments.map _ = (m.record.seats ++ [_]).filter _
    rw [hattachments, h.attachments, List.filter_append]
    exact (List.append_nil _).symm
  · show (m.record.seats ++ [_]).countP _ = _
    rw [List.countP_append, h.resize, hcomplete]
    rfl

theorem join (h : m.IsExact) (config : Config) :
    IsExact { m with
      record := m.record.take
        (.observer m.world.nextObserver m.registry.nextId (m.registry.nextId + 1))
      registry := (m.debugger.join config).registry
      world := (m.debugger.join config).world } where
  subscriptions := by
    show _ = (m.record.seats ++ [_]).flatMap _
    rw [Debugger.subscriptions_join, List.flatMap_append, ← h.subscriptions]
    rfl
  ordered := (h.ordered.subscribe _ _).subscribe _ _
  attachments := by
    show (m.world.attachments ++ [_]).map _ = (m.record.seats ++ [_]).filter _
    rw [List.map_append, h.attachments, List.filter_append]
    rfl
  numbers := by
    rw [Roll.numbers_take]
    refine List.pairwise_append.2
      ⟨h.numbers, List.pairwise_singleton _ _, fun number hn n hn' => ?_⟩
    rw [List.mem_singleton.1 hn']
    exact h.fresh number hn
  fresh := by
    rw [Roll.numbers_take]
    refine List.forall_mem_append.2 ⟨fun number hn => Nat.lt_succ_of_lt (h.fresh number hn), ?_⟩
    exact List.forall_mem_singleton.2 (Nat.lt_succ_self _)
  gone := by
    intro number hn
    obtain ⟨hlt, hnot⟩ := h.gone number hn
    refine ⟨Nat.lt_succ_of_lt hlt, ?_⟩
    rw [Roll.numbers_take]
    exact fun hmem => (List.mem_append.1 hmem).elim hnot fun heq =>
      Nat.ne_of_lt hlt (List.mem_singleton.1 heq)
  resize := by
    show (m.record.seats ++ [_]).countP _ = _
    rw [List.countP_append]
    exact h.resize
  configured := h.configured

theorem map_number (h : m.IsExact) : m.world.attachments.map (·.number) = m.record.numbers := by
  rw [Roll.numbers_eq_filterMap, ← h.attachments, List.filterMap_map]
  exact (List.filterMap_eq_map (f := Attachment.number) ▸ rfl)

theorem eq_of_number_eq (h : m.IsExact) {a b : Attachment} (ha : a ∈ m.world.attachments)
    (hb : b ∈ m.world.attachments) (hn : a.number = b.number) : a = b :=
  List.inj_on_of_nodup_map (h.map_number ▸ h.numbers.imp Nat.ne_of_lt) ha hb hn

theorem attachment?_eq (h : m.IsExact) {a : Attachment} (ha : a ∈ m.world.attachments) :
    m.world.attachment? a.number = some a := by
  unfold World.attachment?
  cases hfind : m.world.attachments.find? (·.number == a.number) with
  | none => exact absurd (List.find?_eq_none.1 hfind a ha) (by simp)
  | some b =>
    have hn : b.number = a.number := by simpa using List.find?_some hfind
    rw [h.eq_of_number_eq (List.mem_of_find?_eq_some hfind) ha hn]

theorem seat_mem (h : m.IsExact) {a : Attachment} (ha : a ∈ m.world.attachments) :
    a.seat ∈ m.record.seats :=
  (List.mem_filter.1 (h.attachments ▸ List.mem_map_of_mem ha)).1

theorem eq_seat (h : m.IsExact) {a : Attachment} (ha : a ∈ m.world.attachments) {s : Seat X}
    (hs : s ∈ m.record.seats) (hn : s.number? = some a.number) : s = a.seat := by
  have hmem : s ∈ m.world.attachments.map Attachment.seat := by
    rw [h.attachments]
    exact List.mem_filter.2 ⟨hs, by rw [hn]; rfl⟩
  obtain ⟨b, hb, rfl⟩ := List.mem_map.1 hmem
  rw [h.eq_of_number_eq hb ha (Option.some.inj hn)]

theorem keeps_eq (h : m.IsExact) {a : Attachment} (ha : a ∈ m.world.attachments) {s : Seat X}
    (hs : s ∈ m.record.seats) {sub : Subscription (Handler X)} (hsub : sub ∈ s.subscriptions) :
    (sub.id != a.snapshotId && sub.id != a.forgetId) = (s.number? != some a.number) := by
  have hlive {sub : Subscription (Handler X)} {s : Seat X} (hs : s ∈ m.record.seats)
      (hsub : sub ∈ s.subscriptions) : sub ∈ m.registry.subscriptions :=
    h.subscriptions ▸ List.mem_flatMap.2 ⟨s, hs, hsub⟩
  by_cases hn : s.number? = some a.number
  · obtain rfl := h.eq_seat ha hs hn
    simp only [Attachment.seat, Seat.subscriptions, List.mem_cons, List.not_mem_nil,
      or_false] at hsub
    rcases hsub with rfl | rfl <;> simp [hn]
  · have hforget : sub.id ≠ a.forgetId := fun heq => hn <| by
      have := h.ordered.eq_of_id_eq (hlive hs hsub) (hlive (h.seat_mem ha) (.head _)) heq
      exact Seat.number?_of_mem hsub (.inl (congrArg (·.handler) this))
    have hsnapshot : sub.id ≠ a.snapshotId := fun heq => hn <| by
      have := h.ordered.eq_of_id_eq (hlive hs hsub) (hlive (h.seat_mem ha) (.tail _ (.head _))) heq
      exact Seat.number?_of_mem hsub (.inr (congrArg (·.handler) this))
    rw [Bool.eq_iff_iff]
    simp [hn, hforget, hsnapshot]

theorem seats_leave (h : m.IsExact) {a : Attachment} {before later : List (Seat X)}
    (hseats : m.record.seats = before ++ a.seat :: later) :
    (m.record.leave a.number).seats = before ++ later := by
  have hnodup : m.record.numbers.Nodup := h.numbers.imp Nat.ne_of_lt
  have ha : (a.seat : Seat X).number? = some a.number := rfl
  rw [Roll.numbers, hseats, List.filterMap_append, List.filterMap_cons_some ha,
    List.nodup_middle, List.nodup_cons, ← List.filterMap_append] at hnodup
  have hothers : ∀ s ∈ before ++ later, (s.number? != some a.number) = true := fun s hs =>
    bne_iff_ne.2 fun hn => hnodup.1 (List.mem_filterMap.2 ⟨s, hs, hn⟩)
  obtain ⟨hbefore, hlater⟩ := List.forall_mem_append.1 hothers
  rw [Roll.leave, hseats, List.filter_append, List.filter_cons_of_neg (by simp [ha]),
    List.filter_eq_self.2 hbefore, List.filter_eq_self.2 hlater]

theorem detach_eq (h : m.IsExact) {a : Attachment} (ha : a ∈ m.world.attachments) :
    m.debugger.detach a.number =
      { m.debugger with
        registry := { m.registry with
          subscriptions := (m.record.leave a.number).seats.flatMap Seat.subscriptions }
        world := { m.world with
          attachments := m.world.attachments.filter (·.number != a.number) } } := by
  have hsubs : (m.registry.subscriptions.filter (·.id != a.forgetId)).filter
      (·.id != a.snapshotId) = (m.record.leave a.number).seats.flatMap Seat.subscriptions := by
    rw [List.filter_filter, h.subscriptions]
    exact Seat.filter_flatMap fun s hs sub hsub => h.keeps_eq ha hs hsub
  rw [Debugger.detach, debugger, h.attachment?_eq ha]
  rw [← hsubs]
  rfl

theorem detach (h : m.IsExact) {a : Attachment} (ha : a ∈ m.world.attachments) :
    IsExact { m with
      record := m.record.leave a.number
      registry := (m.debugger.detach a.number).registry
      world := (m.debugger.detach a.number).world } := by
  have hordered : (m.debugger.detach a.number).registry.Ordered := by
    rw [Debugger.detach, debugger, h.attachment?_eq ha]
    exact (h.ordered.unsubscribe a.forgetId).unsubscribe a.snapshotId
  have hnumbers := Roll.numbers_leave m.record a.number
  rw [h.detach_eq ha] at hordered ⊢
  refine ⟨rfl, hordered, ?_, h.numbers.sublist hnumbers, fun n hn => h.fresh n (hnumbers.subset hn),
    ?_, ?_, h.configured⟩
  · show (m.world.attachments.filter _).map _ = (m.record.seats.filter _).filter _
    rw [List.filter_filter, List.filter_congr fun s _ => Bool.and_comm .., ← List.filter_filter,
      ← h.attachments, List.filter_map]
    rfl
  · intro n hn
    rcases List.mem_cons.1 hn with rfl | hn
    · have hmem : a.number ∈ m.record.numbers := h.map_number ▸ List.mem_map_of_mem ha
      exact ⟨h.fresh _ hmem, m.record.not_mem_numbers_leave a.number⟩
    · obtain ⟨hlt, hnot⟩ := h.gone n hn
      exact ⟨hlt, fun hmem => hnot (hnumbers.subset hmem)⟩
  · refine Eq.trans ?_ h.resize
    show (m.record.seats.filter _).countP _ = _
    rw [List.countP_filter]
    refine List.countP_congr fun s _ => ?_
    cases s <;> simp [Seat.isResize, Seat.number?]

theorem waiting_eq (h : m.IsExact) (e : Event) :
    m.registry.waiting e = m.record.seats.flatMap (·.waiting e) := by
  rw [Registry.waiting, h.subscriptions, List.filter_flatMap, List.map_flatMap]
  rfl

theorem deliver (h : m.IsExact) (E : Engine σ ν τ) (B : Behavior σ X) {a : Attachment}
    {before later : List (Seat X)} (hseats : m.record.seats = before ++ a.seat :: later)
    (e : Event) :
    Registry.deliver (react E B) e m.registry m.world =
      let first := Registry.call (react E B) e (before.flatMap (·.waiting e)) m.registry m.world
      Registry.call (react E B) e (later.flatMap (·.waiting e)) first.1
        (first.2.look a.number (Registers.hear E e)).2 := by
  rw [Registry.deliver, h.waiting_eq, hseats, List.flatMap_append, List.flatMap_cons,
    Registry.call_append, Registry.call_append, a.waiting_seat, call_waiting]

theorem not_waiting_of_gone (h : m.IsExact) {number : Nat} (hgone : number ∈ m.record.gone)
    (e : Event) : Handler.forget number ∉ m.registry.waiting e ∧
      Handler.takeSnapshot number ∉ m.registry.waiting e := by
  have hseat {handler : Handler X} (hmem : handler ∈ m.registry.waiting e) :
      ¬ (handler = .forget number ∨ handler = .takeSnapshot number) := fun hn => by
    rw [h.waiting_eq] at hmem
    obtain ⟨s, hs, hmem⟩ := List.mem_flatMap.1 hmem
    obtain ⟨sub, hsub, rfl⟩ := List.mem_map.1 hmem
    have hnumber := Seat.number?_of_mem (List.mem_filter.1 hsub).1 hn
    exact (h.gone number hgone).2 (List.mem_filterMap.2 ⟨s, hs, hnumber⟩)
  exact ⟨fun hmem => hseat hmem (.inl rfl), fun hmem => hseat hmem (.inr rfl)⟩

end Stage.IsExact

end Debuggee
