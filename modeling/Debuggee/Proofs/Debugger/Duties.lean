import Debuggee.Proofs.Debugger.Attachment
import Debuggee.Proofs.Registers.History

namespace Debuggee

open Registers

variable {σ ν τ α : Type} {X : Extension}

namespace World

def view? (w : World σ X) (number : Nat) : Option (View σ) :=
  (w.attachment? number).map fun a => ⟨a.observer, w.engine⟩

theorem view?_look {w : World σ X} {number : Nat} {v : View σ} (h : w.view? number = some v)
    (x : StateM (View σ) α) : (w.look number x).2.view? number = some (x v).2 := by
  obtain ⟨a, ha, rfl⟩ := Option.map_eq_some_iff.1 h
  rw [look_of_attachment? ha, view?, attachment?_putView, ha]
  rfl

theorem attachment?_putObserver_of_ne (w : World σ X) {number other : Nat} (h : other ≠ number)
    (o : Observer) : (w.putObserver other o).attachment? number = w.attachment? number := by
  unfold attachment? putObserver
  induction w.attachments with
  | nil => rfl
  | cons a rest ih =>
    by_cases ha : a.number = other
    · have hne : a.number ≠ number := ha ▸ h
      simpa [ha, h] using ih
    · by_cases hn : a.number = number
      · simp [hn, h.symm]
      · simpa [ha, hn] using ih

theorem view?_look_of_ne (w : World σ X) {number other : Nat} (h : other ≠ number)
    (x : StateM (View σ) α) : (w.look other x).2.view? number =
      (w.view? number).map ({ · with engine := (w.look other x).2.engine }) := by
  cases ha : w.attachment? other with
  | none =>
    rw [look, ha, view?, Option.map_map]
    rfl
  | some a =>
    have hsame : (w.look other x).2.attachment? number = w.attachment? number := by
      rw [look_of_attachment? ha]
      exact attachment?_putObserver_of_ne w h _
    rw [view?, hsame, view?, Option.map_map]
    rfl

theorem view?_applyResize (E : Engine σ ν τ) (w : World σ X) (number : Nat) :
    (w.applyResize E).view? number =
      (w.view? number).map ({ · with engine := (w.applyResize E).engine }) := by
  have hsame : (w.applyResize E).attachment? number = w.attachment? number := by
    unfold applyResize
    split
    split <;> rfl
  rw [view?, hsame, view?, Option.map_map]
  rfl

end World

def Attachment.Owns (a : Attachment) : Handler X → Prop
  | .forget number | .takeSnapshot number => number = a.number
  | _ => False

namespace Registry

variable {a : Attachment}

structure Seats (r : Registry (Handler X)) (a : Attachment) : Prop where
  subscriptions : ∃ before later : List (Subscription (Handler X)),
    r.subscriptions = before ++ [⟨a.forgetId, Event.all, .forget a.number⟩,
      ⟨a.snapshotId, [.continue, .stop], .takeSnapshot a.number⟩] ++ later ∧
    ∀ s ∈ before ++ later, ¬ a.Owns s.handler
  forgetId : a.forgetId < r.nextId
  snapshotId : a.snapshotId < r.nextId

theorem Seats.subscribe {r : Registry (Handler X)} (hr : r.Seats a) (events : List Event)
    {h : Handler X} (hh : ¬ a.Owns h) : (r.subscribe events h).2.Seats a where
  subscriptions := by
    obtain ⟨before, later, hs, hnot⟩ := hr.subscriptions
    refine ⟨before, later ++ [⟨r.nextId, events, h⟩], ?_, ?_⟩
    · rw [← List.append_assoc, ← hs]
      rfl
    · rw [← List.append_assoc, List.forall_mem_append]
      exact ⟨hnot, fun s hs => by rwa [List.mem_singleton.1 hs]⟩
  forgetId := Nat.lt_succ_of_lt hr.forgetId
  snapshotId := Nat.lt_succ_of_lt hr.snapshotId

theorem Seats.unsubscribe {r : Registry (Handler X)} (hr : r.Seats a) {id : Nat}
    (hforget : id ≠ a.forgetId) (hsnapshot : id ≠ a.snapshotId) : (r.unsubscribe id).2.Seats a where
  subscriptions := by
    obtain ⟨before, later, hs, hnot⟩ := hr.subscriptions
    refine ⟨before.filter (·.id != id), later.filter (·.id != id), ?_, ?_⟩
    · show r.subscriptions.filter _ = _
      rw [hs, List.filter_append, List.filter_append]
      simp [hforget.symm, hsnapshot.symm]
    · rw [← List.filter_append]
      exact fun s hs => hnot s (List.mem_filter.1 hs).1
  forgetId := hr.forgetId
  snapshotId := hr.snapshotId

theorem Seats.waiting {r : Registry (Handler X)} (hr : r.Seats a) (e : Event) :
    ∃ before later, r.waiting e = before ++ Attachment.waiting a.number e ++ later ∧
      ∀ h ∈ before ++ later, ¬ a.Owns h := by
  obtain ⟨before, later, hs, hnot⟩ := hr.subscriptions
  refine ⟨(before.filter (·.events.contains e)).map (·.handler),
    (later.filter (·.events.contains e)).map (·.handler), ?_, ?_⟩
  · rw [Registry.waiting, hs, List.filter_append, List.filter_append, List.map_append,
      List.map_append]
    congr 2
    cases e <;> rfl
  · rw [← List.map_append, ← List.filter_append]
    intro h hh
    obtain ⟨s, hs, rfl⟩ := List.mem_map.1 hh
    exact hnot s (List.mem_filter.1 hs).1

end Registry

def Registers.Incident.isDuty : Incident σ → Bool
  | .forget _ | .snapshot => true
  | _ => false

def duties (life : List (Incident σ)) : List (Incident σ) := life.filter (·.isDuty)

theorem duties_append (later past : List (Incident σ)) :
    duties (later ++ past) = duties later ++ duties past := List.filter_append _ _

section

variable (E : Engine σ ν τ) (B : Behavior σ X) (a : Attachment)

def dutyOf? (e : Event) : Handler X → Option (Incident σ)
  | .forget number => if number = a.number then some (.forget e) else none
  | .takeSnapshot number => if number = a.number then some .snapshot else none
  | _ => none

/--
The handlers of an observer do what is due to it; those of other observers and of the debugger
itself do nothing to it but to change the engine. The handlers of others are told step by step.
-/
inductive Tends : Stage (List (Incident σ)) (Handler X) (World σ X) → Handler X → Event →
    Program (Handler X) (World σ X) → Stage (List (Incident σ)) (Handler X) (World σ X) → Prop
  | other {m h e} : Tends m (.other h) e (B.react h e) m
  | own {m h e r w} : (∀ h', h ≠ .other h') →
      Registry.perform (react E B h e) m.registry m.world = (r, w) →
      Tends m h e .done ⟨(dutyOf? a e h).getD (.change fun _ => w.engine) :: m.record, r, w⟩

/--
What happens to an observer as the record of a run, the latest first. Others may use the observer
as anybody may and do what they like besides, but they leave its subscriptions alone.
-/
def lives : Keeper (react E B) (List (Incident σ)) where
  Subscribes m _ h life := ¬ a.Owns h ∧ life = m.record
  Unsubscribes m id life := id ≠ a.forgetId ∧ id ≠ a.snapshotId ∧ life = m.record
  Becomes m w life := ∃ told, duties told = [] ∧
    (∀ v, m.world.view? a.number = some v → w.view? a.number = some (lived E v told)) ∧
    life = told ++ m.record
  Does _ _ _ _ := False
  Calls := Tends E B a
  hears life _ := life
  perform_does := False.elim
  perform_calls h := by
    cases h with
    | other => rfl
    | own _ h => exact h

structure Tells (v : View σ)
    (m : Stage (List (Incident σ)) (Handler X) (World σ X)) : Prop where
  seats : m.registry.Seats a
  view : m.world.view? a.number = some (lived E v m.record)

end

variable {E : Engine σ ν τ} {B : Behavior σ X} {a : Attachment} {v : View σ}
  {m m' : Stage (List (Incident σ)) (Handler X) (World σ X)}
  {p p' : Program (Handler X) (World σ X)}

theorem Tells.requeue (ht : Tells E a v m) (pending : List Event) (dispatching : Bool) :
    Tells E a v { m with registry := { m.registry with pending, dispatching } } :=
  ⟨⟨ht.seats.subscriptions, ht.seats.forgetId, ht.seats.snapshotId⟩, ht.view⟩

theorem Tells.becomes (ht : Tells E a v m) {w : World σ X} {life : List (Incident σ)}
    (h : (lives E B a).Becomes m w life) :
    Tells E a v ⟨life, m.registry, w⟩ ∧ duties life = duties m.record := by
  obtain ⟨told, hnone, htold, rfl⟩ := h
  refine ⟨⟨ht.seats, ?_⟩, ?_⟩
  · exact (htold _ ht.view).trans (congrArg some (lived_append v _ _).symm)
  · rw [duties_append, hnone]
    rfl

theorem Tells.step (ht : Tells E a v m) (h : (lives E B a).Step p m p' m') :
    Tells E a v m' ∧ duties m'.record = duties m.record := by
  cases h with
  | raise e => exact ⟨ht.requeue _ _, rfl⟩
  | subscribe h =>
    obtain ⟨hh, rfl⟩ := h
    exact ⟨⟨ht.seats.subscribe _ hh, ht.view⟩, rfl⟩
  | unsubscribe h =>
    obtain ⟨hforget, hsnapshot, rfl⟩ := h
    exact ⟨⟨ht.seats.unsubscribe hforget hsnapshot, ht.view⟩, rfl⟩
  | effect h => exact ht.becomes h
  | whole h => cases h

theorem view?_look_told {w : World σ X} {v : View σ} (hw : w.view? a.number = some v)
    (number : Nat) {x : StateM (View σ) α} {i : Incident σ} (hx : ∀ v, (x v).2 = i.perform E v) :
    let w' := (w.look number x).2
    w'.view? a.number =
      some ((if number = a.number then i else .change fun _ => w'.engine).perform E v) := by
  intro w'
  split
  · rename_i hn
    rw [← hn] at hw ⊢
    exact (World.view?_look hw x).trans (congrArg some (hx v))
  · rename_i hn
    rw [World.view?_look_of_ne w hn x, hw]
    rfl

theorem becomes_look (m : Stage (List (Incident σ)) (Handler X) (World σ X)) (number : Nat)
    {x : StateM (View σ) α} {i : Incident σ} (hi : i.isDuty = false)
    (hx : ∀ v, (x v).2 = i.perform E v) :
    let w := (m.world.look number x).2
    (lives E B a).Becomes m w
      ((if number = a.number then i else .change fun _ => w.engine) :: m.record) := by
  intro w
  refine ⟨[_], ?_, fun v hv => view?_look_told hv number hx, rfl⟩
  by_cases hn : number = a.number
  · simp [hn, duties, hi]
  · simp [hn, duties, Incident.isDuty]

theorem Tells.tend (ht : Tells E a v m) (number : Nat) {x : StateM (View σ) α} {i : Incident σ}
    (hi : i.isDuty = true) (hx : ∀ v, (x v).2 = i.perform E v) :
    let w := (m.world.look number x).2
    let duty? := if number = a.number then some i else none
    let life := duty?.getD (.change fun _ => w.engine) :: m.record
    Tells E a v ⟨life, m.registry, w⟩ ∧ duties life = duty?.toList ++ duties m.record := by
  intro w duty? life
  have hview : w.view? a.number = _ := view?_look_told ht.view number hx
  by_cases hn : number = a.number
  · have hlife : life = i :: m.record := by simp [life, duty?, hn]
    rw [if_pos hn] at hview
    rw [hlife]
    exact ⟨⟨ht.seats, hview⟩, by simp [duties, duty?, hn, hi]⟩
  · have hlife : life = (.change fun _ => w.engine) :: m.record := by simp [life, duty?, hn]
    rw [if_neg hn] at hview
    rw [hlife]
    exact ⟨⟨ht.seats, hview⟩, by simp [duties, duty?, hn, Incident.isDuty]⟩

theorem Tells.calls {h : Handler X} {e : Event} (ht : Tells E a v m)
    (hcalls : (lives E B a).Calls m h e p m') :
    Tells E a v m' ∧ duties m'.record = (dutyOf? a e h).toList ++ duties m.record := by
  cases hcalls with
  | other => exact ⟨ht, rfl⟩
  | own hh hperform =>
    cases h with
    | other h => exact absurd rfl (hh h)
    | applyResize =>
      cases hperform
      refine ⟨⟨ht.seats, ?_⟩, rfl⟩
      show (m.world.applyResize E).view? a.number = _
      rw [World.view?_applyResize, ht.view]
      rfl
    | forget number =>
      cases hperform
      exact ht.tend number rfl fun _ => rfl
    | takeSnapshot number =>
      cases hperform
      exact ht.tend number rfl fun _ => rfl

theorem dutyOf?_of_not_owns {h : Handler X} (hh : ¬ a.Owns h) (e : Event) :
    (dutyOf? a e h : Option (Incident σ)) = none := by
  cases h with
  | forget number => exact if_neg hh
  | takeSnapshot number => exact if_neg hh
  | _ => rfl

theorem Registry.Seats.dueAt_eq {r : Registry (Handler X)} (hr : r.Seats a) (e : Event) :
    ((r.waiting e).filterMap (dutyOf? a e)).reverse = (dueAt e : List (Incident σ)) := by
  obtain ⟨before, later, hw, hnot⟩ := hr.waiting e
  have hnone {hs : List (Handler X)} (hhs : ∀ h ∈ hs, ¬ a.Owns h) :
      hs.filterMap (dutyOf? a e) = ([] : List (Incident σ)) :=
    List.filterMap_eq_nil_iff.2 fun h hh => dutyOf?_of_not_owns (hhs h hh) e
  obtain ⟨hbefore, hlater⟩ := List.forall_mem_append.1 hnot
  rw [hw, List.filterMap_append, List.filterMap_append, hnone hbefore, hnone hlater,
    List.nil_append, List.append_nil]
  cases e <;> simp [Attachment.waiting, Event.all, dutyOf?, dueAt]

end Debuggee
