import Debuggee.Event.Registry

namespace Debuggee

variable {H W : Type}

inductive Deed (H : Type) : Type
  | raise : Event → Deed H
  | subscribe : Subscription H → Deed H
  | unsubscribe : Nat → Bool → Deed H

namespace Deed

def raised? : Deed H → Option Event
  | .raise e => some e
  | _ => none

def raised (deeds : List (Deed H)) : List Event := deeds.filterMap raised?

def revise (subscriptions : List (Subscription H)) : Deed H → List (Subscription H)
  | .raise _ => subscriptions
  | .subscribe s => subscriptions ++ [s]
  | .unsubscribe id _ => subscriptions.filter (·.id != id)

def left (subscriptions : List (Subscription H)) (deeds : List (Deed H)) : List (Subscription H) :=
  deeds.foldl revise subscriptions

theorem left_append (subscriptions : List (Subscription H)) (deeds deeds' : List (Deed H)) :
    left subscriptions (deeds ++ deeds') = left (left subscriptions deeds) deeds' :=
  List.foldl_append

end Deed

namespace Registry

inductive Does : Registry H → List (Deed H) → Registry H → Prop
  | nil {r} : Does r [] r
  | raise {r deeds r'} (e : Event) : Does (r.raise e) deeds r' → Does r (.raise e :: deeds) r'
  | subscribe {r deeds r'} (events : List Event) (h : H) : Does (r.subscribe events h).2 deeds r' →
      Does r (.subscribe ⟨(r.subscribe events h).1, events, h⟩ :: deeds) r'
  | unsubscribe {r deeds r'} (id : Nat) : Does (r.unsubscribe id).2 deeds r' →
      Does r (.unsubscribe id (r.unsubscribe id).1 :: deeds) r'

structure Ordered (r : Registry H) : Prop where
  increasing : r.subscriptions.Pairwise (·.id < ·.id)
  fresh : ∀ s ∈ r.subscriptions, s.id < r.nextId

/-- The id has been given out and belongs to nobody any more. -/
structure Gone (r : Registry H) (id : Nat) : Prop where
  given : id < r.nextId
  unknown : ∀ s ∈ r.subscriptions, s.id ≠ id

theorem Ordered.empty : Ordered (Registry.empty (H := H)) := ⟨.nil, nofun⟩

theorem Ordered.subscribe {r : Registry H} (hr : r.Ordered) (events : List Event) (h : H) :
    (r.subscribe events h).2.Ordered where
  increasing := by
    refine List.pairwise_append.2 ⟨hr.increasing, List.pairwise_singleton _ _, ?_⟩
    intro s hs s' hs'
    rw [List.mem_singleton.1 hs']
    exact hr.fresh s hs
  fresh := by
    intro s hs
    rcases List.mem_append.1 hs with hs | hs
    · exact Nat.lt_succ_of_lt (hr.fresh s hs)
    · rw [List.mem_singleton.1 hs]
      exact Nat.lt_succ_self _

theorem Ordered.unsubscribe {r : Registry H} (hr : r.Ordered) (id : Nat) :
    (r.unsubscribe id).2.Ordered where
  increasing := hr.increasing.filter _
  fresh s hs := hr.fresh s (List.mem_filter.1 hs).1

theorem Gone.subscribe {r : Registry H} {id : Nat} (hid : r.Gone id) (events : List Event)
    (h : H) : (r.subscribe events h).2.Gone id where
  given := Nat.lt_succ_of_lt hid.given
  unknown := by
    intro s hs
    rcases List.mem_append.1 hs with hs | hs
    · exact hid.unknown s hs
    · rw [List.mem_singleton.1 hs]
      exact (Nat.ne_of_lt hid.given).symm

theorem Gone.unsubscribe {r : Registry H} {id : Nat} (hid : r.Gone id) (other : Nat) :
    (r.unsubscribe other).2.Gone id where
  given := hid.given
  unknown s hs := hid.unknown s (List.mem_filter.1 hs).1

theorem gone_unsubscribe {r : Registry H} (hr : r.Ordered) {id : Nat}
    (h : (r.unsubscribe id).1 = true) : (r.unsubscribe id).2.Gone id where
  given := by
    obtain ⟨s, hs, hid⟩ := List.any_eq_true.1 h
    rw [← beq_iff_eq.1 hid]
    exact hr.fresh s hs
  unknown s hs := by simpa using (List.mem_filter.1 hs).2

namespace Does

variable {r r' r'' : Registry H} {deeds deeds' : List (Deed H)}

theorem append (h : Does r deeds r') (h' : Does r' deeds' r'') : Does r (deeds ++ deeds') r'' := by
  induction h with
  | nil => exact h'
  | raise e _ ih => exact .raise e (ih h')
  | subscribe events handler _ ih => exact .subscribe events handler (ih h')
  | unsubscribe id _ ih => exact .unsubscribe id (ih h')

theorem split (h : Does r (deeds ++ deeds') r') : ∃ r₁, Does r deeds r₁ ∧ Does r₁ deeds' r' := by
  induction deeds generalizing r with
  | nil => exact ⟨r, .nil, h⟩
  | cons deed deeds ih =>
    cases h with
    | raise e h =>
      obtain ⟨r₁, hd, hd'⟩ := ih h
      exact ⟨r₁, .raise e hd, hd'⟩
    | subscribe events handler h =>
      obtain ⟨r₁, hd, hd'⟩ := ih h
      exact ⟨r₁, .subscribe events handler hd, hd'⟩
    | unsubscribe id h =>
      obtain ⟨r₁, hd, hd'⟩ := ih h
      exact ⟨r₁, .unsubscribe id hd, hd'⟩

theorem pending (h : Does r deeds r') : r'.pending = r.pending ++ Deed.raised deeds := by
  induction h with
  | nil => exact (List.append_nil _).symm
  | raise e _ ih =>
    rw [ih]
    exact List.append_assoc _ _ _
  | subscribe _ _ _ ih => exact ih
  | unsubscribe _ _ ih => exact ih

theorem dispatching (h : Does r deeds r') : r'.dispatching = r.dispatching := by
  induction h with
  | nil => rfl
  | raise _ _ ih => exact ih
  | subscribe _ _ _ ih => exact ih
  | unsubscribe _ _ ih => exact ih

theorem subscriptions (h : Does r deeds r') :
    r'.subscriptions = Deed.left r.subscriptions deeds := by
  induction h with
  | nil => rfl
  | raise _ _ ih => exact ih
  | subscribe _ _ _ ih => exact ih
  | unsubscribe _ _ ih => exact ih

theorem ordered (h : Does r deeds r') (hr : r.Ordered) : r'.Ordered := by
  induction h with
  | nil => exact hr
  | raise _ _ ih => exact ih ⟨hr.increasing, hr.fresh⟩
  | subscribe events handler _ ih => exact ih (hr.subscribe events handler)
  | unsubscribe id _ ih => exact ih (hr.unsubscribe id)

theorem gone (h : Does r deeds r') {id : Nat} (hid : r.Gone id) : r'.Gone id := by
  induction h with
  | nil => exact hid
  | raise _ _ ih => exact ih ⟨hid.given, hid.unknown⟩
  | subscribe events handler _ ih => exact ih (hid.subscribe events handler)
  | unsubscribe other _ ih => exact ih (hid.unsubscribe other)

theorem nextId_le (h : Does r deeds r') : r.nextId ≤ r'.nextId := by
  induction h with
  | nil => exact Nat.le_refl _
  | raise _ _ ih => exact ih
  | subscribe _ _ _ ih => exact Nat.le_of_succ_le ih
  | unsubscribe _ _ ih => exact ih

theorem nextId_le_of_subscribe (h : Does r deeds r') {s : Subscription H}
    (hs : Deed.subscribe s ∈ deeds) : r.nextId ≤ s.id := by
  induction h with
  | nil => cases hs
  | raise _ _ ih =>
    cases hs with
    | tail _ hs => exact ih hs
  | subscribe _ _ _ ih =>
    cases hs with
    | head => exact Nat.le_refl _
    | tail _ hs => exact Nat.le_of_succ_le (ih hs)
  | unsubscribe _ _ ih =>
    cases hs with
    | tail _ hs => exact ih hs

theorem gone_of_unsubscribe (h : Does r deeds r') (hr : r.Ordered) {id : Nat}
    (hid : Deed.unsubscribe id true ∈ deeds) : r'.Gone id := by
  induction h with
  | nil => cases hid
  | raise _ _ ih =>
    cases hid with
    | tail _ hid => exact ih ⟨hr.increasing, hr.fresh⟩ hid
  | subscribe events handler _ ih =>
    cases hid with
    | tail _ hid => exact ih (hr.subscribe events handler) hid
  | unsubscribe other hrest ih =>
    generalize hfound : (Registry.unsubscribe _ other).1 = found at hid
    cases hid with
    | head => exact hrest.gone (gone_unsubscribe hr hfound)
    | tail _ hid => exact ih (hr.unsubscribe other) hid

end Does

end Registry

end Debuggee
