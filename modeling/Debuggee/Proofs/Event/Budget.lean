import Debuggee.Event.Counted
import Debuggee.Proofs.Event.Delivery
import Mathlib.Algebra.Ring.Nat

/-!
Why deliveries end. A handler pays for every event it raises out of the uses that its actions have
left, and whoever it subscribes is paid for in advance.
-/

namespace Debuggee

namespace Registry

variable {H W : Type}

def ahead (budget : W → Nat) (s : Registry H × W) : Nat := s.1.pending.length + budget s.2

/-- No handler raises an event that it does not pay for. -/
def Pays (budget : W → Nat) (react : H → Event → Program H W) : Prop :=
  ∀ h e r w, ahead budget (perform (react h e) r w) ≤ ahead budget (r, w)

variable {budget : W → Nat} {react : H → Event → Program H W}

theorem Pays.call (h : Pays budget react) (e : Event) (hs : List H) (r : Registry H) (w : W) :
    ahead budget (call react e hs r w) ≤ ahead budget (r, w) := by
  induction hs generalizing r w with
  | nil => exact Nat.le_refl _
  | cons handler hs ih => exact Nat.le_trans (ih _ _) (h handler e r w)

theorem Pays.deliver (h : Pays budget react) (e : Event) (r : Registry H) (w : W) :
    ahead budget (deliver react e r w) ≤ ahead budget (r, w) :=
  h.call e _ r w

theorem Pays.exists_drain (h : Pays budget react) {limit : Nat} {r : Registry H} {w : W}
    (hle : ahead budget (r, w) ≤ limit) : ∃ s, drain react limit r w = some s := by
  induction limit generalizing r w with
  | zero =>
    have hp : r.pending = [] :=
      List.length_eq_zero_iff.1 (Nat.le_zero.1 (Nat.le_of_add_right_le hle))
    exact ⟨_, drain_of_nil 0 hp w⟩
  | succ limit ih =>
    cases hp : r.pending with
    | nil => exact ⟨_, drain_of_nil (limit + 1) hp w⟩
    | cons e rest =>
      rw [drain_of_cons limit hp w]
      refine ih (Nat.le_trans (h.deliver e _ w) ?_)
      rw [ahead, hp, List.length_cons, Nat.succ_add] at hle
      exact Nat.le_of_succ_le_succ hle

theorem drain_mono {limit limit' : Nat} (hle : limit ≤ limit') {r : Registry H} {w : W}
    {s : Registry H × W} (h : drain react limit r w = some s) :
    drain react limit' r w = some s := by
  fun_induction drain react limit r w generalizing limit' with
  | case1 limit r w hp =>
    cases h
    exact drain_of_nil limit' hp w
  | case2 => cases h
  | case3 r w e rest limit hp r₁ w₁ hd ih =>
    obtain ⟨limit', rfl⟩ : ∃ n, limit' = n + 1 := Nat.exists_eq_add_one.2 (by omega)
    rw [drain_of_cons limit' hp, hd]
    exact ih (Nat.le_of_succ_le_succ hle) h

theorem Pays.dispatch (h : Pays budget react) {r : Registry H} (hr : r.Idle) (e : Event) (w : W) :
    ∃ r' w', (∀ limit, budget w < limit → r.dispatch react limit e w = some (r', w')) ∧
      r'.Idle := by
  have hle : ahead budget ({ r.raise e with dispatching := true }, w) ≤ budget w + 1 := by
    simp [ahead, raise, hr.pending, Nat.add_comm]
  obtain ⟨⟨r', w'⟩, hd⟩ := h.exists_drain hle
  obtain ⟨hpending, hdispatching⟩ := idle_of_drain hd
  refine ⟨r', w', fun limit hlimit => ?_, hpending, hdispatching⟩
  rw [hr.dispatch]
  exact drain_mono hlimit hd

end Registry

theorem sum_map_modify {α : Type} (weight : α → Nat) {g : α → α} {l : List α} {i paid : Nat} {a : α}
    (ha : l[i]? = some a) (hg : weight (g a) + paid = weight a) :
    ((l.modify i g).map weight).sum + paid = (l.map weight).sum := by
  induction l generalizing i with
  | nil => cases ha
  | cons b l ih =>
    cases i with
    | zero =>
      obtain rfl : b = a := by simpa using ha
      simp only [List.modify_zero_cons, List.map_cons, List.sum_cons]
      omega
    | succ i =>
      have hrest := ih (i := i) (by simpa using ha)
      simp only [List.modify_succ_cons, List.map_cons, List.sum_cons]
      omega

namespace Counted

theorem weightAll_eq_sum (rules : List Rule) : weightAll rules = (rules.map weightOne).sum := by
  induction rules with
  | nil => rfl
  | cons rule rules ih => rw [weightAll, ih, List.map_cons, List.sum_cons]

namespace World

theorem budget_eq_sum (w : World) : w.budget = (w.handlers.map (weightAll ·.rules)).sum := by
  rw [budget]
  induction w.handlers with
  | nil => rfl
  | cons h hs ih => rw [List.foldr_cons, ih, List.map_cons, List.sum_cons]

@[simp] theorem budget_write (w : World) (line : String) : (w.write line).budget = w.budget := rfl

@[simp] theorem budget_bind (w : World) (tag : String) (id : Nat) :
    (w.bind tag id).budget = w.budget := rfl

@[simp] theorem budget_add (w : World) (tag : String) (rules : List Rule) :
    (w.add tag rules).budget = w.budget + weightAll rules := by
  simp [budget_eq_sum, add]

theorem budget_spend {w : World} {handler rule uses : Nat} {on : Event} {act : Act}
    (h : (w.rules handler)[rule]? = some (on, uses + 1, act)) :
    (w.spend handler rule).budget + act.weight = w.budget := by
  cases hh : w.handlers[handler]? with
  | none => simp [World.rules, hh] at h
  | some owner =>
    have hrule : owner.rules[rule]? = some (on, uses + 1, act) := by
      simpa [World.rules, hh] using h
    have huse : weightOne (on, uses, act) + act.weight = weightOne (on, uses + 1, act) := by
      rw [weightOne, weightOne, Nat.succ_mul]
    rw [budget_eq_sum, budget_eq_sum, spend]
    refine sum_map_modify _ hh ?_
    rw [weightAll_eq_sum, weightAll_eq_sum]
    exact sum_map_modify _ hrule huse

end World

/--
What a handler chooses to do when it is called. It uses its actions in what order it likes, those
that have uses left, and can look at the world after each of them.
-/
inductive Plan : Type
  | rest : Plan
  | write : String → (World → Plan) → Plan
  | use : Nat → (World → Plan) → Plan
  | unsubscribe : Nat → (Bool → Plan) → Plan

abbrev Policy := Nat → Event → World → Plan

def Plan.program (handler : Nat) : Plan → Program Nat World
  | .rest => .done
  | .write line next => .effect (·.write line) fun w => (next w).program handler
  | .use rule next => .effect id fun w =>
    match (w.rules handler)[rule]? with
    | some (_, _ + 1, act) => .effect (·.spend handler rule) fun w =>
        (performAct act w).andThen (.effect id fun w => (next w).program handler)
    | _ => (next w).program handler
  | .unsubscribe id next => .unsubscribe id fun found => (next found).program handler

def reactBy (policy : Policy) (handler : Nat) (e : Event) : Program Nat World :=
  .effect id fun w => (policy handler e w).program handler

open Debuggee.Registry

theorem ahead_performAct (act : Act) (w : World) (r : Debuggee.Registry Nat) (w' : World) :
    ahead World.budget (perform (performAct act w) r w') ≤
      ahead World.budget (r, w') + act.weight := by
  cases act with
  | dispatch e => simp [performAct, perform, ahead, raise, Act.weight, Nat.add_right_comm]
  | unsubscribe tag =>
    simp only [performAct]
    cases w.ids.lookup tag with
    | none => simp [Program.change, perform, ahead]
    | some id => simp [Program.change, perform, ahead, Debuggee.Registry.unsubscribe]
  | subscribe tag events rules =>
    simp [performAct, Program.change, perform, ahead, Debuggee.Registry.subscribe, Act.weight,
      Nat.add_assoc]

theorem ahead_program (handler : Nat) (plan : Plan) (r : Debuggee.Registry Nat) (w : World) :
    ahead World.budget (perform (plan.program handler) r w) ≤ ahead World.budget (r, w) := by
  induction plan generalizing r w with
  | rest => exact Nat.le_refl _
  | write line next ih => exact ih _ r (w.write line)
  | use rule next ih =>
    simp only [Plan.program, perform, id]
    split
    · next on uses act hrule =>
      simp only [perform, perform_andThen]
      refine Nat.le_trans (ih _ _ _) ?_
      refine Nat.le_trans (ahead_performAct act _ r _) ?_
      exact Nat.le_of_eq (by rw [ahead, ahead, Nat.add_assoc, World.budget_spend hrule])
    · exact ih w r w
  | unsubscribe id next ih => exact ih _ (r.unsubscribe id).2 w

theorem pays_reactBy (policy : Policy) : Pays World.budget (reactBy policy) :=
  fun handler e r w => ahead_program handler (policy handler e w) r w

def inTurn (handler : Nat) (e : Event) : List Nat → World → Plan
  | [], _ => .rest
  | rule :: rules, w =>
    if (w.rules handler)[rule]?.any (·.1 = e) then .use rule (inTurn handler e rules)
    else inTurn handler e rules w

def dutiful : Policy := fun handler e w =>
  .write (w.tag handler ++ ":" ++ e.text)
    (inTurn handler e (List.range (w.rules handler).length))

theorem perform_inTurn (handler : Nat) (e : Event) (rules : List Nat)
    (r : Debuggee.Registry Nat) (w : World) :
    perform ((inTurn handler e rules w).program handler) r w =
      perform ((rules.map (performRule handler e)).foldr .andThen .done) r w := by
  induction rules generalizing r w with
  | nil => rfl
  | cons rule rules ih =>
    rw [List.map_cons, List.foldr_cons, perform_andThen, ← ih, inTurn, performRule]
    simp only [perform, id]
    cases hrule : (w.rules handler)[rule]? with
    | none => simp [perform]
    | some found =>
      obtain ⟨on, uses, act⟩ := found
      by_cases hon : on = e <;> cases uses <;>
        simp [hon, hrule, Plan.program, perform, perform_andThen]

theorem perform_react (handler : Nat) (e : Event) (r : Debuggee.Registry Nat) (w : World) :
    perform (react handler e) r w = perform (reactBy dutiful handler e) r w :=
  (perform_inTurn handler e _ r _).symm

theorem pays_react : Pays World.budget react := fun handler e r w => by
  rw [perform_react]
  exact pays_reactBy dutiful handler e r w

/-- The limit of a dispatch is never what ends it. -/
theorem Registry.exists_dispatch {r : Registry} (hr : r.registry.Idle) (e : Event) :
    ∃ registry world,
      r.registry.dispatch react (r.world.budget + 1) e r.world = some (registry, world) ∧
        r.dispatch e = ⟨registry, world⟩ ∧ registry.Idle := by
  obtain ⟨registry, world, hdispatch, hidle⟩ := pays_react.dispatch hr e r.world
  have hrun := hdispatch _ (Nat.lt_succ_self _)
  exact ⟨registry, world, hrun, by rw [dispatch, hrun], hidle⟩

/--
Handlers whose actions run out, in a registry that calls of any kind have led to: whatever each of
them chooses to do whenever it is called, a dispatch from outside ends.
-/
theorem dispatch_reactBy (policy : Policy) {r : Debuggee.Registry Nat}
    (hr : Reachable (reactBy policy) r) (e : Event) (w : World) :
    ∃ r' w', (∀ limit, w.budget < limit → r.dispatch (reactBy policy) limit e w = some (r', w')) ∧
      r'.pending = [] ∧ r'.dispatching = false := by
  obtain ⟨r', w', hdispatch, hpending, hdispatching⟩ :=
    (pays_reactBy policy).dispatch hr.idle_ordered.1 e w
  exact ⟨r', w', hdispatch, hpending, hdispatching⟩

def nested : World :=
  ({} : World).add "outer" [
    (.stop, 2, .subscribe "inner" [.prompt] [(.prompt, 1, .dispatch .stop)]),
    (.stop, 1, .dispatch .prompt)]

theorem dispatch_reactBy_nested :
    nested.budget = 3 ∧ ∃ r' w',
      (∀ limit, 3 < limit →
        (Debuggee.Registry.empty.subscribe [.stop] 0).2.dispatch (reactBy dutiful) limit .stop
          nested = some (r', w')) ∧
      r'.pending = [] ∧ r'.dispatching = false := by
  have hbudget : nested.budget = 3 := by decide
  exact ⟨hbudget, hbudget ▸ dispatch_reactBy dutiful (.subscribe [.stop] 0 .empty) .stop nested⟩

end Counted

end Debuggee
