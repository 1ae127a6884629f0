import Debuggee.Proofs.Registers.Run

namespace Debuggee

variable {σ ν τ α κ : Type}

namespace View

theorem remembered_again [DecidableEq κ] {t : Table κ α}
    (ht : ∀ c table, t.get (t.put table c) = table) (k : κ) (compute : StateM (View σ) α)
    (v : View σ) :
    (t.get (remembered t k compute v).2.observer.caches).get? k =
      some (remembered t k compute v).1 := by
  cases h : (t.get v.observer.caches).get? k with
  | some a => rw [remembered_of_get? h, h]
  | none =>
    rw [remembered_of_get?_eq_none h]
    show (t.get (t.put _ _)).get? k = _
    rw [ht, Cache.get?_insert, if_pos rfl]

end View

namespace Registers

variable {E : Engine σ ν τ} {v : View σ}

theorem getWith_of_frame? (hE : E.IsQuiet) (segment : StateM (View σ) (Option UInt64))
    (name : String) {f : Frame} (hf : (E.frame? v.engine).1 = some f) :
    getWith E segment name v =
      View.remembered .values (placeOf E v.engine f (RegisterName.bare name))
        (readIn E View.ask segment f (RegisterName.bare name)) v := by
  simp only [getWith, View.bind_apply, View.ask_apply (hE.snd_frame? _), hf,
    View.ask_apply (hE.snd_selectedPtid? _), View.ask_apply (hE.snd_level f _)]
  rfl

theorem getWith_of_frame?_eq_none (hE : E.IsQuiet) (segment : StateM (View σ) (Option UInt64))
    (name : String) (hf : (E.frame? v.engine).1 = none) :
    getWith E segment name v = (none, v) := by
  simp only [getWith, View.bind_apply, View.ask_apply (hE.snd_frame? _), hf]
  rfl

theorem get?_get (hE : E.IsQuiet) (name : String) {f : Frame}
    (hf : (E.frame? v.engine).1 = some f) :
    (get E name v).2.observer.caches.values.get? (placeOf E v.engine f (RegisterName.bare name)) =
      some (get E name v).1 := by
  rw [get, getWith_of_frame? hE _ name hf]
  exact View.remembered_again (t := .values) (fun _ _ => rfl) _ _ v

theorem get_of_get? (hE : E.IsQuiet) (name : String) {f : Frame} {x : Option UInt64}
    (hf : (E.frame? v.engine).1 = some f)
    (hx : v.observer.caches.values.get? (placeOf E v.engine f (RegisterName.bare name)) = some x) :
    get E name v = (x, v) := by
  rw [get, getWith_of_frame? hE _ name hf]
  exact View.remembered_of_get? (t := .values) hx

theorem get_again (hE : E.IsQuiet) (name : String) (v : View σ) :
    get E name (get E name v).2 = get E name v := by
  cases hf : (E.frame? v.engine).1 with
  | none =>
    have hnone : get E name v = (none, v) := getWith_of_frame?_eq_none hE _ name hf
    rw [hnone, hnone]
  | some f =>
    have hengine : (get E name v).2.engine = v.engine := looks_get hE name v
    have hx := get?_get hE name hf
    rw [← hengine] at hf hx
    exact get_of_get? hE name hf hx

theorem exact_of_frame? {s : σ} {f : Frame} (hf : (E.frame? s).1 = some f)
    {R : RegisterPlace → Option UInt64 → Prop}
    (hR : ∀ name x, R (placeOf E s f name) x ↔ x = readAt E f name s) : Exact E s R := by
  intro f' hf'
  cases Option.some.inj (hf.symm.trans hf')
  exact hR

theorem get_of_values_eq_empty (hE : E.IsQuiet) (hv : v.observer.caches.values = .empty) {f : Frame}
    (hf : (E.frame? v.engine).1 = some f) (name : String) :
    ∃ c, Recalls (fun place x => (place.ptid, place.level) = spot E f v.engine ∧
        x = readAt E f place.name v.engine) c ∧
      get E name v = (readAt E f (RegisterName.bare name) v.engine,
        ⟨{ v.observer with caches := c }, v.engine⟩) := by
  have hR : Exact E v.engine fun place x =>
      (place.ptid, place.level) = spot E f v.engine ∧ x = readAt E f place.name v.engine :=
    exact_of_frame? hf fun _ _ => and_iff_right rfl
  obtain ⟨c, hc, h⟩ := get_yields hE hR name v.observer (recalls_of_values_eq_empty hv)
  simp only [live_apply hE, hf, Option.bind_some] at h
  exact ⟨c, hc, h⟩

end Registers

end Debuggee
