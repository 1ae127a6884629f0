import Debuggee.Proofs.Occurrences
import Debuggee.Proofs.Registers.Uses

namespace Debuggee.Registers

variable {σ ν τ : Type}

def commonNow (E : Engine σ ν τ) (v : View σ) : Snapshot :=
  let (names, v) := group E RegisterSet.common v
  (lookupAll E names v).1

/-- The moments of the snapshots since the latest reset, each named by the incidents before it. -/
def moments : List (Incident σ) → List (List (Incident σ))
  | [] => []
  | .snapshot :: past => past :: moments past
  | .reset :: _ => []
  | _ :: past => moments past

def taken (E : Engine σ ν τ) (v : View σ) (life : List (Incident σ)) : List Snapshot :=
  (moments life).map fun past => commonNow E (lived E v past)

def Incident.isSnapshot : Incident σ → Bool
  | .snapshot => true
  | _ => false

def Incident.isReset : Incident σ → Bool
  | .reset => true
  | _ => false

def KeepsHistory (v v' : View σ) : Prop :=
  v'.observer.last = v.observer.last ∧ v'.observer.previous = v.observer.previous

variable {E : Engine σ ν τ} {v : View σ}

theorem allowsRemembering_keepsHistory : AllowsRemembering (KeepsHistory (σ := σ)) where
  refl _ := ⟨rfl, rfl⟩
  trans h h' := ⟨h'.1.trans h.1, h'.2.trans h.2⟩
  left _ _ _ := ⟨rfl, rfl⟩

theorem allowsRemembering_config :
    AllowsRemembering fun v v' : View σ => v'.observer.config = v.observer.config where
  refl _ := rfl
  trans h h' := h'.trans h
  left _ _ _ := rfl

theorem history_snapshotCommon (v : View σ) :
    (snapshotCommon E v).2.observer.last = commonNow E v ∧
      (snapshotCommon E v).2.observer.previous = v.observer.last := by
  refine ⟨rfl, ?_⟩
  show (lookupAll E (group E RegisterSet.common v).1
    (group E RegisterSet.common v).2).2.observer.last = _
  rw [(along_lookupAll allowsRemembering_keepsHistory.allowsGetting _ _).1]
  exact (along_group allowsRemembering_keepsHistory.allowsGetting _ _).1

theorem map_fst_lookupAll (names : List String) (v : View σ) :
    (lookupAll E names v).1.map (·.1) = names := by
  induction names generalizing v with
  | nil => rfl
  | cons name names ih => exact congrArg (name :: ·) (ih _)

theorem map_fst_commonNow (v : View σ) :
    (commonNow E v).map (·.1) = groupAt E RegisterSet.common v.engine :=
  map_fst_lookupAll _ _

theorem nodup_groupAt_common (s : σ) : (groupAt E RegisterSet.common s).Nodup := by
  unfold groupAt
  cases (E.arch? s).1 with
  | none => exact .nil
  | some arch => exact nodup_eraseDups _

theorem suffix_of_mem_moments {life past : List (Incident σ)} (h : past ∈ moments life) :
    .snapshot :: past <:+ life := by
  induction life with
  | nil => cases h
  | cons i before ih =>
    have hrest (h : past ∈ moments before) : .snapshot :: past <:+ i :: before :=
      (ih h).trans (List.suffix_cons i before)
    cases i with
    | snapshot =>
      cases h with
      | head => exact List.suffix_refl _
      | tail _ h => exact hrest h
    | reset => cases h
    | forget e => exact hrest h
    | use u => exact hrest h
    | change f => exact hrest h

theorem length_moments (life : List (Incident σ)) :
    (moments life).length = (life.takeWhile (!·.isReset)).countP (·.isSnapshot) := by
  induction life with
  | nil => rfl
  | cons i before ih => cases i <;> simp [moments, Incident.isReset, Incident.isSnapshot, ih]

theorem history_lived (hlast : v.observer.last = []) (hprevious : v.observer.previous = [])
    (life : List (Incident σ)) :
    (lived E v life).observer.last = (taken E v life)[0]?.getD [] ∧
      (lived E v life).observer.previous = (taken E v life)[1]?.getD [] := by
  induction life with
  | nil => exact ⟨hlast, hprevious⟩
  | cons i past ih =>
    cases i with
    | snapshot =>
      obtain ⟨hnew, hold⟩ := history_snapshotCommon (E := E) (lived E v past)
      exact ⟨hnew, hold.trans ih.1⟩
    | reset => exact ⟨rfl, rfl⟩
    | forget e => exact ih
    | use u =>
      obtain ⟨hl, hp⟩ := allowsRemembering_keepsHistory.use (E := E) u (lived E v past)
      exact ⟨hl.trans ih.1, hp.trans ih.2⟩
    | change f => exact ih

end Debuggee.Registers
