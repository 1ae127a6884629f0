import Debuggee.Proofs.Registers.Normal
import Debuggee.Proofs.Registers.Telling

namespace Debuggee

variable {σ ν τ α : Type}

namespace Engine

/-- Of the architecture in this state no more is said than that it is this one. -/
def Reports (E : Engine σ ν τ) (arch : Arch) (s : σ) : Prop :=
  ∀ a, (E.arch? s).1 = some a → a = arch

/-- Nothing that an observer asks the engine or tells it changes the architecture. -/
structure KeepsArch (E : Engine σ ν τ) (known : Arch) : Prop
    extends E.AllowsQuestions (Keeps (E.Reports known)) where
  memoryMap : ∀ i, Along (Keeps (E.Reports known)) (E.memoryMap i)
  monitor : Along (Keeps (E.Reports known)) (E.monitor "info registers")
  writeRegister : ∀ f name value, Along (Keeps (E.Reports known)) (E.writeRegister f name value)

namespace KeepsArch

variable {E : Engine σ ν τ} {arch : Arch} (hE : E.KeepsArch arch)

include hE

theorem allowsTelling : E.AllowsTelling (Keeps (E.Reports arch)) := { hE with }

theorem question {x : StateM σ α} (hx : E.IsQuestion x) : Along (Keeps (E.Reports arch)) x :=
  hx _ hE.toAllowsQuestions

theorem gives_arch? : Gives (E.Reports arch) (fun a? => ∀ a, a? = some a → a = arch) E.arch? :=
  fun s hs => ⟨hs, hE.question E.isQuestion_arch? s hs⟩

theorem gives_readInteger (f : Frame) (name : String) :
    Gives (E.Reports arch) (fun p? => ∀ a n, p? = some (a, n) → a = arch)
      (Registers.readInteger E f name) := by
  refine .bind (hE.question (E.isQuestion_readSpelling f _)).gives fun v? _ => ?_
  cases v? with
  | none => exact .pure nofun
  | some v =>
    refine .bind hE.gives_arch? fun a? ha => ?_
    cases a? with
    | none => exact .pure nofun
    | some a =>
      refine .bind (Q := fun _ => True) (fun s hs => ⟨trivial, hs⟩) fun s _ => ?_
      refine .bind (hE.question (.attempt (E.isQuestion_toUnsigned v _))).gives fun n? _ => ?_
      refine .pure fun b n hb => ?_
      cases n? with
      | none => cases hb
      | some n =>
        cases hb
        exact ha a rfl

end KeepsArch

end Engine

namespace Machine

theorem keepsArch (arch : Arch) : engine.KeepsArch arch where
  toAllowsQuestions := isStill.allowsQuestions (isPreorder_keeps _)
  memoryMap _ _ := id
  monitor _ := id
  writeRegister f name value m hm := by
    obtain ⟨g, -, hg⟩ := m.snd_writeRegister f name value
    have hsame : (engine.arch? (m.modifyFrame f g)).1 = (engine.arch? m).1 := arch?_congr rfl rfl
    rw [hg, Engine.Reports, hsame]
    exact hm

end Machine

namespace Arch

theorem reduce_le (arch : Arch) (n : Int) : arch.reduce n ≤ arch.mask := by
  have hmask : arch.mask.toNat < 2 ^ 64 := arch.mask.toNat_lt
  have hmod : (n % (arch.mask.toNat + 1)).toNat ≤ arch.mask.toNat := by
    have hpos : (0 : Int) < arch.mask.toNat + 1 := by omega
    have hlt := Int.emod_lt_of_pos n hpos
    omega
  rw [UInt64.le_iff_toNat_le, reduce, UInt64.toNat_ofNat_of_lt' (show _ < 2 ^ 64 by omega)]
  exact hmod

theorem readsAs_le (arch : Arch) (n : Int) (segment : Option UInt64) :
    arch.readsAs n segment ≤ arch.mask := by
  cases segment <;> exact arch.reduce_le _

end Arch

namespace Registers

def IsWithin (arch : Arch) (x? : Option UInt64) : Prop := ∀ x, x? = some x → x ≤ arch.mask

def SnapshotWithin (arch : Arch) (snapshot : Snapshot) : Prop :=
  ∀ entry ∈ snapshot, IsWithin arch entry.2

structure Within (E : Engine σ ν τ) (arch : Arch) (v : View σ) : Prop where
  reports : E.Reports arch v.engine
  values : ∀ place x?, v.observer.caches.values.get? place = some x? → IsWithin arch x?
  last : SnapshotWithin arch v.observer.last
  previous : SnapshotWithin arch v.observer.previous

variable {E : Engine σ ν τ} {arch : Arch}

theorem Within.tables {v : View σ} (hv : Within E arch v) {c : Caches}
    (hc : c.values = v.observer.caches.values ∨ c.values = .empty) {s : σ}
    (hs : E.Reports arch s) : Within E arch ⟨{ v.observer with caches := c }, s⟩ where
  reports := hs
  values := by
    rcases hc with hc | hc
    · show ∀ place x?, c.values.get? place = some x? → _
      rw [hc]
      exact hv.values
    · intro place x? hx
      have hnone : c.values.get? place = none := by
        rw [hc]
        rfl
      cases hnone.symm.trans hx
  last := hv.last
  previous := hv.previous

theorem isWithin_none : IsWithin arch none := fun _ h => nomatch h

theorem isWithin_land {x? : Option UInt64} (h : IsWithin arch x?) (mask : UInt64) :
    IsWithin arch (x?.map (· &&& mask)) := by
  intro y hy
  obtain ⟨x, hx, rfl⟩ := Option.map_eq_some_iff.1 hy
  refine UInt64.le_trans ?_ (h x hx)
  rw [UInt64.le_iff_toNat_le, UInt64.toNat_and]
  exact Nat.and_le_left

theorem gives_ask {Q : α → Prop} {x : StateM σ α} (hx : Gives (E.Reports arch) Q x) :
    Gives (Within E arch) Q (View.ask x) :=
  fun v hv => ⟨(hx v.engine hv.reports).1, hv.tables (.inl rfl) (hx v.engine hv.reports).2⟩

theorem gives_remembered {x : StateM (View σ) (Option UInt64)} (place : RegisterPlace)
    (hx : Gives (Within E arch) (IsWithin arch) x) :
    Gives (Within E arch) (IsWithin arch) (View.remembered .values place x) := by
  intro v hv
  cases h : (Table.values.get v.observer.caches).get? place with
  | some x? =>
    rw [View.remembered_of_get? h]
    exact ⟨hv.values place x? h, hv⟩
  | none =>
    rw [View.remembered_of_get?_eq_none h]
    obtain ⟨hnew, hleft⟩ := hx v hv
    refine ⟨hnew, hleft.reports, fun place' x? hx? => ?_, hleft.last, hleft.previous⟩
    change ((x v).2.observer.caches.values.insert place (x v).1).get? place' = some x? at hx?
    rw [Cache.get?_insert] at hx?
    split at hx?
    · cases hx?
      exact hnew
    · exact hleft.values place' x? hx?

section

variable (hE : E.KeepsArch arch)

include hE

theorem along_question {x : StateM σ α} (hx : E.IsQuestion x) :
    Along (Keeps (Within E arch)) (View.ask x) :=
  (gives_ask (hE.question hx).gives).along

theorem gives_readIn {segment : StateM (View σ) (Option UInt64)}
    (hs : Gives (Within E arch) (IsWithin arch) segment) (f : Frame) (name : String) :
    Gives (Within E arch) (IsWithin arch) (readIn E View.ask segment f name) := by
  refine .bind (gives_ask (hE.gives_readInteger f name)) fun p? hp => ?_
  rcases p? with _ | ⟨a, n⟩
  · exact .pure isWithin_none
  · obtain rfl : a = arch := hp a n rfl
    dsimp only
    split
    · refine .bind hs fun base? _ => .pure fun x hx => ?_
      obtain ⟨base, -, rfl⟩ := Option.map_eq_some_iff.1 hx
      exact a.readsAs_le n _
    · refine .pure fun x hx => ?_
      cases hx
      exact a.readsAs_le n _

theorem gives_getWith {segment : StateM (View σ) (Option UInt64)}
    (hs : Gives (Within E arch) (IsWithin arch) segment) (name : String) :
    Gives (Within E arch) (IsWithin arch) (getWith E segment name) := by
  refine .bind (along_question hE E.isQuestion_frame?).gives fun f? _ => ?_
  cases f? with
  | none => exact .pure isWithin_none
  | some f =>
    refine .bind (along_question hE E.isQuestion_selectedPtid?).gives fun ptid _ => ?_
    refine .bind (along_question hE (E.isQuestion_level f)).gives fun level _ => ?_
    exact gives_remembered _ (gives_readIn hE hs f _)

theorem gives_get (name : String) : Gives (Within E arch) (IsWithin arch) (get E name) :=
  gives_getWith hE (gives_getWith hE (.pure isWithin_none) "cs") name

theorem gives_lookup (name : String) : Gives (Within E arch) (IsWithin arch) (lookup E name) := by
  refine .bind (along_question hE E.isQuestion_arch?).gives fun arch? _ => ?_
  exact .bind (gives_get hE _) fun x? hx => .pure (isWithin_land hx _)

theorem gives_lookupAll (names : List String) :
    Gives (Within E arch) (SnapshotWithin arch) (lookupAll E names) := by
  induction names with
  | nil => exact .pure nofun
  | cons name names ih =>
    exact .bind (gives_lookup hE name) fun x? hx =>
      .bind ih fun rest hrest => .pure (List.forall_mem_cons.2 ⟨hx, hrest⟩)

theorem gives_group (f : RegisterSet → List α) :
    Gives (Within E arch) (fun _ => True) (group E f) :=
  .bind (Q := fun _ => True)
    (.bind (along_question hE E.isQuestion_arch?).gives fun _ _ => .pure trivial)
    fun _ _ => .pure trivial

theorem gives_items : Gives (Within E arch) (SnapshotWithin arch) (items E) :=
  .bind (gives_group hE _) fun names _ => gives_lookupAll hE names

theorem along_write (name : String) (value : UInt64) :
    Along (Keeps (Within E arch)) (write E name value) := by
  intro v hv
  have hengine := hE.allowsTelling.write name value v hv.reports
  show Within E arch ⟨(write E name value v).2.observer, (write E name value v).2.engine⟩
  rcases write_cases (E := E) name value v with ⟨-, hforgotten⟩ | ⟨-, hsame⟩
  · rw [hforgotten]
    exact hv.tables (.inr rfl) hengine
  · rw [hsame]
    exact hv.tables (.inl rfl) hengine

theorem allowsUsing_within : AllowsUsing E (Keeps (Within E arch)) where
  toIsPreorder := isPreorder_keeps _
  arch? := along_question hE E.isQuestion_arch?
  get name := (gives_get hE name).along
  ask := along_question hE
  probe a := (gives_ask (hE.allowsTelling.probe a).gives).along
  interruptTable := (gives_ask hE.allowsTelling.readInterruptTable.gives).along
  write := along_write hE
  tables _ _ hc hv := hv.tables hc hv.reports

theorem within_snapshotCommon {v : View σ} (hv : Within E arch v) :
    Within E arch (snapshotCommon E v).2 := by
  have hnames := (gives_group hE RegisterSet.common v hv).2
  obtain ⟨hsnapshot, hleft⟩ := gives_lookupAll hE (group E RegisterSet.common v).1 _ hnames
  exact ⟨hleft.reports, hleft.values, hsnapshot, hleft.last⟩

omit hE in
theorem within_attached (config : Config) {s : σ} (hs : E.Reports arch s) :
    Within E arch (attached config s) where
  reports := hs
  values _ _ h := nomatch h
  last _ h := nomatch h
  previous _ h := nomatch h

theorem within_lived {v : View σ} (hv : Within E arch v) {life : List (Incident σ)}
    (hlife : ∀ f, .change f ∈ life → ∀ s, E.Reports arch s → E.Reports arch (f s)) :
    Within E arch (lived E v life) := by
  induction life with
  | nil => exact hv
  | cons i past ih =>
    have hpast := ih fun f hf => hlife f (.tail i hf)
    cases i with
    | forget e =>
      refine hpast.tables ?_ hpast.reports
      rcases values_onEvent (lived E v past).observer.caches e with ⟨hempty, -⟩ | ⟨hsame, -⟩
      · exact .inr hempty
      · exact .inl hsame
    | snapshot => exact within_snapshotCommon hE hpast
    | reset => exact ⟨hpast.reports, hpast.values, nofun, nofun⟩
    | use u => exact (allowsUsing_within hE).use u _ hpast
    | change f =>
      exact ⟨hlife f (.head past) _ hpast.reports, hpast.values, hpast.last, hpast.previous⟩

end

end Registers

end Debuggee
