import Debuggee.Proofs.Engine.Machine
import Debuggee.Proofs.Registers.Uses

/-!
Lives of an observer in which registers are read and written, threads and frames are selected,
events arrive, and other things happen to the engine of which the observer learns from events only.
-/

namespace Debuggee.Registers

variable {σ ν τ α : Type}

section

variable (E : Engine σ ν τ)

def Reading.live (v : View σ) : Reading → Answer
  | .get name => .value (Registers.live E name v.engine).1
  | .lookup name => .value (liveLookup E name v.engine).1
  | .items => .snapshot (liveAll E (groupAt E RegisterSet.all v.engine) v.engine)
  | .pc => .value (Registers.live E "pc" v.engine).1
  | .sp => .value (Registers.live E "sp" v.engine).1
  | .changed => .names <|
    (v.observer.previous.filter fun (name, x) => (liveLookup E name v.engine).1 ≠ x).map (·.1)

def Incident.IsRead : Incident σ → Prop
  | .use (.read _) => True
  | _ => False

def Incident.Announces : Incident σ → Prop
  | .forget e => e ∈ [Event.stop, .prompt, .registerChanged]
  | .use .invalidate => True
  | _ => False

def Incident.Writes (v : View σ) : Incident σ → Prop
  | .use (.write name value) => (Registers.write E name value v).1 = .ok ()
  | _ => False

/--
The incident changes what registers read as, and not by writing them through the observer. To look
for the auxiliary vector is to read registers between questions about memory. It counts as such a
change as well, unless no such question changes anything.
-/
def Incident.Disturbs (v : View σ) (i : Incident σ) : Prop :=
  i = .use .auxv ∧ ¬ E.IsStill ∨
    ¬ E.SameRegisters v.engine (i.perform E v).engine ∧ ¬ i.Writes E v

/-- Every disturbance has been announced since. -/
def Settled (v : View σ) : List (Incident σ) → Prop
  | [] => True
  | i :: past => i.Announces ∨ Settled v past ∧ ¬ i.Disturbs E (lived E v past)

def Announced (v : View σ) (kind : Incident σ → Prop) : List (Incident σ) → Prop
  | [] => True
  | i :: past => (kind i → Settled E v past) ∧ Announced v kind past

def spot (f : Frame) (s : σ) : Option Ptid × Option Nat :=
  ((E.selectedPtid? s).1, ((E.level f).attempt s).1)

/-- Since the latest disturbance the frame has been selected, and was then at the spot. -/
def Met (v : View σ) (f : Frame) (p : Option Ptid × Option Nat) : List (Incident σ) → Prop
  | [] => (E.frame? v.engine).1 = some f ∧ spot E f v.engine = p
  | i :: past =>
    let s := (lived E v (i :: past)).engine
    ((E.frame? s).1 = some f ∧ spot E f s = p) ∨
      ¬ i.Disturbs E (lived E v past) ∧ Met v f p past

/-- No two frames are selected at one spot, unless there is a disturbance in between. -/
def Apart (v : View σ) (life : List (Incident σ)) : Prop :=
  ∀ past, past <:+ life → ∀ p f g, Met E v f p past → Met E v g p past → f = g

def Known (v : View σ) (life : List (Incident σ)) (place : RegisterPlace) (x : Option UInt64) :
    Prop :=
  ∃ f, Met E v f (place.ptid, place.level) life ∧
    x = readAt E f place.name (lived E v life).engine

end

variable {E : Engine σ ν τ} {v : View σ}

theorem reading_apply (hE : E.IsQuiet) {R : RegisterPlace → Option UInt64 → Prop}
    (hR : Exact E v.engine R) (hv : Recalls R v.observer.caches) (r : Reading) :
    ∃ c, Recalls R c ∧
      r.perform E v = (r.live E v, ⟨{ v.observer with caches := c }, v.engine⟩) := by
  cases r with
  | get name => exact (get_yields hE hR name).map Answer.value v.observer hv
  | lookup name => exact (lookup_yields hE hR name).map Answer.value v.observer hv
  | items => exact (items_yields hE hR).map Answer.snapshot v.observer hv
  | pc => exact (get_yields hE hR "pc").map Answer.value v.observer hv
  | sp => exact (get_yields hE hR "sp").map Answer.value v.observer hv
  | changed =>
    exact (changedAmong_yields hE hR v.observer.previous).map Answer.names v.observer hv

theorem recalls_onEvent {R : RegisterPlace → Option UInt64 → Prop} {c : Caches} {e : Event}
    (h : e ∉ [Event.stop, .prompt, .registerChanged] → Recalls R c) : Recalls R (c.onEvent e) := by
  rcases values_onEvent c e with ⟨hempty, -⟩ | ⟨hrest, hne⟩
  · exact recalls_of_values_eq_empty hempty
  · intro place x hx
    exact h hne place x (hrest ▸ hx)

def Remembers (s : σ) (I : Caches → Prop) (v : View σ) : Prop :=
  v.engine = s ∧ I v.observer.caches

theorem YieldsUnder.along {s : σ} {I : Caches → Prop} {x : StateM (View σ) α} {a : α}
    (hx : YieldsUnder s I x a) : Along (Keeps (Remembers s I)) x := by
  rintro ⟨o, _⟩ ⟨rfl, ho⟩
  obtain ⟨c, hc, hxo⟩ := hx o ho
  rw [hxo]
  exact ⟨rfl, hc⟩

theorem Determines.allowsGetting (hE : E.IsQuiet) {s : σ} {I : Caches → Prop}
    {a : Frame → String → Option UInt64} (ha : Determines E s I a) :
    AllowsGetting E (Keeps (Remembers s I)) where
  toIsPreorder := isPreorder_keeps _
  arch? := (YieldsUnder.ask (hE.asks_arch?.quiet s)).along
  get name := (get_yieldsUnder hE ha name).along

structure AboutRegisters (E : Engine σ ν τ) (s : σ) (I : Caches → Prop) : Prop where
  same : ∀ {c c'}, c'.values = c.values → c'.bases = c.bases → I c → I c'
  forgotten : ∀ {c}, c.values = .empty → c.bases = .empty → I c
  base : ∀ segment, Along (Keeps (Remembers s I)) (segmentBase E segment)

theorem AboutRegisters.use (hE : E.IsQuiet) {s : σ} {I : Caches → Prop} (hI : AboutRegisters E s I)
    {a : Frame → String → Option UInt64} (ha : Determines E s I a) (hv : Remembers s I v) {u : Use}
    (hu : u = .auxv → E.IsStill) : I (u.perform E v).observer.caches := by
  have hR : AllowsGetting E (Keeps (Remembers s I)) := ha.allowsGetting hE
  have hminor (hu : u.IsMinor) : I (u.perform E v).observer.caches :=
    have hsame := hu.sameTables (E := E) v
    hI.same hsame.values hsame.bases hv.2
  cases u with
  | read r => exact (along_reading hR r v hv).2
  | write name value =>
    show I (Registers.write E name value v).2.observer.caches
    rcases write_cases (E := E) name value v with ⟨-, hforgotten⟩ | ⟨-, hsame⟩
    · rw [hforgotten]
      exact hI.forgotten rfl rfl
    · rw [hsame]
      exact hv.2
  | base segment => exact (hI.base segment v hv).2
  | instructionSet => exact (along_instructionSet hR v hv).2
  | upper a max? =>
    obtain ⟨hvalues, hbases⟩ := upper_tables (E := E) a max? v
    exact hI.same hvalues hbases hv.2
  | auxv =>
    have hsearching : AllowsSearching E (Keeps (Remembers s I)) :=
      { hR with
        ask := fun hx v hv => by
          rw [View.ask_apply (hx.unchanged (hu rfl) v.engine)]
          exact hv
        tables := fun _ _ hvalues hbases _ hv => ⟨hv.1, hI.same hvalues hbases hv.2⟩ }
    exact (hsearching.auxv v hv).2
  | invalidate => exact hI.forgotten rfl rfl
  | _ => exact hminor trivial

theorem aboutRegisters_recalls (hE : E.IsQuiet) {s : σ} {R : RegisterPlace → Option UInt64 → Prop}
    (hR : Exact E s R) : AboutRegisters E s (Recalls R) where
  same hvalues _ hc place x hx := hc place x (hvalues ▸ hx)
  forgotten hvalues _ := recalls_of_values_eq_empty hvalues
  base := along_segmentBase (hR.determines.allowsGetting hE)
    (YieldsUnder.ask (hE.snd_selectedPtid? s)).along fun _ _ h => h

theorem recalls_perform (hE : E.IsQuiet) {R R' : RegisterPlace → Option UInt64 → Prop}
    {i : Incident σ} (hR : Exact E v.engine R) (hi : i = .use .auxv → E.IsStill)
    (hv : ¬ i.Announces → Recalls R v.observer.caches)
    (hmono : ¬ i.Announces → ¬ i.Writes E v → ∀ place x, R place x → R' place x) :
    Recalls R' (i.perform E v).observer.caches := by
  cases i with
  | forget e => exact recalls_onEvent fun hne => (hv hne).mono (hmono hne id)
  | snapshot =>
    have hsnapshot := along_snapshotCommon (hR.determines.allowsGetting hE) fun _ _ _ h => h
    exact (hsnapshot v ⟨rfl, hv id⟩).2.mono (hmono id id)
  | reset => exact (hv id).mono (hmono id id)
  | change f => exact (hv id).mono (hmono id id)
  | use u =>
    have huse (hv : Recalls R v.observer.caches) : Recalls R (u.perform E v).observer.caches :=
      (aboutRegisters_recalls hE hR).use hE hR.determines ⟨rfl, hv⟩ fun hu => hi (congrArg _ hu)
    cases u with
    | invalidate => exact recalls_of_values_eq_empty rfl
    | write name value =>
      rcases write_cases (E := E) name value v with ⟨-, hforgotten⟩ | ⟨⟨e, he⟩, -⟩
      · show Recalls R' (Registers.write E name value v).2.observer.caches
        rw [hforgotten]
        exact recalls_of_values_eq_empty rfl
      · refine (huse (hv id)).mono (hmono id fun hw => ?_)
        cases he.symm.trans hw
    | _ => exact (huse (hv id)).mono (hmono id id)

theorem met_of_selected {life : List (Incident σ)} {f : Frame}
    (hf : (E.frame? (lived E v life).engine).1 = some f) :
    Met E v f (spot E f (lived E v life).engine) life := by
  cases life with
  | nil => exact ⟨hf, rfl⟩
  | cons i past => exact .inl ⟨hf, rfl⟩

theorem Apart.suffix {life past : List (Incident σ)} (hd : Apart E v life) (h : past <:+ life) :
    Apart E v past :=
  fun p hp => hd p (hp.trans h)

theorem Settled.isStill {i : Incident σ} {past : List (Incident σ)} (h : Settled E v (i :: past))
    (hi : i = .use .auxv) : E.IsStill := by
  subst hi
  exact Classical.byContradiction fun hE => (h.resolve_left id).2 (.inl ⟨rfl, hE⟩)

theorem exact_known {life : List (Incident σ)} (hd : Apart E v life) :
    Exact E (lived E v life).engine (Known E v life) := by
  intro f hf name x
  have hmet := met_of_selected hf
  constructor
  · rintro ⟨g, hg, hx⟩
    rw [hd life List.suffix_rfl _ f g hmet hg]
    exact hx
  · intro hx
    exact ⟨f, hmet, hx⟩

theorem sameRegisters_of_not_disturbs {i : Incident σ} {w : View σ} (hd : ¬ i.Disturbs E w)
    (hw : ¬ i.Writes E w) : E.SameRegisters w.engine (i.perform E w).engine :=
  Classical.byContradiction fun h => hd (.inr ⟨h, hw⟩)

theorem Known.cons (hE : E.IsQuiet) {i : Incident σ} {past : List (Incident σ)}
    {place : RegisterPlace} {x : Option UInt64} (h : Known E v past place x)
    (hd : ¬ i.Disturbs E (lived E v past)) (hw : ¬ i.Writes E (lived E v past)) :
    Known E v (i :: past) place x := by
  obtain ⟨f, hf, hx⟩ := h
  refine ⟨f, .inr ⟨hd, hf⟩, ?_⟩
  rw [hx]
  exact (readAt_congr hE (sameRegisters_of_not_disturbs hd hw) f place.name).symm

theorem engine_lived_read (hE : E.IsQuiet) (r : Reading) (past : List (Incident σ)) :
    (lived E v (.use (.read r) :: past)).engine = (lived E v past).engine :=
  looks_reading hE r _

theorem engine_lived_snapshot (hE : E.IsQuiet) (past : List (Incident σ)) :
    (lived E v (.snapshot :: past)).engine = (lived E v past).engine :=
  along_snapshotCommon (allowsAsking_engine hE).allowsGetting (fun _ _ _ => rfl) _

theorem engine_lived_nil : (lived E v []).engine = v.engine := rfl

theorem engine_lived_forget (e : Event) (past : List (Incident σ)) :
    (lived E v (.forget e :: past)).engine = (lived E v past).engine := rfl

theorem engine_lived_selectFrame (f : Frame) (past : List (Incident σ)) :
    (lived E v (.selectFrame E f :: past)).engine =
      (E.selectFrame f (lived E v past).engine).2 := rfl

theorem engine_lived_change (f : σ → σ) (past : List (Incident σ)) :
    (lived E v (.change f :: past)).engine = f (lived E v past).engine := rfl

theorem not_disturbs {i : Incident σ} {w : View σ} (hi : i ≠ .use .auxv)
    (h : E.SameRegisters w.engine (i.perform E w).engine) : ¬ i.Disturbs E w :=
  fun hd => hd.elim (fun hd => hi hd.1) fun hd => hd.1 h

theorem not_disturbs_read (hE : E.IsQuiet) (r : Reading) (w : View σ) :
    ¬ (Incident.use (.read r)).Disturbs E w :=
  not_disturbs nofun ((looks_reading hE r w : _ = w.engine) ▸ .refl E w.engine)

theorem not_disturbs_snapshot (hE : E.IsQuiet) (w : View σ) :
    ¬ Incident.snapshot.Disturbs E w :=
  not_disturbs nofun (engine_lived_snapshot (v := w) hE [] ▸ .refl E w.engine)

theorem not_disturbs_forget (e : Event) (w : View σ) : ¬ (Incident.forget e).Disturbs E w :=
  not_disturbs nofun (.refl E w.engine)

theorem recalls_known (hE : E.IsQuiet) (hv : v.observer.caches.values = .empty)
    {life : List (Incident σ)} (hd : Apart E v life) (hs : Settled E v life) :
    Recalls (Known E v life) (lived E v life).observer.caches := by
  induction life with
  | nil => exact recalls_of_values_eq_empty hv
  | cons i past ih =>
    have hd' : Apart E v past := hd.suffix (List.suffix_cons i past)
    exact recalls_perform hE (exact_known hd') hs.isStill
      (fun hi => ih hd' (hs.resolve_left hi).1) fun hi hw place x h =>
        h.cons hE (hs.resolve_left hi).2 hw

theorem Announced.suffix {kind : Incident σ → Prop} {life past : List (Incident σ)}
    (ha : Announced E v kind life) (h : past <:+ life) : Announced E v kind past := by
  induction life with
  | nil =>
    rw [List.suffix_nil.1 h]
    exact trivial
  | cons i life ih =>
    rcases List.suffix_cons_iff.1 h with rfl | h
    · exact ha
    · exact ih ha.2 h

theorem Announced.settled {kind : Incident σ → Prop} {life past : List (Incident σ)}
    {i : Incident σ} (ha : Announced E v kind life) (hi : (i :: past) <:+ life) (hk : kind i) :
    Settled E v past :=
  (ha.suffix hi).1 hk

/--
Registers remembered are registers read now. Whatever happens in whatever order, if disturbances
are announced before the next reading and no two frames are taken for one, every reading answers
as a live one does, also where the program counter takes its segment from what is remembered.
-/
theorem reading_eq_live (hE : E.IsQuiet) (hv : v.observer.caches.values = .empty)
    {life : List (Incident σ)} (ha : Announced E v Incident.IsRead life) (hd : Apart E v life)
    {r : Reading} {past : List (Incident σ)} (hr : (.use (.read r) :: past) <:+ life) :
    (r.perform E (lived E v past)).1 = r.live E (lived E v past) := by
  have hd' : Apart E v past := hd.suffix ((List.suffix_cons _ past).trans hr)
  have hs : Settled E v past := ha.settled hr trivial
  obtain ⟨c, -, h⟩ := reading_apply hE (exact_known hd') (recalls_known hE hv hd' hs) r
  rw [h]

theorem apart_of_spots (spots : Frame → Option Ptid × Option Nat) {life : List (Incident σ)}
    (hspots : ∀ f g, spots f = spots g → f = g)
    (h : ∀ past, past <:+ life → ∀ f, (E.frame? (lived E v past).engine).1 = some f →
      spot E f (lived E v past).engine = spots f) :
    Apart E v life := by
  have hmet : ∀ past, past <:+ life → ∀ p f, Met E v f p past → p = spots f := by
    intro past hp p f hf
    induction past with
    | nil => exact hf.2 ▸ h [] hp f hf.1
    | cons i past ih =>
      rcases hf with hf | ⟨-, hf⟩
      · exact hf.2 ▸ h _ hp f hf.1
      · exact ih ((List.suffix_cons i past).trans hp) hf
  intro past hp p f g hf hg
  exact hspots f g ((hmet past hp p f hf).symm.trans (hmet past hp p g hg))

def realMode (ip : UInt64) (selected : Frame) : Machine :=
  { Machine.initial ⟨"i8086", 4, .little⟩ with
    selectedFrame := some selected
    frames := [
      { thread := ⟨1⟩, level := 0,
        registers := [("pc", ⟨ip, 2, false⟩), ("cs", ⟨0x1000, 2, false⟩)] },
      { thread := ⟨1⟩, level := 1,
        registers := [("pc", ⟨0x34, 2, false⟩), ("cs", ⟨0x2000, 2, false⟩)] }] }

def realModeLife : List (Incident Machine) := [
  .selectFrame Machine.engine ⟨0⟩, .snapshot, .forget .stop, .change fun _ => realMode 0x77 ⟨1⟩,
  .use (.read (.get "$pc")), .selectFrame Machine.engine ⟨1⟩, .use (.read (.get "pc"))]

theorem spot_realMode (ip : UInt64) {f : Frame} (hf : f = ⟨0⟩ ∨ f = ⟨1⟩) (g : Frame)
    (hg : (Machine.engine.frame? (realMode ip f)).1 = some g) :
    spot Machine.engine g (realMode ip f) = (some ⟨4242, 4242, 0⟩, some g.number) := by
  rcases hf with rfl | rfl <;> cases hg <;> rfl

theorem selectFrame_realMode (ip : UInt64) (f : Frame) {f' : Frame} (hf : f' = ⟨0⟩ ∨ f' = ⟨1⟩) :
    (Machine.engine.selectFrame f' (realMode ip f)).2 = realMode ip f' := by
  rcases hf with rfl | rfl <;> rfl

theorem announced_realMode :
    Announced Machine.engine (attached {} (realMode 0x12 ⟨0⟩)) Incident.IsRead
      (.use (.read (.get "pc")) :: realModeLife) := by
  have hselect (w f) : ¬ (Incident.selectFrame Machine.engine f).Disturbs Machine.engine w :=
    not_disturbs nofun (Machine.sameRegisters_selectFrame _ f)
  have hread (w r) : ¬ (Incident.use (.read r)).Disturbs Machine.engine w :=
    not_disturbs_read Machine.isQuiet r w
  have hsnapshot (w) : ¬ Incident.snapshot.Disturbs Machine.engine w :=
    not_disturbs_snapshot Machine.isQuiet w
  exact ⟨fun _ => .inr ⟨.inr ⟨.inl (.head _), hsnapshot _⟩, hselect _ _⟩, nofun, nofun, nofun,
    nofun, fun _ => .inr ⟨.inr ⟨trivial, hread _ _⟩, hselect _ _⟩, nofun, fun _ => trivial,
    trivial⟩

theorem apart_realMode :
    Apart Machine.engine (attached {} (realMode 0x12 ⟨0⟩))
      (.use (.read (.get "pc")) :: realModeLife) := by
  refine apart_of_spots (fun f => (some ⟨4242, 4242, 0⟩, some f.number)) ?_ ?_
  · rintro ⟨i⟩ ⟨j⟩ h
    simpa using h
  · simp only [realModeLife, List.suffix_cons_iff, forall_eq_or_imp, List.suffix_nil, forall_eq,
      engine_lived_read Machine.isQuiet, engine_lived_snapshot Machine.isQuiet,
      engine_lived_forget, engine_lived_selectFrame, engine_lived_change, engine_lived_nil,
      attached, selectFrame_realMode _ _ (.inl rfl), selectFrame_realMode _ _ (.inr rfl)]
    exact ⟨spot_realMode _ (.inl rfl), spot_realMode _ (.inl rfl), spot_realMode _ (.inr rfl),
      spot_realMode _ (.inr rfl), spot_realMode _ (.inr rfl), spot_realMode _ (.inr rfl),
      spot_realMode _ (.inr rfl), spot_realMode _ (.inl rfl), spot_realMode _ (.inl rfl)⟩

theorem reading_eq_live_realMode :
    Announced Machine.engine (attached {} (realMode 0x12 ⟨0⟩)) Incident.IsRead
        (.use (.read (.get "pc")) :: realModeLife) ∧
      Apart Machine.engine (attached {} (realMode 0x12 ⟨0⟩))
        (.use (.read (.get "pc")) :: realModeLife) ∧
      ((Reading.get "pc").perform Machine.engine
        (lived Machine.engine (attached {} (realMode 0x12 ⟨0⟩)) realModeLife)).1 =
          .value (some 0x10077) := by
  refine ⟨announced_realMode, apart_realMode, ?_⟩
  have hnow : (lived Machine.engine (attached {} (realMode 0x12 ⟨0⟩)) realModeLife).engine =
      realMode 0x77 ⟨0⟩ := by
    rw [realModeLife, engine_lived_selectFrame, engine_lived_snapshot Machine.isQuiet,
      engine_lived_forget, engine_lived_change]
    exact selectFrame_realMode _ _ (.inl rfl)
  rw [reading_eq_live Machine.isQuiet rfl announced_realMode apart_realMode (List.suffix_refl _),
    Reading.live, hnow]
  exact congrArg Answer.value (by decide +kernel)

end Debuggee.Registers
