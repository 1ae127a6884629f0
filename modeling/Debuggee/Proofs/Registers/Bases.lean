import Debuggee.Proofs.Registers.Again

namespace Debuggee.Registers

variable {σ ν τ : Type}

section

variable (E : Engine σ ν τ)

def Incident.ReadsBase : Incident σ → Prop
  | .use (.base _) => True
  | _ => False

/--
The moment at which a base was first read since the observer has last forgotten all bases, which it
does at a stop, when a register is written and when it is told to forget everything. The moment is
named by the incidents before it, and there is none if the base has not been read since.
-/
def firstReading (v : View σ) (segment : Segment) : List (Incident σ) → Option (List (Incident σ))
  | [] => none
  | .use (.base segment') :: past =>
    if segment' = segment then some ((firstReading v segment past).getD past)
    else firstReading v segment past
  | .forget e :: past => if e = .stop then none else firstReading v segment past
  | .use (.write name value) :: past =>
    match (Registers.write E name value (lived E v past)).1 with
    | .ok _ => none
    | .error _ => firstReading v segment past
  | .use .invalidate :: _ => none
  | _ :: past => firstReading v segment past

/-- The target is an x86-64 one, and the same thread and frame are selected as before. -/
structure StaysOnX8664 (s s' : σ) : Prop where
  arch : ∃ arch, (E.arch? s').1 = some arch ∧ arch.name = .x8664
  frame : (E.frame? s').1 = (E.frame? s).1
  ptid : (E.selectedPtid? s').1 = (E.selectedPtid? s).1
  level : ∀ f, (E.frame? s).1 = some f →
    ((E.level f).attempt s').1 = ((E.level f).attempt s).1

end

variable {E : Engine σ ν τ} {v : View σ}

theorem segmentBase_of_get? (hE : E.IsQuiet) {segment : Segment} {base : UInt64}
    (h : v.observer.caches.bases.get? ((E.selectedPtid? v.engine).1, segment) = some base) :
    segmentBase E segment v = (base, v) := by
  rw [segmentBase, View.bind_apply, View.ask_apply (hE.snd_selectedPtid? _)]
  exact View.remembered_of_get? (t := .bases) h

theorem segmentBase_of_get?_eq_none (hE : E.IsQuiet) {segment : Segment} {arch : Arch}
    (harch : (E.arch? v.engine).1 = some arch) (hname : arch.name = .x8664)
    (h : v.observer.caches.bases.get? ((E.selectedPtid? v.engine).1, segment) = none) :
    segmentBase E segment v =
      let (x, v') := get E segment.register v
      let place := ((E.selectedPtid? v.engine).1, segment)
      (x.getD 0, (View.modifyCaches (fun c => { c with bases := c.bases.insert place (x.getD 0) })
        v').2) := by
  have hfind (ptid) : findBase E segment ptid v =
      ((get E segment.register v).1.getD 0, (get E segment.register v).2) := by
    simp only [findBase, View.bind_apply, View.ask_apply (hE.asks_arch?.quiet _), harch, hname,
      if_true]
    rfl
  rw [segmentBase, View.bind_apply, View.ask_apply (hE.snd_selectedPtid? _)]
  refine (View.remembered_of_get?_eq_none (t := .bases) h).trans ?_
  rw [hfind]
  rfl

theorem fst_segmentBase (hE : E.IsQuiet) {arch : Arch} (harch : (E.arch? v.engine).1 = some arch)
    (hname : arch.name = .x8664) (segment : Segment) :
    (segmentBase E segment v).1 =
      (v.observer.caches.bases.get? ((E.selectedPtid? v.engine).1, segment)).getD
        ((get E segment.register v).1.getD 0) := by
  cases hb : v.observer.caches.bases.get? ((E.selectedPtid? v.engine).1, segment) with
  | some base => rw [segmentBase_of_get? hE hb, Option.getD_some]
  | none =>
    rw [segmentBase_of_get?_eq_none hE harch hname hb]
    rfl

theorem allowsSearching_bases :
    AllowsSearching E (Leaves fun v : View σ => v.observer.caches.bases) :=
  { (allowsAsking_leaves (p := fun o => o.caches.bases) fun _ _ => rfl).allowsGetting with
    ask := fun _ _ => rfl
    tables := fun _ _ _ h _ => h }

theorem engine_segmentBase (hE : E.IsQuiet) {arch : Arch}
    (harch : (E.arch? v.engine).1 = some arch) (hname : arch.name = .x8664) (segment : Segment) :
    (segmentBase E segment v).2.engine = v.engine := by
  cases hb : v.observer.caches.bases.get? ((E.selectedPtid? v.engine).1, segment) with
  | some base => rw [segmentBase_of_get? hE hb]
  | none =>
    rw [segmentBase_of_get?_eq_none hE harch hname hb]
    exact looks_get hE segment.register v

theorem get?_segmentBase (hE : E.IsQuiet) {arch : Arch} (harch : (E.arch? v.engine).1 = some arch)
    (hname : arch.name = .x8664) (segment other : Segment) :
    (segmentBase E segment v).2.observer.caches.bases.get? ((E.selectedPtid? v.engine).1, other) =
      if segment = other then
        some ((v.observer.caches.bases.get? ((E.selectedPtid? v.engine).1, segment)).getD
          ((get E segment.register v).1.getD 0))
      else v.observer.caches.bases.get? ((E.selectedPtid? v.engine).1, other) := by
  cases hb : v.observer.caches.bases.get? ((E.selectedPtid? v.engine).1, segment) with
  | some base =>
    rw [segmentBase_of_get? hE hb, Option.getD_some]
    split
    · rename_i h
      rw [← h, hb]
    · rfl
  | none =>
    rw [segmentBase_of_get?_eq_none hE harch hname hb]
    show ((get E segment.register v).2.observer.caches.bases.insert
      ((E.selectedPtid? v.engine).1, segment) ((get E segment.register v).1.getD 0)).get? _ = _
    have hbases : (get E segment.register v).2.observer.caches.bases = v.observer.caches.bases :=
      allowsSearching_bases.get segment.register v
    rw [hbases, Cache.get?_insert]
    by_cases h : segment = other
    · rw [h, if_pos rfl, if_pos rfl, Option.getD_none]
    · rw [if_neg fun he => h (Prod.mk.inj he).2.symm, if_neg h]

theorem bases_write (name : String) (value : UInt64) (v : View σ) :
    (write E name value v).2.observer.caches.bases =
      match (write E name value v).1 with
      | .ok _ => .empty
      | .error _ => v.observer.caches.bases := by
  rw [write_apply]
  rcases E.frame? v.engine with ⟨_ | f, s⟩
  · rfl
  · dsimp only
    rcases E.writeRegister f (RegisterName.bare name) value s with ⟨e | _ | _, s'⟩ <;> rfl

theorem bases_use {u : Use} (hbase : ∀ segment, u ≠ .base segment)
    (hwrite : ∀ name value, u ≠ .write name value) (hforget : u ≠ .invalidate) (v : View σ) :
    (u.perform E v).observer.caches.bases = v.observer.caches.bases := by
  have hR := allowsSearching_bases (E := E)
  have hminor (hu : u.IsMinor) : (u.perform E v).observer.caches.bases = v.observer.caches.bases :=
    (hu.sameTables v).bases
  cases u with
  | read r => exact along_reading hR.toAllowsGetting r v
  | write name value => exact absurd rfl (hwrite name value)
  | base segment => exact absurd rfl (hbase segment)
  | instructionSet => exact along_instructionSet hR.toAllowsGetting v
  | upper a max? => exact hR.upper a max? v
  | auxv => exact hR.auxv v
  | invalidate => exact absurd rfl hforget
  | _ => exact hminor trivial

theorem bases_lived (hE : E.IsQuiet) (hv : v.observer.caches.bases = .empty)
    {life : List (Incident σ)}
    (hstays : ∀ past, past <:+ life → StaysOnX8664 E v.engine (lived E v past).engine)
    (segment : Segment) :
    (lived E v life).observer.caches.bases.get? ((E.selectedPtid? v.engine).1, segment) =
      (firstReading E v segment life).map fun past =>
        (get E segment.register (lived E v past)).1.getD 0 := by
  induction life with
  | nil =>
    show v.observer.caches.bases.get? _ = none
    rw [hv]
    rfl
  | cons i past ih =>
    have hpast := hstays past (List.suffix_cons i past)
    obtain ⟨arch, harch, hname⟩ := hpast.arch
    have ih := ih fun past' h => hstays past' (h.trans (List.suffix_cons i past))
    have hsame (h : (lived E v (i :: past)).observer.caches.bases =
        (lived E v past).observer.caches.bases)
        (hf : firstReading E v segment (i :: past) = firstReading E v segment past) :
        (lived E v (i :: past)).observer.caches.bases.get?
          ((E.selectedPtid? v.engine).1, segment) =
        (firstReading E v segment (i :: past)).map fun past =>
          (get E segment.register (lived E v past)).1.getD 0 := by
      rw [h, hf, ih]
    cases i with
    | forget e =>
      show (Cache.after _ [.stop] e).get? _ = _
      rw [firstReading, Cache.after]
      by_cases he : e = .stop
      · rw [if_pos he, he]
        rfl
      · rw [if_neg he, if_neg (by simpa using he), ih]
    | snapshot =>
      exact hsame (along_snapshotCommon allowsSearching_bases.toAllowsGetting (fun _ _ _ => rfl) _)
        rfl
    | reset => exact hsame rfl rfl
    | change f => exact hsame rfl rfl
    | use u =>
      cases u with
      | base segment' =>
        show (segmentBase E segment' (lived E v past)).2.observer.caches.bases.get? _ = _
        rw [firstReading, ← hpast.ptid, get?_segmentBase hE harch hname, hpast.ptid]
        by_cases hs : segment' = segment
        · rw [if_pos hs, if_pos hs, hs, ih]
          cases firstReading E v segment past <;> rfl
        · rw [if_neg hs, if_neg hs, ih]
      | write name value =>
        show (write E name value (lived E v past)).2.observer.caches.bases.get? _ = _
        rw [bases_write, firstReading]
        cases (write E name value (lived E v past)).1 with
        | ok _ => rfl
        | error _ => exact ih
      | invalidate => rfl
      | _ => exact hsame (bases_use (by simp) (by simp) (by simp) _) rfl

theorem StaysOnX8664.placeOf {s s' : σ} (h : StaysOnX8664 E s s') {f : Frame}
    (hf : (E.frame? s).1 = some f) (name : String) :
    placeOf E s' f name = placeOf E s f name := by
  rw [Registers.placeOf, Registers.placeOf, h.ptid, h.level f hf]

theorem StaysOnX8664.right {s₀ s s' : σ} (h : StaysOnX8664 E s₀ s) (h' : StaysOnX8664 E s₀ s')
    (hE : E.IsQuiet) (hs : E.SameRegisters s s') {place : RegisterPlace} {x : Option UInt64}
    (hR : Right E s place x) : Right E s' place x := by
  intro f hf hp
  have hf₀ : (E.frame? s₀).1 = some f := h'.frame ▸ hf
  rw [h'.placeOf hf₀, ← h.placeOf hf₀] at hp
  rw [readAt_congr hE hs]
  exact hR f (h.frame.trans hf₀) hp

theorem recalls_right (hE : E.IsQuiet) (hv : v.observer.caches.values = .empty)
    {life : List (Incident σ)}
    (hstays : ∀ past, past <:+ life → StaysOnX8664 E v.engine (lived E v past).engine)
    (hs : Settled E v life) :
    Recalls (Right E (lived E v life).engine) (lived E v life).observer.caches := by
  induction life with
  | nil => exact recalls_of_values_eq_empty hv
  | cons i past ih =>
    have ih := ih fun past' h => hstays past' (h.trans (List.suffix_cons i past))
    refine recalls_perform hE exact_right hs.isStill (fun hi => ih (hs.resolve_left hi).1) ?_
    intro hi hw place x h
    exact (hstays past (List.suffix_cons i past)).right (hstays _ List.suffix_rfl) hE
      (sameRegisters_of_not_disturbs (hs.resolve_left hi).2 hw) h

theorem get_lived_eq_live (hE : E.IsQuiet) (hv : v.observer.caches.values = .empty)
    {life : List (Incident σ)}
    (hstays : ∀ past, past <:+ life → StaysOnX8664 E v.engine (lived E v past).engine)
    (hs : Settled E v life) (name : String) :
    (get E name (lived E v life)).1 = (live E name (lived E v life).engine).1 := by
  obtain ⟨c, -, h⟩ := get_yields hE exact_right name _ (recalls_right hE hv hstays hs)
  rw [show get E name (lived E v life) = _ from h]

theorem sameRegisters_since_firstReading {segment : Segment} {life first : List (Incident σ)}
    (ha : Announced E v Incident.ReadsBase life) (hf : firstReading E v segment life = some first)
    (hd : ∀ i past, i :: past <:+ life → first <:+ past → ¬ i.Disturbs E (lived E v past)) :
    Settled E v first ∧ first <:+ life ∧
      E.SameRegisters (lived E v first).engine (lived E v life).engine ∧ Settled E v life := by
  induction life with
  | nil => cases hf
  | cons i past ih =>
    have hpast (h : firstReading E v segment past = some first)
        (hw : ¬ i.Writes E (lived E v past)) :
        Settled E v first ∧ first <:+ i :: past ∧
          E.SameRegisters (lived E v first).engine (lived E v (i :: past)).engine ∧
          Settled E v (i :: past) := by
      obtain ⟨hfirst, hsuffix, hsame, hall⟩ := ih ha.2 h fun i' past' hs =>
        hd i' past' (hs.trans (List.suffix_cons i past))
      have hnd := hd i past List.suffix_rfl hsuffix
      exact ⟨hfirst, hsuffix.trans (List.suffix_cons i past),
        hsame.trans (sameRegisters_of_not_disturbs hnd hw), .inr ⟨hall, hnd⟩⟩
    cases i with
    | forget e =>
      rw [firstReading] at hf
      split at hf
      · cases hf
      · exact hpast hf id
    | snapshot => exact hpast hf id
    | reset => exact hpast hf id
    | change f => exact hpast hf id
    | use u =>
      cases u with
      | base segment' =>
        rw [firstReading] at hf
        split at hf
        · cases hp : firstReading E v segment past with
          | some first' =>
            rw [hp] at hf
            cases hf
            exact hpast hp id
          | none =>
            rw [hp] at hf
            cases hf
            have hnd := hd _ _ List.suffix_rfl List.suffix_rfl
            exact ⟨ha.1 trivial, List.suffix_cons _ _,
              sameRegisters_of_not_disturbs hnd id, .inr ⟨ha.1 trivial, hnd⟩⟩
        · exact hpast hf id
      | write name value =>
        rw [firstReading] at hf
        split at hf
        · cases hf
        · rename_i e he
          refine hpast hf fun hw => ?_
          cases he.symm.trans hw
      | invalidate => cases hf
      | _ => exact hpast hf id

/--
Two ways to read a segment base. Whatever happens in whatever order on an x86-64 target, where
disturbances are announced before a base is read, a base is what its register was when the base
was first read since the latest stop or write; so it is what the register is, unless there has been
a disturbance since that reading.
-/
theorem segmentBase_eq_get (hE : E.IsQuiet) (hvalues : v.observer.caches.values = .empty)
    (hbases : v.observer.caches.bases = .empty) {life : List (Incident σ)}
    (hstays : ∀ past, past <:+ life → StaysOnX8664 E v.engine (lived E v past).engine)
    (ha : Announced E v Incident.ReadsBase life) (segment : Segment) :
    let first := (firstReading E v segment life).getD life
    (segmentBase E segment (lived E v life)).1 =
        ((get E segment.register (lived E v first)).1.getD 0) ∧
      ((∀ i past, i :: past <:+ life → first <:+ past → ¬ i.Disturbs E (lived E v past)) →
        (segmentBase E segment (lived E v life)).1 =
          ((get E segment.register (lived E v life)).1.getD 0)) := by
  obtain ⟨arch, harch, hname⟩ := (hstays life List.suffix_rfl).arch
  have hbase : (segmentBase E segment (lived E v life)).1 = (get E segment.register
      (lived E v ((firstReading E v segment life).getD life))).1.getD 0 := by
    rw [fst_segmentBase hE harch hname, (hstays life List.suffix_rfl).ptid,
      bases_lived hE hbases hstays]
    cases firstReading E v segment life <;> rfl
  refine ⟨hbase, fun hd => hbase.trans ?_⟩
  cases h : firstReading E v segment life with
  | none => rw [Option.getD_none]
  | some first =>
    rw [h] at hd
    obtain ⟨hfirst, hsuffix, hsame, hall⟩ := sameRegisters_since_firstReading ha h hd
    have hstays' (past : List (Incident σ)) (h : past <:+ first) := hstays past (h.trans hsuffix)
    have hf : (E.frame? (lived E v life).engine).1 = (E.frame? (lived E v first).engine).1 :=
      (hstays life List.suffix_rfl).frame.trans (hstays first hsuffix).frame.symm
    have hread (f) := readAt_congr hE hsame f (RegisterName.bare segment.register)
    rw [Option.getD_some, get_lived_eq_live hE hvalues hstays' hfirst,
      get_lived_eq_live hE hvalues hstays hall, live_apply hE, live_apply hE, hf]
    simp only [hread]

def threadArea (base : UInt64) : Machine :=
  { Machine.initial ⟨"i386:x86-64", 8, .little⟩ with
    frames := [{ thread := ⟨1⟩, level := 0, registers := [("fs_base", ⟨base, 8, false⟩)] }] }

def threadLife (e : Event) : List (Incident Machine) := [
  .forget e, .change fun _ => threadArea 2, .use (.base .fs)]

theorem staysOnX8664_threadArea (base base' : UInt64) :
    StaysOnX8664 Machine.engine (threadArea base) (threadArea base') where
  arch := ⟨_, Machine.arch?_congr (m := threadArea 0) rfl rfl, rfl⟩
  frame := by rw [Machine.frame?_apply, Machine.frame?_apply]; rfl
  ptid := rfl
  level f hf := by
    rw [Machine.frame?_apply] at hf
    cases hf
    rfl

theorem staysOnX8664_threadLife (e : Event) {past : List (Incident Machine)}
    (hp : past <:+ threadLife e) :
    StaysOnX8664 Machine.engine (threadArea 1)
      (lived Machine.engine (attached {} (threadArea 1)) past).engine := by
  have hbase : (lived Machine.engine (attached {} (threadArea 1)) [.use (.base .fs)]).engine =
      threadArea 1 := by
    obtain ⟨arch, harch, hname⟩ := (staysOnX8664_threadArea 1 1).arch
    exact engine_segmentBase Machine.isQuiet (v := attached {} (threadArea 1)) harch hname .fs
  revert past
  simp only [threadLife, List.suffix_cons_iff, forall_eq_or_imp, List.suffix_nil, forall_eq, hbase]
  exact ⟨staysOnX8664_threadArea 1 2, staysOnX8664_threadArea 1 2, staysOnX8664_threadArea 1 1,
    staysOnX8664_threadArea 1 1⟩

theorem get_threadLife {e : Event} (he : (Incident.forget e : Incident Machine).Announces) :
    (get Machine.engine Segment.fs.register
      (lived Machine.engine (attached {} (threadArea 1)) (threadLife e))).1 = some 2 := by
  have hs : Settled Machine.engine (attached {} (threadArea 1)) (threadLife e) := Or.inl he
  rw [get_lived_eq_live Machine.isQuiet rfl (fun _ => staysOnX8664_threadLife e) hs]
  show (live Machine.engine _ (threadArea 2)).1 = some 2
  decide +kernel

theorem segmentBase_eq_get_halted :
    (segmentBase Machine.engine .fs
      (lived Machine.engine (attached {} (threadArea 1)) (threadLife .stop))).1 = 2 := by
  obtain ⟨-, h⟩ := segmentBase_eq_get Machine.isQuiet (v := attached {} (threadArea 1)) rfl rfl
    (fun _ => staysOnX8664_threadLife .stop) ⟨nofun, nofun, fun _ => trivial, trivial⟩ .fs
  rw [h fun i past hs hf => ?_, get_threadLife (.head _), Option.getD_some]
  -- the stop has made the observer forget the reading before it, so nothing has come since
  have hlong : (threadLife .stop).length ≤ past.length := List.IsSuffix.length_le hf
  have hshort : past.length < (threadLife .stop).length := hs.length_le
  omega

/-- An announcement that is no stop leaves the base as it was, though its register reads anew. -/
theorem segmentBase_ne_get_announced :
    (segmentBase Machine.engine .fs
        (lived Machine.engine (attached {} (threadArea 1)) (threadLife .registerChanged))).1 = 1 ∧
      (get Machine.engine Segment.fs.register
        (lived Machine.engine (attached {} (threadArea 1)) (threadLife .registerChanged))).1 =
          some 2 := by
  have hstays {past} (h : past <:+ threadLife .registerChanged) :=
    staysOnX8664_threadLife .registerChanged h
  obtain ⟨arch, harch, hname⟩ := (hstays List.suffix_rfl).arch
  have hfirst : firstReading Machine.engine (attached {} (threadArea 1)) .fs
      (threadLife .registerChanged) = some [] := rfl
  have hbefore : (get Machine.engine Segment.fs.register
      (lived Machine.engine (attached {} (threadArea 1)) [])).1 = some 1 := by
    rw [get_lived_eq_live Machine.isQuiet rfl (fun _ h => hstays (h.trans List.nil_suffix)) trivial]
    decide +kernel
  refine ⟨?_, get_threadLife (.tail _ (.tail _ (.head _)))⟩
  rw [fst_segmentBase Machine.isQuiet harch hname, (hstays List.suffix_rfl).ptid]
  have hbase := bases_lived Machine.isQuiet (v := attached {} (threadArea 1)) rfl
    (fun _ => hstays) .fs
  rw [hfirst, Option.map_some, hbefore] at hbase
  exact congrArg (Option.getD · _) hbase

end Debuggee.Registers
