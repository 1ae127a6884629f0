import Debuggee.Proofs.Engine.Stored
import Debuggee.Proofs.Registers.Bases

namespace Debuggee

variable {σ ν τ : Type} {E : Engine σ ν τ} {s : σ}

theorem Arch.reduce_natCast (arch : Arch) (n : Nat) : arch.reduce n = .ofNat n &&& arch.mask := by
  have hpos : 0 < 2 ^ (8 * min arch.pointerSize 8) := Nat.two_pow_pos _
  have hmask : arch.mask.toNat = 2 ^ (8 * min arch.pointerSize 8) - 1 := toNat_byteMask _
  have hwidth : ((arch.mask.toNat : Int) + 1) = (2 ^ (8 * min arch.pointerSize 8) : Nat) := by
    omega
  have hpow : 2 ^ (8 * min arch.pointerSize 8) ∣ 2 ^ 64 := Nat.pow_dvd_pow 2 (by omega)
  have hlt : n % 2 ^ (8 * min arch.pointerSize 8) < 2 ^ 64 :=
    Nat.lt_of_lt_of_le (Nat.mod_lt n hpos) (Nat.le_of_dvd (by decide) hpow)
  refine UInt64.toNat_inj.1 ?_
  rw [reduce, hwidth, ← Int.natCast_emod, Int.toNat_natCast, UInt64.toNat_ofNat',
    Nat.mod_eq_of_lt hlt, UInt64.toNat_and, hmask, Nat.and_two_pow_sub_one_eq_mod,
    UInt64.toNat_ofNat', Nat.mod_mod_of_dvd _ hpow]

theorem Engine.inferior_of_arch? {arch : Arch} (h : (E.arch? s).1 = some arch) :
    ∃ i, E.inferior s = (.ok i, s) := by
  cases hi : E.selectedInferior s with
  | some i => exact ⟨i, E.inferior_apply hi⟩
  | none =>
    have hnone : E.inferior s = (.error .noProcess, s) := by
      rw [inferior, Action.bind_apply, Action.ask_apply, hi]
      rfl
    rw [arch?, Action.attempt_apply, currentArch, Action.bind_apply, hnone] at h
    cases h

namespace Registers

theorem spellings_eq_cons (name : String) :
    ∃ others, RegisterName.spellings name = name :: others := by
  unfold RegisterName.spellings
  dsimp only
  split <;> exact ⟨_, rfl⟩

theorem readSpelling_cons (hE : E.IsQuiet) (f : Frame) (name : String) (names : List String) :
    readSpelling E f (name :: names) s =
      match (E.readRegister f name s).1.toOption with
      | some (some u) => (some u, s)
      | _ => readSpelling E f names s := by
  have hread : (E.readRegister f name).attempt s = ((E.readRegister f name s).1.toOption, s) := by
    rw [Action.attempt_apply, hE.readRegister]
  show (match ((E.readRegister f name).attempt s).1 with
    | some (some v) => (pure (some v) : StateM σ (Option ν))
    | _ => readSpelling E f names) ((E.readRegister f name).attempt s).2 = _
  rw [hread]
  rcases (E.readRegister f name s).1.toOption with _ | _ | u <;> rfl

theorem readInteger_of_hasRegister (hE : E.IsQuiet) {f : Frame} {name : String} {size n : Nat}
    (h : E.HasRegister s f name size n) {arch : Arch} (harch : (E.arch? s).1 = some arch) :
    (readInteger E f name s).1 = some (arch, (n : Int)) := by
  obtain ⟨u, t, w, hu, hsize, ht, hw, hn⟩ := h
  obtain ⟨others, hspellings⟩ := spellings_eq_cons name
  obtain ⟨i, hi⟩ := Engine.inferior_of_arch? harch
  have harch' : E.arch? s = (some arch, s) := Prod.ext harch (hE.asks_arch?.quiet s)
  have ht' : E.typeNamed (unsignedName size) s = (.ok t, s) := Prod.ext ht (hE.typeNamed _ s)
  have hw' : E.cast u t s = (.ok w, s) := Prod.ext hw (hE.cast u t s)
  have hn' : E.toInt w s = (.ok (n : Int), s) := Prod.ext hn (hE.toInt w s)
  have hnumber : ((do
      let _ ← E.inferior
      E.toInt (← E.cast u (← E.typeNamed (unsignedName size))) : Action σ Int).attempt s) =
      (some (n : Int), s) := by
    simp only [Action.attempt_apply, Action.bind_apply, hi, ht', hw', hn']
    rfl
  have hspelling : readSpelling E f (RegisterName.spellings name) s = (some u, s) := by
    rw [hspellings, readSpelling_cons hE, hu]
    rfl
  simp only [readInteger, bind, StateT.bind, hspelling, harch']
  show ((do
      let _ ← E.inferior
      E.toInt (← E.cast u (← E.typeNamed (unsignedName (E.sizeOf s (E.typeOf s u))))) :
        Action σ Int).attempt s).1.map (arch, ·) = _
  rw [hsize, hnumber]
  rfl

theorem readAt_of_hasRegister (hE : E.IsQuiet) {f : Frame} {name : String} {size : Nat}
    {value : UInt64} (h : E.HasRegister s f name size (value.toNat % 2 ^ (8 * size))) {arch : Arch}
    (harch : (E.arch? s).1 = some arch) (hflat : arch.isSegmented name = false) :
    readAt E f name s = some (value &&& byteMask size &&& arch.mask) := by
  have hvalue : UInt64.ofNat (value.toNat % 2 ^ (8 * size)) = value &&& byteMask size := by
    rw [← toNat_land_byteMask, UInt64.ofNat_toNat]
  rw [readAt, readOver, readInteger_of_hasRegister hE h harch]
  simp only [hflat, Bool.false_eq_true, if_false, Arch.readsAs, arch.reduce_natCast, hvalue]

def liveBase (E : Engine σ ν τ) (segment : Segment) (s : σ) : UInt64 :=
  match (E.arch? s).1 with
  | none => 0
  | some arch =>
    if arch.name = .x8664 then (live E segment.register s).1.getD 0
    else
      match E.selectedInferior s with
      | none => 0
      | some i =>
        if (E.isRemote i s).1 then 0
        else
          let base? := (E.selectedPtid? s).1.bind (·.kernelId) |>.bind fun id =>
            kernelBase? id segment (E.prctl s)
          (base?.map (· &&& arch.mask)).getD 0

/-- Of the selected frame and thread nothing is remembered that does not read so now. -/
structure Faithful (E : Engine σ ν τ) (s : σ) (c : Caches) : Prop where
  values : Recalls (Right E s) c
  bases : ∀ {segment base}, c.bases.get? ((E.selectedPtid? s).1, segment) = some base →
    base = liveBase E segment s

theorem faithful_of_eq_empty {c : Caches} (hvalues : c.values = .empty)
    (hbases : c.bases = .empty) : Faithful E s c where
  values := recalls_of_values_eq_empty hvalues
  bases h := by
    rw [hbases] at h
    cases h

theorem determines_faithful :
    Determines E s (Faithful E s) fun f name => readAt E f name s where
  hit hc := exact_right.determines.hit hc.values
  miss hc := exact_right.determines.miss hc.values
  store hc hf name := ⟨exact_right.determines.store hc.values hf name, hc.bases⟩

theorem findBase_yieldsUnder (hE : E.IsQuiet) (segment : Segment) :
    YieldsUnder s (Faithful E s) (findBase E segment (E.selectedPtid? s).1)
      (liveBase E segment s) := by
  refine .bind (.ask (hE.asks_arch?.quiet s)) ?_
  unfold liveBase
  cases (E.arch? s).1 with
  | none => exact .pure _
  | some arch =>
    dsimp only
    split
    · rw [live_apply hE]
      exact .bind (get_yieldsUnder hE determines_faithful _) (.pure _)
    · intro o ho
      refine ⟨o.caches, ho, ?_⟩
      show (match E.selectedInferior s with
        | none => (pure 0 : StateM (View σ) UInt64)
        | some i => _) ⟨o, s⟩ = _
      cases E.selectedInferior s with
      | none => rfl
      | some i =>
        show (if (E.isRemote i s).1 then (pure 0 : StateM (View σ) UInt64) else _) ⟨o, s⟩ = _
        dsimp only
        split <;> rfl

theorem segmentBase_yieldsUnder (hE : E.IsQuiet) (segment : Segment) :
    YieldsUnder s (Faithful E s) (segmentBase E segment) (liveBase E segment s) := by
  refine .bind (.ask (hE.snd_selectedPtid? s)) fun o ho => ?_
  cases hb : o.caches.bases.get? ((E.selectedPtid? s).1, segment) with
  | some base =>
    refine ⟨o.caches, ho, ?_⟩
    rw [View.remembered_of_get? (t := .bases) (v := ⟨o, s⟩) hb, ho.bases hb]
  | none =>
    obtain ⟨c, hc, hfind⟩ := findBase_yieldsUnder hE segment o ho
    let bases := c.bases.insert ((E.selectedPtid? s).1, segment) (liveBase E segment s)
    refine ⟨{ c with bases }, ⟨hc.values, fun {other base} h => ?_⟩, ?_⟩
    · rw [show bases.get? _ = _ from Cache.get?_insert ..] at h
      split at h
      · next hplace =>
        cases h
        rw [(Prod.mk.inj hplace).2]
      · exact hc.bases h
    · rw [View.remembered_of_get?_eq_none (t := .bases) (v := ⟨o, s⟩) hb, hfind]
      rfl

theorem aboutRegisters_faithful (hE : E.IsQuiet) : AboutRegisters E s (Faithful E s) where
  same hvalues hbases h :=
    ⟨fun place x hx => h.values place x (hvalues ▸ hx), fun hb => h.bases (hbases ▸ hb)⟩
  forgotten := faithful_of_eq_empty
  base segment := (segmentBase_yieldsUnder hE segment).along

theorem faithful_onEvent {c : Caches} (h : Faithful E s c) (e : Event) :
    Faithful E s (c.onEvent e) where
  values := recalls_onEvent fun _ => h.values
  bases {segment base} hb := by
    rcases c.bases.after_eq_or [.stop] e with hsame | hempty
    · exact h.bases (hsame ▸ hb)
    · rw [show (c.onEvent e).bases = .empty from hempty] at hb
      cases hb

theorem faithful_perform (hE : E.IsQuiet) {v : View σ} (hv : v.engine = s)
    (h : Faithful E s v.observer.caches) {i : Incident σ}
    (hi : i = .use .auxv → E.IsStill) : Faithful E s (i.perform E v).observer.caches := by
  cases i with
  | forget e => exact faithful_onEvent h e
  | snapshot =>
    have hR : AllowsGetting E (Keeps (Remembers s (Faithful E s))) :=
      determines_faithful.allowsGetting hE
    exact (along_snapshotCommon hR (fun _ _ _ h => h) v ⟨hv, h⟩).2
  | reset => exact h
  | change f => exact h
  | use u =>
    have hu (hu : u = .auxv) : E.IsStill := hi (congrArg _ hu)
    exact (aboutRegisters_faithful hE).use hE determines_faithful ⟨hv, h⟩ hu

theorem faithful_lived (hE : E.IsQuiet) {v : View σ} (h : Faithful E v.engine v.observer.caches)
    {life : List (Incident σ)} (hauxv : .use .auxv ∈ life → E.IsStill)
    (hstays : ∀ past, past <:+ life → (lived E v past).engine = v.engine) :
    Faithful E v.engine (lived E v life).observer.caches := by
  induction life with
  | nil => exact h
  | cons i past ih =>
    have ih := ih (fun h => hauxv (.tail i h)) fun past' hp =>
      hstays past' (hp.trans (List.suffix_cons i past))
    exact faithful_perform hE (hstays past (List.suffix_cons i past)) ih fun hi =>
      hauxv (hi ▸ .head past)

structure ReadsLive (E : Engine σ ν τ) (v : View σ) : Prop where
  reading : ∀ r : Reading, (r.perform E v).1 = r.live E v
  base : ∀ segment, (segmentBase E segment v).1 = liveBase E segment v.engine

theorem Faithful.readsLive (hE : E.IsQuiet) {v : View σ}
    (h : Faithful E v.engine v.observer.caches) : ReadsLive E v where
  reading r := by
    obtain ⟨c, -, hr⟩ := reading_apply hE exact_right h.values r
    rw [hr]
  base segment := by
    obtain ⟨c, -, hbase⟩ := segmentBase_yieldsUnder hE segment v.observer h
    rw [show segmentBase E segment v = _ from hbase]

theorem ReadsLive.fst_get {v : View σ} (h : ReadsLive E v) (name : String) :
    (get E name v).1 = (live E name v.engine).1 :=
  Answer.value.inj (h.reading (.get name))

theorem write_outcome (hE : E.IsQuiet) (name : String) (value : UInt64) (v : View σ) :
    ((E.frame? v.engine).1 = none ∧ write E name value v = (.error .noFrame, v)) ∨
    ∃ f, (E.frame? v.engine).1 = some f ∧
      let answer := E.writeRegister f (RegisterName.bare name) value v.engine
      (answer.1 = .ok true ∧ (write E name value v).1 = .ok () ∧
          (write E name value v).2.engine = answer.2) ∨
        (answer.1 = .ok false ∧ write E name value v = (.error (.invalidArgument
          s!"no register named '{RegisterName.bare name}'"), ⟨v.observer, answer.2⟩)) ∨
        ∃ e, answer.1 = .error e ∧ write E name value v = (.error e, ⟨v.observer, answer.2⟩) := by
  have hframe : E.frame? v.engine = ((E.frame? v.engine).1, v.engine) :=
    Prod.ext rfl (hE.snd_frame? v.engine)
  rw [write_apply, hframe]
  cases (E.frame? v.engine).1 with
  | none => exact .inl ⟨rfl, rfl⟩
  | some f =>
    refine .inr ⟨f, rfl, ?_⟩
    dsimp only
    rcases E.writeRegister f (RegisterName.bare name) value v.engine with ⟨e | _ | _, s⟩
    · exact .inr (.inr ⟨e, rfl, rfl⟩)
    · exact .inr (.inl ⟨rfl, rfl⟩)
    · exact .inl ⟨rfl, rfl, rfl⟩

theorem faithful_of_write {name : String} {value : UInt64} {v : View σ}
    (hok : (write E name value v).1 = .ok ()) (s : σ) :
    Faithful E s (write E name value v).2.observer.caches := by
  obtain ⟨-, hforgotten⟩ | ⟨⟨e, he⟩, -⟩ := write_cases (E := E) name value v
  · rw [hforgotten]
    exact faithful_of_eq_empty rfl rfl
  · cases hok.symm.trans he

theorem stored_of_write (hE : E.IsQuiet) {v : View σ}
    (hstores : ∀ f, (E.frame? v.engine).1 = some f → E.Stores f v.engine) {name : String}
    {value : UInt64} (hok : (write E name value v).1 = .ok ()) :
    ∃ f size, (E.frame? v.engine).1 = some f ∧
      (E.frame? (write E name value v).2.engine).1 = some f ∧
      E.HasRegister (write E name value v).2.engine f (RegisterName.bare name) size
        (value.toNat % 2 ^ (8 * size)) := by
  obtain ⟨-, hnone⟩ | ⟨f, hf, ⟨hstored, -, hengine⟩ | ⟨-, hfalse⟩ | ⟨e, -, herror⟩⟩ :=
    write_outcome hE name value v
  · cases hok.symm.trans (congrArg Prod.fst hnone)
  · obtain ⟨size, hreg⟩ := (hstores f hf).stored hstored
    rw [hengine]
    exact ⟨f, size, hf, ((hstores f hf).selected hstored).trans hf, hreg⟩
  · cases hok.symm.trans (congrArg Prod.fst hfalse)
  · cases hok.symm.trans (congrArg Prod.fst herror)

theorem fst_live_of_hasRegister (hE : E.IsQuiet) {f : Frame} {name : String} {size : Nat}
    {value : UInt64} (hf : (E.frame? s).1 = some f)
    (h : E.HasRegister s f (RegisterName.bare name) size (value.toNat % 2 ^ (8 * size)))
    {arch : Arch} (harch : (E.arch? s).1 = some arch)
    (hflat : arch.isSegmented (RegisterName.bare name) = false) :
    (live E name s).1 = some (value &&& byteMask size &&& arch.mask) := by
  rw [live_apply hE, hf, Option.bind_some, readAt_of_hasRegister hE h harch hflat]

/--
A write through an observer of an engine that stores what is written. If it succeeds, then from
then on, until the registers change again, whatever is selected, asked and announced, the register
is read under each of its spellings as what it has room for, reduced to the width of a pointer of
the architecture, and every other register and both segment bases are read as they are in the
engine. (If the auxiliary vector is asked for, then of an engine that reading memory leaves as it
is.) If it fails, all that is remembered and both snapshots are as before, and so is the engine,
unless it is the engine that failed: then it is as its own failed write has left it.
-/
theorem write_visible (hE : E.IsQuiet) {v : View σ}
    (hstores : ∀ f, (E.frame? v.engine).1 = some f → E.Stores f v.engine)
    (name : String) (value : UInt64) :
    let w := (write E name value v).2
    ((write E name value v).1 = .ok () →
      ∃ f size, (E.frame? w.engine).1 = some f ∧
        E.HasRegister w.engine f (RegisterName.bare name) size (value.toNat % 2 ^ (8 * size)) ∧
        ∀ s, E.SameRegisters w.engine s → ∀ life : List (Incident σ),
          (.use .auxv ∈ life → E.IsStill) →
          (∀ past, past <:+ life → (lived E ⟨w.observer, s⟩ past).engine = s) →
          let u := lived E ⟨w.observer, s⟩ life
          ReadsLive E u ∧
            ((E.frame? s).1 = some f → ∀ arch, (E.arch? s).1 = some arch →
              arch.isSegmented (RegisterName.bare name) = false →
              ∀ spelling, RegisterName.bare spelling = RegisterName.bare name →
                (get E spelling u).1 = some (value &&& byteMask size &&& arch.mask))) ∧
    ∀ e, (write E name value v).1 = .error e →
      w.observer = v.observer ∧
        (w.engine = v.engine ∨ ∃ f, (E.frame? v.engine).1 = some f ∧
          E.writeRegister f (RegisterName.bare name) value v.engine = (.error e, w.engine)) := by
  intro w
  refine ⟨fun hok => ?_, fun e he => ?_⟩
  · obtain ⟨f, size, -, hf, hreg⟩ := stored_of_write hE hstores hok
    refine ⟨f, size, hf, hreg, fun s hs life hauxv hstays => ?_⟩
    have hu : (lived E ⟨w.observer, s⟩ life).engine = s := hstays life List.suffix_rfl
    have hlive : ReadsLive E (lived E ⟨w.observer, s⟩ life) :=
      Faithful.readsLive hE (hu.symm ▸ faithful_lived hE (faithful_of_write hok s) hauxv hstays)
    refine ⟨hlive, fun hf arch harch hflat spelling hspelling => ?_⟩
    rw [← hspelling] at hflat hreg
    rw [hlive.fst_get, hu]
    exact fst_live_of_hasRegister hE hf (hreg.congr hs) harch hflat
  · obtain ⟨-, hnone⟩ | ⟨f, hf, ⟨-, hok, -⟩ | ⟨hunknown, hfalse⟩ | ⟨e', hfailed, herror⟩⟩ :=
      write_outcome hE name value v
    · rw [show w = v from congrArg Prod.snd hnone]
      exact ⟨rfl, .inl rfl⟩
    · cases hok.symm.trans he
    · rw [show w = _ from congrArg Prod.snd hfalse]
      exact ⟨rfl, .inl ((hstores f hf).unknown hunknown)⟩
    · rw [show w = _ from congrArg Prod.snd herror]
      cases he.symm.trans (congrArg Prod.fst herror)
      exact ⟨rfl, .inr ⟨f, hf, Prod.ext hfailed rfl⟩⟩

def counter (value : UInt64) : Machine :=
  { Machine.initial ⟨"i386", 4, .little⟩ with
    frames := [{ thread := ⟨1⟩, level := 0, registers := [("cx", ⟨value, 2, false⟩)] }]
    segments := [((4242, Segment.fs.code), 0x7000)] }

theorem keepsRegisters_counter (value : UInt64) : (counter value).KeepsRegisters ⟨0⟩ := by
  intro state hstate
  cases hstate
  simp

theorem writeRegister_counter :
    Machine.engine.writeRegister ⟨0⟩ "cx" 0x12345 (counter 1) = (.ok true, counter 0x2345) := by
  rfl

theorem write_visible_counter :
    let v := (get Machine.engine "cx" (attached {} (counter 1))).2
    let w := (write Machine.engine "$cx" 0x12345 v).2
    (get Machine.engine "cx" v).1 = some 1 ∧ (get Machine.engine "cx" w).1 = some 0x2345 ∧
      (segmentBase Machine.engine .fs w).1 = 0x7000 := by
  intro v w
  have hv : v.engine = counter 1 := looks_get Machine.isQuiet "cx" (attached {} (counter 1))
  have hframe (value) : Machine.engine.frame? (counter value) = (some ⟨0⟩, counter value) :=
    Machine.frame?_apply _
  have hstores (f) (hf : (Machine.engine.frame? v.engine).1 = some f) :
      Machine.engine.Stores f v.engine := by
    rw [hv, hframe] at hf
    cases hf
    rw [hv]
    exact Machine.stores rfl (keepsRegisters_counter 1)
  obtain ⟨hok, hw⟩ : (write Machine.engine "$cx" 0x12345 v).1 = .ok () ∧
      w.engine = (Machine.engine.writeRegister ⟨0⟩ "cx" 0x12345 (counter 1)).2 :=
    write_of_frame? (hv ▸ hframe 1) (congrArg (·.1.toOption) writeRegister_counter)
  rw [writeRegister_counter] at hw
  obtain ⟨f, size, hf, hreg, hlater⟩ := (write_visible Machine.isQuiet hstores "$cx" 0x12345).1 hok
  obtain ⟨hlive, hvalue⟩ := hlater w.engine (.refl _ _) [] nofun fun past hpast => by
    rw [List.suffix_nil.1 hpast]
    rfl
  have hsize : size = 2 := by
    rw [show (write Machine.engine "$cx" 0x12345 v).2.engine = _ from hw] at hreg hf
    rw [hframe] at hf
    cases hf
    obtain ⟨u, -, -, hu, hsize, -⟩ := hreg
    cases hu
    exact hsize.symm
  have harch : (Machine.engine.arch? w.engine).1 = some ⟨.i386, 4, .little⟩ := by
    rw [hw]
    rfl
  refine ⟨by decide +kernel, ?_, ?_⟩
  · rw [hsize] at hvalue
    exact hvalue hf _ harch rfl "cx" rfl
  · rw [show (segmentBase Machine.engine .fs w).1 = _ from hlive.base .fs]
    show liveBase Machine.engine .fs w.engine = 0x7000
    rw [hw]
    decide +kernel

def dropping : Engine Machine Value CType :=
  { Machine.engine with
    writeRegister := fun f name value => do
      let known ← Machine.engine.writeRegister f name value
      if known ∧ name = "cx" then throw (.engine "Remote connection closed")
      return known }

theorem dropping_cases (f : Frame) (name : String) (value : UInt64) (m : Machine) :
    (∃ e, (dropping.writeRegister f name value m).1 = .error e) ∨
      dropping.writeRegister f name value m = Machine.engine.writeRegister f name value m := by
  simp only [dropping, Action.bind_apply]
  rcases Machine.engine.writeRegister f name value m with ⟨e | known, m'⟩
  · exact .inl ⟨e, rfl⟩
  · dsimp only
    split
    · exact .inl ⟨_, rfl⟩
    · exact .inr rfl

theorem stores_dropping {f : Frame} {m : Machine} (h : Machine.engine.Stores f m) :
    dropping.Stores f m where
  stored {name value} hok := by
    obtain ⟨e, he⟩ | hsame := dropping_cases f name value m
    · cases he.symm.trans hok
    · rw [hsame] at hok ⊢
      exact h.stored hok
  selected {name value} hok := by
    obtain ⟨e, he⟩ | hsame := dropping_cases f name value m
    · cases he.symm.trans hok
    · rw [hsame] at hok ⊢
      exact h.selected hok
  unknown {name value} hok := by
    obtain ⟨e, he⟩ | hsame := dropping_cases f name value m
    · cases he.symm.trans hok
    · rw [hsame] at hok ⊢
      exact h.unknown hok

def nameless : Machine :=
  { Machine.initial ⟨"z80", 8, .little⟩ with
    frames := [{ thread := ⟨1⟩, level := 0, registers := [("r1", ⟨1, 8, false⟩)] }] }

theorem keepsRegisters_nameless : nameless.KeepsRegisters ⟨0⟩ := by
  intro state hstate
  cases hstate
  simp

/--
A register that has been written is not read without a known architecture, which says how wide a
pointer is. And a write that fails has changed the register of an engine that fails after storing.
-/
theorem write_unread_and_unkept :
    (Machine.engine.Stores ⟨0⟩ nameless ∧
      let w := write Machine.engine "r1" 5 (attached {} nameless)
      w.1 = .ok () ∧ (get Machine.engine "r1" w.2).1 = none) ∧
    dropping.Stores ⟨0⟩ (counter 1) ∧
      let w := write dropping "cx" 5 (attached {} (counter 1))
      w.1 = .error (.engine "Remote connection closed") ∧
        (get dropping "cx" (attached {} (counter 1))).1 = some 1 ∧
        (get dropping "cx" w.2).1 = some 5 :=
  ⟨⟨Machine.stores rfl keepsRegisters_nameless, by rfl, by decide +kernel⟩,
    stores_dropping (Machine.stores rfl (keepsRegisters_counter 1)), by rfl, by decide +kernel,
    by decide +kernel⟩

end Registers

end Debuggee
