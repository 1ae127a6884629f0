import Debuggee.Proofs.Registers.Live

namespace Debuggee

variable {σ ν τ α β : Type}

namespace View

def Looks (x : StateM (View σ) α) : Prop := ∀ v, (x v).2.engine = v.engine

theorem bind_apply (x : StateM (View σ) α) (f : α → StateM (View σ) β) (v : View σ) :
    (x >>= f) v = f (x v).1 (x v).2 := rfl

theorem ask_apply {x : StateM σ α} {v : View σ} (hx : (x v.engine).2 = v.engine) :
    ask x v = ((x v.engine).1, v) := by
  show ((x v.engine).1, View.mk v.observer (x v.engine).2) = _
  rw [hx]

end View

namespace Registers

def Recalls (R : RegisterPlace → Option UInt64 → Prop) (c : Caches) : Prop :=
  ∀ place x, c.values.get? place = some x → R place x

/--
Wherever what is remembered satisfies the condition, the answer is `a`, and nothing changes but
what is remembered, which satisfies the condition again.
-/
def YieldsUnder (s : σ) (I : Caches → Prop) (x : StateM (View σ) α) (a : α) : Prop :=
  ∀ o : Observer, I o.caches → ∃ c, I c ∧ x ⟨o, s⟩ = (a, ⟨{ o with caches := c }, s⟩)

def Yields (s : σ) (R : RegisterPlace → Option UInt64 → Prop) (x : StateM (View σ) α) (a : α) :
    Prop :=
  ∀ o : Observer, Recalls R o.caches →
    ∃ c, Recalls R c ∧ x ⟨o, s⟩ = (a, ⟨{ o with caches := c }, s⟩)

theorem Recalls.mono {R R' : RegisterPlace → Option UInt64 → Prop} {c : Caches}
    (hc : Recalls R c) (h : ∀ place x, R place x → R' place x) : Recalls R' c :=
  fun place x hx => h place x (hc place x hx)

theorem recalls_of_values_eq_empty {R : RegisterPlace → Option UInt64 → Prop} {c : Caches}
    (hc : c.values = .empty) : Recalls R c := by
  intro place x hx
  rw [hc] at hx
  cases hx

namespace YieldsUnder

variable {s : σ} {I : Caches → Prop}

theorem pure (a : α) : YieldsUnder s I (Pure.pure a) a := fun o ho => ⟨o.caches, ho, rfl⟩

theorem bind {x : StateM (View σ) α} {f : α → StateM (View σ) β} {a : α} {b : β}
    (hx : YieldsUnder s I x a) (hf : YieldsUnder s I (f a) b) : YieldsUnder s I (x >>= f) b := by
  intro o ho
  obtain ⟨c, hc, hxo⟩ := hx o ho
  obtain ⟨c', hc', hfo⟩ := hf { o with caches := c } hc
  refine ⟨c', hc', ?_⟩
  show f (x ⟨o, s⟩).1 (x ⟨o, s⟩).2 = _
  rw [hxo, hfo]

theorem ask {x : StateM σ α} (hx : (x s).2 = s) : YieldsUnder s I (View.ask x) (x s).1 :=
  fun o ho => ⟨o.caches, ho, View.ask_apply (v := ⟨o, s⟩) hx⟩

theorem remembered {x : StateM (View σ) (Option UInt64)} {place : RegisterPlace}
    {a b : Option UInt64} (hit : ∀ c, I c → ∀ x, c.values.get? place = some x → x = a)
    (miss : ∀ c, I c → c.values.get? place = none → b = a)
    (store : ∀ c, I c → I { c with values := c.values.insert place a })
    (hx : YieldsUnder s I x b) : YieldsUnder s I (View.remembered .values place x) a := by
  intro o ho
  cases h : (Table.values.get (View.mk o s).observer.caches).get? place with
  | some x =>
    refine ⟨o.caches, ho, ?_⟩
    rw [View.remembered_of_get? h, hit _ ho x h]
  | none =>
    obtain ⟨c, hc, hxo⟩ := hx o ho
    rw [miss _ ho h] at hxo
    refine ⟨{ c with values := c.values.insert place a }, store c hc, ?_⟩
    rw [View.remembered_of_get?_eq_none h, hxo]
    rfl

end YieldsUnder

namespace Yields

variable {s : σ} {R : RegisterPlace → Option UInt64 → Prop}

theorem pure (a : α) : Yields s R (Pure.pure a) a := YieldsUnder.pure a

theorem bind {x : StateM (View σ) α} {f : α → StateM (View σ) β} {a : α} {b : β}
    (hx : Yields s R x a) (hf : Yields s R (f a) b) : Yields s R (x >>= f) b :=
  YieldsUnder.bind hx hf

theorem map {x : StateM (View σ) α} {a : α} (f : α → β) (hx : Yields s R x a) :
    Yields s R (do return f (← x)) (f a) := hx.bind (.pure _)

end Yields

def placeOf (E : Engine σ ν τ) (s : σ) (f : Frame) (name : String) : RegisterPlace :=
  ⟨(E.selectedPtid? s).1, ((E.level f).attempt s).1, name⟩

/-- The condition holds, for the selected frame, of what its registers read as and of no more. -/
def Exact (E : Engine σ ν τ) (s : σ) (R : RegisterPlace → Option UInt64 → Prop) : Prop :=
  ∀ f, (E.frame? s).1 = some f → ∀ name x, R (placeOf E s f name) x ↔ x = readAt E f name s

/-- Right for the selected frame; of other frames anything may be remembered. -/
def Right (E : Engine σ ν τ) (s : σ) (place : RegisterPlace) (x : Option UInt64) : Prop :=
  ∀ f, (E.frame? s).1 = some f → place = placeOf E s f place.name → x = readAt E f place.name s

/--
Under the condition registers of the selected frame are given by `a`: those that are remembered are
remembered so, the others read so, and to remember one so keeps the condition.
-/
structure Determines (E : Engine σ ν τ) (s : σ) (I : Caches → Prop)
    (a : Frame → String → Option UInt64) : Prop where
  hit : ∀ {c f name x}, I c → (E.frame? s).1 = some f →
    c.values.get? (placeOf E s f name) = some x → x = a f name
  miss : ∀ {c f name}, I c → (E.frame? s).1 = some f →
    c.values.get? (placeOf E s f name) = none → readOver E (a f "cs") f name s = a f name
  store : ∀ {c f}, I c → (E.frame? s).1 = some f → ∀ name,
    I { c with values := c.values.insert (placeOf E s f name) (a f name) }

def lookupAt (E : Engine σ ν τ) (s : σ) (a : Frame → String → Option UInt64) (name : String) :
    Option UInt64 :=
  ((E.frame? s).1.bind fun f => a f (RegisterName.bare (RegisterName.lowered name))).map
    (· &&& ((E.arch? s).1.map (·.mask)).getD (byteMask 8))

section

variable {E : Engine σ ν τ} {s : σ} {I : Caches → Prop} {a : Frame → String → Option UInt64}

theorem readIn_yieldsUnder (hE : E.IsQuiet) {segment : StateM (View σ) (Option UInt64)}
    {base : Option UInt64} (f : Frame) (name : String) (hs : YieldsUnder s I segment base) :
    YieldsUnder s I (readIn E View.ask segment f name) (readOver E base f name s) := by
  refine .bind (.ask ((hE.asks_readInteger f name).quiet s)) ?_
  unfold readOver
  cases (readInteger E f name s).1 with
  | none => exact .pure _
  | some p =>
    dsimp only
    split
    · exact .bind hs (.pure _)
    · exact .pure _

theorem getWith_yieldsUnder (hE : E.IsQuiet) (ha : Determines E s I a)
    {segment : StateM (View σ) (Option UInt64)} {base : Option UInt64} (name : String)
    (hs : YieldsUnder s I segment base)
    (hbase : ∀ f, (E.frame? s).1 = some f → readOver E base f (RegisterName.bare name) s =
      readOver E (a f "cs") f (RegisterName.bare name) s) :
    YieldsUnder s I (getWith E segment name)
      ((E.frame? s).1.bind fun f => a f (RegisterName.bare name)) := by
  unfold getWith
  refine .bind (.ask (hE.snd_frame? s)) ?_
  cases hf : (E.frame? s).1 with
  | none => exact .pure _
  | some f =>
    rw [Option.bind_some]
    refine .bind (.ask (hE.snd_selectedPtid? s)) (.bind (.ask (hE.snd_level f s)) ?_)
    refine .remembered (fun c hc x hx => ha.hit hc hf hx) (fun c hc hx => ?_)
      (fun c hc => ha.store hc hf _) (readIn_yieldsUnder hE f (RegisterName.bare name) hs)
    rw [hbase f hf, ha.miss hc hf hx]

theorem get_yieldsUnder (hE : E.IsQuiet) (ha : Determines E s I a) (name : String) :
    YieldsUnder s I (get E name) ((E.frame? s).1.bind fun f => a f (RegisterName.bare name)) := by
  have hcs := getWith_yieldsUnder hE ha "cs" (.pure none) fun f _ => by
    rw [RegisterName.bare_cs, readOver_cs (a f "cs")]
  refine getWith_yieldsUnder hE ha name hcs fun f hf => ?_
  rw [hf, Option.bind_some, RegisterName.bare_cs]

theorem lookup_yieldsUnder (hE : E.IsQuiet) (ha : Determines E s I a) (name : String) :
    YieldsUnder s I (lookup E name) (lookupAt E s a name) :=
  .bind (.ask (hE.asks_arch?.quiet s)) (.bind (get_yieldsUnder hE ha _) (.pure _))

theorem group_yieldsUnder (hE : E.IsQuiet) (f : RegisterSet → List α) :
    YieldsUnder s I (group E f) (groupAt E f s) :=
  .bind (.bind (.ask (hE.asks_arch?.quiet s)) (.pure _)) (.pure _)

theorem lookupAll_yieldsUnder (hE : E.IsQuiet) (ha : Determines E s I a) (names : List String) :
    YieldsUnder s I (lookupAll E names) (names.map fun name => (name, lookupAt E s a name)) := by
  induction names with
  | nil => exact .pure _
  | cons name names ih => exact .bind (lookup_yieldsUnder hE ha name) (.bind ih (.pure _))

theorem snapshotCommon_of_determines (hE : E.IsQuiet) (ha : Determines E s I a) {o : Observer}
    (ho : I o.caches) :
    ∃ c, I c ∧ snapshotCommon E ⟨o, s⟩ = ((), ⟨{ o with
      caches := c
      last := (groupAt E RegisterSet.common s).map fun name => (name, lookupAt E s a name)
      previous := o.last }, s⟩) := by
  obtain ⟨c, hc, hco⟩ := group_yieldsUnder hE RegisterSet.common o ho
  obtain ⟨c', hc', hco'⟩ := lookupAll_yieldsUnder hE ha (groupAt E RegisterSet.common s)
    { o with caches := c } hc
  refine ⟨c', hc', ?_⟩
  show (fun p : Snapshot × View σ => ((), { p.2 with observer := { p.2.observer with
      last := p.1, previous := p.2.observer.last } }))
    (lookupAll E (group E RegisterSet.common ⟨o, s⟩).1 (group E RegisterSet.common ⟨o, s⟩).2) = _
  rw [hco, hco']

end

section

variable {E : Engine σ ν τ} {s : σ} {R : RegisterPlace → Option UInt64 → Prop}

theorem exact_right : Exact E s (Right E s) := by
  intro f hf name x
  constructor
  · exact fun h => h f hf rfl
  · intro hx g hg _
    cases Option.some.inj (hf.symm.trans hg)
    exact hx

theorem Exact.determines (hR : Exact E s R) :
    Determines E s (Recalls R) fun f name => readAt E f name s where
  hit hc hf hx := (hR _ hf _ _).1 (hc _ _ hx)
  miss {c f name} _ _ _ := by rw [readAt_cs, readAt]
  store {c f} hc hf name := by
    intro place x hx
    rw [Cache.get?_insert] at hx
    split at hx
    · rename_i hp
      cases hx
      rw [hp, hR f hf]
    · exact hc place x hx

theorem lookupAt_readAt (hE : E.IsQuiet) (name : String) :
    lookupAt E s (fun f name => readAt E f name s) name = (liveLookup E name s).1 := by
  rw [liveLookup_apply hE, live_apply hE, lookupAt]

theorem get_yields (hE : E.IsQuiet) (hR : Exact E s R) (name : String) :
    Yields s R (get E name) (live E name s).1 := by
  rw [live_apply hE]
  exact get_yieldsUnder hE hR.determines name

theorem lookup_yields (hE : E.IsQuiet) (hR : Exact E s R) (name : String) :
    Yields s R (lookup E name) (liveLookup E name s).1 := by
  rw [← lookupAt_readAt hE]
  exact lookup_yieldsUnder hE hR.determines name

theorem liveAll_eq_map (hE : E.IsQuiet) (names : List String) :
    liveAll E names s = names.map fun name =>
      (name, lookupAt E s (fun f name => readAt E f name s) name) := by
  simp only [liveAll, lookupAt_readAt hE]

theorem items_yields (hE : E.IsQuiet) (hR : Exact E s R) :
    Yields s R (items E) (liveAll E (groupAt E RegisterSet.all s) s) := by
  rw [liveAll_eq_map hE]
  exact .bind (group_yieldsUnder hE _) (lookupAll_yieldsUnder hE hR.determines _)

theorem changedAmong_yields (hE : E.IsQuiet) (hR : Exact E s R) (snapshot : Snapshot) :
    Yields s R (changedAmong E snapshot)
      ((snapshot.filter fun (name, x) => (liveLookup E name s).1 ≠ x).map (·.1)) := by
  induction snapshot with
  | nil => exact .pure _
  | cons entry rest ih =>
    refine .bind (lookup_yields hE hR entry.1) (.bind ih ?_)
    rw [List.filter_cons]
    split <;> simp_all [Yields.pure]

theorem snapshotCommon_apply (hE : E.IsQuiet) (hR : Exact E s R) {o : Observer}
    (ho : Recalls R o.caches) :
    ∃ c, Recalls R c ∧ snapshotCommon E ⟨o, s⟩ = ((), ⟨{ o with
      caches := c, last := liveAll E (groupAt E RegisterSet.common s) s,
      previous := o.last }, s⟩) := by
  rw [liveAll_eq_map hE]
  exact snapshotCommon_of_determines hE hR.determines ho

end

end Registers

end Debuggee
