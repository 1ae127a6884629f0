import Debuggee.Proofs.Auxv.StartStack
import Debuggee.Proofs.Boundary.StackTop
import Debuggee.Proofs.Loop

/-!
Where a walk of a stack goes, whatever lies on the stack. Three of its loops have no bound: down to
a pair of zeros, down to the start of the vector, and up through the vector.
-/

namespace Debuggee

variable {σ ν τ : Type}

namespace AuxvSource

open Debuggee.Action Ending

section

variable (E : Engine σ ν τ) (size : Nat)

/-! ### The loops without a bound -/

def zeroPairStep (a : Address) : Action σ (Address ⊕ Address) := do
  if ← isZeroPair E size a then return .inr a
  return .inl (← down size a 2)

def startStep (a : Address) : Action σ (Address ⊕ Address) := do
  let below ← down size a 2
  if (← Memory.pointer E below) < kindLimit then return .inl below
  return .inr a

def readStep (place : Address × Auxv) : Action σ (Address × Auxv ⊕ Auxv) := do
  let kind ← Memory.pointer E place.1
  if kind = 0 then return .inr place.2
  let word ← Memory.pointer E (← up size place.1 1)
  let v ← Action.ofState (set E place.2 kind word)
  return .inl (← up size place.1 2, v)

def Walks (a : Address) (skew : Nat) : Ending σ Auxv :=
  .Then (fun s r t => ∃ top, r = .ok top ∧ Boundary.Climbs E s a.page top t) fun top =>
  .Then (.of (down size top (skew + 2))) fun cursor =>
  .Then (.Loop (zeroPairStep E size) cursor) fun last =>
  .Then (.of (seekBase E size baseSearchLimit last)) fun
    | none => .of (pure {})
    | some base =>
      .Then (.Loop (startStep E size) base) fun first => .Loop (readStep E size) (first, {})

end

variable {E : Engine σ ν τ} {size : Nat}

theorem seekZeroPair_eq (pairs : Nat) (a : Address) :
    seekZeroPair E size pairs a =
      zeroPairStep E size a >>= Loop.follow (seekZeroPair E size) id pairs := by
  unfold zeroPairStep
  rw [bind_assoc]
  cases pairs with
  | zero =>
    refine bind_congr fun isZero => ?_
    cases isZero with
    | true => rfl
    | false => simp [Loop.follow]
  | succ pairs =>
    refine bind_congr fun isZero => ?_
    cases isZero with
    | true => rfl
    | false => simp [Loop.follow]

theorem seekStart_eq (pairs : Nat) (a : Address) :
    seekStart E size pairs a =
      startStep E size a >>= Loop.follow (seekStart E size) id pairs := by
  unfold startStep
  simp only [bind_assoc]
  cases pairs with
  | zero =>
    refine bind_congr fun below => bind_congr fun kind => ?_
    split <;> simp [Loop.follow]
  | succ pairs =>
    refine bind_congr fun below => bind_congr fun kind => ?_
    split <;> simp [Loop.follow]

theorem readUp_eq_readStep (pairs : Nat) (place : Address × Auxv) :
    readUp E size pairs place.1 place.2 =
      readStep E size place >>=
        Loop.follow (fun n p => readUp E size n p.1 p.2) Prod.snd pairs := by
  unfold readStep
  rw [readUp_eq, bind_assoc]
  refine bind_congr fun kind => ?_
  split
  · rfl
  · simp only [bind_assoc, pure_bind]
    refine bind_congr fun above => bind_congr fun word => bind_congr fun v => ?_
    refine bind_congr fun next => ?_
    cases pairs <;> rfl

end AuxvSource

namespace Target

open AuxvSource Debuggee.Action Ending

variable {E : Engine σ ν τ} {T : Target E}

/-! ### What one step does -/

theorem WordAt.size_le {a : Nat} {word : UInt64} (h : T.WordAt a word) : T.size ≤ 8 := by
  obtain ⟨bytes, -, hlength, hdecode⟩ := wordAt_iff.1 h
  rw [ByteOrder.decode?, hlength] at hdecode
  split at hdecode
  · omega
  · cases hdecode

theorem WordAt.unique {a : Nat} {word word' : UInt64} (h : T.WordAt a word)
    (h' : T.WordAt a word') : word' = word := Option.some.inj (h'.symm.trans h)

theorem settles_pointer (hE : E.IsStill) (T : Target E) (a : Address) :
    Settles (Memory.pointer E a) T.state (T.WordAt a.toNat)
      (fun e => T.word? a.toNat = none ∧ e = .memoryRead a T.size) := by
  cases hword : T.word? a.toNat with
  | some word =>
    have hread := answers_pointer hE (show T.WordAt a.toNat word from hword)
    rw [UInt64.ofNat_toNat] at hread
    exact .inl ⟨word, hword, hread⟩
  | none =>
    refine .inr ⟨_, ⟨rfl, rfl⟩, ?_⟩
    have hcurrent : E.currentArch.Answers T.state T.arch :=
      .bind T.answers_inferior (T.answers_archOf hE)
    rw [word?, UInt64.ofNat_toNat] at hword
    rw [Memory.pointer, bind_apply, hcurrent]
    dsimp only
    rw [Memory.word, bind_apply, T.answers_inferior]
    dsimp only
    rw [bind_apply, T.answers_archOf hE]
    dsimp only
    rw [bind_apply, Engine.read, orFail]
    have hstill := hE.readMemory T.inferior a T.size T.state
    rw [show T.arch.pointerSize = T.size from rfl]
    rcases hread : E.readMemory T.inferior a T.size T.state with ⟨e | bytes, s⟩
    · rw [hread] at hstill
      rw [show s = T.state from hstill]
    · rw [hread] at hstill hword
      rw [show s = T.state from hstill]
      dsimp only
      rw [show (if bytes.length = T.size then T.arch.order.decode? bytes else none) = none
        from hword]
      rfl

theorem settles_down (size words : Nat) (a : Address) (s : σ) :
    Settles (down size a words : Action σ Address) s
      (fun b => b.toNat + distance size words = a.toNat)
      (fun e => a.toNat < distance size words ∧ e = .memoryRead a size) := by
  unfold down
  cases h : a.sub? (distance size words) with
  | some b =>
    have hle : distance size words ≤ a.toNat :=
      Nat.not_lt.1 fun hlt => Option.some_ne_none _ (h.symm.trans (Address.sub?_eq_none_iff.2 hlt))
    have hb : b.toNat + distance size words = a.toNat := by
      rw [Address.toNat_of_sub? h, Nat.sub_add_cancel hle]
    exact .inl ⟨b, hb, rfl⟩
  | none => exact .inr ⟨_, ⟨Address.sub?_eq_none_iff.1 h, rfl⟩, rfl⟩

theorem settles_up (size words : Nat) (a : Address) (s : σ) :
    Settles (up size a words : Action σ Address) s
      (fun b => b.toNat = a.toNat + distance size words)
      (fun e => UInt64.size ≤ a.toNat + distance size words ∧ e = .memoryRead a size) := by
  unfold up
  cases h : a.add? (distance size words) with
  | some b => exact .inl ⟨b, Address.toNat_of_add? h, rfl⟩
  | none => exact .inr ⟨_, ⟨Address.add?_eq_none_iff.1 h, rfl⟩, rfl⟩

theorem distance_of_le {size words : Nat} (hsize : size ≤ 8) (hwords : words ≤ 2) :
    distance size words = words * size :=
  Nat.mod_eq_of_lt (Nat.lt_of_le_of_lt (Nat.mul_le_mul hwords hsize) (by decide))

section

variable (T)

def Breaks (a c : Nat) : Prop :=
  (c = a ∨ c = a + T.size) ∧ T.word? c = none ∨ c = a ∧ a < T.pairSize

def FailsAt (a : Nat) (e : Error) : Prop :=
  ∃ c : Address, (T.Breaks a c.toNat ∨ UInt64.size ≤ a + 16) ∧ e = .memoryRead c T.size

end

theorem settles_first (hE : E.IsStill) (T : Target E) (a : Address) :
    Settles (Memory.pointer E a) T.state (T.WordAt a.toNat) (T.FailsAt a.toNat) :=
  (settles_pointer hE T a).mono (fun _ => id) fun _ ⟨hnone, he⟩ =>
    ⟨a, .inl (.inl ⟨.inl rfl, hnone⟩), he⟩

theorem settles_second (hE : E.IsStill) (T : Target E) (a : Address) (hsize : T.size ≤ 8) :
    Settles (up T.size a 1 >>= Memory.pointer E) T.state (T.WordAt (a.toNat + T.size))
      (T.FailsAt a.toNat) := by
  have hword : distance T.size 1 = T.size := by
    rw [distance_of_le hsize (by decide), Nat.one_mul]
  refine ((settles_up T.size 1 a T.state).mono (fun _ => id) ?_).bind fun b hb => ?_
  · rintro e ⟨hle, rfl⟩
    exact ⟨a, .inr (by omega), rfl⟩
  · rw [hword] at hb
    refine (settles_pointer hE T b).mono (fun word h => hb ▸ h) ?_
    rintro e ⟨hnone, rfl⟩
    exact ⟨b, .inl (.inl ⟨.inr hb, hnone⟩), rfl⟩

theorem settles_pairBelow (T : Target E) (a : Address) (hsize : T.size ≤ 8) :
    Settles (down T.size a 2 : Action σ Address) T.state
      (fun b => b.toNat + T.pairSize = a.toNat) (T.FailsAt a.toNat) := by
  have hpair : distance T.size 2 = T.pairSize := distance_of_le hsize (Nat.le_refl 2)
  rw [← hpair]
  refine (settles_down T.size 2 a T.state).mono (fun _ => id) ?_
  rintro e ⟨hlt, rfl⟩
  exact ⟨a, .inl (.inr ⟨rfl, hpair ▸ hlt⟩), rfl⟩

theorem settles_isZeroPair (hE : E.IsStill) (T : Target E) (a : Address) :
    Settles (isZeroPair E T.size a) T.state
      (fun isZero => (isZero = true ↔ T.PairAt a.toNat (0, 0)) ∧ ∃ kind, T.WordAt a.toNat kind)
      (T.FailsAt a.toNat) := by
  unfold isZeroPair
  refine (settles_first hE T a).bind fun kind hkind => ?_
  by_cases hzero : kind = 0
  · subst hzero
    rw [if_neg (not_not_intro rfl), ← bind_assoc]
    refine (settles_second hE T a hkind.size_le).bind fun word hword => .pure ⟨?_, 0, hkind⟩
    rw [decide_eq_true_iff]
    constructor
    · rintro rfl
      exact ⟨hkind, hword⟩
    · exact fun h => h.2.unique hword
  · rw [if_pos hzero]
    exact .pure ⟨iff_of_false Bool.false_ne_true fun h => hzero (h.1.unique hkind), kind, hkind⟩

theorem settles_zeroPairStep (hE : E.IsStill) (T : Target E) (a : Address) :
    Settles (zeroPairStep E T.size a) T.state
      (Sum.elim
        (fun b => b.toNat + T.pairSize = a.toNat ∧ 0 < T.size ∧ ¬ T.PairAt a.toNat (0, 0))
        (fun last => last = a ∧ T.PairAt a.toNat (0, 0)))
      (T.FailsAt a.toNat) := by
  refine (settles_isZeroPair hE T a).bind fun isZero ⟨hiff, kind, hkind⟩ => ?_
  cases isZero with
  | true => exact .pure ⟨rfl, hiff.1 rfl⟩
  | false =>
    exact (settles_pairBelow T a hkind.size_le).bind fun b hb =>
      .pure ⟨hb, hkind.size_pos, fun h => Bool.false_ne_true (hiff.2 h)⟩

theorem settles_startStep (hE : E.IsStill) (T : Target E) (a : Address) (hsize : T.size ≤ 8) :
    Settles (startStep E T.size a) T.state
      (Sum.elim
        (fun b => b.toNat + T.pairSize = a.toNat ∧ ∃ kind, T.WordAt b.toNat kind ∧ kind < kindLimit)
        (fun first => first = a ∧ ∃ b kind, b + T.pairSize = a.toNat ∧ T.WordAt b kind ∧
          kindLimit ≤ kind))
      (fun e => ∃ c, T.FailsAt c e ∧ (c = a.toNat ∨ c + T.pairSize = a.toNat)) := by
  refine ((settles_pairBelow T a hsize).mono (fun _ => id) fun e he =>
    ⟨_, he, .inl rfl⟩).bind fun b hb => ?_
  refine ((settles_first hE T b).mono (fun _ => id) fun e he =>
    ⟨_, he, .inr hb⟩).bind fun kind hkind => ?_
  split
  · next hlt => exact .pure ⟨hb, kind, hkind, hlt⟩
  · next hle => exact .pure ⟨rfl, b.toNat, kind, hb, hkind, UInt64.not_lt.1 hle⟩

theorem settles_readStep (hE : E.IsStill) (T : Target E) (a : Address) (v : Auxv) :
    Settles (readStep E T.size (a, v)) T.state
      (Sum.elim
        (fun place => ∃ pair, T.PairAt a.toNat pair ∧ pair.1 ≠ 0 ∧
          place.1.toNat = a.toNat + T.pairSize ∧
            place.2 = v.insert pair.1 (T.entry pair.1 pair.2))
        (fun w => w = v ∧ T.WordAt a.toNat 0))
      (T.FailsAt a.toNat) := by
  refine (settles_first hE T a).bind fun kind hkind => ?_
  split
  · next hzero => exact .pure ⟨rfl, hzero ▸ hkind⟩
  · next hne =>
    have hsize := hkind.size_le
    have hpair : distance T.size 2 = T.pairSize := distance_of_le hsize (Nat.le_refl 2)
    have hdouble : T.pairSize = 2 * T.size := rfl
    rw [← bind_assoc]
    refine (settles_second hE T a hsize).bind fun word hword => ?_
    have hset : (Action.ofState (set E v kind word)).Answers T.state _ :=
      .ofState (set_apply hE T v kind word)
    refine .bind (.inl ⟨_, rfl, hset⟩) ?_
    rintro _ rfl
    refine ((settles_up T.size 2 a T.state).mono (fun _ => id) ?_).bind fun b hb => ?_
    · rintro e ⟨hle, rfl⟩
      exact ⟨a, .inr (by omega), rfl⟩
    · exact .pure ⟨(kind, word), ⟨hkind, hword⟩, hne, hpair ▸ hb, rfl⟩

/-! ### The loops end -/

theorem pairsBelow_eq_succ {a b : Address} (hpos : 0 < T.size)
    (hb : b.toNat + T.pairSize = a.toNat) :
    pairsBelow T.size a = pairsBelow T.size b + 1 := by
  rw [pairsBelow, pairsBelow, ← hb]
  exact Nat.add_div_right _ (Nat.mul_pos (by decide) hpos)

theorem pairsAbove_eq_succ {a b : Address} (hpos : 0 < T.size)
    (hb : b.toNat = a.toNat + T.pairSize) :
    pairsAbove T.size a = pairsAbove T.size b + 1 := by
  have hlt : b.toNat < UInt64.size := b.toNat_lt
  rw [pairsAbove, pairsAbove, ← Nat.add_div_right _ (Nat.mul_pos (by decide) hpos)]
  have hsize : T.pairSize = 2 * T.size := rfl
  congr 1
  omega

theorem isThat_seekZeroPair (hE : E.IsStill) (T : Target E) (a : Address) :
    (Loop (zeroPairStep E T.size) a).IsThat
      (seekZeroPair E T.size (pairsBelow T.size a) a) T.state := by
  refine Loop.isThat (pairsBelow T.size) seekZeroPair_eq (fun {a a' s'} h => ?_) a
  obtain ⟨rfl, hb, hpos, -⟩ := (settles_zeroPairStep hE T a).of_eq_ok h
  exact ⟨rfl, pairsBelow_eq_succ hpos hb⟩

theorem isThat_seekStart (hE : E.IsStill) (T : Target E) (hsize : T.size ≤ 8) (a : Address) :
    (Loop (startStep E T.size) a).IsThat
      (seekStart E T.size (pairsBelow T.size a) a) T.state := by
  refine Loop.isThat (pairsBelow T.size) seekStart_eq (fun {a a' s'} h => ?_) a
  obtain ⟨rfl, hb, kind, hkind, -⟩ := (settles_startStep hE T a hsize).of_eq_ok h
  exact ⟨rfl, pairsBelow_eq_succ hkind.size_pos hb⟩

theorem isThat_readUp (hE : E.IsStill) (T : Target E) (a : Address) (v : Auxv) :
    (Loop (readStep E T.size) (a, v)).IsThat
      (readUp E T.size (pairsAbove T.size a) a v) T.state := by
  refine Loop.isThat (fun place => pairsAbove T.size place.1) readUp_eq_readStep
    (fun {place place' s'} h => ?_) (a, v)
  obtain ⟨rfl, pair, hpair, -, hb, -⟩ := (settles_readStep hE T place.1 place.2).of_eq_ok h
  exact ⟨rfl, pairsAbove_eq_succ hpair.1.size_pos hb⟩

/-! ### Pairs in line with each other -/

section

variable (T)

def OnGrid (high a : Nat) : Prop := ∃ k, a + k * T.pairSize = high

/-- An error of a walk from the pair at `start` down: it breaks off in line with that pair. -/
def BreaksOff (start : Nat) (e : Error) : Prop :=
  ∃ a, T.OnGrid start a ∧ ∃ c : Address, T.Breaks a c.toNat ∧ e = .memoryRead c T.size

def FailsFrom (start : Nat) (e : Error) : Prop := ∃ a, T.OnGrid start a ∧ T.FailsAt a e

def zeroPairs (start : Nat) : Set Nat := {a | T.OnGrid start a ∧ T.PairAt a (0, 0)}

def baseEntries (pairs last : Nat) : Set Nat :=
  {a | ∃ k < pairs, a + k * T.pairSize = last ∧ T.WordAt a AuxvKind.base}

def starts (base : Nat) : Set Nat :=
  {a | ∃ k, a + k * T.pairSize = base ∧
    ∀ j < k, ∃ kind, T.WordAt (a + j * T.pairSize) kind ∧ kind < kindLimit}

end

namespace OnGrid

variable {high a b : Nat}

theorem refl (T : Target E) (a : Nat) : T.OnGrid a a := ⟨0, by omega⟩

theorem le (h : T.OnGrid high a) : a ≤ high := by
  obtain ⟨k, rfl⟩ := h
  exact Nat.le_add_right ..

theorem below (h : T.OnGrid high a) (hb : b + T.pairSize = a) : T.OnGrid high b := by
  obtain ⟨k, rfl⟩ := h
  exact ⟨k + 1, by rw [Nat.succ_mul]; omega⟩

theorem above (h : T.OnGrid high a) (hne : a ≠ high) : T.OnGrid high (a + T.pairSize) := by
  obtain ⟨k | k, hk⟩ := h
  · omega
  · rw [Nat.succ_mul] at hk
    exact ⟨k, by omega⟩

theorem trans (h : T.OnGrid high a) (hb : T.OnGrid a b) : T.OnGrid high b := by
  obtain ⟨k, rfl⟩ := h
  obtain ⟨j, rfl⟩ := hb
  exact ⟨j + k, by rw [Nat.add_mul]; omega⟩

theorem add_pairSize_le (ha : T.OnGrid high a) (hb : T.OnGrid high b) (hlt : a < b) :
    a + T.pairSize ≤ b := by
  obtain ⟨i, hi⟩ := ha
  obtain ⟨j, hj⟩ := hb
  rcases Nat.lt_or_ge j i with hji | hij
  · have := Nat.mul_le_mul_right T.pairSize (Nat.succ_le_of_lt hji)
    rw [Nat.succ_mul] at this
    omega
  · have := Nat.mul_le_mul_right T.pairSize hij
    omega

end OnGrid

theorem FailsFrom.trans {high low : Nat} {e : Error} (h : T.FailsFrom low e)
    (hlow : T.OnGrid high low) : T.FailsFrom high e := by
  obtain ⟨a, ha, hc⟩ := h
  exact ⟨a, hlow.trans ha, hc⟩

theorem FailsFrom.breaksOff {start : Nat} {e : Error} (h : T.FailsFrom start e)
    (hstart : start + 16 < UInt64.size) : T.BreaksOff start e := by
  obtain ⟨a, ha, c, hc, rfl⟩ := h
  have hle := ha.le
  exact ⟨a, ha, c, hc.resolve_right (by omega), rfl⟩

/-! ### What each loop finds -/

theorem settles_seekZeroPair (hE : E.IsStill) (T : Target E) (start : Address) :
    Settles (seekZeroPair E T.size (pairsBelow T.size start) start) T.state
      (fun last => IsGreatest (T.zeroPairs start.toNat) last.toNat) (T.FailsFrom start.toNat) := by
  -- no pair above the one the loop is at is a pair of zeros
  let Inv (a : Address) : Prop := T.OnGrid start.toNat a.toNat ∧
    ∀ b ∈ T.zeroPairs start.toNat, b ≤ a.toNat
  refine Loop.settles Inv (fun a ⟨hgrid, habove⟩ => ?_) (isThat_seekZeroPair hE T start)
    ⟨.refl T _, fun b hb => hb.1.le⟩
  refine (settles_zeroPairStep hE T a).mono ?_ fun e he => ⟨_, hgrid, he⟩
  rintro (b | last)
  · rintro ⟨hb, -, hne⟩
    have hgrid' := hgrid.below hb
    refine ⟨hgrid', fun c hc => ?_⟩
    by_contra hlt
    have hle := hgrid'.add_pairSize_le hc.1 (Nat.not_le.1 hlt)
    have heq : c = a.toNat := Nat.le_antisymm (habove c hc) (hb ▸ hle)
    exact hne (heq ▸ hc.2)
  · rintro ⟨rfl, hzero⟩
    exact ⟨⟨hgrid, hzero⟩, habove⟩

theorem baseEntries_succ {pairs a b : Nat} (hb : b + T.pairSize = a)
    (hne : ¬ T.WordAt a AuxvKind.base) : T.baseEntries (pairs + 1) a = T.baseEntries pairs b := by
  ext c
  constructor
  · rintro ⟨k | k, hk, hc, hbase⟩
    · rw [Nat.zero_mul, Nat.add_zero] at hc
      exact absurd (hc ▸ hbase) hne
    · rw [Nat.succ_mul] at hc
      exact ⟨k, Nat.lt_of_succ_lt_succ hk, by omega, hbase⟩
  · rintro ⟨k, hk, hc, hbase⟩
    exact ⟨k + 1, Nat.succ_lt_succ hk, by rw [Nat.succ_mul]; omega, hbase⟩

theorem settles_seekBase (hE : E.IsStill) (T : Target E) (pairs : Nat) (last : Address) :
    Settles (seekBase E T.size pairs last) T.state
      (fun base? => ∀ base ∈ base?, IsGreatest (T.baseEntries pairs last.toNat) base.toNat)
      (T.FailsFrom last.toNat) := by
  induction pairs generalizing last with
  | zero => exact .inl ⟨none, nofun, rfl⟩
  | succ pairs ih =>
    unfold seekBase
    have hfails (e : Error) (he : T.FailsAt last.toNat e) : T.FailsFrom last.toNat e :=
      ⟨_, .refl T _, he⟩
    refine ((settles_first hE T last).mono (fun _ => id) hfails).bind fun kind hkind => ?_
    split
    · next hbase =>
      refine .pure ?_
      rintro base ⟨⟩
      refine ⟨⟨0, Nat.succ_pos _, by omega, hbase ▸ hkind⟩, ?_⟩
      rintro a ⟨k, -, hk, -⟩
      exact OnGrid.le ⟨k, hk⟩
    · next hne =>
      refine ((settles_pairBelow T last hkind.size_le).mono (fun _ => id) hfails).bind
        fun b hb => ?_
      rw [baseEntries_succ hb fun h => hne (h.unique hkind)]
      exact (ih _).mono (fun _ => id) fun e he => he.trans ((OnGrid.refl T _).below hb)

theorem settles_seekStart (hE : E.IsStill) (T : Target E) (hsize : T.size ≤ 8) (base : Address) :
    Settles (seekStart E T.size (pairsBelow T.size base) base) T.state
      (fun first => IsLeast (T.starts base.toNat) first.toNat) (T.FailsFrom base.toNat) := by
  let Inv (a : Address) : Prop := a.toNat ∈ T.starts base.toNat
  refine Loop.settles Inv (fun a hstarts => ?_) (isThat_seekStart hE T hsize base)
    ⟨0, by omega, nofun⟩
  obtain ⟨k, hk, hkinds⟩ := hstarts
  have hgrid : T.OnGrid base.toNat a.toNat := ⟨k, hk⟩
  refine (settles_startStep hE T a hsize).mono ?_ ?_
  · rintro (b | first)
    · rintro ⟨hb, kind, hkind, hlt⟩
      refine ⟨k + 1, by rw [Nat.succ_mul]; omega, fun j hj => ?_⟩
      cases j with
      | zero => exact ⟨kind, by rwa [Nat.zero_mul], hlt⟩
      | succ j =>
        obtain ⟨kind', hkind', hlt'⟩ := hkinds j (by omega)
        refine ⟨kind', ?_, hlt'⟩
        rwa [← hb, Nat.add_assoc, Nat.add_comm T.pairSize, ← Nat.succ_mul] at hkind'
    · rintro ⟨rfl, b, kind, hb, hkind, hle⟩
      refine ⟨⟨k, hk, hkinds⟩, fun c ⟨j, hj, hlow⟩ => ?_⟩
      by_contra hlt
      obtain ⟨i, rfl⟩ : ∃ i, j = k + 1 + i := by
        refine Nat.exists_eq_add_of_le (Nat.not_le.1 fun hjk => hlt ?_)
        have := Nat.mul_le_mul_right T.pairSize hjk
        omega
      have hword : c + i * T.pairSize = b := by
        rw [Nat.add_mul, Nat.succ_mul] at hj
        omega
      obtain ⟨kind', hkind', hlt'⟩ := hlow i (by omega)
      rw [hword] at hkind'
      rw [hkind'.unique hkind] at hle
      exact UInt64.not_le.2 hlt' hle
  · rintro e ⟨c, he, rfl | hc⟩
    · exact ⟨_, hgrid, he⟩
    · exact ⟨c, hgrid.below hc, he⟩

structure Spans (T : Target E) (first last : Nat) (pairs : List (UInt64 × UInt64)) : Prop where
  pairsAt : T.PairsAt first pairs
  kind_ne_zero : ∀ pair ∈ pairs, pair.1 ≠ 0
  word_last : T.WordAt last 0
  last_eq : first + pairs.length * T.pairSize = last

theorem settles_readUp (hE : E.IsStill) (T : Target E) {high : Nat} (first : Address)
    (hfirst : T.OnGrid high first.toNat) (hhigh : T.WordAt high 0) :
    Settles (readUp E T.size (pairsAbove T.size first) first {}) T.state
      (fun v => ∃ pairs last, T.Spans first.toNat last pairs ∧ last ≤ high ∧
        v = T.insertAll {} pairs)
      (T.FailsFrom high) := by
  let Inv (place : Address × Auxv) : Prop := ∃ pairs, T.PairsAt first.toNat pairs ∧
    (∀ pair ∈ pairs, pair.1 ≠ 0) ∧ first.toNat + pairs.length * T.pairSize = place.1.toNat ∧
    T.OnGrid high place.1.toNat ∧ place.2 = T.insertAll {} pairs
  refine Loop.settles Inv ?_ (isThat_readUp hE T first {})
    ⟨[], trivial, nofun, by simp, hfirst, rfl⟩
  rintro ⟨a, v⟩ ⟨pairs, hpairs, hkinds, ha, hgrid, rfl⟩
  dsimp only at ha hgrid
  refine (settles_readStep hE T a (T.insertAll {} pairs)).mono ?_ fun e he => ⟨_, hgrid, he⟩
  rintro (⟨b, w⟩ | w)
  · rintro ⟨pair, hpair, hne, hb, hw⟩
    dsimp only at hb hw
    refine ⟨pairs ++ [pair], ?_, ?_, ?_, ?_, ?_⟩
    · rw [pairsAt_append, ha]
      exact ⟨hpairs, hpair, trivial⟩
    · intro p hp
      rcases List.mem_append.1 hp with hp | hp
      · exact hkinds p hp
      · rwa [List.mem_singleton.1 hp]
    · rw [List.length_append, List.length_singleton, Nat.succ_mul, hb, ← ha]
      omega
    · rw [hb]
      refine hgrid.above fun heq => hne ?_
      exact (heq ▸ hhigh).unique hpair.1
    · rw [hw, insertAll, insertAll, List.foldl_append]
      rfl
  · rintro ⟨rfl, hzero⟩
    exact ⟨pairs, a.toNat, ⟨hpairs, hkinds, hzero, ha⟩, hgrid.le, rfl⟩

/-! ### The whole walk -/

/--
What a walk finds from the pair at `start` down: of the pairs in line with that one, `last` is the
highest pair of zeros, `base` the highest entry of the interpreter among so many pairs from there
down, `first` the lowest pair from which all up to that entry can belong to a vector, and `stop` the
first one of number zero from there up.
-/
structure Walked (T : Target E) (start last base first stop : Nat)
    (pairs : List (UInt64 × UInt64)) : Prop where
  isGreatest_last : IsGreatest (T.zeroPairs start) last
  isGreatest_base : IsGreatest (T.baseEntries baseSearchLimit last) base
  isLeast_first : IsLeast (T.starts base) first
  spans : T.Spans first stop pairs
  stop_le : stop ≤ last

theorem settles_readStack (hE : E.IsStill) (T : Target E) (top : Address) (skew : Nat) :
    Settles (readStack E T.size top skew) T.state
      (fun v => v = {} ∨ ∃ start last base first stop pairs,
        start + distance T.size (skew + 2) = top.toNat ∧
          T.Walked start last base first stop pairs ∧ v = T.insertAll {} pairs)
      (fun e => e = .memoryRead top T.size ∧ top.toNat < distance T.size (skew + 2) ∨
        ∃ start, start + distance T.size (skew + 2) = top.toNat ∧ T.FailsFrom start e) := by
  unfold readStack
  refine ((settles_down T.size (skew + 2) top T.state).mono (fun _ => id) ?_).bind
    fun start hstart => ?_
  · rintro e ⟨hlt, rfl⟩
    exact .inl ⟨rfl, hlt⟩
  have hbreaks {high : Nat} (hgrid : T.OnGrid start.toNat high) (e : Error)
      (he : T.FailsFrom high e) :
      e = .memoryRead top T.size ∧ top.toNat < distance T.size (skew + 2) ∨
        ∃ start, start + distance T.size (skew + 2) = top.toNat ∧ T.FailsFrom start e :=
    .inr ⟨start.toNat, hstart, he.trans hgrid⟩
  refine .bind ((settles_seekZeroPair hE T start).mono (fun _ => id) (hbreaks (.refl T _)))
    fun last hlast => ?_
  have hlastGrid := hlast.1.1
  refine .bind ((settles_seekBase hE T _ last).mono (fun _ => id) (hbreaks hlastGrid))
    fun base? hbase? => ?_
  cases base? with
  | none => exact .pure (.inl rfl)
  | some base =>
    have hbase := hbase? base rfl
    obtain ⟨k, -, hk, hword⟩ := hbase.1
    have hbaseGrid : T.OnGrid last.toNat base.toNat := ⟨k, hk⟩
    refine .bind ((settles_seekStart hE T hword.size_le base).mono (fun _ => id)
      (hbreaks (hlastGrid.trans hbaseGrid))) fun first hfirst => ?_
    obtain ⟨j, hj, -⟩ := hfirst.1
    refine (settles_readUp hE T first (hbaseGrid.trans ⟨j, hj⟩) hlast.1.2.1).mono ?_
      (hbreaks hlastGrid)
    rintro v ⟨pairs, stop, hspans, hle, rfl⟩
    exact .inr ⟨_, _, _, _, stop, pairs, hstart, ⟨hlast, hbase, hfirst, hspans, hle⟩, rfl⟩

theorem isThat_walks (hE : E.IsStill) (T : Target E) (a : Address) (skew : Nat) :
    (Walks E T.size a skew).IsThat
      (Action.ofState (Boundary.stackTop E a) >>= fun top => readStack E T.size top skew)
      T.state := by
  refine IsThat.then (fun r t => ?_) fun top s hs => ?_
  · rw [ofState_apply]
    constructor
    · rintro ⟨top, rfl, hclimbs⟩
      rw [Boundary.stackTop, Boundary.climbs_iff.1 hclimbs]
    · rintro ⟨⟩
      exact ⟨_, rfl, Boundary.climbs_climbStack E a.page T.state⟩
  obtain rfl : s = T.state :=
    (congrArg Prod.snd hs).symm.trans (Boundary.along_stackTop hE a T.state)
  refine (isThat_of _ _).then fun cursor s hs => ?_
  obtain rfl : s = T.state :=
    (congrArg Prod.snd hs).symm.trans ((isQuestion_down E _ top _).unchanged hE T.state)
  refine (isThat_seekZeroPair hE T cursor).then fun last s hs => ?_
  obtain ⟨rfl, -⟩ := (settles_seekZeroPair hE T cursor).of_eq_ok hs
  refine (isThat_of _ _).then fun base? s hs => ?_
  obtain ⟨rfl, hbase⟩ := (settles_seekBase hE T _ last).of_eq_ok hs
  cases base? with
  | none => exact isThat_of _ _
  | some base =>
    obtain ⟨⟨-, -, -, hword⟩, -⟩ := hbase base rfl
    refine (isThat_seekStart hE T hword.size_le base).then fun first s hs => ?_
    obtain ⟨rfl, -⟩ := (settles_seekStart hE T hword.size_le base).of_eq_ok hs
    exact isThat_readUp hE T first {}

theorem fromStackPointer_of_sp_none {v : View σ} (hsp : (Registers.sp E v).1 = none)
    (i : Inferior) (skew : Nat) : (fromStackPointer E i skew v).1 = .ok {} := by
  unfold fromStackPointer
  rw [bind_apply, ofState_apply]
  dsimp only
  rw [hsp]
  rfl

/--
A walk of the stack ends, whatever the words on the stack and however many bytes they have. It fails
only where there is no room below, or at a word of the pairs in line with the top that it cannot
read. What it finds, if anything, is the pairs from the start of the vector up to the first one of
number zero, which is no higher than the highest pair of zeros in line with the top.
-/
theorem fromStackPointer_walked (hE : E.IsStill) (T : Target E) {v : View σ}
    (hv : v.engine = T.state) (skew : Nat) :
    let result := (fromStackPointer E T.inferior skew v).1
    ((Registers.sp E v).1 = none → result = .ok {}) ∧
    ∀ sp, (Registers.sp E v).1 = some sp →
      let top := (Boundary.stackTop E sp T.state).1
      (∀ r t, Walks E T.size sp skew T.state r t ↔ r = result ∧ t = T.state) ∧
      (∀ e, result = .error e →
        e = .memoryRead top T.size ∧ top.toNat < distance T.size (skew + 2) ∨
          ∃ start, start + distance T.size (skew + 2) = top.toNat ∧ T.BreaksOff start e) ∧
      ∀ found, result = .ok found → found.isEmpty = false →
        ∃ start last base first stop pairs, start + distance T.size (skew + 2) = top.toNat ∧
          T.Walked start last base first stop pairs ∧ found = T.insertAll {} pairs ∧
            found.get? 0 = none := by
  intro result
  refine ⟨fun hsp => fromStackPointer_of_sp_none hsp _ _, fun sp hsp => ?_⟩
  intro top
  have hresult : result = (readStack E T.size top skew T.state).1 :=
    congrArg Prod.fst (fromStackPointer_apply hE hv hsp skew)
  have hstate : (readStack E T.size top skew T.state).2 = T.state :=
    along_readStack hE _ _ _ T.state
  have hsettles := settles_readStack hE T top skew
  refine ⟨fun r t => ?_, fun e he => ?_, fun found hfound hne => ?_⟩
  · rw [isThat_walks hE T sp skew r t, bind_apply, ofState_apply,
      Boundary.along_stackTop hE sp T.state]
    dsimp only
    rw [Prod.ext_iff, hresult, hstate]
    exact and_congr eq_comm eq_comm
  · rw [hresult] at he
    rcases hsettles with ⟨_, -, h⟩ | ⟨_, hfails, h⟩ <;> rw [h] at he <;> cases he
    refine hfails.imp_right fun ⟨start, hstart, hfails⟩ => ⟨start, hstart, hfails.breaksOff ?_⟩
    have htop : top.toNat ≤ 0xfffffffffffff000 :=
      UInt64.le_iff_toNat_le.1 (Boundary.le_lastPage (Boundary.page_stackTop E sp T.state))
    exact Nat.lt_of_le_of_lt (show start + 16 ≤ 0xfffffffffffff000 + 16 by omega) (by decide)
  · rw [hresult] at hfound
    obtain ⟨-, hfound⟩ := hsettles.of_eq_ok (Prod.ext hfound hstate)
    rcases hfound with rfl | ⟨start, last, base, first, stop, pairs, hstart, hwalked, rfl⟩
    · cases hne
    · exact ⟨start, last, base, first, stop, pairs, hstart, hwalked, rfl,
        get?_insertAll_of_notMem hwalked.spans.kind_ne_zero {}⟩

end Target

namespace Machine

theorem fromStackPointer_walked_stacked :
    let T := stackTarget 0x7ffd0fb0
      [0x7ffd0f00, 0, 6, 0x1000, 7, 0x7fff0000, 9, 0x401040, 0, 0]
    ∃ last base first stop pairs, T.Walked 0x7ffd0ff0 last base first stop pairs ∧
      (T.insertAll {} pairs).get? 9 = some (.int 0x401040) := by
  intro T
  have hsp : (Registers.sp engine (Registers.attached {} T.state)).1 = some 0x7ffd0fb0 :=
    sp_stacked (by decide +kernel)
  have htop : (Boundary.stackTop engine 0x7ffd0fb0 T.state).1 = 0x7ffd1000 := by
    decide +kernel
  have hread : (AuxvSource.readStack engine T.size 0x7ffd1000 0 T.state).1.toOption =
      some ⟨[(6, .int 0x1000), (7, .int 0x7fff0000), (9, .int 0x401040)]⟩ := by
    decide +kernel
  obtain ⟨-, hwalk⟩ := Target.fromStackPointer_walked isStill T
    (v := Registers.attached {} T.state) rfl 0
  obtain ⟨-, -, hfound⟩ := hwalk _ hsp
  rw [Target.fromStackPointer_apply isStill rfl hsp, htop] at hfound
  rcases hresult : (AuxvSource.readStack engine T.size 0x7ffd1000 0 T.state).1 with e | found <;>
    rw [hresult] at hread <;> cases hread
  obtain ⟨start, last, base, first, stop, pairs, hstart, hwalked, hpairs, -⟩ :=
    hfound _ hresult rfl
  obtain rfl : start = 0x7ffd0ff0 := Nat.add_right_cancel (m := 16) hstart
  refine ⟨last, base, first, stop, pairs, hwalked, ?_⟩
  rw [← hpairs]
  rfl

end Machine

end Debuggee
