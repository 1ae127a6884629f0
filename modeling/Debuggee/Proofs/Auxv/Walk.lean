import Debuggee.Proofs.Auxv.Entries
import Debuggee.Proofs.Auxv.Quiet
import Debuggee.Proofs.Auxv.Words

namespace Debuggee

variable {σ ν τ : Type}

namespace Target

variable {E : Engine σ ν τ} {T : Target E}

open AuxvSource

theorem answers_down (size words : Nat) {a : Nat} (h : words * size ≤ a) (ha : a < UInt64.size)
    (s : σ) :
    (down size (.ofNat a) words : Action σ Address).Answers s (.ofNat (a - words * size)) := by
  unfold down
  rw [distance, Nat.mod_eq_of_lt (Nat.lt_of_le_of_lt h ha), Address.sub?,
    UInt64.toNat_ofNat_of_lt' ha, if_pos h]
  exact .pure _

theorem answers_up (size words : Nat) {a : Nat} (h : a + words * size < UInt64.size) (s : σ) :
    (up size (.ofNat a) words : Action σ Address).Answers s (.ofNat (a + words * size)) := by
  have ha : a < UInt64.size := Nat.lt_of_le_of_lt (Nat.le_add_right ..) h
  unfold up
  rw [distance, Nat.mod_eq_of_lt (Nat.lt_of_le_of_lt (Nat.le_add_left ..) h), Address.add?,
    UInt64.toNat_ofNat_of_lt' ha, if_pos h]
  exact .pure _

theorem answers_isZeroPair (hE : E.IsStill) {a : Nat} {pair : UInt64 × UInt64} (h : T.PairAt a pair)
    (ha : a + T.size < UInt64.size) :
    (isZeroPair E T.size (.ofNat a)).Answers T.state (decide (pair = (0, 0))) := by
  have hup : (up T.size (.ofNat a) 1).Answers T.state (.ofNat (a + T.size)) := by
    have := answers_up T.size 1 (a := a) (by omega) T.state
    rwa [Nat.one_mul] at this
  refine .bind (answers_pointer hE h.1) ?_
  by_cases hz : pair.1 = 0
  · have hpair : decide (pair = (0, 0)) = decide (pair.2 = 0) := by
      simp [Prod.ext_iff, hz]
    rw [if_neg (not_not_intro hz), hpair]
    exact .bind hup (.bind (answers_pointer hE h.2) (.pure _))
  · have hpair : decide (pair = (0, 0)) = false := decide_eq_false fun h => hz (Prod.ext_iff.1 h).1
    rw [if_pos hz, hpair]
    exact .pure _

theorem answers_down_pair (T : Target E) {a k : Nat}
    (ha : a + (k + 1) * T.pairSize < UInt64.size) :
    (down T.size (.ofNat (a + (k + 1) * T.pairSize)) 2).Answers T.state
      (.ofNat (a + k * T.pairSize)) := by
  have h := answers_down T.size 2 (a := a + (k + 1) * T.pairSize)
    (Nat.le_trans (Nat.le_mul_of_pos_left _ k.succ_pos) (Nat.le_add_left ..)) ha T.state
  have hsub : a + (k + 1) * T.pairSize - 2 * T.size = a + k * T.pairSize := by
    rw [Nat.succ_mul k, ← Nat.add_assoc]
    exact Nat.add_sub_cancel ..
  rwa [hsub] at h

theorem answers_seekZeroPair (hE : E.IsStill) {a k fuel : Nat} (hk : k ≤ fuel)
    (ha : a + k * T.pairSize + T.size < UInt64.size) (hzero : T.PairAt a (0, 0))
    (habove : ∀ j, j < k → ∃ pair, T.PairAt (a + (j + 1) * T.pairSize) pair ∧ pair ≠ (0, 0)) :
    (seekZeroPair E T.size fuel (.ofNat (a + k * T.pairSize))).Answers T.state (.ofNat a) := by
  induction k generalizing fuel with
  | zero =>
    rw [Nat.zero_mul] at ha ⊢
    unfold seekZeroPair
    exact .bind (answers_isZeroPair hE hzero ha) (.pure _)
  | succ k ih =>
    obtain ⟨pair, hpair, hne⟩ := habove k k.lt_succ_self
    obtain ⟨fuel, rfl⟩ : ∃ fuel', fuel = fuel' + 1 := ⟨fuel - 1, by omega⟩
    have hle : k * T.pairSize ≤ (k + 1) * T.pairSize := Nat.mul_le_mul_right _ k.le_succ
    unfold seekZeroPair
    refine .bind (answers_isZeroPair hE hpair ha) ?_
    rw [decide_eq_false hne]
    exact .bind (T.answers_down_pair (by omega))
      (ih (by omega) (by omega) fun j hj => habove j (by omega))

theorem answers_seekBase (hE : E.IsStill) {a k fuel : Nat} (hk : k < fuel)
    (ha : a + k * T.pairSize < UInt64.size) (hbase : T.WordAt a AuxvKind.base)
    (habove : ∀ j, j < k →
      ∃ kind, T.WordAt (a + (j + 1) * T.pairSize) kind ∧ kind ≠ AuxvKind.base) :
    (seekBase E T.size fuel (.ofNat (a + k * T.pairSize))).Answers T.state (some (.ofNat a)) := by
  obtain ⟨fuel, rfl⟩ : ∃ fuel', fuel = fuel' + 1 := ⟨fuel - 1, by omega⟩
  induction k generalizing fuel with
  | zero =>
    rw [Nat.zero_mul]
    unfold seekBase
    refine .bind (answers_pointer hE hbase) ?_
    rw [if_pos rfl]
    exact .pure _
  | succ k ih =>
    obtain ⟨kind, hkind, hne⟩ := habove k k.lt_succ_self
    obtain ⟨fuel, rfl⟩ : ∃ fuel', fuel = fuel' + 1 := ⟨fuel - 1, by omega⟩
    have hle : k * T.pairSize ≤ (k + 1) * T.pairSize := Nat.mul_le_mul_right _ k.le_succ
    unfold seekBase
    refine .bind (answers_pointer hE hkind) ?_
    rw [if_neg hne]
    exact .bind (T.answers_down_pair ha)
      (ih (by omega) (fun j hj => habove j (by omega)) fuel (by omega))

theorem answers_seekStart (hE : E.IsStill) {a k fuel : Nat} (hk : k ≤ fuel)
    (ha : a + (k + 1) * T.pairSize < UInt64.size) {below : UInt64} (hbelow : T.WordAt a below)
    (hlimit : kindLimit ≤ below)
    (hkinds : ∀ j, j < k → ∃ kind, T.WordAt (a + (j + 1) * T.pairSize) kind ∧ kind < kindLimit) :
    (seekStart E T.size fuel (.ofNat (a + (k + 1) * T.pairSize))).Answers T.state
      (.ofNat (a + T.pairSize)) := by
  induction k generalizing fuel with
  | zero =>
    have hdown := T.answers_down_pair ha
    rw [Nat.zero_mul, Nat.add_zero] at hdown
    unfold seekStart
    refine .bind hdown (.bind (answers_pointer hE hbelow) ?_)
    rw [if_neg (UInt64.not_lt.2 hlimit), Nat.zero_add, Nat.one_mul]
    exact .pure _
  | succ k ih =>
    obtain ⟨kind, hkind, hlt⟩ := hkinds k k.lt_succ_self
    obtain ⟨fuel, rfl⟩ : ∃ fuel', fuel = fuel' + 1 := ⟨fuel - 1, by omega⟩
    have hle : (k + 1) * T.pairSize ≤ (k + 1 + 1) * T.pairSize := Nat.mul_le_mul_right _ (by omega)
    unfold seekStart
    refine .bind (T.answers_down_pair ha) (.bind (answers_pointer hE hkind) ?_)
    rw [if_pos hlt]
    exact ih (by omega) (by omega) fun j hj => hkinds j (by omega)

section

variable (T)

def entry (kind word : UInt64) : AuxvValue := .kept kind word (followString E word T.state).1

def insertAll (v : Auxv) (pairs : List (UInt64 × UInt64)) : Auxv :=
  pairs.foldl (fun v pair => v.insert pair.1 (T.entry pair.1 pair.2)) v

end

theorem set_apply (hE : E.IsStill) (T : Target E) (v : Auxv) (kind word : UInt64) :
    AuxvSource.set E v kind word T.state = (v.insert kind (T.entry kind word), T.state) :=
  Prod.ext (set_fst E v kind word T.state) ((isQuestion_set E v kind word).unchanged hE T.state)

theorem answers_readUp (hE : E.IsStill) {a fuel : Nat} {pairs : List (UInt64 × UInt64)} (v : Auxv)
    (hfuel : pairs.length ≤ fuel) (ha : a + pairs.length * T.pairSize < UInt64.size)
    (hpairs : T.PairsAt a pairs) (hkinds : ∀ pair ∈ pairs, pair.1 ≠ 0)
    (hend : T.WordAt (a + pairs.length * T.pairSize) 0) :
    (readUp E T.size fuel (.ofNat a) v).Answers T.state (T.insertAll v pairs) := by
  induction pairs generalizing a fuel v with
  | nil =>
    rw [List.length_nil, Nat.zero_mul] at hend
    rw [readUp_eq]
    refine .bind (answers_pointer hE hend) ?_
    rw [if_pos rfl]
    exact .pure _
  | cons pair pairs ih =>
    rw [List.length_cons] at hfuel
    obtain ⟨fuel, rfl⟩ : ∃ fuel', fuel = fuel' + 1 := ⟨fuel - 1, by omega⟩
    have hsize : T.pairSize = 2 * T.size := rfl
    have hlength : a + (pairs.length + 1) * T.pairSize =
        a + T.pairSize + pairs.length * T.pairSize := by
      rw [Nat.succ_mul]
      omega
    rw [List.length_cons, hlength] at ha hend
    rw [readUp_eq]
    refine .bind (answers_pointer hE hpairs.1.1) ?_
    rw [if_neg (hkinds pair (.head _))]
    have hword := answers_up T.size 1 (a := a) (by omega) T.state
    rw [Nat.one_mul] at hword
    refine .bind hword (.bind (answers_pointer hE hpairs.1.2) ?_)
    refine .bind (.ofState (set_apply hE T v pair.1 pair.2)) ?_
    refine .bind (answers_up T.size 2 (by omega) T.state) ?_
    exact ih _ (by omega) ha hpairs.2 (fun p hp => hkinds p (.tail _ hp)) hend

theorem PairsAt.exists_above {a : Nat} {pairs : List (UInt64 × UInt64)}
    (h : T.PairsAt (a + T.pairSize) pairs) {P : UInt64 × UInt64 → Prop}
    (hP : ∀ pair ∈ pairs, P pair) {j : Nat} (hj : j < pairs.length) :
    ∃ pair, T.PairAt (a + (j + 1) * T.pairSize) pair ∧ P pair := by
  refine ⟨pairs[j], ?_, hP _ (List.getElem_mem hj)⟩
  rw [Nat.succ_mul, Nat.add_comm (j * _), ← Nat.add_assoc]
  exact h.getElem hj

/--
A vector on a stack: above a word that cannot be the number of an entry lie the pairs of the vector
and then a pair of zeros, the last of those below the top. The latest entry of the interpreter has
entries below it that the walk passes over and few enough above it.
-/
structure VectorAt (T : Target E) (below top skew : Nat) (low : List (UInt64 × UInt64))
    (base : UInt64) (high above : List (UInt64 × UInt64)) : Prop where
  word_below : ∃ word, T.WordAt below word ∧ kindLimit ≤ word
  pairs : T.PairsAt (below + T.pairSize) ((low ++ (AuxvKind.base, base) :: high) ++ (0, 0) :: above)
  top_eq : top = below + T.pairSize +
    ((low ++ (AuxvKind.base, base) :: high).length + 1 + above.length) * T.pairSize + skew * T.size
  top_lt : top < UInt64.size
  kind_ne_zero : ∀ pair ∈ low ++ (AuxvKind.base, base) :: high, pair.1 ≠ 0
  kind_lt : ∀ pair ∈ low, pair.1 < kindLimit
  kind_ne_base : ∀ pair ∈ high, pair.1 ≠ AuxvKind.base
  length_high : high.length < baseSearchLimit - 1
  above_ne_zero : (0, 0) ∉ above

namespace VectorAt

section

variable (T) (below : Nat) (low high : List (UInt64 × UInt64))

def baseAddress : Nat := below + (low.length + 1) * T.pairSize

def endAddress : Nat := baseAddress T below low + (high.length + 1) * T.pairSize

end

variable {below top skew : Nat} {low high above : List (UInt64 × UInt64)} {base : UInt64}

theorem split (h : T.VectorAt below top skew low base high above) :
    T.PairsAt (below + T.pairSize) low ∧
      T.PairAt (baseAddress T below low) (AuxvKind.base, base) ∧
      T.PairsAt (baseAddress T below low + T.pairSize) high ∧
      T.PairAt (endAddress T below low high) (0, 0) ∧
      T.PairsAt (endAddress T below low high + T.pairSize) above := by
  have hbase : below + T.pairSize + low.length * T.pairSize = baseAddress T below low := by
    rw [baseAddress, Nat.succ_mul]
    omega
  have hend : baseAddress T below low + T.pairSize + high.length * T.pairSize =
      endAddress T below low high := by
    rw [endAddress, Nat.succ_mul]
    omega
  have hpairs := h.pairs
  rw [List.append_assoc, List.cons_append] at hpairs
  obtain ⟨hlow, hpair, hrest⟩ := pairsAt_append.1 hpairs
  rw [hbase] at hpair hrest
  obtain ⟨hhigh, hzero, habove⟩ := pairsAt_append.1 hrest
  rw [hend] at hzero habove
  exact ⟨hlow, hpair, hhigh, hzero, habove⟩

theorem top_eq_endAddress (h : T.VectorAt below top skew low base high above) :
    top = endAddress T below low high + above.length * T.pairSize + (skew + 2) * T.size := by
  have hsize : T.pairSize = 2 * T.size := rfl
  have htop := h.top_eq
  simp only [List.length_append, List.length_cons, endAddress, baseAddress, Nat.add_mul,
    Nat.one_mul] at htop ⊢
  omega

theorem size_pos (h : T.VectorAt below top skew low base high above) : 0 < T.size :=
  h.split.2.1.1.size_pos

theorem le_pairsBelow {a k : Nat} (hpos : 0 < T.size) (ha : a < UInt64.size)
    (hk : k * T.pairSize ≤ a) : k ≤ pairsBelow T.size (.ofNat a) := by
  rw [pairsBelow, UInt64.toNat_ofNat_of_lt' ha]
  exact (Nat.le_div_iff_mul_le (by omega)).2 hk

theorem endAddress_lt (h : T.VectorAt below top skew low base high above) :
    endAddress T below low high + above.length * T.pairSize + T.size < UInt64.size := by
  have htop := h.top_eq_endAddress
  have hlt := h.top_lt
  have hmul : 2 * T.size ≤ (skew + 2) * T.size := Nat.mul_le_mul_right _ (Nat.le_add_left ..)
  omega

theorem seekZeroPair (hE : E.IsStill) (h : T.VectorAt below top skew low base high above) :
    let cursor := UInt64.ofNat (endAddress T below low high + above.length * T.pairSize)
    (AuxvSource.seekZeroPair E T.size (pairsBelow T.size cursor) cursor).Answers T.state
      (.ofNat (endAddress T below low high)) := by
  obtain ⟨-, -, -, hzero, habove⟩ := h.split
  have hlt := h.endAddress_lt
  refine answers_seekZeroPair hE (le_pairsBelow h.size_pos (by omega) (Nat.le_add_left ..)) hlt
    hzero fun j hj => habove.exists_above (fun pair hp hz => ?_) hj
  exact h.above_ne_zero (hz ▸ hp)

theorem seekBase (hE : E.IsStill) (h : T.VectorAt below top skew low base high above) :
    (AuxvSource.seekBase E T.size baseSearchLimit
      (.ofNat (endAddress T below low high))).Answers T.state
        (some (.ofNat (baseAddress T below low))) := by
  obtain ⟨-, hbase, hhigh, hzero, -⟩ := h.split
  have hlt := h.endAddress_lt
  -- the walk begins at the pair of zeros, which is no entry of the interpreter either
  have hpairs : T.PairsAt (baseAddress T below low + T.pairSize) (high ++ [(0, 0)]) := by
    refine pairsAt_append.2 ⟨hhigh, ?_, trivial⟩
    rwa [Nat.add_assoc, Nat.add_comm T.pairSize, ← Nat.succ_mul]
  have hne : ∀ pair ∈ high ++ [(0, 0)], pair.1 ≠ AuxvKind.base := by
    intro pair hp
    rcases List.mem_append.1 hp with hp | hp
    · exact h.kind_ne_base pair hp
    · rw [List.mem_singleton.1 hp]
      decide
  have hlength := h.length_high
  refine answers_seekBase hE (k := high.length + 1) (by omega) ?_ hbase.1 fun j hj => ?_
  · exact Nat.lt_of_le_of_lt (Nat.le_trans (Nat.le_add_right ..) (Nat.le_add_right ..)) hlt
  · obtain ⟨pair, hpair, hkind⟩ := hpairs.exists_above hne (j := j) (by simpa using hj)
    exact ⟨pair.1, hpair.1, hkind⟩

theorem seekStart (hE : E.IsStill) (h : T.VectorAt below top skew low base high above) :
    let cursor := UInt64.ofNat (baseAddress T below low)
    (AuxvSource.seekStart E T.size (pairsBelow T.size cursor) cursor).Answers T.state
      (.ofNat (below + T.pairSize)) := by
  obtain ⟨hlow, -, -, -, -⟩ := h.split
  obtain ⟨word, hword, hlimit⟩ := h.word_below
  have hlt := h.endAddress_lt
  have hle : baseAddress T below low ≤ endAddress T below low high := Nat.le_add_right ..
  have hmul : low.length * T.pairSize ≤ (low.length + 1) * T.pairSize :=
    Nat.mul_le_mul_right _ (Nat.le_succ _)
  have hbase : low.length * T.pairSize ≤ baseAddress T below low :=
    Nat.le_trans hmul (Nat.le_add_left ..)
  refine answers_seekStart hE (le_pairsBelow h.size_pos (by omega) hbase)
    (show baseAddress T below low < _ by omega) hword hlimit fun j hj => ?_
  obtain ⟨pair, hpair, hkind⟩ := hlow.exists_above h.kind_lt hj
  exact ⟨pair.1, hpair.1, hkind⟩

theorem readUp (hE : E.IsStill) (h : T.VectorAt below top skew low base high above) :
    let cursor := UInt64.ofNat (below + T.pairSize)
    (AuxvSource.readUp E T.size (pairsAbove T.size cursor) cursor {}).Answers T.state
      (T.insertAll {} (low ++ (AuxvKind.base, base) :: high)) := by
  obtain ⟨-, -, -, hzero, -⟩ := h.split
  have hlt := h.endAddress_lt
  have hend : below + T.pairSize +
      (low ++ (AuxvKind.base, base) :: high).length * T.pairSize =
        endAddress T below low high := by
    simp only [List.length_append, List.length_cons, endAddress, baseAddress, Nat.add_mul,
      Nat.one_mul]
    omega
  have hpos : 0 < 2 * T.size := Nat.mul_pos (by decide) h.size_pos
  refine answers_readUp hE {} ?_ (by omega) (pairsAt_append.1 h.pairs).1 h.kind_ne_zero ?_
  · rw [pairsAbove, UInt64.toNat_ofNat_of_lt' (by omega), Nat.le_div_iff_mul_le hpos]
    show _ * T.pairSize ≤ _
    omega
  · rw [hend]
    exact hzero.1

end VectorAt

theorem answers_readStack (hE : E.IsStill) {below top skew : Nat}
    {low high above : List (UInt64 × UInt64)} {base : UInt64}
    (h : T.VectorAt below top skew low base high above) :
    (readStack E T.size (.ofNat top) skew).Answers T.state
      (T.insertAll {} (low ++ (AuxvKind.base, base) :: high)) := by
  have htop := h.top_eq_endAddress
  have hdown := answers_down T.size (skew + 2) (by omega) h.top_lt T.state
  rw [htop, Nat.add_sub_cancel] at hdown
  rw [htop]
  unfold readStack
  exact .bind hdown (.bind (h.seekZeroPair hE)
    (.bind (h.seekBase hE) (.bind (h.seekStart hE) (h.readUp hE))))

end Target

end Debuggee
