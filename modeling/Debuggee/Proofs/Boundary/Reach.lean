import Debuggee.Boundary
import Debuggee.Proofs.Engine.Still
import Mathlib.Data.Nat.Find
import Mathlib.Order.Monotone.Basic

/-!
How far the pages around an address can be read, as probing them one after the other shows. Main
statements: upwards the search ends after the readable pages, or at the last address that a pointer
can hold; downwards it ends at the lowest of them.
-/

namespace Debuggee

variable {σ ν τ : Type}

def leadingCount (ok : Nat → Bool) (max : Nat) : Nat :=
  Nat.findGreatest (fun k => ∀ j < k, ok j) max

section

variable {ok : Nat → Bool} {max k : Nat}

@[simp] theorem leadingCount_zero (ok : Nat → Bool) : leadingCount ok 0 = 0 :=
  Nat.findGreatest_zero

theorem ok_of_lt_leadingCount (h : k < leadingCount ok max) : ok k :=
  Nat.findGreatest_spec (P := fun k => ∀ j < k, ok j) (Nat.zero_le max) (by simp) k h

theorem le_leadingCount (hk : k ≤ max) (h : ∀ j < k, ok j) : k ≤ leadingCount ok max :=
  Nat.le_findGreatest hk h

theorem leadingCount_mono : Monotone (leadingCount ok) := fun _ _ h =>
  Nat.findGreatest_mono_right _ h

theorem leadingCount_eq_min (h : ∀ j < k, ok j) (hstop : ¬ ok k) :
    leadingCount ok max = min k max := by
  refine Nat.le_antisymm (Nat.le_min.2 ⟨?_, Nat.findGreatest_le _⟩) ?_
  · exact Nat.not_lt.1 fun hlt => hstop (ok_of_lt_leadingCount hlt)
  · exact le_leadingCount (Nat.min_le_right ..) fun j hj =>
      h j (Nat.lt_of_lt_of_le hj (Nat.min_le_left ..))

theorem leadingCount_eq_zero (h : ¬ ok 0) : leadingCount ok max = 0 :=
  (leadingCount_eq_min (by simp) h).trans (Nat.zero_min max)

theorem leadingCount_succ (h : ok 0) :
    leadingCount ok (max + 1) = leadingCount (fun j => ok (j + 1)) max + 1 := by
  refine Nat.findGreatest_eq_iff.2 ⟨?_, fun _ j hj => ?_, fun k hlt hk hall => ?_⟩
  · exact Nat.succ_le_succ (Nat.findGreatest_le _)
  · cases j with
    | zero => exact h
    | succ j =>
      have hlt : j < leadingCount (fun j => ok (j + 1)) max := Nat.lt_of_succ_lt_succ hj
      have hok := ok_of_lt_leadingCount hlt
      exact hok
  · obtain ⟨k, rfl⟩ : ∃ k', k = k' + 1 := ⟨k - 1, by omega⟩
    have hle : k ≤ leadingCount (fun j => ok (j + 1)) max :=
      le_leadingCount (Nat.le_of_succ_le_succ hk) fun j hj => hall (j + 1) (Nat.succ_lt_succ hj)
    omega

end

/-- While the state is steady, what is read at an address is always the same, or never anything. -/
structure Shows (read : Address → Action σ Bytes) (bytes? : Address → Option Bytes)
    (Steady : σ → Prop) : Prop where
  toOption : ∀ {s}, Steady s → ∀ a, (read a s).1.toOption = bytes? a
  steady : ∀ {s}, Steady s → ∀ a, Steady (read a s).2

namespace Shows

variable {bytes? : Address → Option Bytes} {Steady : σ → Prop}

theorem attempt {read : Address → Action σ Bytes} (h : Shows read bytes? Steady) {s : σ}
    (hs : Steady s) (a : Address) :
    ∃ s', Steady s' ∧ (read a).attempt s = (bytes? a, s') :=
  ⟨_, h.steady hs a, by rw [Action.attempt_apply, h.toOption hs]⟩

theorem read {E : Engine σ ν τ} {i : Inferior} {size : Nat}
    (h : Shows (E.readMemory i · size) bytes? Steady) : Shows (E.read i · size) bytes? Steady where
  toOption {s} hs a := by
    rw [← h.toOption hs a, Engine.read, Action.orFail]
    rcases E.readMemory i a size s with ⟨_ | _, _⟩ <;> rfl
  steady {s} hs a := by
    have hsteady := h.steady hs a
    rw [Engine.read, Action.orFail]
    rcases hread : E.readMemory i a size s with ⟨_ | _, t⟩ <;> rwa [hread] at hsteady

theorem memory_read {E : Engine σ ν τ} {i : Inferior} {size : Nat}
    (h : Shows (E.readMemory i · size) bytes? Steady)
    (hi : ∀ s, Steady s → E.selectedInferior s = some i) :
    Shows (Memory.read E · size) bytes? Steady where
  toOption {s} hs a := by rw [Memory.read_apply (hi s hs), h.read.toOption hs]
  steady {s} hs a := by
    rw [Memory.read_apply (hi s hs)]
    exact h.read.steady hs a

end Shows

theorem Machine.shows (m : Machine) (i : Inferior) (size : Nat) :
    Shows (Machine.engine.readMemory i · size) (fun a => (m.memory.read a size).toOption)
      (· = m) where
  toOption {s} hs a := by
    rw [hs]
    rfl
  steady hs _ := hs

namespace Address

theorem page_eq_self_iff {a : Address} : a.page = a ↔ a.toNat % pageSize = 0 := by
  rw [← UInt64.toNat_inj, toNat_page]
  have hdivision := Nat.div_add_mod' a.toNat pageSize
  omega

@[simp] theorem page_page (a : Address) : a.page.page = a.page := by
  rw [page_eq_self_iff, toNat_page]
  exact Nat.mul_mod_left ..

theorem add?_eq_none_iff {a : Address} {offset : Nat} :
    a.add? offset = none ↔ UInt64.size ≤ a.toNat + offset := by
  simp [add?]

theorem sub?_eq_none_iff {a : Address} {offset : Nat} :
    a.sub? offset = none ↔ a.toNat < offset := by
  simp [sub?]

theorem exists_sub? {a : Address} {offset : Nat} (h : offset ≤ a.toNat) :
    ∃ b, a.sub? offset = some b :=
  Option.ne_none_iff_exists'.1 fun hnone => Nat.not_lt.2 h (sub?_eq_none_iff.1 hnone)

theorem page_of_add? {a b : Address} {offset : Nat} (h : a.add? offset = some b)
    (ha : a.page = a) (hoffset : offset % pageSize = 0) : b.page = b := by
  rw [page_eq_self_iff] at ha ⊢
  rw [toNat_of_add? h, Nat.add_mod, ha, hoffset]
  rfl

theorem page_of_sub? {a b : Address} {offset : Nat} (h : a.sub? offset = some b)
    (ha : a.page = a) (hoffset : offset % pageSize = 0) : b.page = b := by
  rw [page_eq_self_iff] at ha ⊢
  rw [toNat_of_sub? h, Nat.sub_mod_eq_zero_of_mod_eq (ha.trans hoffset.symm)]

theorem add?_add? {a b : Address} {offset : Nat} (h : a.add? offset = some b) (more : Nat) :
    b.add? more = a.add? (offset + more) := by
  rw [add?, add?, toNat_of_add? h, Nat.add_assoc]

theorem sub?_sub? {a b : Address} {offset : Nat} (h : a.sub? offset = some b) (more : Nat) :
    b.sub? more = a.sub? (offset + more) := by
  have hle : offset ≤ a.toNat := by
    unfold sub? at h
    split at h
    · assumption
    · cases h
  have hiff : more ≤ a.toNat - offset ↔ offset + more ≤ a.toNat := by omega
  simp only [sub?, toNat_of_sub? h, hiff, Nat.sub_sub]

theorem sub?_eq_some {a b : Address} {offset : Nat} (h : b.toNat + offset = a.toNat) :
    a.sub? offset = some b := by
  rw [sub?, if_pos (by omega), ← h, Nat.add_sub_cancel, UInt64.ofNat_toNat]

end Address

namespace Boundary

variable {E : Engine σ ν τ} {i : Inferior} {bytes? : Address → Option Bytes} {Steady : σ → Prop}
  {s : σ}

section

-- Unfolded, the sum with a page's size is a tower of successors.
attribute [local irreducible] Address.add? Address.sub?

theorem climb_succ (mask : UInt64) (pages : Nat) (cursor : Address) :
    climb E i mask (pages + 1) cursor = (do
      match ← (E.read i cursor 1).attempt with
      | none => return cursor
      | some _ =>
        match cursor.add? Address.pageSize with
        | none => return mask
        | some next => if next ≤ mask then climb E i mask pages next else return mask) := rfl

theorem descend_succ (pages : Nat) (lowest cursor : Address) :
    descend E i (pages + 1) lowest cursor = (do
      match ← (E.read i cursor 1).attempt with
      | none => return lowest
      | some _ =>
        match cursor.sub? Address.pageSize with
        | none => return 0
        | some below => descend E i pages cursor below) := rfl

end

section

variable (bytes? : Address → Option Bytes) (a : Address)

def readableAbove (j : Nat) : Bool :=
  (a.add? (j * Address.pageSize)).any fun b => (bytes? b).isSome

def readableBelow (j : Nat) : Bool :=
  (a.sub? (j * Address.pageSize)).any fun b => (bytes? b).isSome

def endAbove (mask : UInt64) (pages : Nat) : Nat :=
  if pages = 0 then a.toNat
  else if mask.toNat < a.toNat + pages * Address.pageSize then mask.toNat
  else a.toNat + pages * Address.pageSize

def startBelow (pages : Nat) : Nat := a.toNat - (pages - 1) * Address.pageSize

end

@[simp] theorem endAbove_zero (a : Address) (mask : UInt64) : endAbove a mask 0 = a.toNat :=
  if_pos rfl

theorem endAbove_succ {a next : Address} {mask : UInt64}
    (hnext : a.add? Address.pageSize = some next) (hle : next ≤ mask) (pages : Nat) :
    endAbove a mask (pages + 1) = endAbove next mask pages := by
  have hsum := Address.toNat_of_add? hnext
  have hle := UInt64.le_iff_toNat_le.1 hle
  unfold endAbove
  rw [if_neg (Nat.succ_ne_zero _), Nat.add_mul, Nat.one_mul]
  by_cases hpages : pages = 0
  · rw [if_pos hpages, hpages, Nat.zero_mul, if_neg (by omega)]
    omega
  · rw [if_neg hpages]
    split <;> split <;> omega

theorem endAbove_of_mask_lt {a : Address} {mask : UInt64} {pages : Nat}
    (hlt : mask.toNat < a.toNat + Address.pageSize) : endAbove a mask (pages + 1) = mask.toNat := by
  rw [endAbove, if_neg (Nat.succ_ne_zero _), if_pos (by rw [Nat.add_mul]; omega)]

theorem readableAbove_zero (bytes? : Address → Option Bytes) (a : Address) :
    readableAbove bytes? a 0 = (bytes? a).isSome := by
  have ha : a.add? 0 = some a := by
    rw [Address.add?, Nat.add_zero, if_pos a.toNat_lt, UInt64.ofNat_toNat]
  rw [readableAbove, Nat.zero_mul, ha, Option.any_some]

theorem readableAbove_succ {a next : Address} (h : a.add? Address.pageSize = some next) :
    (fun j => readableAbove bytes? a (j + 1)) = readableAbove bytes? next := by
  funext j
  rw [readableAbove, readableAbove, Address.add?_add? h, Nat.add_mul, Nat.one_mul, Nat.add_comm]

theorem toNat_climb (h : Shows (E.readMemory i · 1) bytes? Steady) (hs : Steady s) (mask : UInt64)
    (pages : Nat) (cursor : Address) :
    (climb E i mask pages cursor s).1.toNat =
      endAbove cursor mask (leadingCount (readableAbove bytes? cursor) pages) := by
  induction pages generalizing cursor s with
  | zero =>
    rw [leadingCount_zero, endAbove_zero]
    rfl
  | succ pages ih =>
    obtain ⟨s', hs', hread⟩ := h.read.attempt hs cursor
    have hfirst := readableAbove_zero bytes? cursor
    simp only [climb_succ, bind, StateT.bind, hread]
    cases hb : bytes? cursor with
    | none =>
      rw [hb] at hfirst
      rw [leadingCount_eq_zero (by simp [hfirst]), endAbove_zero]
      rfl
    | some bytes =>
      rw [hb] at hfirst
      rw [leadingCount_succ hfirst]
      cases hnext : cursor.add? Address.pageSize with
      | none =>
        have hmask : mask.toNat < UInt64.size := mask.toNat_lt
        have hsum := Address.add?_eq_none_iff.1 hnext
        exact (endAbove_of_mask_lt (Nat.lt_of_lt_of_le hmask hsum)).symm
      | some next =>
        dsimp only
        by_cases hle : next ≤ mask
        · rw [if_pos hle, readableAbove_succ hnext, endAbove_succ hnext hle]
          exact ih hs' next
        · have hsum := Address.toNat_of_add? hnext
          rw [UInt64.le_iff_toNat_le] at hle
          rw [if_neg (by rwa [UInt64.le_iff_toNat_le]), endAbove_of_mask_lt (by omega)]
          rfl

theorem startBelow_succ {a below : Address} (h : a.sub? Address.pageSize = some below)
    (pages : Nat) : startBelow a (pages + 1) =
      if pages = 0 then a.toNat else startBelow below pages := by
  have hdiff := Address.toNat_of_sub? h
  unfold startBelow
  cases pages with
  | zero => simp
  | succ pages =>
    rw [if_neg (Nat.succ_ne_zero _), Nat.add_sub_cancel, Nat.add_sub_cancel, Nat.add_mul, hdiff]
    omega

theorem le_of_readableBelow {a : Address} {j : Nat} (h : readableBelow bytes? a j) :
    j * Address.pageSize ≤ a.toNat := by
  unfold readableBelow Address.sub? at h
  split at h
  · assumption
  · cases h

theorem readableBelow_zero (bytes? : Address → Option Bytes) (a : Address) :
    readableBelow bytes? a 0 = (bytes? a).isSome := by
  have ha : a.sub? 0 = some a := by
    rw [Address.sub?, if_pos (Nat.zero_le _), Nat.sub_zero, UInt64.ofNat_toNat]
  rw [readableBelow, Nat.zero_mul, ha, Option.any_some]

theorem readableBelow_succ {a below : Address} (h : a.sub? Address.pageSize = some below) :
    (fun j => readableBelow bytes? a (j + 1)) = readableBelow bytes? below := by
  funext j
  rw [readableBelow, readableBelow, Address.sub?_sub? h, Nat.add_mul, Nat.one_mul, Nat.add_comm]

theorem toNat_descend (h : Shows (E.readMemory i · 1) bytes? Steady) (hs : Steady s) (pages : Nat)
    (lowest : Address) {cursor : Address} (hcursor : cursor.page = cursor) :
    (descend E i pages lowest cursor s).1.toNat =
      if leadingCount (readableBelow bytes? cursor) pages = 0 then lowest.toNat
      else startBelow cursor (leadingCount (readableBelow bytes? cursor) pages) := by
  induction pages generalizing lowest cursor s with
  | zero =>
    rw [leadingCount_zero, if_pos rfl]
    rfl
  | succ pages ih =>
    obtain ⟨s', hs', hread⟩ := h.read.attempt hs cursor
    have hfirst := readableBelow_zero bytes? cursor
    simp only [descend_succ, bind, StateT.bind, hread]
    cases hb : bytes? cursor with
    | none =>
      rw [hb] at hfirst
      rw [leadingCount_eq_zero (by simp [hfirst]), if_pos rfl]
      rfl
    | some bytes =>
      rw [hb] at hfirst
      rw [leadingCount_succ hfirst, if_neg (Nat.succ_ne_zero _)]
      cases hbelow : cursor.sub? Address.pageSize with
      | none =>
        have hlt := Address.sub?_eq_none_iff.1 hbelow
        have hzero : cursor.toNat = 0 := by
          rwa [Address.page_eq_self_iff, Nat.mod_eq_of_lt hlt] at hcursor
        rw [startBelow, hzero, Nat.zero_sub]
        rfl
      | some below =>
        rw [readableBelow_succ hbelow, startBelow_succ hbelow]
        exact ih hs' cursor (Address.page_of_sub? hbelow hcursor (Nat.mod_self _))

def ceiling (E : Engine σ ν τ) (i : Inferior) (s : σ) : UInt64 :=
  ((E.archOf i s).1.toOption.map (·.mask)).getD (byteMask 8)

theorem findUpper_apply (hi : E.selectedInferior s = some i) (a : Address) (max : Nat) :
    findUpper E a max s = climb E i (ceiling E i s) max a.page (E.archOf i s).2 := by
  have hself : (MonadState.get : StateM σ σ) s = (s, s) := rfl
  simp only [findUpper, bind, StateT.bind, hself, hi, Action.attempt_apply]
  rfl

theorem findLower_apply (hi : E.selectedInferior s = some i) (a : Address) (max : Nat) :
    findLower E a max s = descend E i max a.page a.page s := by
  have hself : (MonadState.get : StateM σ σ) s = (s, s) := rfl
  simp only [findLower, bind, StateT.bind, hself, hi]

theorem toNat_findLower (h : Shows (E.readMemory i · 1) bytes? Steady)
    (hi : E.selectedInferior s = some i) (hs : Steady s) (a : Address) (max : Nat) :
    (findLower E a max s).1.toNat =
      startBelow a.page (leadingCount (readableBelow bytes? a.page) max) := by
  rw [findLower_apply hi, toNat_descend h hs max a.page a.page_page]
  split
  · next hzero => rw [hzero, startBelow, Nat.zero_sub, Nat.zero_mul, Nat.sub_zero]
  · rfl

theorem fst_remembered {κ α : Type} [DecidableEq κ] (t : Table κ α) (k : κ)
    (compute : StateM (View σ) α) (v : View σ) :
    (View.remembered t k compute v).1 =
      ((t.get v.observer.caches).get? k).getD (compute v).1 := by
  cases h : (t.get v.observer.caches).get? k with
  | some a => rw [View.remembered_of_get? h, Option.getD_some]
  | none => rw [View.remembered_of_get?_eq_none h, Option.getD_none]

theorem fst_upper (a : Address) (max? : Option Nat) (v : View σ) :
    let max := max?.getD v.observer.config.maxPages
    (upper E a max? v).1 =
      (v.observer.caches.upper.get? (a, max)).getD (findUpper E a max v.engine).1 :=
  fst_remembered .upper _ (View.ask (findUpper E a _)) v

theorem fst_lower (a : Address) (max? : Option Nat) (v : View σ) :
    let max := max?.getD v.observer.config.maxPages
    (lower E a max? v).1 =
      (v.observer.caches.lower.get? (a, max)).getD (findLower E a max v.engine).1 :=
  fst_remembered .lower _ (View.ask (findLower E a _)) v

theorem endAbove_eq_min {a : Address} {mask : UInt64} (h : a ≤ mask) (pages : Nat) :
    endAbove a mask pages = min mask.toNat (a.toNat + pages * Address.pageSize) := by
  have hle := UInt64.le_iff_toNat_le.1 h
  unfold endAbove
  split
  · next hpages =>
    rw [hpages, Nat.zero_mul]
    omega
  · split <;> omega

/--
The search upwards for readable pages, where nothing is remembered: after the pages in a row that
can be read, of so many at most, or the highest address of a pointer where they go beyond it.
-/
theorem toNat_upper (h : Shows (E.readMemory i · 1) bytes? Steady) {v : View σ}
    (hi : E.selectedInferior v.engine = some i) (hs : Steady (E.archOf i v.engine).2) {a : Address}
    (hnone : ∀ max, v.observer.caches.upper.get? (a, max) = none) :
    let mask := ceiling E i v.engine
    (∀ max?, (upper E a max? v).1.toNat =
      let k := leadingCount (readableAbove bytes? a.page) (max?.getD v.observer.config.maxPages)
      if k = 0 then a.page.toNat
      else if mask.toNat < a.page.toNat + k * Address.pageSize then mask.toNat
      else a.page.toNat + k * Address.pageSize) ∧
    (∀ pages max b, pages ≤ max → (∀ j < pages, readableAbove bytes? a.page j) →
      a.page.add? (pages * Address.pageSize) = some b → b ≤ mask → bytes? b = none →
        (upper E a (some max) v).1 = b) ∧
    (a.page ≤ mask → (∀ max?, (upper E a max? v).1 ≤ mask) ∧
      ∀ max more, max ≤ more → (upper E a (some max) v).1 ≤ (upper E a (some more) v).1) := by
  intro mask
  have hupper (max? : Option Nat) : (upper E a max? v).1.toNat = endAbove a.page mask
      (leadingCount (readableAbove bytes? a.page) (max?.getD v.observer.config.maxPages)) := by
    rw [fst_upper, hnone, Option.getD_none, findUpper_apply hi]
    exact toNat_climb h hs mask _ a.page
  refine ⟨hupper, fun pages max b hle hall hb hmask hunreadable => ?_, fun hpage =>
    ⟨fun max? => ?_, fun max more hle => ?_⟩⟩
  · have hsum := Address.toNat_of_add? hb
    have hstop : ¬ readableAbove bytes? a.page pages := by simp [readableAbove, hb, hunreadable]
    have hpage : a.page ≤ mask :=
      UInt64.le_trans (UInt64.le_iff_toNat_le.2 (by omega)) hmask
    have hmask := UInt64.le_iff_toNat_le.1 hmask
    rw [← UInt64.toNat_inj, hupper, leadingCount_eq_min hall hstop, endAbove_eq_min hpage,
      Option.getD_some, Nat.min_eq_left hle, ← hsum, Nat.min_eq_right hmask]
  · rw [UInt64.le_iff_toNat_le, hupper, endAbove_eq_min hpage]
    exact Nat.min_le_left ..
  · have hcount : leadingCount (readableAbove bytes? a.page) max ≤
        leadingCount (readableAbove bytes? a.page) more := leadingCount_mono hle
    have hmul := Nat.mul_le_mul_right Address.pageSize hcount
    rw [UInt64.le_iff_toNat_le, hupper, hupper, endAbove_eq_min hpage, endAbove_eq_min hpage]
    simp only [Option.getD_some]
    omega

def outermostPages : Machine :=
  Machine.mapPages 0 2 ⟨true, false, false⟩ <|
    Machine.mapPages 0xffffe000 2 ⟨true, false, false⟩ <| Machine.initial ⟨"i386", 4, .little⟩

theorem ceiling_outermostPages : ceiling Machine.engine ⟨1⟩ outermostPages = 0xffffffff := by
  have hname : ArchName.ofEngine outermostPages.arch.name = .ok .i386 := by rfl
  rw [ceiling, Machine.fst_archOf hname]
  decide +kernel

theorem toNat_upper_outermostPages :
    let v : View Machine := ⟨{ config := {} }, outermostPages⟩
    Machine.engine.selectedInferior outermostPages = some ⟨1⟩ ∧
      (upper Machine.engine 0xffffe800 (some 1) v).1.toNat = 0xfffff000 ∧
      (upper Machine.engine 0xffffe800 (some 4) v).1.toNat = 0xffffffff := by
  intro v
  have hmask : ceiling Machine.engine ⟨1⟩ v.engine = 0xffffffff := ceiling_outermostPages
  obtain ⟨hupper, -⟩ := toNat_upper (v := v) (outermostPages.shows ⟨1⟩ 1) rfl
    (Machine.isQuiet.snd_archOf ⟨1⟩ outermostPages) (a := 0xffffe800) fun _ => rfl
  rw [hmask] at hupper
  refine ⟨rfl, (hupper (some 1)).trans ?_, (hupper (some 4)).trans ?_⟩ <;> decide +kernel

theorem leadingCount_readableBelow {a start : Address} (hstart : start.page = start)
    (hle : start ≤ a) (hpages : ∀ p : Address, p.page = p → start ≤ p → p ≤ a → (bytes? p).isSome)
    (hend : start = 0 ∨ ∃ below, start.sub? Address.pageSize = some below ∧ bytes? below = none)
    (max : Nat) :
    leadingCount (readableBelow bytes? a.page) max =
      min ((a.page.toNat - start.toNat) / Address.pageSize + 1) max := by
  have hpage := Address.toNat_page a
  have haligned := Address.page_eq_self_iff.1 hstart
  have hle := UInt64.le_iff_toNat_le.1 hle
  refine leadingCount_eq_min (fun j hj => ?_) ?_
  · have hj : start.toNat + j * Address.pageSize ≤ a.page.toNat := by
      unfold Address.pageSize at *
      omega
    obtain ⟨p, hp⟩ := Address.exists_sub? (a := a.page) (Nat.le_trans (Nat.le_add_left ..) hj)
    have hsub := Address.toNat_of_sub? hp
    have hbelow := Nat.div_mul_le_self a.toNat Address.pageSize
    rw [readableBelow, hp, Option.any_some]
    refine hpages p (Address.page_of_sub? hp a.page_page (Nat.mul_mod_left ..)) ?_ ?_
    · rw [UInt64.le_iff_toNat_le]
      omega
    · rw [UInt64.le_iff_toNat_le]
      omega
  · have hsub : a.page.sub? ((a.page.toNat - start.toNat) / Address.pageSize * Address.pageSize) =
        some start := by
      refine Address.sub?_eq_some ?_
      unfold Address.pageSize at *
      omega
    rw [readableBelow, Nat.add_mul, Nat.one_mul, ← Address.sub?_sub? hsub]
    rcases hend with rfl | ⟨below, hbelow, hunreadable⟩
    · exact nofun
    · simp [hbelow, hunreadable]

/--
The search downwards for readable pages, where nothing is remembered: the lowest of the pages in a
row that can be read, of so many at most. So it ends where a range of readable pages begins for
those addresses of the range that are no farther from there than so many pages.
-/
theorem toNat_lower (h : Shows (E.readMemory i · 1) bytes? Steady) {v : View σ}
    (hi : E.selectedInferior v.engine = some i) (hs : Steady v.engine) {a : Address}
    {max? : Option Nat}
    (hnone : v.observer.caches.lower.get? (a, max?.getD v.observer.config.maxPages) = none) :
    let pages := max?.getD v.observer.config.maxPages
    let k := leadingCount (readableBelow bytes? a.page) pages
    (k - 1) * Address.pageSize ≤ a.page.toNat ∧
    (lower E a max? v).1.toNat =
      (if k = 0 then a.page.toNat else a.page.toNat - (k - 1) * Address.pageSize) ∧
    ∀ start : Address, start.page = start → start ≤ a →
      (∀ p : Address, p.page = p → start ≤ p → p ≤ a → (bytes? p).isSome) →
      (start = 0 ∨ ∃ below, start.sub? Address.pageSize = some below ∧ bytes? below = none) →
        ((lower E a max? v).1 = start ↔
          a.toNat < start.toNat + max pages 1 * Address.pageSize) := by
  intro pages k
  have hlower : (lower E a max? v).1.toNat = startBelow a.page k := by
    rw [fst_lower, hnone, Option.getD_none]
    exact toNat_findLower h hi hs a pages
  refine ⟨?_, ?_, fun start hstart hle hpages hend => ?_⟩
  · by_cases hk : k = 0
    · rw [hk, Nat.zero_sub, Nat.zero_mul]
      exact Nat.zero_le _
    · exact le_of_readableBelow (ok_of_lt_leadingCount (Nat.sub_one_lt hk))
  · rw [hlower, startBelow]
    split
    · next hk => rw [hk, Nat.zero_sub, Nat.zero_mul, Nat.sub_zero]
    · rfl
  · have hcount : k = _ := leadingCount_readableBelow hstart hle hpages hend pages
    have hpage := Address.toNat_page a
    rw [Address.page_eq_self_iff] at hstart
    rw [UInt64.le_iff_toNat_le] at hle
    rw [← UInt64.toNat_inj, hlower, startBelow, hcount]
    unfold Address.pageSize at *
    omega

theorem toNat_lower_outermostPages :
    let v : View Machine := ⟨{ config := {} }, outermostPages⟩
    Machine.engine.selectedInferior outermostPages = some ⟨1⟩ ∧
      (lower Machine.engine 0x1800 (some 1) v).1.toNat = 0x1000 ∧
      (lower Machine.engine 0x1800 (some 4) v).1.toNat = 0 := by
  intro v
  have hnone (pages : Nat) : v.observer.caches.lower.get?
      (0x1800, (some pages).getD v.observer.config.maxPages) = none := rfl
  have hlower (pages : Nat) :=
    (toNat_lower (v := v) (outermostPages.shows ⟨1⟩ 1) rfl rfl (hnone pages)).2.1
  refine ⟨rfl, (hlower 1).trans ?_, (hlower 4).trans ?_⟩ <;> decide +kernel

end Boundary

end Debuggee
