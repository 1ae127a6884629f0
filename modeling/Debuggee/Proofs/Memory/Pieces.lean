import Debuggee.Chunk
import Mathlib.Data.List.Chain

namespace Debuggee

def span (piece : Address × Nat) : List Nat := List.range' piece.1.toNat piece.2

theorem mem_span {a : Address} {size c : Nat} :
    c ∈ span (a, size) ↔ a.toNat ≤ c ∧ c < a.toNat + size := List.mem_range'_1

theorem lt_chunkEnd {start stop : Nat} (h : start < stop) : start < chunkEnd start stop := by
  unfold chunkEnd Address.pageSize
  omega

theorem chunkEnd_le (start stop : Nat) : chunkEnd start stop ≤ stop := Nat.min_le_right ..

theorem pageCount_of_lt {start stop : Nat} (h : start < stop) :
    pageCount start stop = pageCount (chunkEnd start stop) stop + 1 := by
  unfold pageCount chunkEnd Address.pageSize
  split <;> split <;> omega

theorem pageCount_of_le {start stop : Nat} (h : stop ≤ start) : pageCount start stop = 0 :=
  if_neg (Nat.not_lt.2 h)

theorem flatMap_span_chunksFrom {stop : Nat} (hstop : stop < UInt64.size) {pages start : Nat}
    (hpages : pageCount start stop = pages) (h : start ≤ stop) :
    (chunksFrom stop pages start).flatMap span = List.range' start (stop - start) := by
  induction pages generalizing start with
  | zero =>
    have hle : stop ≤ start := Nat.not_lt.1 fun hlt => by
      rw [pageCount_of_lt hlt] at hpages
      cases hpages
    rw [Nat.sub_eq_zero_of_le hle]
    rfl
  | succ pages ih =>
    have hlt : start < stop := Nat.not_le.1 fun hle => by
      rw [pageCount_of_le hle] at hpages
      cases hpages
    have hnext : start < chunkEnd start stop := lt_chunkEnd hlt
    have hend : chunkEnd start stop ≤ stop := chunkEnd_le start stop
    have hstart : (UInt64.ofNat start).toNat = start :=
      UInt64.toNat_ofNat_of_lt (Nat.lt_trans hlt hstop)
    have hrest : pageCount (chunkEnd start stop) stop = pages :=
      Nat.succ.inj ((pageCount_of_lt hlt).symm.trans hpages)
    have hsize : stop - start = (chunkEnd start stop - start) + (stop - chunkEnd start stop) := by
      omega
    rw [chunksFrom, List.flatMap_cons, ih hrest hend, span, hstart, hsize, ← List.range'_append_1,
      Nat.add_sub_cancel' (Nat.le_of_lt hnext)]

theorem le_of_mem_chunksFrom {stop : Nat} (hstop : stop < UInt64.size) {pages start : Nat}
    (h : start ≤ stop) {piece : Address × Nat} (hp : piece ∈ chunksFrom stop pages start) :
    piece.1.toNat + piece.2 ≤ stop := by
  induction pages generalizing start with
  | zero => cases hp
  | succ pages ih =>
    cases hp with
    | head =>
      have hend : chunkEnd start stop ≤ stop := chunkEnd_le start stop
      have hstart : (UInt64.ofNat start).toNat = start :=
        UInt64.toNat_ofNat_of_lt (Nat.lt_of_le_of_lt h hstop)
      show (UInt64.ofNat start).toNat + (chunkEnd start stop - start) ≤ stop
      omega
    | tail _ hp => exact ih (chunkEnd_le start stop) hp

theorem le_of_mem_splitAtPages {a : Address} {size : Nat} {piece : Address × Nat}
    (hp : piece ∈ splitAtPages a size) : piece.1.toNat + piece.2 ≤ UInt64.size := by
  have ha : a.toNat < UInt64.size := a.toNat_lt
  have hstop := Address.toNat_addSaturating a size
  have hle := le_of_mem_chunksFrom (by omega) (by omega) hp
  omega

theorem flatMap_span_splitAtPages (a : Address) (size : Nat) :
    (splitAtPages a size).flatMap span =
      List.range' a.toNat (min (a.toNat + size) (UInt64.size - 1) - a.toNat) := by
  have ha : a.toNat < UInt64.size := a.toNat_lt
  unfold splitAtPages
  dsimp only
  rw [Address.toNat_addSaturating]
  refine flatMap_span_chunksFrom ?_ rfl ?_ <;> omega

def leadingEnd (a : Address) (size : Nat) : Nat := chunkEnd a.toNat (a.addSaturating size).toNat

theorem splitAtPages_eq_nil {a : Address} (h : a.toNat + 1 = UInt64.size) (size : Nat) :
    splitAtPages a size = [] := by
  have hstop := Address.toNat_addSaturating a size
  unfold splitAtPages
  dsimp only
  rw [pageCount_of_le (by omega)]
  rfl

theorem splitAtPages_eq_cons {a : Address} (h : a.toNat + 1 < UInt64.size) {size : Nat}
    (hsize : 1 ≤ size) :
    a.toNat < leadingEnd a size ∧
      ∃ rest, splitAtPages a size = (a, leadingEnd a size - a.toNat) :: rest := by
  have hstop := Address.toNat_addSaturating a size
  have hlt : a.toNat < (a.addSaturating size).toNat := by omega
  refine ⟨lt_chunkEnd hlt, ?_⟩
  unfold splitAtPages
  dsimp only
  rw [pageCount_of_lt hlt, chunksFrom, UInt64.ofNat_toNat]
  exact ⟨_, rfl⟩

def pieceEnd (a stop : Address) : Address :=
  match a.page.add? Address.pageSize with
  | none => stop
  | some next => min next stop

theorem chunkEnd_toNat (a : Address) (stop : Nat) :
    chunkEnd a.toNat stop = min (a.page.toNat + Address.pageSize) stop := by
  rw [chunkEnd, Address.toNat_page, Nat.add_mul, Nat.one_mul]

theorem toNat_pieceEnd (a stop : Address) :
    (pieceEnd a stop).toNat = chunkEnd a.toNat stop.toNat := by
  rw [chunkEnd_toNat]
  unfold pieceEnd
  cases hnext : a.page.add? Address.pageSize with
  | none =>
    have hlast : UInt64.size ≤ a.page.toNat + Address.pageSize := by
      simpa [Address.add?] using hnext
    have hstop : stop.toNat < UInt64.size := stop.toNat_lt
    show stop.toNat = _
    exact (Nat.min_eq_right (by omega)).symm
  | some next =>
    rw [← Address.toNat_of_add? hnext]
    simp only [min_def]
    exact apply_ite UInt64.toNat ..

inductive Cuts (stop : Address) : Address → List (Address × Nat) → Prop
  | done {a : Address} : stop ≤ a → Cuts stop a []
  | piece {a : Address} {pieces : List (Address × Nat)} : a < stop →
      Cuts stop (pieceEnd a stop) pieces →
      Cuts stop a ((a, (pieceEnd a stop - a).toNat) :: pieces)

theorem lt_pieceEnd {a stop : Address} (h : a < stop) : a < pieceEnd a stop := by
  rw [UInt64.lt_iff_toNat_lt, toNat_pieceEnd]
  exact lt_chunkEnd (UInt64.lt_iff_toNat_lt.1 h)

theorem toNat_pieceEnd_sub {a stop : Address} (h : a < stop) :
    (pieceEnd a stop - a).toNat = chunkEnd a.toNat stop.toNat - a.toNat := by
  rw [UInt64.toNat_sub_of_le _ _ (UInt64.le_of_lt (lt_pieceEnd h)), toNat_pieceEnd]

theorem cuts_chunksFrom {a stop : Address} {pages : Nat}
    (hpages : pageCount a.toNat stop.toNat = pages) :
    Cuts stop a (chunksFrom stop.toNat pages a.toNat) := by
  induction pages generalizing a with
  | zero =>
    refine .done (UInt64.le_iff_toNat_le.2 (Nat.not_lt.1 fun hlt => ?_))
    rw [pageCount_of_lt hlt] at hpages
    cases hpages
  | succ pages ih =>
    have hlt : a.toNat < stop.toNat := Nat.not_le.1 fun hle => by
      rw [pageCount_of_le hle] at hpages
      cases hpages
    rw [pageCount_of_lt hlt, ← toNat_pieceEnd] at hpages
    have hrest := ih (Nat.succ.inj hpages)
    rw [chunksFrom, UInt64.ofNat_toNat, ← toNat_pieceEnd_sub (UInt64.lt_iff_toNat_lt.2 hlt),
      ← toNat_pieceEnd]
    exact .piece (UInt64.lt_iff_toNat_lt.2 hlt) hrest

theorem cuts_splitAtPages (a : Address) (size : Nat) :
    Cuts (a.addSaturating size) a (splitAtPages a size) := cuts_chunksFrom rfl

namespace Cuts

variable {a stop : Address} {pieces pieces' : List (Address × Nat)}

theorem unique (h : Cuts stop a pieces) (h' : Cuts stop a pieces') : pieces' = pieces := by
  induction h generalizing pieces' with
  | done hle =>
    cases h' with
    | done => rfl
    | piece hlt => exact absurd hlt (UInt64.not_lt.2 hle)
  | piece hlt _ ih =>
    cases h' with
    | done hle => exact absurd hlt (UInt64.not_lt.2 hle)
    | piece _ h' => rw [ih h']

theorem pos (h : Cuts stop a pieces) : ∀ p ∈ pieces, 0 < p.2 := by
  induction h with
  | done => simp
  | piece hlt _ ih =>
    refine List.forall_mem_cons.2 ⟨?_, ih⟩
    have hend := lt_chunkEnd (UInt64.lt_iff_toNat_lt.1 hlt)
    show 0 < (pieceEnd _ stop - _).toNat
    rw [toNat_pieceEnd_sub hlt]
    omega

theorem inside_page (h : Cuts stop a pieces) :
    ∀ p ∈ pieces, ∀ c ∈ span p, c / Address.pageSize = p.1.toNat / Address.pageSize := by
  induction h with
  | done => simp
  | @piece a _ hlt _ ih =>
    refine List.forall_mem_cons.2 ⟨fun c hc => ?_, ih⟩
    obtain ⟨hle, hc⟩ := mem_span.1 hc
    rw [toNat_pieceEnd_sub hlt] at hc
    unfold chunkEnd at hc
    unfold Address.pageSize at *
    show c / _ = a.toNat / _
    omega

theorem head (h : Cuts stop a pieces) : ∀ p ∈ pieces.head?, p.1 = a := by
  cases h <;> simp

theorem contiguous (h : Cuts stop a pieces) :
    pieces.IsChain fun p q => p.1.toNat + p.2 = q.1.toNat := by
  induction h with
  | done => exact .nil
  | @piece a _ hlt hrest ih =>
    refine List.isChain_cons.2 ⟨fun q hq => ?_, ih⟩
    rw [hrest.head q hq, toNat_pieceEnd]
    show a.toNat + (pieceEnd a stop - a).toNat = _
    rw [toNat_pieceEnd_sub hlt]
    have hend := lt_chunkEnd (UInt64.lt_iff_toNat_lt.1 hlt)
    omega

theorem le (h : Cuts stop a pieces) : ∀ p ∈ pieces, a ≤ p.1 := by
  induction h with
  | done => simp
  | @piece a _ hlt _ ih =>
    refine List.forall_mem_cons.2 ⟨UInt64.le_refl a, fun p hp => ?_⟩
    exact UInt64.le_trans (UInt64.le_of_lt (lt_pieceEnd hlt)) (ih p hp)

theorem increasing (h : Cuts stop a pieces) : pieces.Pairwise fun p q => p.1 < q.1 := by
  induction h with
  | done => exact .nil
  | piece hlt hrest ih =>
    refine .cons (fun q hq => ?_) ih
    exact UInt64.lt_of_lt_of_le (lt_pieceEnd hlt) (hrest.le q hq)

end Cuts

/-- The pieces lie side by side, each within a page, and are the range between two addresses. -/
structure Tiles (start stop : Nat) (pieces : List (Address × Nat)) : Prop where
  pos : ∀ p ∈ pieces, 0 < p.2
  inside_page : ∀ p ∈ pieces, ∀ c ∈ span p, c / Address.pageSize = p.1.toNat / Address.pageSize
  contiguous : pieces.IsChain fun p q => p.1.toNat + p.2 = q.1.toNat
  increasing : pieces.Pairwise fun p q => p.1 < q.1
  cover : pieces.flatMap span = List.range' start (stop - start)

theorem tiles_splitAtPages (a : Address) (size : Nat) :
    Tiles a.toNat (min (a.toNat + size) (UInt64.size - 1)) (splitAtPages a size) :=
  have h := cuts_splitAtPages a size
  ⟨h.pos, h.inside_page, h.contiguous, h.increasing, flatMap_span_splitAtPages a size⟩

theorem cuts_iff {a : Address} {size : Nat} {pieces : List (Address × Nat)} :
    Cuts (a.addSaturating size) a pieces ↔ pieces = splitAtPages a size :=
  ⟨(cuts_splitAtPages a size).unique, fun h => h ▸ cuts_splitAtPages a size⟩

end Debuggee
