import Debuggee.Proofs.Memory.Prefix

namespace Debuggee

variable {σ ν τ : Type}

namespace Engine

inductive Reads (E : Engine σ ν τ) (i : Inferior) :
    σ → List (Address × Nat) → List Bytes → σ → Prop
  | nil {s : σ} : Reads E i s [] [] s
  | cons {s s' t : σ} {a : Address} {size : Nat} {bytes : Bytes} {pieces : List (Address × Nat)}
      {parts : List Bytes} : E.readMemory i a size s = (.ok bytes, s') →
      Reads E i s' pieces parts t → Reads E i s ((a, size) :: pieces) (bytes :: parts) t

inductive Halts (E : Engine σ ν τ) (i : Inferior) : σ → List (Address × Nat) → σ → Prop
  | nil {s : σ} : Halts E i s [] s
  | refused {s t : σ} {a : Address} {size : Nat} {e : Error} {left : List (Address × Nat)} :
      E.readMemory i a size s = (.error e, t) → Halts E i s ((a, size) :: left) t

variable {E : Engine σ ν τ} {i : Inferior}

theorem readAlong_run (pieces : List (Address × Nat)) (s : σ) :
    ∃ run left parts s', pieces = run ++ left ∧ E.Reads i s run parts s' ∧
      E.Halts i s' left (E.readAlong i pieces s).2 ∧
        (E.readAlong i pieces s).1 = parts.flatten := by
  induction pieces generalizing s with
  | nil => exact ⟨[], [], [], s, rfl, .nil, .nil, rfl⟩
  | cons piece rest ih =>
    obtain ⟨a, size⟩ := piece
    simp only [readAlong, bind, StateT.bind, Action.attempt_apply]
    rcases hread : E.readMemory i a size s with ⟨_ | bytes, s'⟩
    · exact ⟨[], (a, size) :: rest, [], s, rfl, .nil, .refused hread, rfl⟩
    · obtain ⟨run, left, parts, t, rfl, hruns, hhalts, hflat⟩ := ih s'
      exact ⟨(a, size) :: run, left, bytes :: parts, t, rfl, .cons hread hruns, hhalts,
        congrArg (bytes ++ ·) hflat⟩

end Engine

/-- The bytes of a page can be read all or none. -/
def Paged (memory : Nat → Option UInt8) : Prop :=
  ∀ c d, c / Address.pageSize = d / Address.pageSize → (memory c).isSome = (memory d).isSome

def readableRun (memory : Nat → Option UInt8) (addresses : List Nat) : List Nat :=
  addresses.takeWhile fun c => (memory c).isSome

namespace Engine.Serves

variable {E : Engine σ ν τ} {i : Inferior} {memory : Nat → Option UInt8} {Steady : σ → Prop}
  {s : σ}

theorem holds_readAlong (h : E.Serves i memory Steady) (hs : Steady s) (hpaged : Paged memory)
    {pieces : List (Address × Nat)} (hpos : ∀ p ∈ pieces, 0 < p.2)
    (hpage : ∀ p ∈ pieces, ∀ c ∈ span p, c / Address.pageSize = p.1.toNat / Address.pageSize)
    (hfit : ∀ p ∈ pieces, p.1.toNat + p.2 ≤ UInt64.size) :
    Holds memory (readableRun memory (pieces.flatMap span)) (E.readAlong i pieces s).1 := by
  induction pieces generalizing s with
  | nil => rfl
  | cons piece rest ih =>
    obtain ⟨hpos, hpos'⟩ := List.forall_mem_cons.1 hpos
    obtain ⟨hpage, hpage'⟩ := List.forall_mem_cons.1 hpage
    obtain ⟨hfit, hfit'⟩ := List.forall_mem_cons.1 hfit
    have hfirst : piece.1.toNat ∈ span piece := mem_span.2 ⟨Nat.le_refl _, by omega⟩
    -- The first byte of the piece decides whether any of it, or all of it, can be read.
    cases hb : memory piece.1.toNat with
    | none =>
      obtain ⟨tail, htail⟩ : ∃ tail, span piece = piece.1.toNat :: tail := by
        rw [span, ← Nat.succ_pred_eq_of_pos hpos, List.range'_succ]
        exact ⟨_, rfl⟩
      rw [h.readAlong_cons_eq_nil hs hfit hfirst hb, List.flatMap_cons, htail, readableRun,
        List.cons_append, List.takeWhile_cons_of_neg (by simp [hb])]
      rfl
    | some b =>
      have hall : ∀ c ∈ span piece, (memory c).isSome := fun c hc => by
        rw [hpaged c _ (hpage c hc), hb]
        rfl
      obtain ⟨bytes, hbytes⟩ := Holds.exists_of_ne_none fun c hc =>
        Option.isSome_iff_ne_none.1 (hall c hc)
      obtain ⟨s', hs', hread⟩ := h.readAlong_cons hs hfit hbytes rest
      rw [hread, List.flatMap_cons, readableRun, List.takeWhile_append_of_pos hall]
      exact Holds.append_iff.2 ⟨_, _, rfl, hbytes, ih hs' hpos' hpage' hfit'⟩

theorem holds_readPrefix (h : E.Serves i memory Steady) (hs : Steady s) (hpaged : Paged memory)
    (a : Address) (size : Nat) :
    Holds memory
      (readableRun memory
        (List.range' a.toNat (min (a.toNat + size) (UInt64.size - 1) - a.toNat)))
      (E.readPrefix i a size s).1 := by
  have htiles := tiles_splitAtPages a size
  rw [readPrefix_eq, ← htiles.cover]
  exact h.holds_readAlong hs hpaged htiles.pos htiles.inside_page fun _ => le_of_mem_splitAtPages

end Engine.Serves

theorem Patch.covers_page (start : Address) (pages : Nat) {a b : Address}
    (h : a.toNat / Address.pageSize = b.toNat / Address.pageSize) :
    covers start.page (pages * Address.pageSize) a =
      covers start.page (pages * Address.pageSize) b := by
  have hstart := Address.toNat_page start
  unfold covers Address.pageSize at *
  rw [Bool.eq_iff_iff]
  simp only [Bool.and_eq_true, decide_eq_true_eq, UInt64.le_iff_toNat_le]
  omega

theorem Patch.page?_congr {a b : Address}
    (h : a.toNat / Address.pageSize = b.toNat / Address.pageSize) (p : Patch) :
    p.page? a = p.page? b := by
  cases p with
  | map start pages permissions => simp only [page?, covers_page start pages h]
  | unmap start pages => simp only [page?, covers_page start pages h]
  | store start bytes => rfl

theorem Store.readable_congr (m : Store) {a b : Address}
    (h : a.toNat / Address.pageSize = b.toNat / Address.pageSize) :
    m.readable a = m.readable b := by
  have hpatch : (fun p : Patch => p.page? a) = fun p => p.page? b :=
    funext (Patch.page?_congr h)
  rw [readable, readable, page?, page?, hpatch]

theorem Store.paged (m : Store) : Paged m.readable? := by
  intro c d hcd
  have hsize : c < UInt64.size ↔ d < UInt64.size := by
    unfold Address.pageSize at hcd
    show c < 18446744073709551616 ↔ d < 18446744073709551616
    omega
  by_cases hc : c < UInt64.size
  · have hd : d < UInt64.size := hsize.1 hc
    have hc' : (UInt64.ofNat c).toNat = c := UInt64.toNat_ofNat_of_lt hc
    have hd' : (UInt64.ofNat d).toNat = d := UInt64.toNat_ofNat_of_lt hd
    have hpage : m.readable (.ofNat c) = m.readable (.ofNat d) :=
      m.readable_congr (by rw [hc', hd', hcd])
    by_cases hread : m.readable (.ofNat d) <;> simp [readable?, hc, hd, hpage, hread]
  · have hd : ¬ d < UInt64.size := fun hd => hc (hsize.2 hd)
    simp [readable?, hc, hd]

namespace Memory

/--
A range is cut at pages, down to its end. If a buffer has room for it, reading its leading bytes
does not fail, whatever the engine does, and gives what the engine gives for the pieces before the
first that it refuses. So where memory is readable by pages, it gives the longest prefix of the
range that can be read.
-/
theorem readBuffered_leadingRun (E : Engine σ ν τ) (i : Inferior) (a : Address) (size : Nat)
    (s : σ) :
    (∀ pieces, Cuts (a.addSaturating size) a pieces ↔ pieces = splitAtPages a size) ∧
    Tiles a.toNat (min (a.toNat + size) (UInt64.size - 1)) (splitAtPages a size) ∧
    (bufferMax < size → E.readBuffered i a size s = (.error .capacityOverflow, s)) ∧
    (size ≤ bufferMax →
      (∃ run left parts s' t, splitAtPages a size = run ++ left ∧ E.Reads i s run parts s' ∧
        E.Halts i s' left t ∧ E.readBuffered i a size s = (.ok parts.flatten, t)) ∧
      ∀ memory Steady, E.Serves i memory Steady → Steady s → Paged memory →
        ∃ bytes, (E.readBuffered i a size s).1 = .ok bytes ∧ Holds memory
          (readableRun memory
            (List.range' a.toNat (min (a.toNat + size) (UInt64.size - 1) - a.toNat))) bytes) := by
  refine ⟨fun _ => cuts_iff, tiles_splitAtPages a size, fun hover => ?_, fun hroom => ?_⟩
  · rw [Engine.readBuffered_apply, if_neg (Nat.not_le.2 hover)]
  rw [Engine.readBuffered_apply, if_pos hroom]
  refine ⟨?_, fun memory Steady h hs hpaged => ⟨_, rfl, h.holds_readPrefix hs hpaged a size⟩⟩
  obtain ⟨run, left, parts, s', hsplit, hreads, hhalts, hflat⟩ :=
    E.readAlong_run (i := i) (splitAtPages a size) s
  refine ⟨run, left, parts, s', _, hsplit, hreads, hhalts, ?_⟩
  rw [Engine.readPrefix_eq, hflat]

theorem readBuffered_leadingRun_twoPages :
    Machine.engine.Serves ⟨1⟩ twoPages.memory.readable? (· = twoPages) ∧
      Paged twoPages.memory.readable? ∧
        (Machine.engine.readBuffered ⟨1⟩ 0x2ffe 4 twoPages).1 = .ok [0, 0] := by
  refine ⟨twoPages.serves, twoPages.memory.paged, ?_⟩
  obtain ⟨-, -, -, hroom⟩ := readBuffered_leadingRun Machine.engine ⟨1⟩ 0x2ffe 4 twoPages
  obtain ⟨-, hleading⟩ := hroom (by decide)
  obtain ⟨bytes, hbytes, hholds⟩ := hleading _ _ twoPages.serves rfl twoPages.memory.paged
  have hrun : readableRun twoPages.memory.readable?
      (List.range' (0x2ffe : Address).toNat
        (min ((0x2ffe : Address).toNat + 4) (UInt64.size - 1) - (0x2ffe : Address).toNat)) =
      [0x2ffe, 0x2fff] := by decide +kernel
  rw [hrun] at hholds
  rw [hbytes]
  refine congrArg _ ((List.map_inj_right fun _ _ => Option.some.inj).1 (hholds.symm.trans ?_))
  decide +kernel

/-- No buffer is made for so long a range, though its first two bytes can be read. -/
theorem readBuffered_overflow_twoPages :
    (Machine.engine.readBuffered ⟨1⟩ 0x2ffe 4 twoPages).1 = .ok [0, 0] ∧
      Machine.engine.readBuffered ⟨1⟩ 0x2ffe (bufferMax + 1) twoPages =
        (.error .capacityOverflow, twoPages) :=
  ⟨rfl, rfl⟩

end Memory

end Debuggee
