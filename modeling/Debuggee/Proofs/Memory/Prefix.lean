import Debuggee.Engine.Scene
import Debuggee.Memory
import Debuggee.Proofs.Memory.Pieces

/-!
Reading memory whole and as far as it can be read. Memory is given by the bytes at its addresses,
of which some cannot be read.
-/

namespace Debuggee

variable {σ ν τ : Type}

def Holds (memory : Nat → Option UInt8) (addresses : List Nat) (bytes : Bytes) : Prop :=
  addresses.map memory = bytes.map some

namespace Holds

variable {memory : Nat → Option UInt8} {addresses later : List Nat} {bytes : Bytes}

theorem append_iff :
    Holds memory (addresses ++ later) bytes ↔
      ∃ b b', bytes = b ++ b' ∧ Holds memory addresses b ∧ Holds memory later b' := by
  unfold Holds
  rw [List.map_append, eq_comm, List.map_eq_append_iff]
  constructor
  · rintro ⟨b, b', hb, h, h'⟩
    exact ⟨b, b', hb, h.symm, h'.symm⟩
  · rintro ⟨b, b', hb, h, h'⟩
    exact ⟨b, b', hb, h.symm, h'.symm⟩

theorem dropLast (h : Holds memory addresses bytes) :
    Holds memory addresses.dropLast bytes.dropLast := by
  unfold Holds
  rw [List.map_dropLast, List.map_dropLast, h]

theorem exists_of_ne_none (h : ∀ c ∈ addresses, memory c ≠ none) :
    ∃ bytes, Holds memory addresses bytes := by
  refine ⟨addresses.map fun c => (memory c).getD 0, ?_⟩
  unfold Holds
  rw [List.map_map]
  refine List.map_congr_left fun c hc => ?_
  obtain ⟨b, hb⟩ := Option.ne_none_iff_exists'.1 (h c hc)
  show memory c = some ((memory c).getD 0)
  rw [hb, Option.getD_some]

theorem ne_none (h : Holds memory addresses bytes) {c : Nat} (hc : c ∈ addresses) :
    memory c ≠ none := by
  intro hnone
  have hmem : none ∈ bytes.map some := h ▸ hnone ▸ List.mem_map_of_mem hc
  simp at hmem

end Holds

namespace Engine

/--
While the engine is steady the inferior has this memory: a range is read if every byte of it can
be read, and otherwise not at all.
-/
structure Serves (E : Engine σ ν τ) (i : Inferior) (memory : Nat → Option UInt8)
    (Steady : σ → Prop) : Prop where
  readMemory : ∀ {s}, Steady s → ∀ {a : Address} {size : Nat}, a.toNat + size ≤ UInt64.size →
    ∀ {bytes}, (E.readMemory i a size s).1 = .ok bytes ↔
      Holds memory (List.range' a.toNat size) bytes
  steady : ∀ {s}, Steady s → ∀ a size, Steady (E.readMemory i a size s).2

namespace Serves

variable {E : Engine σ ν τ} {i : Inferior} {memory : Nat → Option UInt8} {Steady : σ → Prop}
  {s : σ}

theorem read_eq_ok (h : E.Serves i memory Steady) (hs : Steady s) {a : Address} {size : Nat}
    (hsize : a.toNat + size ≤ UInt64.size) {bytes : Bytes} :
    (E.read i a size s).1 = .ok bytes ↔ Holds memory (List.range' a.toNat size) bytes := by
  rw [← h.readMemory hs hsize, read, Action.orFail]
  rcases E.readMemory i a size s with ⟨_ | _, _⟩ <;> simp

theorem read_eq_error (h : E.Serves i memory Steady) (hs : Steady s) {a : Address} {size c : Nat}
    (hsize : a.toNat + size ≤ UInt64.size) (hc : c ∈ List.range' a.toNat size)
    (hnone : memory c = none) : (E.read i a size s).1 = .error (.memoryRead a size) := by
  have hfails (bytes : Bytes) : (E.readMemory i a size s).1 ≠ .ok bytes := fun hok =>
    ((h.readMemory hs hsize).1 hok).ne_none hc hnone
  rw [read, Action.orFail]
  rcases hr : E.readMemory i a size s with ⟨e | bytes, t⟩
  · rfl
  · exact absurd (congrArg Prod.fst hr) (hfails bytes)

theorem steady_read (h : E.Serves i memory Steady) (hs : Steady s) (a : Address) (size : Nat) :
    Steady (E.read i a size s).2 := by
  have hnext := h.steady hs a size
  rw [read, Action.orFail]
  rcases hr : E.readMemory i a size s with ⟨_ | _, s'⟩ <;> rw [hr] at hnext <;> exact hnext

theorem readAlong_cons (h : E.Serves i memory Steady) (hs : Steady s) {piece : Address × Nat}
    (hfit : piece.1.toNat + piece.2 ≤ UInt64.size) {bytes : Bytes}
    (hread : Holds memory (span piece) bytes) (rest : List (Address × Nat)) :
    ∃ s', Steady s' ∧
      (E.readAlong i (piece :: rest) s).1 = bytes ++ (E.readAlong i rest s').1 := by
  refine ⟨_, h.steady hs piece.1 piece.2, ?_⟩
  simp only [readAlong, bind, StateT.bind, Action.attempt_apply]
  rw [(h.readMemory hs hfit).2 hread]
  rfl

theorem readAlong_cons_eq_nil (h : E.Serves i memory Steady) (hs : Steady s)
    {piece : Address × Nat} (hfit : piece.1.toNat + piece.2 ≤ UInt64.size) {c : Nat}
    (hc : c ∈ span piece) (hnone : memory c = none) (rest : List (Address × Nat)) :
    (E.readAlong i (piece :: rest) s).1 = [] := by
  have hfails (bytes : Bytes) : (E.readMemory i piece.1 piece.2 s).1 ≠ .ok bytes := fun hok =>
    ((h.readMemory hs hfit).1 hok).ne_none hc hnone
  simp only [readAlong, bind, StateT.bind, Action.attempt_apply]
  cases hr : (E.readMemory i piece.1 piece.2 s).1 with
  | error e => rfl
  | ok bytes => exact absurd hr (hfails bytes)

theorem fst_readAlong (h : E.Serves i memory Steady) (hs : Steady s)
    {pieces : List (Address × Nat)} (hfit : ∀ p ∈ pieces, p.1.toNat + p.2 ≤ UInt64.size)
    {bytes : Bytes} (hall : Holds memory (pieces.flatMap span) bytes) :
    (E.readAlong i pieces s).1 = bytes := by
  induction pieces generalizing s bytes with
  | nil => exact (List.map_eq_nil_iff.1 hall.symm).symm
  | cons piece rest ih =>
    obtain ⟨first, later, rfl, hfirst, hlater⟩ := Holds.append_iff.1 hall
    obtain ⟨s', hs', hread⟩ := h.readAlong_cons hs (hfit _ List.mem_cons_self) hfirst rest
    rw [hread, ih hs' (fun p hp => hfit p (List.mem_cons_of_mem _ hp)) hlater]

theorem fst_readPrefix (h : E.Serves i memory Steady) (hs : Steady s) {a : Address} {size : Nat}
    {bytes : Bytes}
    (hall : Holds memory
      (List.range' a.toNat (min (a.toNat + size) (UInt64.size - 1) - a.toNat)) bytes) :
    (E.readPrefix i a size s).1 = bytes := by
  rw [readPrefix_eq]
  refine h.fst_readAlong hs (fun p hp => le_of_mem_splitAtPages hp) ?_
  rwa [flatMap_span_splitAtPages]

theorem readPrefix_eq_nil (h : E.Serves i memory Steady) (hs : Steady s) {a : Address} {size : Nat}
    (hsize : 1 ≤ size) (hnone : a.toNat + 1 = UInt64.size ∨
      ∃ c, a.toNat ≤ c ∧ c < leadingEnd a size ∧ memory c = none) :
    (E.readPrefix i a size s).1 = [] := by
  rw [readPrefix_eq]
  by_cases hlast : a.toNat + 1 = UInt64.size
  · rw [splitAtPages_eq_nil hlast]
    rfl
  · obtain ⟨c, hac, hc, hnone⟩ := hnone.resolve_left hlast
    have hlt : a.toNat < UInt64.size := a.toNat_lt
    obtain ⟨-, rest, hsplit⟩ := splitAtPages_eq_cons (a := a) (by omega) hsize
    rw [hsplit]
    have hmem : c ∈ span (a, leadingEnd a size - a.toNat) := mem_span.2 ⟨hac, by omega⟩
    have hfit := le_of_mem_splitAtPages (hsplit ▸ List.mem_cons_self)
    exact h.readAlong_cons_eq_nil hs hfit hmem hnone rest

theorem readPrefix_eq_cons (h : E.Serves i memory Steady) (hs : Steady s) {a : Address} {size : Nat}
    (hsize : 1 ≤ size) (hlast : a.toNat + 1 ≠ UInt64.size) {b : UInt8}
    (hb : memory a.toNat = some b)
    (hall : ∀ c, a.toNat ≤ c → c < leadingEnd a size → memory c ≠ none) :
    ∃ later, (E.readPrefix i a size s).1 = b :: later := by
  have hlt : a.toNat < UInt64.size := a.toNat_lt
  obtain ⟨hend, rest, hsplit⟩ := splitAtPages_eq_cons (a := a) (by omega) hsize
  have hspan : span (a, leadingEnd a size - a.toNat) =
      a.toNat :: List.range' (a.toNat + 1) (leadingEnd a size - a.toNat - 1) := by
    rw [span, ← List.range'_succ, Nat.sub_add_cancel (by omega)]
  have hne : ∀ c ∈ span (a, leadingEnd a size - a.toNat), memory c ≠ none := by
    intro c hc
    obtain ⟨hle, hlt⟩ := mem_span.1 hc
    exact hall c hle (by omega)
  obtain ⟨bytes, hbytes⟩ := Holds.exists_of_ne_none hne
  obtain ⟨s', -, hread⟩ := h.readAlong_cons hs
    (le_of_mem_splitAtPages (hsplit ▸ List.mem_cons_self)) hbytes rest
  rw [hspan, Holds, List.map_cons, hb] at hbytes
  rw [readPrefix_eq, hsplit, hread]
  cases bytes with
  | nil => cases hbytes
  | cons b' bytes =>
    cases (List.cons.inj hbytes).1
    exact ⟨_, rfl⟩

end Serves

end Engine

namespace Memory

variable {E : Engine σ ν τ} {i : Inferior} {memory : Nat → Option UInt8} {Steady : σ → Prop}
  {s : σ}

theorem peek_apply (h : E.Serves i memory Steady) (hi : E.selectedInferior s = some i)
    (hs : Steady s) (a : Address) : peek E a s = (memory a.toNat, (E.read i a 1 s).2) := by
  show (((read E a 1).attempt s).1.bind (·.head?), ((read E a 1).attempt s).2) = _
  rw [Action.attempt_apply, read_apply hi]
  cases hb : memory a.toNat with
  | none =>
    rw [h.read_eq_error hs a.toNat_lt (List.mem_singleton_self _) hb]
    rfl
  | some b =>
    have hone : (E.read i a 1 s).1 = .ok [b] :=
      (h.read_eq_ok hs a.toNat_lt).2 (congrArg ([·]) hb)
    rw [hone]
    rfl

theorem fst_string (h : E.Serves i memory Steady)
    (hi : ∀ s, Steady s → E.selectedInferior s = some i) (hs : Steady s) {a : Address} {b : UInt8}
    (hb : memory a.toNat = some b) (max : Nat) :
    ∃ s', Steady s' ∧ (string E a max s).1 = (E.readPrefix i a max s').1.takeWhile (· ≠ 0) := by
  have hs' : Steady (E.read i a 1 s).2 := h.steady_read hs a 1
  refine ⟨_, hs', ?_⟩
  have hleading : (readPrefix E a max).attempt (E.read i a 1 s).2 =
      (some (E.readPrefix i a max (E.read i a 1 s).2).1,
        (E.readPrefix i a max (E.read i a 1 s).2).2) := by
    rw [Action.attempt_apply, readPrefix, Action.bind_apply, Engine.inferior_apply (hi _ hs')]
    rfl
  simp only [string, bind, StateT.bind, peek_apply h (hi s hs) hs, hb, Option.isNone_some,
    Bool.false_eq_true, if_false, hleading]
  rfl

theorem fst_string_of_none (h : E.Serves i memory Steady)
    (hi : ∀ s, Steady s → E.selectedInferior s = some i) (hs : Steady s) {a : Address}
    (hnone : memory a.toNat = none) (max : Nat) : (string E a max s).1 = [] := by
  simp only [string, bind, StateT.bind, peek_apply h (hi s hs) hs, hnone]
  rfl

theorem fst_stringBuffered (h : E.Serves i memory Steady)
    (hi : ∀ s, Steady s → E.selectedInferior s = some i) (hs : Steady s) (a : Address)
    (max : Nat) : (stringBuffered E a max s).1 =
      if memory a.toNat = none ∨ max ≤ bufferMax then .ok (string E a max s).1
      else .error .capacityOverflow := by
  have hs' : Steady (E.read i a 1 s).2 := h.steady_read hs a 1
  have hread : (readBuffered E a max).attempt (E.read i a 1 s).2 =
      (some (E.readBuffered i a max (E.read i a 1 s).2).1,
        (E.readBuffered i a max (E.read i a 1 s).2).2) := by
    rw [Action.attempt_apply, readBuffered, Action.bind_apply, Engine.inferior_apply (hi _ hs')]
    rfl
  have hleading : (readPrefix E a max).attempt (E.read i a 1 s).2 =
      (some (E.readPrefix i a max (E.read i a 1 s).2).1,
        (E.readPrefix i a max (E.read i a 1 s).2).2) := by
    rw [Action.attempt_apply, readPrefix, Action.bind_apply, Engine.inferior_apply (hi _ hs')]
    rfl
  cases hb : memory a.toNat with
  | none =>
    simp only [stringBuffered, string, bind, StateT.bind, peek_apply h (hi s hs) hs, hb]
    rfl
  | some b =>
    simp only [stringBuffered, string, bind, StateT.bind, peek_apply h (hi s hs) hs, hb,
      Option.isNone_some, Bool.false_eq_true, if_false, hread, hleading,
      Engine.readBuffered_apply, reduceCtorEq, false_or]
    split <;> rfl

theorem string_eq_nil_iff (h : E.Serves i memory Steady)
    (hi : ∀ s, Steady s → E.selectedInferior s = some i) (hs : Steady s) {a : Address} {b : UInt8}
    (hb : memory a.toNat = some b) {max : Nat} (hmax : 1 ≤ max) :
    (string E a max s).1 = [] ↔ b = 0 ∨ a.toNat + 1 = UInt64.size ∨
      ∃ c, a.toNat ≤ c ∧ c < leadingEnd a max ∧ memory c = none := by
  obtain ⟨s', hs', hstring⟩ := fst_string h hi hs hb max
  rw [hstring]
  by_cases hnone : a.toNat + 1 = UInt64.size ∨
      ∃ c, a.toNat ≤ c ∧ c < leadingEnd a max ∧ memory c = none
  · rw [h.readPrefix_eq_nil hs' hmax hnone]
    exact iff_of_true rfl (.inr hnone)
  · obtain ⟨hlast, hall⟩ := not_or.1 hnone
    obtain ⟨later, hread⟩ := h.readPrefix_eq_cons hs' hmax hlast hb fun c hac hc hn =>
      hall ⟨c, hac, hc, hn⟩
    rw [hread, List.takeWhile_cons, or_iff_left hnone]
    by_cases hzero : b = 0 <;> simp [hzero]

end Memory

namespace Store

def readable? (m : Store) (c : Nat) : Option UInt8 :=
  if c < UInt64.size ∧ m.readable (.ofNat c) then some (m.byte (.ofNat c)) else none

theorem blocked?_eq_none_iff (ok : Address → Bool) (a size : Nat) :
    blocked? ok a size = none ↔ ∀ c ∈ List.range' a size, c < UInt64.size ∧ ok (.ofNat c) := by
  induction size generalizing a with
  | zero => simp [blocked?]
  | succ size ih =>
    rw [blocked?, List.range'_succ, List.forall_mem_cons]
    split
    · next h => simp [Nat.not_lt.2 h]
    · next h =>
      split
      · next hok => rw [ih, and_iff_right ⟨Nat.not_le.1 h, hok⟩]
      · next hok => simp [hok]

theorem read_eq_ok (m : Store) {a : Address} {size : Nat} {bytes : Bytes} :
    m.read a size = .ok bytes ↔ Holds m.readable? (List.range' a.toNat size) bytes := by
  have hblocked := blocked?_eq_none_iff m.readable a.toNat size
  unfold read
  cases hb : blocked? m.readable a.toNat size with
  | some e =>
    refine iff_of_false nofun fun hbytes => ?_
    rw [hb] at hblocked
    refine absurd (hblocked.2 fun c hc => ?_) nofun
    exact Classical.byContradiction fun hc' => hbytes.ne_none hc (if_neg hc')
  | none =>
    have hall : Holds m.readable? (List.range' a.toNat size) (m.bytes a size) := by
      rw [List.range'_eq_map_range, Holds, Store.bytes, List.map_map, List.map_map]
      refine List.map_congr_left fun k hk => ?_
      have hc := hblocked.1 hb (a.toNat + k) (List.mem_range'_1.2 (by simpa using hk))
      show m.readable? (a.toNat + k) = some (m.byte (a + .ofNat k))
      rw [readable?, if_pos hc, UInt64.ofNat_add, UInt64.ofNat_toNat]
    rw [Except.ok.injEq]
    constructor
    · rintro rfl
      exact hall
    · exact fun hbytes => (List.map_inj_right fun _ _ => Option.some.inj).1 (hall.symm.trans hbytes)

end Store

theorem Machine.serves (m : Machine) :
    Machine.engine.Serves ⟨1⟩ m.memory.readable? (· = m) where
  readMemory {s} hs _ _ _ _ := by
    rw [← hs]
    exact s.memory.read_eq_ok
  steady hs _ _ := hs

namespace Memory

variable {E : Engine σ ν τ} {i : Inferior} {memory : Nat → Option UInt8} {Steady : σ → Prop}

/--
What a whole read gives, a read of the leading bytes gives too, save for the byte at the last
address of all, if a buffer has room for it. So with such a bound a string at an address that can
be read is empty only if its first byte is zero, unless that address is the last one, or the piece
of the range that begins there has a byte that cannot be read.
-/
theorem readBuffered_of_read (h : E.Serves i memory Steady) {s s' : σ} (hs : Steady s)
    (hs' : Steady s') {a : Address} {size : Nat} (hsize : a.toNat + size ≤ UInt64.size) :
    (∀ bytes, (E.read i a size s).1 = .ok bytes → (E.readBuffered i a size s').1 =
      if size ≤ bufferMax then .ok (if a.toNat + size = UInt64.size then bytes.dropLast else bytes)
      else .error .capacityOverflow) ∧
    ((∀ s, Steady s → E.selectedInferior s = some i) → ∀ max b, 1 ≤ max →
      (E.read i a 1 s).1 = .ok [b] → ((stringBuffered E a max s').1 = .ok [] ↔ max ≤ bufferMax ∧
        (b = 0 ∨ a.toNat + 1 = UInt64.size ∨
          ∃ c, a.toNat ≤ c ∧ c < leadingEnd a max ∧ memory c = none))) := by
  refine ⟨fun bytes hread => ?_, fun hi max b hmax hread => ?_⟩
  · have hbytes := (h.read_eq_ok hs hsize).1 hread
    have hprefix : (E.readPrefix i a size s').1 =
        if a.toNat + size = UInt64.size then bytes.dropLast else bytes := by
      refine h.fst_readPrefix hs' ?_
      split
      · next hlast =>
        have ha : a.toNat < UInt64.size := a.toNat_lt
        obtain ⟨n, rfl⟩ : ∃ n, size = n + 1 := ⟨size - 1, by omega⟩
        have hfirst := hbytes.dropLast
        rwa [List.range'_1_concat, List.dropLast_concat,
          show n = min (a.toNat + (n + 1)) (UInt64.size - 1) - a.toNat by omega] at hfirst
      · rwa [Nat.min_eq_left (by omega), Nat.add_sub_cancel_left]
    rw [Engine.readBuffered_apply, ← hprefix]
    split <;> rfl
  · have hb : memory a.toNat = some b := by
      simpa [Holds] using (h.read_eq_ok hs a.toNat_lt).1 hread
    rw [← string_eq_nil_iff h hi hs' hb hmax, fst_stringBuffered h hi hs', hb]
    by_cases hroom : max ≤ bufferMax <;> simp [hroom]

def twoPages : Machine :=
  Machine.storeBytes 0x1ffe [97, 98, 99] <|
    Machine.mapPages 0x1000 2 ⟨true, false, false⟩ <| Machine.initial ⟨"i386:x86-64", 8, .little⟩

theorem readBuffered_of_read_twoPages :
    (Machine.engine.read ⟨1⟩ 0x1ffe 3 twoPages).1 = .ok [97, 98, 99] ∧
      (Machine.engine.readBuffered ⟨1⟩ 0x1ffe 3 twoPages).1 = .ok [97, 98, 99] ∧
      (stringBuffered Machine.engine 0x1ffe 4096 twoPages).1 ≠ .ok [] := by
  have hread : (Machine.engine.read ⟨1⟩ 0x1ffe 3 twoPages).1 = .ok [97, 98, 99] := by rfl
  have hfirst : (Machine.engine.read ⟨1⟩ 0x1ffe 1 twoPages).1 = .ok [97] := by rfl
  have hsize : (0x1ffe : Address).toNat + 3 ≤ UInt64.size := by decide
  obtain ⟨hleading, hstring⟩ := readBuffered_of_read twoPages.serves rfl rfl hsize
  refine ⟨hread, hleading _ hread, fun hnil => ?_⟩
  obtain ⟨-, hempty⟩ := (hstring (by rintro _ rfl; rfl) 4096 97 (by decide) hfirst).1 hnil
  rcases hempty with h | h | ⟨c, hle, hlt, hnone⟩
  · exact absurd h (by decide)
  · exact absurd h (by decide)
  · have hstart : (0x1ffe : Address).toNat = 0x1ffe := rfl
    have hend : leadingEnd 0x1ffe 4096 = 0x2000 := by decide +kernel
    obtain rfl | rfl : c = 0x1ffe ∨ c = 0x1fff := by omega
    · exact absurd hnone (by decide +kernel)
    · exact absurd hnone (by decide +kernel)

def lastPage : Machine :=
  Machine.storeBytes 0xfffffffffffffffe [97, 98] <|
    Machine.mapPages 0xfffffffffffff000 1 ⟨true, false, false⟩ <|
      Machine.initial ⟨"i386:x86-64", 8, .little⟩

/-- The byte at the last address is read alone, but it is no leading byte and begins no string. -/
theorem readBuffered_ne_read_last :
    (Machine.engine.read ⟨1⟩ 0xffffffffffffffff 1 lastPage).1 = .ok [98] ∧
      (Machine.engine.readBuffered ⟨1⟩ 0xffffffffffffffff 1 lastPage).1 = .ok [] ∧
      (stringBuffered Machine.engine 0xffffffffffffffff 4096 lastPage).1 = .ok [] := by
  exact ⟨rfl, rfl, rfl⟩

end Memory

end Debuggee
