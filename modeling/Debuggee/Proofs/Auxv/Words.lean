import Debuggee.Proofs.Engine.Still

namespace Debuggee

variable {σ ν τ : Type}

structure Target (E : Engine σ ν τ) : Type where
  state : σ
  inferior : Inferior
  arch : Arch
  selected : E.selectedInferior state = some inferior
  archOf : (E.archOf inferior state).1 = .ok arch

namespace Target

variable {E : Engine σ ν τ}

section

variable (T : Target E)

def size : Nat := T.arch.pointerSize

def pairSize : Nat := 2 * T.size

def word? (a : Nat) : Option UInt64 := do
  let bytes ← (E.readMemory T.inferior (.ofNat a) T.size T.state).1.toOption
  if bytes.length = T.size then T.arch.order.decode? bytes else none

def WordAt (a : Nat) (word : UInt64) : Prop := T.word? a = some word

instance (a : Nat) (word : UInt64) : Decidable (T.WordAt a word) :=
  inferInstanceAs (Decidable (T.word? a = some word))

def WordsAt : Nat → List UInt64 → Prop
  | _, [] => True
  | a, word :: words => T.WordAt a word ∧ WordsAt (a + T.size) words

def PairAt (a : Nat) (pair : UInt64 × UInt64) : Prop :=
  T.WordAt a pair.1 ∧ T.WordAt (a + T.size) pair.2

def PairsAt : Nat → List (UInt64 × UInt64) → Prop
  | _, [] => True
  | a, pair :: pairs => T.PairAt a pair ∧ PairsAt (a + T.pairSize) pairs

instance (a : Nat) (pair : UInt64 × UInt64) : Decidable (T.PairAt a pair) :=
  inferInstanceAs (Decidable (_ ∧ _))

instance decidableWordsAt : ∀ a words, Decidable (T.WordsAt a words)
  | _, [] => .isTrue trivial
  | a, word :: words =>
    have := decidableWordsAt (a + T.size) words
    inferInstanceAs (Decidable (T.WordAt a word ∧ T.WordsAt (a + T.size) words))

instance decidablePairsAt : ∀ a pairs, Decidable (T.PairsAt a pairs)
  | _, [] => .isTrue trivial
  | a, pair :: pairs =>
    have := decidablePairsAt (a + T.pairSize) pairs
    inferInstanceAs (Decidable (T.PairAt a pair ∧ T.PairsAt (a + T.pairSize) pairs))

end

variable {T : Target E}

theorem answers_inferior (T : Target E) : E.inferior.Answers T.state T.inferior :=
  Engine.inferior_apply T.selected

theorem answers_archOf (hE : E.IsStill) (T : Target E) :
    (E.archOf T.inferior).Answers T.state T.arch := Prod.ext T.archOf (hE.snd_archOf _ _)

theorem wordAt_iff {a : Nat} {word : UInt64} :
    T.WordAt a word ↔ ∃ bytes, (E.readMemory T.inferior (.ofNat a) T.size T.state).1 = .ok bytes ∧
      bytes.length = T.size ∧ T.arch.order.decode? bytes = some word := by
  unfold WordAt word?
  cases (E.readMemory T.inferior (.ofNat a) T.size T.state).1 with
  | error e => simp [Except.toOption]
  | ok bytes => simp [Except.toOption]

theorem answers_pointer (hE : E.IsStill) {a : Nat} {word : UInt64} (h : T.WordAt a word) :
    (Memory.pointer E (.ofNat a)).Answers T.state word := by
  obtain ⟨bytes, hread, hlength, hdecode⟩ := wordAt_iff.1 h
  have hbytes : (E.read T.inferior (.ofNat a) T.size).Answers T.state bytes :=
    .orFail (Prod.ext hread (hE.readMemory ..)) _
  refine .bind (.bind T.answers_inferior (T.answers_archOf hE)) ?_
  refine .bind T.answers_inferior (.bind (T.answers_archOf hE) (.bind hbytes ?_))
  rw [if_pos (show bytes.length = T.arch.pointerSize from hlength), hdecode]
  exact .pure _

theorem WordAt.size_pos {a : Nat} {word : UInt64} (h : T.WordAt a word) : 0 < T.size := by
  obtain ⟨bytes, -, hlength, hdecode⟩ := wordAt_iff.1 h
  rw [ByteOrder.decode?, hlength] at hdecode
  split at hdecode
  · omega
  · cases hdecode

theorem PairsAt.getElem {a : Nat} {pairs : List (UInt64 × UInt64)} (h : T.PairsAt a pairs) {k : Nat}
    (hk : k < pairs.length) : T.PairAt (a + k * T.pairSize) pairs[k] := by
  induction pairs generalizing a k with
  | nil => cases hk
  | cons pair pairs ih =>
    cases k with
    | zero =>
      rw [Nat.zero_mul]
      exact h.1
    | succ k =>
      have hnext := ih h.2 (Nat.lt_of_succ_lt_succ hk)
      rwa [Nat.add_assoc, Nat.add_comm T.pairSize, ← Nat.succ_mul] at hnext

theorem pairsAt_append {a : Nat} {low high : List (UInt64 × UInt64)} :
    T.PairsAt a (low ++ high) ↔ T.PairsAt a low ∧ T.PairsAt (a + low.length * T.pairSize) high := by
  induction low generalizing a with
  | nil => simp [PairsAt]
  | cons pair low ih =>
    rw [List.cons_append, PairsAt, PairsAt, ih, List.length_cons, Nat.succ_mul, and_assoc,
      Nat.add_assoc, Nat.add_comm T.pairSize]

end Target

end Debuggee
