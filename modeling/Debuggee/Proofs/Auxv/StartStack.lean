import Debuggee.Proofs.Auxv.Recovery

namespace Debuggee

variable {σ ν τ : Type}

def flatten (pairs : List (UInt64 × UInt64)) : List UInt64 :=
  pairs.flatMap fun (kind, word) => [kind, word]

namespace Target

variable {E : Engine σ ν τ} {T : Target E} {v : View σ}

open AuxvSource

theorem wordsAt_append {a : Nat} {words more : List UInt64} :
    T.WordsAt a (words ++ more) ↔
      T.WordsAt a words ∧ T.WordsAt (a + words.length * T.size) more := by
  induction words generalizing a with
  | nil => simp [WordsAt]
  | cons word words ih =>
    rw [List.cons_append, WordsAt, WordsAt, ih, List.length_cons, Nat.succ_mul, and_assoc,
      Nat.add_assoc, Nat.add_comm T.size]

theorem wordsAt_flatten {a : Nat} {pairs : List (UInt64 × UInt64)} :
    T.WordsAt a (flatten pairs) ↔ T.PairsAt a pairs := by
  induction pairs generalizing a with
  | nil => exact Iff.rfl
  | cons pair pairs ih =>
    show T.WordAt a pair.1 ∧ T.WordAt (a + T.size) pair.2 ∧
      T.WordsAt (a + T.size + T.size) (flatten pairs) ↔ T.PairAt a pair ∧ _
    rw [ih, Nat.add_assoc, ← Nat.two_mul, PairAt, and_assoc]
    rfl

/--
The stack of a program at its start, from the number of its arguments up to the top. The entries of
the vector have known numbers, one of them is that of the interpreter, and the pair of zeros at the
end is the last one below the top.
-/
structure StartStack (T : Target E) (first top : Nat) (arguments environment : List UInt64)
    (vector above : List (UInt64 × UInt64)) : Prop where
  words : T.WordsAt first (.ofNat arguments.length :: arguments ++ 0 :: environment ++
    0 :: flatten (vector ++ (0, 0) :: above))
  top_eq : top = first + (arguments.length + environment.length + 3) * T.size +
    (vector.length + 1 + above.length) * T.pairSize
  pointer : ∀ p ∈ arguments ++ environment, Address.lowestMapped ≤ p
  kind : ∀ pair ∈ vector, pair.1 ≠ 0 ∧ pair.1 ∈ AuxvKind.names.map (·.1)
  base : ∃ pair ∈ vector, pair.1 = AuxvKind.base
  above_ne_zero : (0, 0) ∉ above

/-- The walk can tell the vector from what lies below it, and is not too long. -/
structure IsTold (environment : List UInt64) (vector : List (UInt64 × UInt64)) : Prop where
  environment_ne_nil : environment ≠ []
  base : ∃ pair ∈ vector.drop (vector.length - 1023), pair.1 = AuxvKind.base
  kind_lt : ∀ low pair high, vector = low ++ pair :: high →
    (∃ pair ∈ high, pair.1 = AuxvKind.base) → pair.1 < kindLimit

theorem StartStack.word_below {first top : Nat} {arguments environment : List UInt64}
    {vector above : List (UInt64 × UInt64)}
    (h : T.StartStack first top arguments environment vector above) (henv : environment ≠ []) :
    let below := first + (arguments.length + environment.length + 1) * T.size
    (∃ word, T.WordAt below word ∧ kindLimit ≤ word) ∧
      T.PairsAt (below + T.pairSize) (vector ++ (0, 0) :: above) := by
  obtain ⟨init, last, rfl⟩ : ∃ init last, environment = init ++ [last] :=
    ⟨_, _, (List.dropLast_concat_getLast henv).symm⟩
  have hlast : Address.lowestMapped ≤ last := h.pointer last (by simp)
  have hwords := h.words
  rw [show UInt64.ofNat arguments.length :: arguments ++ 0 :: (init ++ [last]) ++
      0 :: flatten (vector ++ (0, 0) :: above) =
    (.ofNat arguments.length :: arguments ++ 0 :: init) ++
      last :: 0 :: flatten (vector ++ (0, 0) :: above) by simp] at hwords
  obtain ⟨-, hword, -, hpairs⟩ := wordsAt_append.1 hwords
  have hlength : (UInt64.ofNat arguments.length :: arguments ++ 0 :: init).length =
      arguments.length + (init ++ [last]).length + 1 := by
    simp only [List.length_append, List.length_cons, List.length_nil]
    omega
  rw [hlength] at hword hpairs
  rw [wordsAt_flatten, Nat.add_assoc, ← Nat.two_mul] at hpairs
  exact ⟨⟨last, hword, UInt64.le_trans (by decide) hlast⟩, hpairs⟩

theorem StartStack.vectorAt {first top : Nat} {arguments environment : List UInt64}
    {vector above : List (UInt64 × UInt64)}
    (h : T.StartStack first top arguments environment vector above) (htop : top < UInt64.size)
    (htold : IsTold environment vector) :
    ∃ below low base high, vector = low ++ (AuxvKind.base, base) :: high ∧
      T.VectorAt below top 0 low base high above := by
  obtain ⟨hbelow, hpairs⟩ := h.word_below htold.environment_ne_nil
  have htop_eq := h.top_eq
  obtain ⟨low, base, high, rfl, hhigh, hlength⟩ := exists_latest_base htold.base
  have hwords : (arguments.length + environment.length + 3) * T.size =
      (arguments.length + environment.length + 1) * T.size + T.pairSize :=
    Nat.add_mul (arguments.length + environment.length + 1) 2 T.size
  refine ⟨first + (arguments.length + environment.length + 1) * T.size, low, base, high, rfl, ?_⟩
  exact {
    word_below := hbelow
    pairs := hpairs
    top_eq := by
      rw [htop_eq, hwords, Nat.zero_mul]
      omega
    top_lt := htop
    kind_ne_zero := fun pair hp => (h.kind pair hp).1
    kind_lt := fun pair hp => by
      obtain ⟨l, r, rfl⟩ := List.append_of_mem hp
      exact htold.kind_lt l pair (r ++ (AuxvKind.base, base) :: high) (by simp)
        ⟨(AuxvKind.base, base), by simp, rfl⟩
    kind_ne_base := hhigh
    length_high := hlength
    above_ne_zero := h.above_ne_zero }

theorem get?_insertAll_of_notMem {pairs : List (UInt64 × UInt64)} {kind : UInt64}
    (h : ∀ pair ∈ pairs, pair.1 ≠ kind) (v : Auxv) :
    (T.insertAll v pairs).get? kind = v.get? kind := by
  induction pairs generalizing v with
  | nil => rfl
  | cons pair pairs ih =>
    refine (ih (fun p hp => h p (.tail _ hp)) _).trans ?_
    rw [Auxv.get?_insert, if_neg (h pair (.head _)).symm]

theorem get?_insertAll_latest (low : List (UInt64 × UInt64)) (word : UInt64) {kind : UInt64}
    {high : List (UInt64 × UInt64)} (h : ∀ pair ∈ high, pair.1 ≠ kind) (v : Auxv) :
    (T.insertAll v (low ++ (kind, word) :: high)).get? kind = some (T.entry kind word) := by
  rw [insertAll, List.foldl_append]
  refine (get?_insertAll_of_notMem h _).trans ?_
  rw [Auxv.get?_insert, if_pos rfl]

theorem exists_of_get?_insertAll {pairs : List (UInt64 × UInt64)} {kind : UInt64}
    {value : AuxvValue} (h : (T.insertAll {} pairs).get? kind = some value) :
    ∃ word, (kind, word) ∈ pairs ∧ value = T.entry kind word := by
  by_cases hmem : ∃ pair ∈ pairs, pair.1 = kind
  · obtain ⟨low, word, high, rfl, hhigh⟩ := exists_latest hmem
    rw [get?_insertAll_latest _ _ hhigh] at h
    exact ⟨word, by simp, (Option.some.inj h).symm⟩
  · rw [get?_insertAll_of_notMem fun pair hp hk => hmem ⟨pair, hp, hk⟩] at h
    cases h

/--
The stack of a program at its start gives back the vector: every pair that is the last of its
number, and nothing that is no pair of it, but for a file name that is filled in where the vector
has none or an empty one.
-/
theorem get_startStack (hE : E.IsStill) (hT : T.IsUnlisted) (hv : v.engine = T.state)
    (hempty : v.observer.caches.auxv = .empty) {sp : UInt64}
    (hsp : (Registers.sp E v).1 = some sp) {first : Nat} {arguments environment : List UInt64}
    {vector above : List (UInt64 × UInt64)}
    (h : T.StartStack first (Boundary.stackTop E sp T.state).1.toNat arguments environment
      vector above) (htold : IsTold environment vector) :
    (∀ low kind word high, vector = low ++ (kind, word) :: high →
      (∀ pair ∈ high, pair.1 ≠ kind) →
        (AuxvSource.get E v).1.get? kind = some (T.entry kind word) ∨
          kind = AuxvKind.execFileName ∧ (∀ text, T.entry kind word = .str text → text = "") ∧
            ∃ path, (AuxvSource.get E v).1.get? kind = some (.str path)) ∧
      ∀ kind value, (AuxvSource.get E v).1.get? kind = some value →
        (∃ word, (kind, word) ∈ vector ∧ value = T.entry kind word) ∨
          kind = AuxvKind.execFileName ∧ ∃ path, value = .str path := by
  obtain ⟨below, low, base, high, hvector, hat⟩ := h.vectorAt (UInt64.toNat_lt _) htold
  have hfilled := isFilledIn_get_of_vectorAt hE hT hv hempty hsp hat (.inl rfl)
  rw [← hvector] at hfilled
  rcases hfilled with hget | ⟨hnone, path, hget⟩ <;> rw [hget]
  · refine ⟨fun low kind word high hsplit hlast => .inl ?_, fun kind value hvalue => .inl ?_⟩
    · rw [hsplit, get?_insertAll_latest _ _ hlast]
    · exact exists_of_get?_insertAll hvalue
  · refine ⟨fun low kind word high hsplit hlast => ?_, fun kind value hvalue => ?_⟩
    · by_cases hkind : kind = AuxvKind.execFileName
      · refine .inr ⟨hkind, fun text htext => ?_, path, by rw [Auxv.get?_insert, if_pos hkind]⟩
        have hentry := get?_insertAll_latest (T := T) low word hlast {}
        rw [← hsplit, htext, hkind] at hentry
        simpa [Auxv.execFileName?, Auxv.str?, hentry, AuxvValue.str?] using hnone
      · rw [Auxv.get?_insert, if_neg hkind, hsplit, get?_insertAll_latest _ _ hlast]
        exact .inl rfl
    · rw [Auxv.get?_insert] at hvalue
      split at hvalue
      · rename_i hkind
        exact .inr ⟨hkind, path, (Option.some.inj hvalue).symm⟩
      · exact .inl (exists_of_get?_insertAll hvalue)

end Target

namespace Machine

theorem get_startStack_environment :
    (AuxvSource.get engine (Registers.attached {} (stacked 0x7ffd0f90
      [1, 0x7ffd0f00, 0, 0x7ffd0f10, 0x7ffd0f20, 0,
        6, 0x1000, 7, 0x7fff0000, 9, 0x401040, 0, 0]))).1.get? 6 = some (.int 0x1000) := by
  let T := stackTarget 0x7ffd0f90 [1, 0x7ffd0f00, 0, 0x7ffd0f10, 0x7ffd0f20, 0,
    6, 0x1000, 7, 0x7fff0000, 9, 0x401040, 0, 0]
  have htop : (Boundary.stackTop engine 0x7ffd0f90 T.state).1.toNat = 0x7ffd1000 := by
    decide +kernel
  have hstart : T.StartStack 0x7ffd0f90 (Boundary.stackTop engine 0x7ffd0f90 T.state).1.toNat
      [0x7ffd0f00] [0x7ffd0f10, 0x7ffd0f20] [(6, 0x1000), (7, 0x7fff0000), (9, 0x401040)] [] := {
    words := by decide +kernel
    top_eq := htop
    pointer := by simp [Address.lowestMapped]
    kind := by simp [AuxvKind.names]
    base := ⟨(7, 0x7fff0000), by simp, rfl⟩
    above_ne_zero := nofun }
  have htold : Target.IsTold [0x7ffd0f10, 0x7ffd0f20]
      [(6, 0x1000), (7, 0x7fff0000), (9, 0x401040)] := {
    environment_ne_nil := nofun
    base := ⟨(7, 0x7fff0000), by simp, rfl⟩
    kind_lt := fun low pair high h _ => by
      have hlt : ∀ pair ∈ [((6 : UInt64), (0x1000 : UInt64)), (7, 0x7fff0000), (9, 0x401040)],
          pair.1 < AuxvSource.kindLimit := by simp [AuxvSource.kindLimit]
      exact hlt pair (h ▸ by simp) }
  obtain ⟨hget, -⟩ := Target.get_startStack isStill (isUnlisted_stackTarget _ _) rfl rfl
    (sp_stacked (by decide +kernel)) hstart htold
  rcases hget [] 6 0x1000 [(7, 0x7fff0000), (9, 0x401040)] rfl (by simp) with h | ⟨h, -⟩
  · exact h
  · cases h

/-- A program without an environment, of whose vector nothing is found. -/
theorem get_startStack_bare :
    let T := stackTarget 0x7ffd0f90 [3, 0x7ffd0f00, 0x7ffd0f08, 0x7ffd0f10, 0, 0,
      6, 0x1000, 7, 0x7fff0000, 9, 0x401040, 0, 0]
    T.StartStack 0x7ffd0f90 (Boundary.stackTop engine 0x7ffd0f90 T.state).1.toNat
        [0x7ffd0f00, 0x7ffd0f08, 0x7ffd0f10] [] [(6, 0x1000), (7, 0x7fff0000), (9, 0x401040)] [] ∧
      (AuxvSource.get engine (Registers.attached {} T.state)).1.base? = none := by
  intro T
  have htop : (Boundary.stackTop engine 0x7ffd0f90 T.state).1 = 0x7ffd1000 := by
    decide +kernel
  have hstart : T.StartStack 0x7ffd0f90 (Boundary.stackTop engine 0x7ffd0f90 T.state).1.toNat
      [0x7ffd0f00, 0x7ffd0f08, 0x7ffd0f10] [] [(6, 0x1000), (7, 0x7fff0000), (9, 0x401040)] [] := {
    words := by decide +kernel
    top_eq := congrArg UInt64.toNat htop
    pointer := by simp [Address.lowestMapped]
    kind := by simp [AuxvKind.names]
    base := ⟨(7, 0x7fff0000), by simp, rfl⟩
    above_ne_zero := nofun }
  refine ⟨hstart, ?_⟩
  have hsp : (Registers.sp engine (Registers.attached {} T.state)).1 = some 0x7ffd0f90 :=
    sp_stacked (by decide +kernel)
  -- the null below the vector ends the reading at once, and one word lower there is no vector
  have haligned : (AuxvSource.readStack engine T.size 0x7ffd1000 0 T.state).1.toOption.getD {} =
      {} := by
    decide +kernel
  have hskewed : (AuxvSource.readStack engine T.size 0x7ffd1000 1 T.state).1.toOption.getD {} =
      {} := by
    decide +kernel
  have hget := Target.isFilledIn_get (T := T) isStill (isUnlisted_stackTarget _ _)
    (v := Registers.attached {} T.state) rfl rfl hsp
  rw [Target.walk_apply isStill rfl hsp, Target.walk_apply isStill rfl hsp, htop, haligned,
    hskewed] at hget
  rcases hget with h | ⟨-, path, h⟩
  · rw [h]
    rfl
  · rw [h]
    rfl

end Machine

end Debuggee
