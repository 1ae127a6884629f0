import Debuggee.Proofs.Auxv.Entries
import Debuggee.Proofs.Auxv.Walk
import Debuggee.Proofs.Registers.Again

namespace Debuggee

variable {σ ν τ : Type}

namespace Auxv

theorem isEmpty_insert (v : Auxv) (kind : UInt64) (value : AuxvValue) :
    (v.insert kind value).isEmpty = false := by
  show (Assoc.store kind value v.entries).isEmpty = false
  cases v.entries with
  | nil => rfl
  | cons entry rest =>
    rw [Assoc.store]
    split <;> rfl

end Auxv

theorem AuxvSource.fst_get_of_auxv {E : Engine σ ν τ} {v : View σ}
    (h : v.observer.caches.auxv = .empty) : (AuxvSource.get E v).1 = (readNow E v).1 := by
  have hnone : v.observer.caches.auxv.get? () = none := by
    rw [h]
    rfl
  rw [AuxvSource.get, View.remembered_of_get?_eq_none (t := .auxv) hnone]

namespace Target

variable {E : Engine σ ν τ}

/-- A Linux program whose engine fails to list its vector, or lists no entry of it. -/
structure IsUnlisted (T : Target E) : Prop where
  listing : ∀ listing, (E.listAuxv T.state).1 = .ok listing → AuxvListing.parse listing = []
  runsLinux : (E.runsLinux T.state).1 = true
  connection : E.connection T.state T.inferior ≠ .qemuSystem

variable {T : Target E} {v : View σ}

open AuxvSource

theorem fromStackPointer_apply (hE : E.IsStill) (hv : v.engine = T.state) {sp : UInt64}
    (hsp : (Registers.sp E v).1 = some sp) (skew : Nat) :
    fromStackPointer E T.inferior skew v =
      ((readStack E T.size (Boundary.stackTop E sp T.state).1 skew T.state).1,
        (Registers.sp E v).2) := by
  have hengine : (Registers.sp E v).2.engine = T.state :=
    (Registers.looks_get hE.toIsQuiet "sp" v).trans hv
  have hact : (do
      let arch ← E.archOf T.inferior
      let top ← Action.ofState (Boundary.stackTop E sp)
      readStack E arch.pointerSize top skew : Action σ Auxv) T.state =
      readStack E T.size (Boundary.stackTop E sp T.state).1 skew T.state := by
    rw [Action.bind_apply, answers_archOf hE T]
    dsimp only
    rw [Action.bind_apply, Action.ofState_apply, Boundary.along_stackTop hE sp T.state]
    rfl
  unfold fromStackPointer
  rw [Action.bind_apply, Action.ofState_apply]
  dsimp only
  rw [hsp]
  show View.act _ _ = _
  rw [View.act, Action.within_apply, hengine, hact, along_readStack hE _ _ _ T.state, ← hengine]

theorem walk_apply (hE : E.IsStill) (hv : v.engine = T.state) {sp : UInt64}
    (hsp : (Registers.sp E v).1 = some sp) (skew : Nat) :
    walk E T.inferior skew v =
      ((readStack E T.size (Boundary.stackTop E sp T.state).1 skew T.state).1.toOption.getD {},
        (Registers.sp E v).2) := by
  show (((fromStackPointer E T.inferior skew).attempt v).1.getD {},
    ((fromStackPointer E T.inferior skew).attempt v).2) = _
  rw [Action.attempt_apply, fromStackPointer_apply hE hv hsp]

theorem walk_of_vectorAt (hE : E.IsStill) (hv : v.engine = T.state) {sp : UInt64}
    (hsp : (Registers.sp E v).1 = some sp) {below skew : Nat}
    {low high above : List (UInt64 × UInt64)} {base : UInt64}
    (h : T.VectorAt below (Boundary.stackTop E sp T.state).1.toNat skew low base high above) :
    walk E T.inferior skew v =
      (T.insertAll {} (low ++ (AuxvKind.base, base) :: high), (Registers.sp E v).2) := by
  have hread := answers_readStack hE h
  rw [UInt64.ofNat_toNat] at hread
  rw [walk_apply hE hv hsp, hread]
  rfl

theorem listed?_apply (hE : E.IsStill) (hT : T.IsUnlisted) :
    listed? E T.state = (none, T.state) := by
  have hlist := hE.listAuxv T.state
  have hparse := hT.listing
  unfold listed?
  simp only [bind, StateT.bind, Action.attempt_apply, hlist]
  cases h : (E.listAuxv T.state).1 with
  | error e => rfl
  | ok listing =>
    simp only [Except.toOption, hparse listing h]
    rfl

theorem runsLinux_apply (hE : E.IsStill) (hT : T.IsUnlisted) :
    E.runsLinux T.state = (true, T.state) :=
  Prod.ext hT.runsLinux (E.isQuestion_runsLinux.unchanged hE T.state)

theorem isEmulatedKernel_apply (hT : T.IsUnlisted) :
    E.isEmulatedKernel T.inferior T.state = (false, T.state) := by
  show (decide (E.connection T.state T.inferior = .qemuSystem), T.state) = _
  rw [decide_eq_false hT.connection]

def IsFilledIn (v filled : Auxv) : Prop :=
  filled = v ∨ v.execFileName?.all (· = "") = true ∧
    ∃ path, filled = v.insert AuxvKind.execFileName (.str path)

theorem ask_of_apply {α : Type} {x : StateM σ α} {a : α} (hv : v.engine = T.state)
    (hx : x T.state = (a, T.state)) : View.ask x v = (a, v) := by
  rw [← hv] at hx
  rw [View.ask_apply (congrArg Prod.snd hx), hx]

theorem walk_again (hE : E.IsStill) (hv : v.engine = T.state) {sp : UInt64}
    (hsp : (Registers.sp E v).1 = some sp) (skew : Nat) :
    walk E T.inferior skew (Registers.sp E v).2 = walk E T.inferior skew v := by
  have hagain : Registers.sp E (Registers.sp E v).2 = Registers.sp E v :=
    Registers.get_again hE.toIsQuiet "sp" v
  have hengine : (Registers.sp E v).2.engine = T.state :=
    (Registers.looks_get hE.toIsQuiet "sp" v).trans hv
  rw [walk_apply hE hengine (by rw [hagain, hsp]), hagain, walk_apply hE hv hsp]

def filledIn (v : Auxv) (path? : Option String) : Auxv :=
  if v.execFileName?.all (· = "") then
    match path? with
    | some path => v.insert AuxvKind.execFileName (.str path)
    | none => v
  else v

theorem isFilledIn_filledIn (v : Auxv) (path? : Option String) :
    IsFilledIn v (filledIn v path?) := by
  unfold filledIn
  split
  · rename_i h
    cases path? with
    | some path => exact .inr ⟨h, path, rfl⟩
    | none => exact .inl rfl
  · exact .inl rfl

theorem fst_fill (w : Auxv) (u : View σ) :
    ((do
      if w.execFileName?.all (· = "") then
        match ← fileNameFromStack E with
        | some path => return w.insert AuxvKind.execFileName (.str path)
        | none => return w
      else return w : StateM (View σ) Auxv) u).1 = filledIn w (fileNameFromStack E u).1 := by
  unfold filledIn
  split
  · rw [View.bind_apply]
    cases (fileNameFromStack E u).1 <;> rfl
  · rfl

theorem fst_fromStack (hE : E.IsStill) (hT : T.IsUnlisted) (hv : v.engine = T.state)
    {sp : UInt64} (hsp : (Registers.sp E v).1 = some sp) :
    (fromStack E T.inferior v).1 = filledIn (if (walk E T.inferior 0 v).1.isEmpty
      then (walk E T.inferior 1 v).1 else (walk E T.inferior 0 v).1)
        (fileNameFromStack E (Registers.sp E v).2).1 := by
  have hlinux : View.ask E.runsLinux v = (true, v) := ask_of_apply hv (runsLinux_apply hE hT)
  have hkernel : View.ask (E.isEmulatedKernel T.inferior) v = (false, v) :=
    ask_of_apply hv (isEmulatedKernel_apply hT)
  have hwalk (skew : Nat) : (walk E T.inferior skew v).2 = (Registers.sp E v).2 := by
    rw [walk_apply hE hv hsp]
  simp only [fromStack, View.bind_apply, hlinux, hkernel, Bool.not_true, Bool.false_eq_true,
    if_false]
  cases (walk E T.inferior 0 v).1.isEmpty with
  | true =>
    simp only [if_true, View.bind_apply, hwalk, walk_again hE hv hsp]
    exact fst_fill _ _
  | false =>
    simp only [Bool.false_eq_true, if_false, hwalk]
    exact fst_fill _ _

theorem fst_get_of_isUnlisted (hE : E.IsStill) (hT : T.IsUnlisted) (hv : v.engine = T.state)
    (hempty : v.observer.caches.auxv = .empty) {sp : UInt64}
    (hsp : (Registers.sp E v).1 = some sp) :
    (AuxvSource.get E v).1 = filledIn (if (walk E T.inferior 0 v).1.isEmpty
      then (walk E T.inferior 1 v).1 else (walk E T.inferior 0 v).1)
        (fileNameFromStack E (Registers.sp E v).2).1 := by
  have hlisted : View.ask (listed? E) v = (none, v) := ask_of_apply hv (listed?_apply hE hT)
  have hself : (MonadState.get : StateM (View σ) (View σ)) v = (v, v) := rfl
  have hnow : readNow E v = fromStack E T.inferior v := by
    simp only [readNow, View.bind_apply, hself, hv, T.selected, hlisted]
  rw [fst_get_of_auxv hempty, hnow]
  exact fst_fromStack hE hT hv hsp

theorem isFilledIn_get (hE : E.IsStill) (hT : T.IsUnlisted) (hv : v.engine = T.state)
    (hempty : v.observer.caches.auxv = .empty) {sp : UInt64}
    (hsp : (Registers.sp E v).1 = some sp) :
    IsFilledIn (if (walk E T.inferior 0 v).1.isEmpty then (walk E T.inferior 1 v).1
      else (walk E T.inferior 0 v).1) (AuxvSource.get E v).1 := by
  rw [fst_get_of_isUnlisted hE hT hv hempty hsp]
  exact isFilledIn_filledIn _ _

theorem isEmpty_insertAll {pairs : List (UInt64 × UInt64)} (h : pairs ≠ []) (v : Auxv) :
    (T.insertAll v pairs).isEmpty = false := by
  rw [← List.dropLast_concat_getLast h, insertAll, List.foldl_append]
  exact Auxv.isEmpty_insert ..

theorem isFilledIn_get_of_vectorAt (hE : E.IsStill) (hT : T.IsUnlisted) (hv : v.engine = T.state)
    (hempty : v.observer.caches.auxv = .empty) {sp : UInt64}
    (hsp : (Registers.sp E v).1 = some sp) {below skew : Nat}
    {low high above : List (UInt64 × UInt64)} {base : UInt64}
    (h : T.VectorAt below (Boundary.stackTop E sp T.state).1.toNat skew low base high above)
    (hskew : skew = 0 ∨ skew = 1 ∧ (walk E T.inferior 0 v).1 = {}) :
    IsFilledIn (T.insertAll {} (low ++ (AuxvKind.base, base) :: high)) (AuxvSource.get E v).1 := by
  have hget := isFilledIn_get hE hT hv hempty hsp
  have hwalk := walk_of_vectorAt hE hv hsp h
  rcases hskew with rfl | ⟨rfl, hfirst⟩
  · have hne : low ++ (AuxvKind.base, base) :: high ≠ [] :=
      List.append_ne_nil_of_right_ne_nil _ (List.cons_ne_nil _ _)
    rw [hwalk, isEmpty_insertAll hne] at hget
    exact hget
  · rw [hfirst, hwalk] at hget
    exact hget

theorem exists_latest {kind : UInt64} {pairs : List (UInt64 × UInt64)}
    (h : ∃ pair ∈ pairs, pair.1 = kind) :
    ∃ low word high, pairs = low ++ (kind, word) :: high ∧ ∀ pair ∈ high, pair.1 ≠ kind := by
  induction pairs with
  | nil =>
    obtain ⟨pair, hp, -⟩ := h
    cases hp
  | cons first rest ih =>
    by_cases hrest : ∃ pair ∈ rest, pair.1 = kind
    · obtain ⟨low, word, high, rfl, hhigh⟩ := ih hrest
      exact ⟨first :: low, word, high, rfl, hhigh⟩
    · obtain ⟨pair, hp, rfl⟩ := h
      rcases List.mem_cons.1 hp with rfl | hp
      · exact ⟨[], pair.2, rest, rfl, fun q hq hk => hrest ⟨q, hq, hk⟩⟩
      · exact absurd ⟨pair, hp, rfl⟩ hrest

theorem exists_latest_base {vector : List (UInt64 × UInt64)}
    (h : ∃ pair ∈ vector.drop (vector.length - 1023), pair.1 = AuxvKind.base) :
    ∃ low base high, vector = low ++ (AuxvKind.base, base) :: high ∧
      (∀ pair ∈ high, pair.1 ≠ AuxvKind.base) ∧ high.length < baseSearchLimit - 1 := by
  obtain ⟨low, base, high, hdrop, hhigh⟩ := exists_latest h
  have hvector : vector = (vector.take (vector.length - 1023) ++ low) ++
      (AuxvKind.base, base) :: high := by
    rw [List.append_assoc, ← hdrop, List.take_append_drop]
  have hlength : (vector.drop (vector.length - 1023)).length ≤ 1023 := by
    rw [List.length_drop]
    omega
  rw [hdrop] at hlength
  simp only [List.length_append, List.length_cons] at hlength
  exact ⟨_, base, high, hvector, hhigh, show _ < 1023 by omega⟩

/--
The vector on a stack that ends at `top`: its pairs, above a word that is no number of an entry and
below a pair of zeros, the last one that lines up with it. Its numbers are below the limit, and the
entry of the interpreter is among its last pairs.
-/
structure StackVector (T : Target E) (below top skew : Nat)
    (vector above : List (UInt64 × UInt64)) : Prop where
  word_below : ∃ word, T.WordAt below word ∧ kindLimit ≤ word
  pairs : T.PairsAt (below + T.pairSize) (vector ++ (0, 0) :: above)
  top_eq : top = below + T.pairSize + (vector.length + 1 + above.length) * T.pairSize +
    skew * T.size
  kind : ∀ pair ∈ vector, 0 < pair.1 ∧ pair.1 < kindLimit
  base : ∃ pair ∈ vector.drop (vector.length - 1023), pair.1 = AuxvKind.base
  above_ne_zero : (0, 0) ∉ above

theorem StackVector.vectorAt {below top skew : Nat} {vector above : List (UInt64 × UInt64)}
    (h : T.StackVector below top skew vector above) (htop : top < UInt64.size) :
    ∃ low base high, vector = low ++ (AuxvKind.base, base) :: high ∧
      T.VectorAt below top skew low base high above := by
  obtain ⟨low, base, high, rfl, hhigh, hlength⟩ := exists_latest_base h.base
  refine ⟨low, base, high, rfl, ?_⟩
  exact {
    word_below := h.word_below
    pairs := h.pairs
    top_eq := h.top_eq
    top_lt := htop
    kind_ne_zero := fun pair hp => (UInt64.ne_of_lt (h.kind pair hp).1).symm
    kind_lt := fun pair hp => (h.kind pair (List.mem_append_left _ hp)).2
    kind_ne_base := hhigh
    length_high := hlength
    above_ne_zero := h.above_ne_zero }

/--
The walk of the stack recovers the vector: its pairs inserted in order, whatever their number, the
size of a word and the order of its bytes. Where the pairs do not line up with the top, they are
found if the first walk, which takes them to line up, finds nothing.
-/
theorem get_eq_insertAll (hE : E.IsStill) (hT : T.IsUnlisted) (hv : v.engine = T.state)
    (hempty : v.observer.caches.auxv = .empty) {sp : UInt64}
    (hsp : (Registers.sp E v).1 = some sp) {below skew : Nat}
    {vector above : List (UInt64 × UInt64)}
    (h : T.StackVector below (Boundary.stackTop E sp T.state).1.toNat skew vector above)
    (hskew : skew = 0 ∨ skew = 1 ∧ (walk E T.inferior 0 v).1 = {}) :
    (AuxvSource.get E v).1 = T.insertAll {} vector ∨
      (T.insertAll {} vector).execFileName?.all (· = "") = true ∧ ∃ path,
        (AuxvSource.get E v).1 =
          (T.insertAll {} vector).insert AuxvKind.execFileName (.str path) := by
  obtain ⟨low, base, high, rfl, hat⟩ := h.vectorAt (UInt64.toNat_lt _)
  exact isFilledIn_get_of_vectorAt hE hT hv hempty hsp hat hskew

end Target

namespace Machine

def stacked (sp : Address) (words : List UInt64) : Machine :=
  { Machine.initial ⟨"i386:x86-64", 8, .little⟩ with
    frames := [{ thread := ⟨1⟩, level := 0, registers := [("sp", ⟨sp, 8, false⟩)] }]
    memory := ⟨[.store sp (words.flatMap fun word => Bytes.ofValue 8 word.toNat).toArray,
      .map (Address.page sp) 1 ⟨true, true, false⟩]⟩ }

def stackTarget (sp : Address) (words : List UInt64) : Target Machine.engine where
  state := stacked sp words
  inferior := ⟨1⟩
  arch := ⟨.x8664, 8, .little⟩
  selected := rfl
  archOf := fst_archOf_x8664 rfl _

theorem isUnlisted_stackTarget (sp : Address) (words : List UInt64) :
    (stackTarget sp words).IsUnlisted where
  listing listing h := by
    have hask : (engine.listAuxv (stacked sp words)).1 = .ok "" := fst_ask rfl _
    cases hask.symm.trans h
    decide
  runsLinux := fst_runsLinux rfl rfl
  connection := nofun

theorem sp_stacked {sp : Address} {words : List UInt64}
    (h : Registers.readAt engine ⟨0⟩ (RegisterName.bare "sp") (stacked sp words) = some sp) :
    (Registers.sp engine (Registers.attached {} (stacked sp words))).1 = some sp := by
  have hframe : (engine.frame? (stacked sp words)).1 = some ⟨0⟩ := by
    rw [frame?_apply]
    rfl
  obtain ⟨c, -, hget⟩ := Registers.get_of_values_eq_empty isQuiet
    (v := Registers.attached {} (stacked sp words)) rfl hframe "sp"
  rw [Registers.sp, hget]
  dsimp only [Registers.attached]
  exact h

theorem get_eq_insertAll_stacked :
    (AuxvSource.get engine (Registers.attached {} (stacked 0x7ffd0fb0
      [0x7ffd0f00, 0, 6, 0x1000, 7, 0x7fff0000, 9, 0x401040, 0, 0]))).1.get? 9 =
        some (.int 0x401040) := by
  let T := stackTarget 0x7ffd0fb0 [0x7ffd0f00, 0, 6, 0x1000, 7, 0x7fff0000, 9, 0x401040, 0, 0]
  have htop : (Boundary.stackTop engine 0x7ffd0fb0 T.state).1.toNat = 0x7ffd1000 := by
    decide +kernel
  have hstack : T.StackVector 0x7ffd0fb0 (Boundary.stackTop engine 0x7ffd0fb0 T.state).1.toNat 0
      [(6, 0x1000), (7, 0x7fff0000), (9, 0x401040)] [] := {
    word_below := ⟨0x7ffd0f00, by decide +kernel, by decide⟩
    pairs := by decide +kernel
    top_eq := htop
    kind := by simp [AuxvSource.kindLimit]
    base := ⟨(7, 0x7fff0000), by simp, rfl⟩
    above_ne_zero := nofun }
  have hvector : T.insertAll {} [(6, 0x1000), (7, 0x7fff0000), (9, 0x401040)] =
      ⟨[(6, .int 0x1000), (7, .int 0x7fff0000), (9, .int 0x401040)]⟩ := rfl
  rcases Target.get_eq_insertAll isStill (isUnlisted_stackTarget _ _) rfl rfl
    (sp_stacked (by decide +kernel)) hstack (.inl rfl) with h | ⟨-, path, h⟩
  · rw [h, hvector]
    rfl
  · rw [h, hvector]
    rfl

end Machine

end Debuggee
