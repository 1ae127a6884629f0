import Debuggee.Proofs.Engine.Question

namespace Debuggee

open Engine

variable {σ ρ ν μ τ υ : Type} {E : Engine σ ν τ}

section

variable {F : Engine ρ μ υ} {S : σ → ρ → Prop} {V : ν → μ → Prop} {T : τ → υ → Prop}
  (h : E.MirrorsQuestions F S V T)

include h

namespace Engine

theorem concur_read (i : Inferior) (a : Address) (size : Nat) :
    Concur S (E.read i a size) (F.read i a size) :=
  .orFail (h.readMemory i a size) _

theorem concur_readAlong (i : Inferior) (pieces : List (Address × Nat)) :
    Concur S (E.readAlong i pieces) (F.readAlong i pieces) := by
  induction pieces with
  | nil => exact .pure _
  | cons piece pieces ih =>
    refine .bind (h.readMemory i piece.1 piece.2).attempt fun bytes? => ?_
    cases bytes? with
    | none => exact .pure _
    | some bytes => exact .bind ih fun _ => .pure _

theorem concur_readPrefix (i : Inferior) (a : Address) (size : Nat) :
    Concur S (E.readPrefix i a size) (F.readPrefix i a size) := by
  rw [readPrefix_eq, readPrefix_eq]
  exact concur_readAlong h i _

theorem concur_readBuffered (i : Inferior) (a : Address) (size : Nat) :
    Concur S (E.readBuffered i a size) (F.readBuffered i a size) := by
  unfold readBuffered
  split
  · exact .bind (concur_readPrefix h i a size) fun _ => .pure _
  · exact .pure _

theorem concur_isRemote (i : Inferior) : Concur S (E.isRemote i) (F.isRemote i) := by
  refine .get_bind fun s t hs => ?_
  rw [h.connection s t hs]
  exact .pure _

theorem concur_isEmulatedKernel (i : Inferior) :
    Concur S (E.isEmulatedKernel i) (F.isEmulatedKernel i) := by
  refine .get_bind fun s t hs => ?_
  rw [h.connection s t hs]
  exact .pure _

theorem concur_runsLinux : Concur S E.runsLinux F.runsLinux := by
  refine .bind h.showAbi.attempt fun output? => ?_
  cases output? <;> exact .pure _

end Engine

namespace Memory

theorem concur_read (a : Address) (size : Nat) : Concur S (read E a size) (read F a size) :=
  .andThen (concur_inferior h.toMirrorsRegisters) fun i => Engine.concur_read h i a size

theorem concur_word (a : Address) (size : Nat) : Concur S (word E a size) (word F a size) := by
  refine .andThen (concur_inferior h.toMirrorsRegisters) fun i => ?_
  refine .andThen (concur_archOf h.toMirrorsRegisters i) fun arch => ?_
  refine .andThen (Engine.concur_read h i a size) fun bytes => ?_
  split
  · exact .ok _
  · exact .throw _

theorem concur_pointer (a : Address) : Concur S (pointer E a) (pointer F a) :=
  .andThen (.andThen (concur_inferior h.toMirrorsRegisters) (concur_archOf h.toMirrorsRegisters))
    fun arch => concur_word h a arch.pointerSize

theorem concur_peek (a : Address) : Concur S (peek E a) (peek F a) :=
  .bind (concur_read h a 1).attempt fun _ => .pure _

theorem concur_string (a : Address) (max : Nat) : Concur S (string E a max) (string F a max) := by
  refine .bind (concur_peek h a) fun first? => ?_
  split
  · exact .pure _
  · have hprefix : Concur S (readPrefix E a max) (readPrefix F a max) :=
      .andThen (concur_inferior h.toMirrorsRegisters) fun i =>
        .ofState (concur_readPrefix h i a max)
    exact .bind hprefix.attempt fun _ => .pure _

theorem concur_stringBuffered (a : Address) (max : Nat) :
    Concur S (stringBuffered E a max) (stringBuffered F a max) := by
  refine .bind (concur_peek h a) fun first? => ?_
  split
  · exact .pure _
  · have hbuffered : Concur S (readBuffered E a max) (readBuffered F a max) :=
      .andThen (concur_inferior h.toMirrorsRegisters) fun i =>
        .ofState (concur_readBuffered h i a max)
    exact .bind hbuffered.attempt fun _ => .pure _

end Memory

namespace Boundary

theorem concur_climb (i : Inferior) (mask : UInt64) (pages : Nat) (a : Address) :
    Concur S (climb E i mask pages a) (climb F i mask pages a) := by
  induction pages generalizing a with
  | zero => exact .pure _
  | succ pages ih =>
    refine .bind (Engine.concur_read h i a 1).attempt fun bytes? => ?_
    cases bytes? with
    | none => exact .pure _
    | some bytes =>
      cases a.add? Address.pageSize with
      | none => exact .pure _
      | some next =>
        dsimp only
        split
        · exact ih next
        · exact .pure _

theorem concur_descend (i : Inferior) (pages : Nat) (lowest a : Address) :
    Concur S (descend E i pages lowest a) (descend F i pages lowest a) := by
  induction pages generalizing lowest a with
  | zero => exact .pure _
  | succ pages ih =>
    refine .bind (Engine.concur_read h i a 1).attempt fun bytes? => ?_
    cases bytes? with
    | none => exact .pure _
    | some bytes =>
      cases a.sub? Address.pageSize with
      | none => exact .pure _
      | some below => exact ih a below

theorem concur_findUpper (a : Address) (maxPages : Nat) :
    Concur S (findUpper E a maxPages) (findUpper F a maxPages) := by
  refine .get_bind fun s t hs => ?_
  rw [h.selectedInferior s t hs]
  cases F.selectedInferior t with
  | none => exact .pure _
  | some i =>
    exact .bind (concur_archOf h.toMirrorsRegisters i).attempt fun _ => concur_climb h i _ _ _

theorem concur_findLower (a : Address) (maxPages : Nat) :
    Concur S (findLower E a maxPages) (findLower F a maxPages) := by
  refine .get_bind fun s t hs => ?_
  rw [h.selectedInferior s t hs]
  cases F.selectedInferior t with
  | none => exact .pure _
  | some i => exact concur_descend h i _ _ _

theorem concur_isStackTop (a : Address) : Concur S (isStackTop E a) (isStackTop F a) := by
  refine .bind (Memory.concur_read h a _).attempt fun bytes? => ?_
  cases bytes? <;> exact .pure _

theorem concur_climbStack (pages : Nat) (a : Address) :
    Concur S (climbStack E pages a) (climbStack F pages a) := by
  induction pages generalizing a with
  | zero =>
    refine .bind (concur_isStackTop h a) fun isTop => ?_
    cases isTop <;> exact .pure _
  | succ pages ih =>
    refine .bind (concur_isStackTop h a) fun isTop => ?_
    cases isTop with
    | true => exact .pure _
    | false => exact ih _

theorem concur_stackTop (a : Address) : Concur S (stackTop E a) (stackTop F a) :=
  concur_climbStack h _ _

end Boundary

namespace AuxvSource

omit h in
theorem concur_down (size : Nat) (a : Address) (words : Nat) :
    Concur S (down size a words) (down size a words) := by
  unfold down
  split
  · exact .ok _
  · exact .throw _

omit h in
theorem concur_up (size : Nat) (a : Address) (words : Nat) :
    Concur S (up size a words) (up size a words) := by
  unfold up
  split
  · exact .ok _
  · exact .throw _

theorem concur_isZeroPair (size : Nat) (a : Address) :
    Concur S (isZeroPair E size a) (isZeroPair F size a) := by
  refine .andThen (Memory.concur_pointer h a) fun kind => ?_
  split
  · exact .ok _
  · refine .andThen (concur_up size a 1) fun b => ?_
    exact .andThen (Memory.concur_pointer h b) fun _ => .ok _

theorem concur_seekZeroPair (size fuel : Nat) (a : Address) :
    Concur S (seekZeroPair E size fuel a) (seekZeroPair F size fuel a) := by
  induction fuel generalizing a with
  | zero =>
    refine .andThen (concur_isZeroPair h size a) fun isZero => ?_
    cases isZero with
    | true => exact .ok _
    | false => exact .andThen (concur_down size a 2) fun _ => .ok _
  | succ fuel ih =>
    refine .andThen (concur_isZeroPair h size a) fun isZero => ?_
    cases isZero with
    | true => exact .ok _
    | false => exact .andThen (concur_down size a 2) ih

theorem concur_seekBase (size fuel : Nat) (a : Address) :
    Concur S (seekBase E size fuel a) (seekBase F size fuel a) := by
  induction fuel generalizing a with
  | zero => exact .ok _
  | succ fuel ih =>
    refine .andThen (Memory.concur_pointer h a) fun kind => ?_
    split
    · exact .ok _
    · exact .andThen (concur_down size a 2) ih

theorem concur_seekStart (size fuel : Nat) (a : Address) :
    Concur S (seekStart E size fuel a) (seekStart F size fuel a) := by
  induction fuel generalizing a with
  | zero =>
    refine .andThen (concur_down size a 2) fun below => ?_
    refine .andThen (Memory.concur_pointer h below) fun kind => ?_
    split <;> exact .ok _
  | succ fuel ih =>
    refine .andThen (concur_down size a 2) fun below => ?_
    refine .andThen (Memory.concur_pointer h below) fun kind => ?_
    split
    · exact ih below
    · exact .ok _

theorem concur_followString (a : UInt64) : Concur S (followString E a) (followString F a) :=
  (h.typeNamed _).andThen fun t u ht =>
    (h.pointerTo t u ht).andThen fun p q hp =>
      (h.makeValue a).andThen fun v w hv =>
        (h.cast v w p q hv hp).andThen fun v' w' hv' => h.stringOf v' w' hv'

theorem concur_set (v : Auxv) (kind word : UInt64) :
    Concur S (set E v kind word) (set F v kind word) := by
  have hvalue : Concur S (entryValue E kind word) (entryValue F kind word) := by
    unfold entryValue
    split
    · refine .bind (concur_followString h word).attempt fun text? => ?_
      cases text? <;> exact .pure _
    · exact .pure _
  exact .bind hvalue fun _ => .pure _

omit h in
theorem readUp_eq (size fuel : Nat) (a : Address) (v : Auxv) :
    readUp E size fuel a v = (do
      let kind ← Memory.pointer E a
      if kind = 0 then return v
      let word ← Memory.pointer E (← up size a 1)
      let v ← Action.ofState (set E v kind word)
      let above ← up size a 2
      match fuel with
      | 0 => return v
      | fuel + 1 => readUp E size fuel above v) := by
  cases fuel <;> rfl

theorem concur_readUp (size fuel : Nat) (a : Address) (v : Auxv) :
    Concur S (readUp E size fuel a v) (readUp F size fuel a v) := by
  induction fuel using Nat.strongRecOn generalizing a v with
  | _ fuel ih =>
    rw [readUp_eq, readUp_eq]
    refine .andThen (Memory.concur_pointer h a) fun kind => ?_
    split
    · exact .ok _
    · refine .andThen (concur_up size a 1) fun b => ?_
      refine .andThen (Memory.concur_pointer h b) fun word => ?_
      refine .andThen (.ofState (concur_set h v kind word)) fun v => ?_
      refine .andThen (concur_up size a 2) fun above => ?_
      cases fuel with
      | zero => exact .ok _
      | succ fuel => exact ih fuel fuel.lt_succ_self above v

theorem concur_readStack (size : Nat) (top : Address) (skew : Nat) :
    Concur S (readStack E size top skew) (readStack F size top skew) := by
  refine .andThen (concur_down size top _) fun cursor => ?_
  refine .andThen (concur_seekZeroPair h size _ cursor) fun last => ?_
  refine .andThen (concur_seekBase h size _ last) fun base? => ?_
  cases base? with
  | none => exact .ok _
  | some base =>
    refine .andThen (concur_seekStart h size _ base) fun first => ?_
    exact concur_readUp h size _ first {}

theorem concur_skipDown (skips : UInt8 → Bool) (below : Nat) :
    Concur S (skipDown E skips below) (skipDown F skips below) := by
  induction below with
  | zero => exact .pure _
  | succ below ih =>
    refine .bind (Memory.concur_word h _ 1).attempt fun b? => ?_
    cases b? with
    | none => exact .pure _
    | some b =>
      dsimp only
      split
      · exact ih
      · exact .pure _

theorem concur_lastString? (top : Address) : Concur S (lastString? E top) (lastString? F top) := by
  refine .bind (concur_skipDown h _ _) fun stop? => ?_
  cases stop? with
  | none => exact .pure _
  | some stop => exact .bind (concur_skipDown h _ stop) fun _ => .pure _

theorem concur_setAll (v : Auxv) (pairs : List (UInt64 × UInt64)) :
    Concur S (setAll E v pairs) (setAll F v pairs) := by
  induction pairs generalizing v with
  | nil => exact .pure _
  | cons pair pairs ih => exact .bind (concur_set h v _ _) ih

theorem concur_listed? : Concur S (listed? E) (listed? F) := by
  refine .bind h.listAuxv.attempt fun listing? => ?_
  cases listing? with
  | none => exact .pure _
  | some listing => exact .bind (concur_setAll h {} _) fun _ => .pure _

end AuxvSource

end

section

variable (E)

theorem Engine.isQuestion_runsLinux : E.IsQuestion E.runsLinux :=
  .of_matches fun _ h => concur_runsLinux h

namespace Memory

theorem isQuestion_word (a : Address) (size : Nat) : E.IsQuestion (word E a size) :=
  .of_matches fun _ h => concur_word h a size

theorem isQuestion_peek (a : Address) : E.IsQuestion (peek E a) :=
  .of_matches fun _ h => concur_peek h a

theorem isQuestion_string (a : Address) (max : Nat) : E.IsQuestion (string E a max) :=
  .of_matches fun _ h => concur_string h a max

theorem isQuestion_stringBuffered (a : Address) (max : Nat) :
    E.IsQuestion (stringBuffered E a max) :=
  .of_matches fun _ h => concur_stringBuffered h a max

end Memory

namespace Boundary

theorem isQuestion_findUpper (a : Address) (maxPages : Nat) :
    E.IsQuestion (findUpper E a maxPages) :=
  .of_matches fun _ h => concur_findUpper h a maxPages

theorem isQuestion_findLower (a : Address) (maxPages : Nat) :
    E.IsQuestion (findLower E a maxPages) :=
  .of_matches fun _ h => concur_findLower h a maxPages

theorem isQuestion_stackTop (a : Address) : E.IsQuestion (stackTop E a) :=
  .of_matches fun _ h => concur_stackTop h a

end Boundary

namespace AuxvSource

theorem isQuestion_down (size : Nat) (a : Address) (words : Nat) :
    E.IsQuestion (down size a words) :=
  .of_matches fun _ _ => concur_down size a words

theorem isQuestion_set (v : Auxv) (kind word : UInt64) : E.IsQuestion (set E v kind word) :=
  .of_matches fun _ h => concur_set h v kind word

theorem isQuestion_readStack (size : Nat) (top : Address) (skew : Nat) :
    E.IsQuestion (readStack E size top skew) :=
  .of_matches fun _ h => concur_readStack h size top skew

theorem isQuestion_skipDown (skips : UInt8 → Bool) (below : Nat) :
    E.IsQuestion (skipDown E skips below) :=
  .of_matches fun _ h => concur_skipDown h skips below

theorem isQuestion_lastString? (top : Address) : E.IsQuestion (lastString? E top) :=
  .of_matches fun _ h => concur_lastString? h top

theorem isQuestion_listed? : E.IsQuestion (listed? E) := .of_matches fun _ h => concur_listed? h

end AuxvSource

end

theorem Boundary.along_stackTop (hE : E.IsStill) (a : Address) : Along Unchanged (stackTop E a) :=
  (isQuestion_stackTop E a).unchanged hE

theorem AuxvSource.along_readStack (hE : E.IsStill) (size : Nat) (top : Address) (skew : Nat) :
    Along Unchanged (readStack E size top skew) :=
  (isQuestion_readStack E size top skew).unchanged hE

end Debuggee
