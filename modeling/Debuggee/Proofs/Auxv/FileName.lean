import Debuggee.Proofs.Auxv.Sources
import Debuggee.Proofs.Boundary.Agreement
import Debuggee.Proofs.Memory.Scalars
import Debuggee.Proofs.Memory.Strings

namespace Debuggee

variable {σ ν τ : Type}

structure Skips (memory : Nat → Option UInt8) (skips : UInt8 → Bool) (top stop : Nat) : Prop where
  le : stop ≤ top
  skipped : ∀ c, stop ≤ c → c < top → ∃ b, memory c = some b ∧ skips b = true
  other : ∃ c b, c + 1 = stop ∧ memory c = some b ∧ skips b = false

/-- The last run of text below `top`: nothing but zeros follows, and there is a zero before it. -/
structure LastRun (memory : Nat → Option UInt8) (top start stop : Nat) : Prop where
  start_lt : start < stop
  stop_le : stop ≤ top
  text : ∀ c, start ≤ c → c < stop → isText memory c
  zeros_after : ∀ c, stop ≤ c → c < top → memory c = some 0
  zero_before : ∃ c, c + 1 = start ∧ memory c = some 0

section

variable {memory : Nat → Option UInt8} {top upper start stop : Nat}

theorem not_skips_zero {skips : UInt8 → Bool} : ¬ Skips memory skips 0 stop := fun h => by
  obtain ⟨c, _, hc, -⟩ := h.other
  have hle := h.le
  omega

theorem not_skips_of_none {skips : UInt8 → Bool} (hnone : memory top = none) :
    ¬ Skips memory skips (top + 1) stop := fun h => by
  rcases Nat.lt_succ_iff_lt_or_eq.1 (Nat.lt_succ_of_le h.le) with hlt | rfl
  · obtain ⟨b, hb, -⟩ := h.skipped top (Nat.le_of_lt_succ hlt) top.lt_succ_self
    cases hnone.symm.trans hb
  · obtain ⟨c, b, hc, hb, -⟩ := h.other
    obtain rfl : c = top := Nat.succ.inj hc
    cases hnone.symm.trans hb

theorem skips_succ_iff {skips : UInt8 → Bool} {b : UInt8} (hb : memory top = some b) :
    Skips memory skips (top + 1) stop ↔
      if skips b = true then Skips memory skips top stop else stop = top + 1 := by
  split
  · next hskips =>
    constructor
    · intro h
      have hne : stop ≠ top + 1 := by
        rintro rfl
        obtain ⟨c, b', hc, hb', hother⟩ := h.other
        obtain rfl : c = top := Nat.succ.inj hc
        cases hb.symm.trans hb'
        exact Bool.false_ne_true (hother.symm.trans hskips)
      have hle := h.le
      exact ⟨by omega, fun c hstop hlt => h.skipped c hstop (Nat.lt_succ_of_lt hlt), h.other⟩
    · intro h
      refine ⟨Nat.le_succ_of_le h.le, fun c hstop hlt => ?_, h.other⟩
      rcases Nat.lt_succ_iff_lt_or_eq.1 hlt with hlt | rfl
      · exact h.skipped c hstop hlt
      · exact ⟨b, hb, hskips⟩
  · next hother =>
    constructor
    · intro h
      by_contra hne
      have hle := h.le
      obtain ⟨b', hb', hskips⟩ := h.skipped top (by omega) top.lt_succ_self
      cases hb.symm.trans hb'
      exact hother hskips
    · rintro rfl
      exact ⟨Nat.le_refl _, fun c hstop hlt => absurd hlt (Nat.not_lt.2 hstop),
        top, b, rfl, hb, Bool.eq_false_iff.2 hother⟩

theorem isText_iff_exists {c : Nat} : isText memory c ↔ ∃ b, memory c = some b ∧ b ≠ 0 := by
  unfold isText
  cases memory c <;> simp

theorem lastRun_iff_skips : LastRun memory top start stop ↔
    Skips memory (· = 0) top stop ∧ Skips memory (· ≠ 0) stop start := by
  constructor
  · intro h
    obtain ⟨c, hc, hzero⟩ := h.zero_before
    have hlt := h.start_lt
    obtain ⟨b, hb, hne⟩ := isText_iff_exists.1 (h.text (stop - 1) (by omega) (by omega))
    have hzeros : ∀ c, stop ≤ c → c < top → ∃ b, memory c = some b ∧ decide (b = 0) = true :=
      fun c hle hlt => ⟨0, h.zeros_after c hle hlt, rfl⟩
    refine ⟨⟨h.stop_le, hzeros, stop - 1, b, by omega, hb, decide_eq_false hne⟩,
      ⟨Nat.le_of_lt hlt, fun c hle hlt => ?_, c, 0, hc, hzero, rfl⟩⟩
    · obtain ⟨b, hb, hne⟩ := isText_iff_exists.1 (h.text c hle hlt)
      exact ⟨b, hb, decide_eq_true hne⟩
  · rintro ⟨hzeros, htext⟩
    obtain ⟨c, b, hc, hb, hne⟩ := hzeros.other
    obtain ⟨c', b', hc', hb', hzero⟩ := htext.other
    have hb'0 : b' = 0 := by simpa using hzero
    refine ⟨Nat.lt_of_le_of_ne htext.le ?_, hzeros.le, fun c hle hlt => ?_, fun c hle hlt => ?_,
      c', hc', hb'0 ▸ hb'⟩
    · rintro rfl
      obtain rfl : c' = c := by omega
      rw [hb'] at hb
      cases hb
      simp [hb'0] at hne
    · obtain ⟨b, hb, hne⟩ := htext.skipped c hle hlt
      exact isText_iff_exists.2 ⟨b, hb, of_decide_eq_true hne⟩
    · obtain ⟨b, hb, hzero⟩ := hzeros.skipped c hle hlt
      rw [hb, of_decide_eq_true hzero]

theorem LastRun.iff_of_top (h : LastRun memory upper start stop) (top : Nat) :
    LastRun memory top start stop ↔
      stop ≤ top ∧ ∀ c, upper ≤ c → c < top → memory c = some 0 := by
  constructor
  · intro h'
    exact ⟨h'.stop_le, fun c hle hlt => h'.zeros_after c (Nat.le_trans h.stop_le hle) hlt⟩
  · rintro ⟨hle, hbetween⟩
    refine ⟨h.start_lt, hle, h.text, fun c hstop hlt => ?_, h.zero_before⟩
    rcases Nat.lt_or_ge c upper with hlow | hhigh
    · exact h.zeros_after c hstop hlow
    · exact hbetween c hhigh hlt

end

theorem AuxvSource.skipDown_succ {E : Engine σ ν τ} (skips : UInt8 → Bool) (below : Nat) (s : σ) :
    skipDown E skips (below + 1) s =
      match (Memory.word E (.ofNat below) 1).attempt s with
      | (none, t) => (none, t)
      | (some b, t) =>
        if skips b.toUInt8 then skipDown E skips below t else (some (below + 1), t) := by
  simp only [skipDown, bind, StateT.bind]
  rcases (Memory.word E (.ofNat below) 1).attempt s with ⟨_ | b, t⟩
  · rfl
  · dsimp only
    split <;> rfl

namespace Target

open AuxvSource

variable {E : Engine σ ν τ} {T : Target E} {memory : Nat → Option UInt8}

theorem presents (hE : E.IsStill) (h : E.Serves T.inferior memory (· = T.state)) :
    E.Presents T.inferior T.arch memory (· = T.state) where
  toServes := h
  selected hs := hs ▸ T.selected
  archOf hs := hs ▸ T.archOf
  steady_archOf hs := (hE.snd_archOf _ _).trans hs

theorem attempt_byte (hE : E.IsStill) (h : E.Serves T.inferior memory (· = T.state)) {c : Nat}
    (hc : c < UInt64.size) :
    (Memory.word E (.ofNat c) 1).attempt T.state =
      ((memory c).map fun b => .ofNat b.toNat, T.state) := by
  have hpresents := presents hE h
  have hc' : (UInt64.ofNat c).toNat = c := UInt64.toNat_ofNat_of_lt' hc
  rw [Action.attempt_apply, (Memory.isQuestion_word E _ 1).unchanged hE T.state]
  refine congrArg (·, T.state) ?_
  cases hb : memory c with
  | none =>
    rw [hpresents.fst_word_of_none rfl (UInt64.toNat_lt _) (c := c) (by simp [hc']) hb]
    rfl
  | some b =>
    have hbyte : Holds memory (List.range' (UInt64.ofNat c).toNat 1) [b] := by
      rw [hc']
      exact congrArg ([·]) hb
    have hdecode := T.arch.order.decode?_of_length (show [b].length = 1 from rfl) (by decide)
      (by decide)
    have hvalue : (T.arch.order.arrange [b]).value = b.toNat := by
      cases T.arch.order <;> rfl
    rw [hpresents.fst_word_of_holds rfl (UInt64.toNat_lt _) hbyte hdecode, hvalue]
    rfl

theorem skipDown_eq_some_iff (hE : E.IsStill) (h : E.Serves T.inferior memory (· = T.state))
    (skips : UInt8 → Bool) {top stop : Nat} (htop : top ≤ UInt64.size) :
    (skipDown E skips top T.state).1 = some stop ↔ Skips memory skips top stop := by
  induction top with
  | zero => exact iff_of_false nofun not_skips_zero
  | succ below ih =>
    rw [skipDown_succ, attempt_byte hE h (show below < UInt64.size by omega)]
    cases hb : memory below with
    | none => exact iff_of_false nofun (not_skips_of_none hb)
    | some b =>
      rw [skips_succ_iff hb]
      dsimp only [Option.map_some]
      rw [show (UInt64.ofNat b.toNat).toUInt8 = b by simp]
      cases skips b with
      | true => exact ih (by omega)
      | false => exact Option.some_inj.trans eq_comm

theorem lastString?_eq_some_iff (hE : E.IsStill) (h : E.Serves T.inferior memory (· = T.state))
    (top a : Address) : (lastString? E top T.state).1 = some a ↔
      ∃ start stop, LastRun memory top.toNat start stop ∧ .ofNat start = a := by
  have hzeros (stop : Nat) : (skipDown E (· = 0) top.toNat T.state).1 = some stop ↔
      Skips memory (· = 0) top.toNat stop :=
    skipDown_eq_some_iff hE h _ (Nat.le_of_lt top.toNat_lt)
  have hstate := (isQuestion_skipDown E (· = 0) top.toNat).unchanged hE T.state
  simp only [lastString?, bind, StateT.bind]
  rcases hskip : skipDown E (· = 0) top.toNat T.state with ⟨_ | stop, s⟩ <;>
    rw [hskip] at hzeros hstate
  · refine iff_of_false nofun fun ⟨start, stop, hrun, _⟩ => ?_
    cases (hzeros stop).2 (lastRun_iff_skips.1 hrun).1
  · obtain rfl : s = T.state := hstate
    have hstop : Skips memory (· = 0) top.toNat stop := (hzeros stop).1 rfl
    have htext (start : Nat) : (skipDown E (· ≠ 0) stop T.state).1 = some start ↔
        Skips memory (· ≠ 0) stop start :=
      skipDown_eq_some_iff hE h _ (Nat.le_trans hstop.le (Nat.le_of_lt top.toNat_lt))
    show (skipDown E (· ≠ 0) stop T.state).1.map UInt64.ofNat = some a ↔ _
    rw [Option.map_eq_some_iff]
    refine exists_congr fun start => ?_
    rw [htext]
    constructor
    · rintro ⟨hstart, ha⟩
      exact ⟨stop, lastRun_iff_skips.2 ⟨hstop, hstart⟩, ha⟩
    · rintro ⟨stop', hrun, ha⟩
      obtain ⟨hstop', hstart⟩ := lastRun_iff_skips.1 hrun
      cases (hzeros stop').2 hstop'
      exact ⟨hstart, ha⟩

section

variable (T)

def fileNameAt (directory : String) (start : Nat) : String :=
  String.ofList (Text.Path.absolute directory.toList
    (Text.Utf8.decodeLossy (Memory.string E (.ofNat start) fileNameMax T.state).1))

end

variable {v : View σ}

theorem sp_leaves (hE : E.IsStill) (v : View σ) :
    (Registers.sp E v).2.engine = v.engine ∧
      (Registers.sp E v).2.observer.config = v.observer.config ∧
        (Registers.sp E v).2.observer.caches.upper = v.observer.caches.upper :=
  ⟨Registers.looks_get hE.toIsQuiet "sp" v, get_boundaries "sp" v⟩

theorem fst_fileNameFromStack (hE : E.IsStill) (h : E.Serves T.inferior memory (· = T.state))
    (hv : v.engine = T.state) {sp : UInt64} (hsp : (Registers.sp E v).1 = some sp) :
    (fileNameFromStack E v).1 =
      if memory sp.toNat = none then none
      else (lastString? E (Boundary.upper E sp none v).1 T.state).1.bind fun a =>
        let name := (Memory.string E a fileNameMax T.state).1
        let directory := v.observer.config.directory.toList
        if name = [] then none
        else some (String.ofList (Text.Path.absolute directory (Text.Utf8.decodeLossy name))) := by
  let u := (Registers.sp E v).2
  have hu : Registers.sp E v = (some sp, u) := Prod.ext hsp rfl
  obtain ⟨hengine, hconfig, htable⟩ : u.engine = v.engine ∧ _ := sp_leaves hE v
  rw [hv] at hengine
  have hpeek : View.ask (Memory.peek E sp) u = (memory sp.toNat, u) :=
    ask_of_apply hengine (Prod.ext (by rw [Memory.peek_apply h T.selected rfl])
      ((Memory.isQuestion_peek E sp).unchanged hE T.state))
  have hsame : (Boundary.upper E sp none u).1 = (Boundary.upper E sp none v).1 :=
    Boundary.fst_upper_congr (hengine.trans hv.symm) hconfig htable sp none
  have halike := along_upper hE sp none u
  rcases hupper : Boundary.upper E sp none u with ⟨top, w⟩
  rw [hupper] at hsame halike
  have hw : w.engine = T.state := halike.engine.trans hengine
  have hlast : View.ask (lastString? E top) w = ((lastString? E top T.state).1, w) :=
    ask_of_apply hw (Prod.ext rfl ((isQuestion_lastString? E top).unchanged hE T.state))
  have hstring (a : Address) : Boundary.string E a (some fileNameMax) w =
      ((Memory.string E a fileNameMax T.state).1, w) :=
    ask_of_apply (x := Memory.string E a fileNameMax) hw
      (Prod.ext rfl ((Memory.isQuestion_string E a _).unchanged hE T.state))
  have hself : (MonadState.get : StateM (View σ) (View σ)) w = (w, w) := rfl
  have hdirectory : w.observer.config = v.observer.config := halike.config.trans hconfig
  simp only [fileNameFromStack, View.bind_apply, hu, hpeek]
  cases memory sp.toNat with
  | none => rfl
  | some b =>
    simp only [Option.isNone_some, Bool.false_eq_true, if_false, View.bind_apply, hupper, hlast]
    rw [← hsame]
    cases (lastString? E top T.state).1 with
    | none => rfl
    | some a =>
      simp only [View.bind_apply, hstring, Option.bind_some]
      cases (Memory.string E a fileNameMax T.state).1 with
      | nil => rfl
      | cons c name =>
        simp only [List.isEmpty_cons, Bool.false_eq_true, if_false, View.bind_apply, hself,
          hdirectory]
        rfl

theorem fileNameFromStack_eq_some_iff (hE : E.IsStill)
    (h : E.Serves T.inferior memory (· = T.state)) (hv : v.engine = T.state) {sp : UInt64}
    (hsp : (Registers.sp E v).1 = some sp) (path : String) :
    (fileNameFromStack E v).1 = some path ↔ memory sp.toNat ≠ none ∧
      ∃ start stop, LastRun memory (Boundary.upper E sp none v).1.toNat start stop ∧
        (Memory.string E (.ofNat start) fileNameMax T.state).1 ≠ [] ∧
          T.fileNameAt v.observer.config.directory start = path := by
  rw [fst_fileNameFromStack hE h hv hsp, Option.ite_none_left_eq_some, Option.bind_eq_some_iff]
  refine and_congr_right fun _ => ?_
  constructor
  · rintro ⟨a, hlast, hname⟩
    obtain ⟨start, stop, hrun, rfl⟩ := (lastString?_eq_some_iff hE h _ a).1 hlast
    obtain ⟨hne, hpath⟩ := Option.ite_none_left_eq_some.1 hname
    exact ⟨start, stop, hrun, hne, Option.some.inj hpath⟩
  · rintro ⟨start, stop, hrun, hne, rfl⟩
    exact ⟨_, (lastString?_eq_some_iff hE h _ _).2 ⟨start, stop, hrun, rfl⟩, if_neg hne⟩

theorem mask_mod_pageSize (T : Target E) (h : 0 < T.size) :
    T.arch.mask.toNat % Address.pageSize ≠ 0 := by
  show (byteMask T.size).toNat % _ ≠ 0
  unfold byteMask
  split
  · decide
  · next hlt =>
    have hsmall : ∀ n < 8, 0 < n →
        (UInt64.ofNat ((1 <<< (8 * n)) - 1)).toNat % Address.pageSize ≠ 0 := by
      decide
    exact hsmall T.size (Nat.not_le.1 hlt) h

/--
The name that is filled in is that of the last run of text below the end of readable memory. That
is the last run below the top of the stack, where the walk begins, just where it does not reach
beyond the top and only zeros lie between the two. They are one address where the budget covers the
stack, the next page is not readable or beyond the budget, and no address of the stack is beyond
what a pointer can hold.
-/
theorem get_fileName (hE : E.IsStill) (hT : T.IsUnlisted)
    (h : E.Serves T.inferior memory (· = T.state)) {v : View σ} (hv : v.engine = T.state)
    (hauxv : v.observer.caches.auxv = .empty) (hupper : v.observer.caches.upper = .empty)
    {sp : Address} (hsp : (Registers.sp E v).1 = some sp) :
    let top := (Boundary.stackTop E sp T.state).1
    let upper := (Boundary.findUpper E sp v.observer.config.maxPages T.state).1
    let walked (skew : Nat) := (readStack E T.size top skew T.state).1.toOption.getD {}
    let found := if (walked 0).isEmpty then walked 1 else walked 0
    let name (start : Nat) := (Memory.string E (.ofNat start) fileNameMax T.state).1
    (∀ start stop, found.execFileName?.all (· = "") = true → memory sp.toNat ≠ none →
      LastRun memory upper.toNat start stop → name start ≠ [] →
        (AuxvSource.get E v).1 = found.insert AuxvKind.execFileName
          (.str (T.fileNameAt v.observer.config.directory start))) ∧
    (found.execFileName?.all (· = "") = false ∨ memory sp.toNat = none ∨
      (∀ start stop, LastRun memory upper.toNat start stop → name start = []) →
        (AuxvSource.get E v).1 = found) ∧
    (∀ start stop, LastRun memory upper.toNat start stop →
      (LastRun memory top.toNat start stop ↔
        stop ≤ top.toNat ∧ ∀ c, upper.toNat ≤ c → c < top.toNat → memory c = some 0)) ∧
    (0 < T.size → (upper = top ↔
      let budget := sp.page.toNat + v.observer.config.maxPages * Address.pageSize
      top.toNat ≤ budget ∧ (top.toNat = budget ∨ memory top.toNat = none) ∧
        (top = sp.page ∨ top ≤ T.arch.mask))) := by
  intro top upper walked found name
  let u := (Registers.sp E v).2
  obtain ⟨hengine, hconfig, htable⟩ : u.engine = v.engine ∧ _ := sp_leaves hE v
  rw [hv] at hengine
  have hspAgain : (Registers.sp E u).1 = some sp := by
    rw [show Registers.sp E u = Registers.sp E v from Registers.get_again hE.toIsQuiet "sp" v, hsp]
  have hend : (Boundary.upper E sp none u).1 = upper := by
    rw [Boundary.fst_upper, htable, hupper, hconfig, hengine]
    rfl
  have hname (path : String) := fileNameFromStack_eq_some_iff hE h hengine hspAgain path
  rw [hend, hconfig] at hname
  have hget : (AuxvSource.get E v).1 = filledIn found (fileNameFromStack E u).1 := by
    rw [fst_get_of_isUnlisted hE hT hv hauxv hsp, walk_apply hE hv hsp, walk_apply hE hv hsp]
  refine ⟨fun start stop hmissing hreadable hrun hne => ?_, fun hnone => ?_,
    fun start stop hrun => hrun.iff_of_top top.toNat, fun hpos => ?_⟩
  · rw [hget, (hname _).2 ⟨hreadable, start, stop, hrun, hne, rfl⟩]
    exact if_pos hmissing
  · rw [hget]
    unfold filledIn
    split
    · next hmissing =>
      cases hpath : (fileNameFromStack E u).1 with
      | none => rfl
      | some path =>
        obtain ⟨hreadable, start, stop, hrun, hne, -⟩ := (hname path).1 hpath
        rcases hnone with hfalse | hunreadable | hempty
        · cases hfalse.symm.trans hmissing
        · exact absurd hunreadable hreadable
        · exact absurd (hempty start stop hrun) hne
    · rfl
  · have hceiling : Boundary.ceiling E T.inferior T.state = T.arch.mask := by
      rw [Boundary.ceiling, T.archOf]
      rfl
    rw [← hceiling]
    refine Boundary.findUpper_eq_stackTop_iff hE h T.selected ?_ sp _
    rw [hceiling]
    exact T.mask_mod_pageSize hpos

end Target

namespace Machine

def namedVector : List UInt64 :=
  [0x7ffd0f00, 0, 6, 0x1000, 7, 0x7fff0000, 9, 0x401040, 0, 0, 0x6f2e612f706d742f, 0x7475]

theorem get_fileName_stacked :
    let T := stackTarget 0x7ffd0fa0 namedVector
    ∃ start stop, LastRun T.state.memory.readable? 0x7ffd1000 start stop ∧
      (AuxvSource.get engine (Registers.attached {} T.state)).1.get? AuxvKind.execFileName =
        some (.str (T.fileNameAt "/" start)) := by
  intro T
  have hserves := T.state.serves
  have hsp : (Registers.sp engine (Registers.attached {} T.state)).1 = some 0x7ffd0fa0 :=
    sp_stacked (by decide +kernel)
  have htop : (Boundary.stackTop engine 0x7ffd0fa0 T.state).1 = 0x7ffd1000 := by
    decide +kernel
  obtain ⟨hname, -, -, hagree⟩ := Target.get_fileName isStill (isUnlisted_stackTarget _ _) hserves
    (v := Registers.attached {} T.state) rfl rfl rfl hsp
  rw [htop] at hname hagree
  have hupper := (hagree (by decide)).2 (by decide +kernel)
  have hlast : (AuxvSource.lastString? engine 0x7ffd1000 T.state).1 = some 0x7ffd0ff0 := by
    decide +kernel
  obtain ⟨start, stop, hrun, hstart⟩ :=
    (Target.lastString?_eq_some_iff isStill hserves _ _).1 hlast
  rw [hupper] at hname
  refine ⟨start, stop, hrun, ?_⟩
  rw [hname start stop ?_ ?_ hrun ?_, Auxv.get?_insert, if_pos rfl]
  · rfl
  · decide +kernel
  · decide +kernel
  · show (Memory.string engine (.ofNat start) AuxvSource.fileNameMax T.state).1 ≠ []
    rw [hstart]
    decide +kernel

def imageAbove : Machine :=
  storeBytes 0x7ffd1ff8 [0x76, 0x64, 0x73, 0x6f] <|
    storeBytes 0x7ffd1000 Boundary.imageStart <| mapPages 0x7ffd1000 1 ⟨true, false, true⟩ <|
      stacked 0x7ffd0fa0 namedVector

def twoStackPages : Machine :=
  storeBytes 0x7ffd0ff8 [0x6f, 0x6c, 0x64] <| mapPages 0x7ffd0000 1 ⟨true, true, false⟩ <|
    { stacked 0x7ffd1fa0 namedVector with
      frames := [{ thread := ⟨1⟩, level := 0, registers := [("sp", ⟨0x7ffd0800, 8, false⟩)] }] }

def x8664Target (m : Machine) (hpresent : m.present = true)
    (harch : m.arch = ⟨"i386:x86-64", 8, .little⟩) : Target engine where
  state := m
  inferior := ⟨1⟩
  arch := ⟨.x8664, 8, .little⟩
  selected := by simp [engine, hpresent]
  archOf := fst_archOf_x8664 harch _

theorem exists_lastRun {T : Target engine} {memory : Nat → Option UInt8} {top a : Address}
    (h : engine.Serves T.inferior memory (· = T.state))
    (hlast : (AuxvSource.lastString? engine top T.state).1 = some a) (directory : String) :
    ∃ start stop, LastRun memory top.toNat start stop ∧
      T.fileNameAt directory start = T.fileNameAt directory a.toNat := by
  obtain ⟨start, stop, hrun, rfl⟩ := (Target.lastString?_eq_some_iff isStill h _ _).1 hlast
  refine ⟨start, stop, hrun, ?_⟩
  rw [Target.fileNameAt, Target.fileNameAt, UInt64.ofNat_toNat]

/--
The last text of the image is taken for the file name, and the last text of the pages that the
budget covers, where the last text of the stack is the file name.
-/
theorem get_fileName_elsewhere :
    let image := x8664Target imageAbove rfl rfl
    let long := x8664Target twoStackPages rfl rfl
    ((∃ start stop, LastRun imageAbove.memory.readable?
        (Boundary.stackTop engine 0x7ffd0fa0 imageAbove).1.toNat start stop ∧
          image.fileNameAt "/" start = "/tmp/a.out") ∧
      (AuxvSource.get engine (Registers.attached {} imageAbove)).1.get? AuxvKind.execFileName =
        some (.str "/vdso")) ∧
    (∃ start stop, LastRun twoStackPages.memory.readable?
        (Boundary.stackTop engine 0x7ffd0800 twoStackPages).1.toNat start stop ∧
          long.fileNameAt "/" start = "/tmp/a.out") ∧
      (AuxvSource.get engine
        (Registers.attached { maxPages := 1 } twoStackPages)).1.get? AuxvKind.execFileName =
          some (.str "/old") := by
  intro image long
  have himage : (AuxvSource.lastString? engine (Boundary.stackTop engine 0x7ffd0fa0 imageAbove).1
      imageAbove).1 = some 0x7ffd0ff0 := by
    decide +kernel
  have hlong : (AuxvSource.lastString? engine
      (Boundary.stackTop engine 0x7ffd0800 twoStackPages).1 twoStackPages).1 =
        some 0x7ffd1ff0 := by
    decide +kernel
  refine ⟨⟨?_, by decide +kernel⟩, ?_, by decide +kernel⟩
  · obtain ⟨start, stop, hrun, hname⟩ := exists_lastRun (T := image) imageAbove.serves himage "/"
    refine ⟨start, stop, hrun, hname.trans ?_⟩
    decide +kernel
  · obtain ⟨start, stop, hrun, hname⟩ := exists_lastRun (T := long) twoStackPages.serves hlong "/"
    refine ⟨start, stop, hrun, hname.trans ?_⟩
    decide +kernel

end Machine

end Debuggee
