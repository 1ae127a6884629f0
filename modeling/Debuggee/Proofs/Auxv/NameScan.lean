import Debuggee.Proofs.Auxv.FileName
import Debuggee.Proofs.Loop

namespace Debuggee

variable {σ ν τ : Type}

namespace AuxvSource

open Debuggee.Action Ending

section

variable (E : Engine σ ν τ)

def skipStep (skips : UInt8 → Bool) (a : Address) : Action σ (Address ⊕ Option Address) := do
  match a.sub? 1 with
  | none => return .inr none
  | some below =>
    match ← Action.ofState (Memory.word E below 1).attempt with
    | none => return .inr none
    | some b => if skips b.toUInt8 then return .inl (← down 1 a 1) else return .inr (some a)

def skippedTo (skips : UInt8 → Bool) (a : Address) : StateM σ (Option Address) :=
  return (← skipDown E skips a.toNat).map .ofNat

def Scans (top : Address) : Ending σ (Option Address) :=
  .Then (.Loop (skipStep E (· = 0)) top) fun
    | none => .of (pure none)
    | some stop => .Loop (skipStep E (· ≠ 0)) stop

end

variable {E : Engine σ ν τ}

theorem skipStep_of_sub? (skips : UInt8 → Bool) {a below : Address} (h : a.sub? 1 = some below)
    (s : σ) : skipStep E skips a s =
      match (Memory.word E below 1).attempt s with
      | (none, t) => (.ok (.inr none), t)
      | (some b, t) => (.ok (if skips b.toUInt8 then .inl below else .inr (some a)), t) := by
  have hdown : (down 1 a 1 : Action σ Address) = pure below := by
    rw [down, show distance 1 1 = 1 from rfl, h]
  rw [skipStep, h, hdown]
  dsimp only
  rw [bind_apply, ofState_apply]
  rcases (Memory.word E below 1).attempt s with ⟨_ | b, t⟩
  · rfl
  · dsimp only
    split <;> rfl

theorem loop_skipStep (skips : UInt8 → Bool) (a : Address) (s : σ) :
    Loop (skipStep E skips) a s (.ok (skippedTo E skips a s).1) (skippedTo E skips a s).2 := by
  show Loop _ _ _ (.ok ((skipDown E skips a.toNat s).1.map UInt64.ofNat))
    (skipDown E skips a.toNat s).2
  induction hn : a.toNat generalizing a s with
  | zero =>
    have hsub : a.sub? 1 = none := Address.sub?_eq_none_iff.2 (by omega)
    refine .ended ?_
    rw [skipStep, hsub]
    rfl
  | succ n ih =>
    have hlt : n < UInt64.size := Nat.lt_of_succ_lt (Nat.lt_of_le_of_lt hn.ge a.toNat_lt)
    have hsub : a.sub? 1 = some (.ofNat n) := by
      rw [Address.sub?, if_pos (by omega), hn, Nat.add_sub_cancel]
    have hstep := skipStep_of_sub? (E := E) skips hsub s
    rw [skipDown_succ]
    rcases hword : (Memory.word E (.ofNat n) 1).attempt s with ⟨_ | b, t⟩ <;> rw [hword] at hstep
    · exact .ended hstep
    · dsimp only at hstep ⊢
      split
      · next hskips =>
        rw [if_pos hskips] at hstep
        exact .again hstep (ih _ t (UInt64.toNat_ofNat_of_lt' hlt))
      · next hother =>
        rw [if_neg hother] at hstep
        have ha : UInt64.ofNat (n + 1) = a := by rw [← hn, UInt64.ofNat_toNat]
        rw [Option.map_some, ha]
        exact .ended hstep

theorem skipDown_le {skips : UInt8 → Bool} {top stop : Nat} {s : σ}
    (h : (skipDown E skips top s).1 = some stop) : stop ≤ top := by
  induction top generalizing s with
  | zero => cases h
  | succ below ih =>
    rw [skipDown_succ] at h
    rcases hword : (Memory.word E (.ofNat below) 1).attempt s with ⟨_ | b, t⟩ <;> rw [hword] at h
    · cases h
    · dsimp only at h
      split at h
      · exact Nat.le_succ_of_le (ih h)
      · cases h
        exact Nat.le_refl _

theorem isThat_skippedTo (skips : UInt8 → Bool) (a : Address) (s : σ) :
    (Loop (skipStep E skips) a).IsThat (Action.ofState (skippedTo E skips a)) s := by
  intro r t
  constructor
  · intro h
    obtain ⟨rfl, rfl⟩ := (loop_skipStep skips a s).unique h
    rfl
  · rintro ⟨⟩
    exact loop_skipStep skips a s

theorem lastString?_apply (top : Address) (s : σ) :
    lastString? E top s =
      match skippedTo E (· = 0) top s with
      | (none, t) => (none, t)
      | (some stop, t) => skippedTo E (· ≠ 0) stop t := by
  simp only [lastString?, skippedTo, bind, StateT.bind]
  rcases hskip : skipDown E (· = 0) top.toNat s with ⟨_ | stop, t⟩
  · rfl
  · have hle : stop ≤ top.toNat := skipDown_le (congrArg Prod.fst hskip)
    have hstop : (UInt64.ofNat stop).toNat = stop :=
      UInt64.toNat_ofNat_of_lt' (Nat.lt_of_le_of_lt hle top.toNat_lt)
    show _ = skippedTo E (· ≠ 0) (.ofNat stop) t
    rw [skippedTo, hstop]
    rfl

theorem isThat_scans (E : Engine σ ν τ) (top : Address) (s : σ) :
    (Scans E top).IsThat (Action.ofState (lastString? E top)) s := by
  have hscans := (isThat_skippedTo (E := E) (· = 0) top s).then
    (F := fun
      | none => .of (pure none)
      | some stop => .Loop (skipStep E (· ≠ 0)) stop)
    (f := fun
      | none => pure none
      | some stop => Action.ofState (skippedTo E (· ≠ 0) stop))
    fun stop? t _ => by
      cases stop? with
      | none => exact isThat_of _ _
      | some stop => exact isThat_skippedTo _ stop t
  intro r t
  rw [Scans, hscans r t, bind_apply, ofState_apply, ofState_apply, lastString?_apply]
  rcases skippedTo E (· = 0) top s with ⟨_ | stop, s'⟩ <;> rfl

end AuxvSource

/-- Down past zeros and then past text, one comes to the first address of all, or right above a byte
that cannot be read. -/
def CutShort (memory : Nat → Option UInt8) (top : Nat) : Prop :=
  ∃ start stop, start ≤ stop ∧ stop ≤ top ∧ (∀ c, stop ≤ c → c < top → memory c = some 0) ∧
    (∀ c, start ≤ c → c < stop → isText memory c) ∧ ∀ c, c + 1 = start → memory c = none

section

variable {memory : Nat → Option UInt8} {top start stop : Nat}

theorem exists_run (p : Nat → Prop) (top : Nat) :
    ∃ low, low ≤ top ∧ (∀ c, low ≤ c → c < top → p c) ∧ ∀ c, c + 1 = low → ¬p c := by
  induction top with
  | zero => exact ⟨0, Nat.le_refl 0, fun c _ hc => absurd hc (Nat.not_lt_zero c), nofun⟩
  | succ top ih =>
    by_cases htop : p top
    · obtain ⟨low, hle, hrun, hbelow⟩ := ih
      refine ⟨low, Nat.le_succ_of_le hle, fun c hlow hc => ?_, hbelow⟩
      rcases Nat.lt_succ_iff_lt_or_eq.1 hc with hc | rfl
      · exact hrun c hlow hc
      · exact htop
    · refine ⟨top + 1, Nat.le_refl _, fun c hlow hc => absurd hc (Nat.not_lt.2 hlow), ?_⟩
      rintro c hc
      rwa [Nat.succ.inj hc]

theorem LastRun.ne_none (h : LastRun memory top start stop) {c : Nat} (hc : start ≤ c + 1)
    (hlt : c < top) : memory c ≠ none := by
  intro hnone
  rcases Nat.lt_or_ge c start with hbefore | hle
  · obtain ⟨d, hd, hzero⟩ := h.zero_before
    obtain rfl : d = c := by omega
    cases hzero.symm.trans hnone
  · rcases Nat.lt_or_ge c stop with hin | hafter
    · exact isText_iff.1 (h.text c hle hin) (.inr hnone)
    · cases (h.zeros_after c hafter hlt).symm.trans hnone

theorem LastRun.exists_bytes (h : LastRun memory top start stop) :
    ∃ bytes, Holds memory (List.range' start (stop - start)) bytes := by
  have hle := h.stop_le
  refine Holds.exists_of_ne_none fun c hc => ?_
  rw [List.mem_range'_1] at hc
  exact h.ne_none (Nat.le_succ_of_le hc.1) (by omega)

theorem LastRun.not_cutShort (h : LastRun memory top start stop) : ¬CutShort memory top := by
  rintro ⟨start', stop', hle, hle', hzeros, htext, hnone⟩
  have hlt := h.start_lt
  have hstop_le := h.stop_le
  obtain ⟨c, hc, hzero⟩ := h.zero_before
  -- the zero before the run is not passed: it is no text, and not everything above it is zero
  have hlow : start ≤ start' := by
    by_contra hpassed
    rcases Nat.lt_or_ge c stop' with hin | hafter
    · exact isText_iff.1 (htext c (by omega) hin) (.inl hzero)
    · have hfirst := h.text start (Nat.le_refl _) hlt
      exact isText_iff.1 hfirst (.inl (hzeros start (by omega) (by omega)))
  exact h.ne_none (by omega) (by omega) (hnone (start' - 1) (by omega))

theorem exists_lastRun_or_cutShort (memory : Nat → Option UInt8) (top : Nat) :
    (∃ start stop, LastRun memory top start stop) ∨ CutShort memory top := by
  obtain ⟨stop, hstop, hzeros, hother⟩ := exists_run (memory · = some 0) top
  obtain ⟨start, hstart, htext, hbefore⟩ := exists_run (isText memory ·) stop
  have hend (c : Nat) (hc : c + 1 = start) : memory c = some 0 ∨ memory c = none :=
    Classical.not_not.1 fun h => hbefore c hc (isText_iff.2 h)
  rcases Nat.eq_zero_or_pos start with hzero | hpos
  · refine .inr ⟨start, stop, hstart, hstop, hzeros, htext, fun c hc => ?_⟩
    omega
  have hc : start - 1 + 1 = start := Nat.sub_add_cancel hpos
  rcases hend (start - 1) hc with hzero | hnone
  · refine .inl ⟨start, stop, Nat.lt_of_le_of_ne hstart ?_, hstop, htext, hzeros,
      start - 1, hc, hzero⟩
    rintro rfl
    exact hother (start - 1) hc hzero
  · refine .inr ⟨start, stop, hstart, hstop, hzeros, htext, fun c' hc' => ?_⟩
    rwa [show c' = start - 1 by omega]

theorem exists_lastRun_iff :
    (∃ start stop, LastRun memory top start stop) ↔ ¬CutShort memory top :=
  ⟨fun ⟨_, _, h⟩ => h.not_cutShort, (exists_lastRun_or_cutShort memory top).resolve_right⟩

end

namespace Target

open AuxvSource

variable {E : Engine σ ν τ} {T : Target E} {memory : Nat → Option UInt8} {top : Address}
  {start stop : Nat}

theorem holds_name (h : E.Serves T.inferior memory (· = T.state)) (hpaged : Paged memory)
    (hrun : LastRun memory top.toNat start stop) :
    Holds memory (textRun memory start (min (start + fileNameMax) (UInt64.size - 1) - start))
      (Memory.string E (.ofNat start) fileNameMax T.state).1 := by
  have hlt : start < UInt64.size :=
    Nat.lt_of_lt_of_le hrun.start_lt (Nat.le_trans hrun.stop_le (Nat.le_of_lt top.toNat_lt))
  have hstart : (UInt64.ofNat start).toNat = start := UInt64.toNat_ofNat_of_lt' hlt
  have hholds := Memory.holds_string_beforeLast h (fun s hs => hs ▸ T.selected) hpaged rfl
    (.ofNat start) fileNameMax
  rwa [hstart] at hholds

theorem name_ne_nil (h : E.Serves T.inferior memory (· = T.state)) (hpaged : Paged memory)
    (hrun : LastRun memory top.toNat start stop) :
    (Memory.string E (.ofNat start) fileNameMax T.state).1 ≠ [] := by
  intro hnil
  have hholds := holds_name h hpaged hrun
  have hlt := hrun.start_lt
  have htop : stop < UInt64.size := Nat.lt_of_le_of_lt hrun.stop_le top.toNat_lt
  obtain ⟨size, hsize⟩ : ∃ size,
      min (start + fileNameMax) (UInt64.size - 1) - start = size + 1 :=
    Nat.exists_eq_succ_of_ne_zero (by
      unfold fileNameMax
      omega)
  rw [hnil, hsize, textRun, List.range'_succ,
    List.takeWhile_cons_of_pos (hrun.text start (Nat.le_refl _) hlt)] at hholds
  cases hholds

theorem name_eq_take (h : E.Serves T.inferior memory (· = T.state)) (hpaged : Paged memory)
    (hrun : LastRun memory top.toNat start stop) (hstop : stop < top.toNat) {bytes : Bytes}
    (hbytes : Holds memory (List.range' start (stop - start)) bytes) :
    (Memory.string E (.ofNat start) fileNameMax T.state).1 = bytes.take fileNameMax := by
  have hholds := holds_name h hpaged hrun
  have htop : top.toNat < UInt64.size := top.toNat_lt
  have hzero := hrun.zeros_after stop (Nat.le_refl _) hstop
  rw [textRun_of_zero hrun.text hzero (Nat.le_of_lt hrun.start_lt)] at hholds
  have hsize : min (min (start + fileNameMax) (UInt64.size - 1) - start) (stop - start) =
      min fileNameMax (stop - start) := by
    omega
  have htake : (List.range' start (stop - start)).take fileNameMax =
      List.range' start (min fileNameMax (stop - start)) := by
    rcases Nat.le_total fileNameMax (stop - start) with hle | hle
    · rw [List.take_range'_of_length_ge hle, Nat.min_eq_left hle]
    · rw [List.take_range'_of_length_le hle, Nat.min_eq_right hle]
  rw [hsize, ← htake] at hholds
  exact (hbytes.take fileNameMax).unique hholds

theorem fileNameFromStack_eq_none_iff (hE : E.IsStill)
    (h : E.Serves T.inferior memory (· = T.state)) (hpaged : Paged memory) {v : View σ}
    (hv : v.engine = T.state) {sp : Address} (hsp : (Registers.sp E v).1 = some sp) :
    (fileNameFromStack E v).1 = none ↔
      memory sp.toNat = none ∨ CutShort memory (Boundary.upper E sp none v).1.toNat := by
  have hfound := fileNameFromStack_eq_some_iff hE h hv hsp
  rw [Option.eq_none_iff_forall_ne_some]
  constructor
  · intro hnone
    rw [or_iff_not_imp_left]
    intro hreadable
    by_contra hnot
    obtain ⟨start, stop, hrun⟩ := exists_lastRun_iff.2 hnot
    exact hnone _ ((hfound _).2 ⟨hreadable, start, stop, hrun, name_ne_nil h hpaged hrun, rfl⟩)
  · rintro hfails name hname
    obtain ⟨hreadable, start, stop, hrun, -⟩ := (hfound name).1 hname
    exact hfails.elim hreadable hrun.not_cutShort

/--
However the bytes lie, the search from the end of readable memory ends, and never goes below the
first address. Where a run of text with zeros around it is the last, the name is that of its first
bytes, as many as are taken, made absolute. There is none exactly if the stack pointer points to
what cannot be read, or if the search comes to such a byte or to the first address before it has
found a run.
-/
theorem fileNameFromStack_scanned (hE : E.IsStill)
    (h : E.Serves T.inferior memory (· = T.state)) (hpaged : Paged memory) {v : View σ}
    (hv : v.engine = T.state) {sp : Address} (hsp : (Registers.sp E v).1 = some sp) :
    let top := (Boundary.upper E sp none v).1
    let found := (fileNameFromStack E v).1
    let path (name : Bytes) := String.ofList
      (Text.Path.absolute v.observer.config.directory.toList (Text.Utf8.decodeLossy name))
    (∀ s r t, Scans E top s r t ↔
      r = .ok (lastString? E top s).1 ∧ t = (lastString? E top s).2) ∧
    (∀ start stop, memory sp.toNat ≠ none → LastRun memory top.toNat start stop →
      stop < top.toNat → ∃ bytes, Holds memory (List.range' start (stop - start)) bytes ∧
        found = some (path (bytes.take fileNameMax))) ∧
    (found = none ↔ memory sp.toNat = none ∨ CutShort memory top.toNat) := by
  intro top found path
  refine ⟨fun s r t => ?_, fun start stop hreadable hrun hstop => ?_,
    fileNameFromStack_eq_none_iff hE h hpaged hv hsp⟩
  · rw [isThat_scans E top s r t, Action.ofState_apply, Prod.ext_iff]
    exact and_congr eq_comm eq_comm
  · obtain ⟨bytes, hbytes⟩ := hrun.exists_bytes
    refine ⟨bytes, hbytes, (fileNameFromStack_eq_some_iff hE h hv hsp _).2
      ⟨hreadable, start, stop, hrun, name_ne_nil h hpaged hrun, ?_⟩⟩
    rw [fileNameAt, name_eq_take h hpaged hrun hstop hbytes]

end Target

namespace Machine

def oddlyNamed : List UInt64 :=
  [0x7ffd0f00, 0, 6, 0x1000, 7, 0x7fff0000, 9, 0x401040, 0, 0, 0x782f2e2e2f622f2e, 0x74756f2eff]

theorem fileNameFromStack_scanned_oddlyNamed :
    let T := stackTarget 0x7ffd0fa0 oddlyNamed
    LastRun T.state.memory.readable? 0x7ffd1000 0x7ffd0ff0 0x7ffd0ffd ∧
      ¬CutShort T.state.memory.readable? 0x7ffd1000 ∧
        (AuxvSource.fileNameFromStack engine (Registers.attached {} T.state)).1 =
          some "/x\ufffd.out" := by
  intro T
  let memory := T.state.memory.readable?
  let name : Bytes := [0x2e, 0x2f, 0x62, 0x2f, 0x2e, 0x2e, 0x2f, 0x78, 0xff, 0x2e, 0x6f, 0x75, 0x74]
  have hname : Holds memory (List.range' 0x7ffd0ff0 13) name := by
    show _ = _
    decide +kernel
  have htext : ((List.range' 0x7ffd0ff0 13).all (isText memory)) = true := by decide +kernel
  have hzeros : ((List.range' 0x7ffd0ffd 3).all (memory · = some 0)) = true := by decide +kernel
  have hrun : LastRun memory 0x7ffd1000 0x7ffd0ff0 0x7ffd0ffd := {
    start_lt := by decide
    stop_le := by decide
    text := fun c hle hlt => List.all_eq_true.1 htext c (List.mem_range'_1.2 ⟨hle, hlt⟩)
    zeros_after := fun c hle hlt =>
      of_decide_eq_true (List.all_eq_true.1 hzeros c (List.mem_range'_1.2 ⟨hle, hlt⟩))
    zero_before := ⟨0x7ffd0fef, rfl, by decide +kernel⟩ }
  have hsp : (Registers.sp engine (Registers.attached {} T.state)).1 = some 0x7ffd0fa0 :=
    sp_stacked (by decide +kernel)
  have htop : (Boundary.upper engine 0x7ffd0fa0 none (Registers.attached {} T.state)).1 =
      0x7ffd1000 := by decide +kernel
  obtain ⟨-, hfound, hnone⟩ := Target.fileNameFromStack_scanned isStill T.state.serves
    T.state.memory.paged (v := Registers.attached {} T.state) rfl hsp
  rw [htop] at hfound hnone
  obtain ⟨bytes, hbytes, hpath⟩ := hfound _ _ (by decide +kernel) hrun (by decide)
  obtain rfl : name = bytes := hbytes.unique hname
  have hresult : (AuxvSource.fileNameFromStack engine (Registers.attached {} T.state)).1 =
      some "/x\ufffd.out" := hpath.trans (by decide +kernel)
  refine ⟨hrun, fun hcut => ?_, hresult⟩
  cases (hnone.2 (.inr hcut)).symm.trans hresult

end Machine

end Debuggee
