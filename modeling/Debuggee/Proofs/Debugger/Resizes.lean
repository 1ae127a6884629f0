import Debuggee.Proofs.Debugger.Sequel

namespace Debuggee

open Debugger

variable {σ ν τ : Type} {X : Extension}

namespace Happening

def pending (before : Bool) : List Happening → Bool
  | [] => before
  | .noted :: _ => true
  | .delivered _ :: past => pending before past
  | .applied _ :: _ => false

def widths (before : Bool) : List Happening → List Call
  | [] => []
  | .applied columns :: past =>
    if pending before past then .execute s!"set width {columns}" false true :: widths before past
    else widths before past
  | _ :: past => widths before past

/--
The events that were delivered, the latest first, each with how often resizes were passed on before
the next one; and how often they were before any of them.
-/
def turns : List Happening → List (Option Event × Nat)
  | [] => [(none, 0)]
  | .noted :: past => turns past
  | .delivered e :: past => (some e, 0) :: turns past
  | .applied _ :: past => (turns past).modifyHead fun turn => (turn.1, turn.2 + 1)

def timesDue (e? : Option Event) : Nat := if e? = some .prompt then 1 else 0

end Happening

open Happening

/-- Each event has had what is due to it, save for so many calls that the latest one waits for. -/
def Served (past : List Happening) (left : Nat) : Prop :=
  ∃ latest times earlier, turns past = (latest, times) :: earlier ∧
    times + left = timesDue latest ∧ ∀ turn ∈ earlier, turn.2 = timesDue turn.1

theorem Served.nil : Served [] 0 := ⟨none, 0, [], rfl, rfl, nofun⟩

theorem Served.delivered {past : List Happening} (h : Served past 0) (e : Event) :
    Served (.delivered e :: past) (timesDue (some e)) := by
  obtain ⟨latest, times, earlier, hturns, hlatest, hearlier⟩ := h
  refine ⟨some e, 0, _, rfl, Nat.zero_add _, ?_⟩
  rw [hturns, List.forall_mem_cons]
  exact ⟨hlatest, hearlier⟩

theorem Served.applied {past : List Happening} {left : Nat} (h : Served past (left + 1))
    (columns : Nat) : Served (.applied columns :: past) left := by
  obtain ⟨latest, times, earlier, hturns, hlatest, hearlier⟩ := h
  refine ⟨latest, times + 1, earlier, ?_, by omega, hearlier⟩
  rw [turns, hturns]
  rfl

section

variable {E : Engine σ ν τ} {w w' : World (Recorded σ) X} {told : List Happening}

theorem World.Becomes.resized_eq (h : w.Becomes E told w') {before : Bool} {past : List Happening}
    (hw : w.terminal.resized = pending before past) :
    w'.terminal.resized = pending before (told ++ past) := by
  induction h generalizing past with
  | note => rfl
  | @look _ w number x i _ _ =>
    cases ha : w.attachment? number with
    | none =>
      rw [World.look, ha]
      exact hw
    | some a =>
      rw [World.look_of_attachment? ha]
      exact hw
  | other _ hresized => exact hresized.trans hw
  | andThen _ _ ih ih' =>
    rw [List.append_assoc]
    exact ih' (ih hw)

theorem World.Becomes.sameWidths (h : w.Becomes E told w') : w.engine.SameWidths w'.engine := by
  induction h with
  | note => rfl
  | @look _ w number x i hi hx =>
    cases ha : w.attachment? number with
    | none =>
      rw [World.look, ha]
      rfl
    | some a =>
      rw [World.look_of_attachment? ha, hx]
      exact Registers.engine_perform E.allowsTelling_recorded hi _
  | other _ _ hwidths => exact hwidths
  | andThen _ _ ih ih' => exact ih'.trans ih

theorem World.Becomes.told_eq (h : w.Becomes E told w') (before : Bool) (past : List Happening) :
    turns (told ++ past) = turns past ∧ widths before (told ++ past) = widths before past := by
  induction h generalizing past with
  | note => exact ⟨rfl, rfl⟩
  | look => exact ⟨rfl, rfl⟩
  | other => exact ⟨rfl, rfl⟩
  | andThen _ _ ih ih' =>
    rw [List.append_assoc, (ih' _).1, (ih' _).2]
    exact ih past

theorem isWidth_setting (columns : Nat) :
    (Call.execute s!"set width {columns}" false true).isWidth = true := by
  rw [Call.isWidth, List.isPrefixOf_iff_prefix]
  show _ <+: ("set width " ++ toString columns).toList
  rw [String.toList_append]
  exact (by decide : "set width".toList <+: "set width ".toList).trans (List.prefix_append _ _)

theorem World.applyResize_eq (E : Engine σ ν τ) (w : World σ X) :
    w.applyResize E = { w with
      terminal := { w.terminal with resized := false }
      engine := if w.terminal.resized then (E.ask w.widthSetting w.engine).2 else w.engine } := by
  obtain ⟨engine, config, ⟨size, resized⟩, configured, attachments, nextObserver, state⟩ := w
  cases resized with
  | false => rfl
  | true =>
    show World.modifyEngine (E.ask _).attempt _ = _
    rw [World.modifyEngine, Action.attempt_apply]
    rfl

theorem World.widths_applyResize (w : World (Recorded σ) X) :
    (w.applyResize E.recorded).engine.widths =
      if w.terminal.resized then .execute w.widthSetting false true :: w.engine.widths
      else w.engine.widths := by
  rw [applyResize_eq]
  split
  · rw [Engine.ask_recorded]
    exact List.filter_cons_of_pos (isWidth_setting _)
  · rfl

end

theorem Seat.countP_waiting (s : Seat X) (e : Event) :
    (s.waiting e).countP (·.isResize) = if s.isResize then timesDue (some e) else 0 := by
  cases s with
  | resize id => cases e <;> rfl
  | other id events h =>
    by_cases he : e ∈ events <;> simp [waiting, subscriptions, isResize, Handler.isResize, he]
  | observer number forgetId snapshotId => cases e <;> rfl

theorem Stage.IsExact.countP_waiting {m : Stage (Roll X) (Handler X) (World σ X)}
    (hm : m.IsExact) (e : Event) :
    (m.registry.waiting e).countP (·.isResize) =
      if m.record.complete then timesDue (some e) else 0 := by
  have hseats (seats : List (Seat X)) : (seats.flatMap (·.waiting e)).countP (·.isResize) =
      seats.countP (·.isResize) * timesDue (some e) := by
    induction seats with
    | nil => rw [List.flatMap_nil, List.countP_nil, List.countP_nil, Nat.zero_mul]
    | cons s seats ih =>
      rw [List.flatMap_cons, List.countP_append, ih, s.countP_waiting, List.countP_cons,
        Nat.add_mul, Nat.add_comm]
      cases s.isResize <;> simp
  rw [hm.waiting_eq, hseats, hm.resize]
  cases m.record.complete <;> simp

theorem Session.countP_due {E : Engine σ ν τ} {B : Behavior σ X} {heard : List Event}
    {m : Stage (Roll X) (Handler X) (World σ X)} {p : Program (Handler X) (World σ X)}
    {due : List (Handler X × Event)} (h : Session E B heard m p due)
    (hc : m.record.complete = false) : due.countP (·.1.isResize) = 0 := by
  induction h with
  | start h =>
    cases h
    rfl
  | happen _ hw ih =>
    obtain ⟨-, rfl⟩ := hw
    exact ih hc
  | step _ hstep ih =>
    refine ih ?_
    by_contra hcomplete
    rw [complete_of_step hstep (eq_true_of_ne_false hcomplete)] at hc
    cases hc
  | @deliver heard m e rest hsession _ =>
    rw [List.countP_map]
    refine ((Session.isExact hsession).countP_waiting e).trans ?_
    have hc : m.record.complete = false := hc
    rw [hc]
    rfl
  | call _ hcalls ih =>
    obtain ⟨-, rfl⟩ := hcalls
    have hall := ih hc
    rw [List.countP_cons] at hall
    omega
  | _ => rfl

namespace Sequel

variable {E : Engine σ ν τ} {B : Behavior (Recorded σ) X}
  {m₀ : Stage (Roll X) (Handler X) (World (Recorded σ) X)} {heard : List Event}
  {m : Stage (Annals X) (Handler X) (World (Recorded σ) X)}
  {p : Program (Handler X) (World (Recorded σ) X)} {due : List (Handler X × Event)}

theorem resized_eq (h : Sequel E B m₀ heard m p due) :
    m.world.terminal.resized = pending m₀.world.terminal.resized m.record.past := by
  induction h with
  | start h =>
    cases h
    rfl
  | happen _ hw ih =>
    obtain ⟨told, hw, rfl⟩ := hw
    exact hw.resized_eq ih
  | step h hstep ih =>
    obtain ⟨told, w, hw, hpast, hterminal, -⟩ := becomes_of_step hstep (configured h)
    rw [hterminal, hpast]
    exact hw.resized_eq ih
  | call _ hcalls ih =>
    cases hcalls with
    | resize =>
      rw [World.applyResize_eq]
      rfl
    | other => exact ih
  | act _ _ ih => exact ih
  | announce _ _ ih => exact ih
  | deliver _ _ ih => exact ih
  | rest _ _ ih => exact ih

theorem widths_eq (h : Sequel E B m₀ heard m p due) :
    m.world.engine.widths =
      widths m₀.world.terminal.resized m.record.past ++ m₀.world.engine.widths := by
  induction h with
  | start h =>
    cases h
    rfl
  | happen _ hw ih =>
    obtain ⟨told, hw, rfl⟩ := hw
    rw [(hw.told_eq _ _).2, ← ih]
    exact hw.sameWidths
  | step h hstep ih =>
    obtain ⟨told, w, hw, hpast, -, hengine⟩ := becomes_of_step hstep (configured h)
    rw [hengine, hpast, (hw.told_eq _ _).2, ← ih]
    exact hw.sameWidths
  | @call heard m h e due p m' hrun hcalls ih =>
    cases hcalls with
    | resize =>
      show (m.world.applyResize E.recorded).engine.widths = _
      rw [World.widths_applyResize, resized_eq hrun, ih, widths]
      split <;> rfl
    | other => exact ih
  | act _ _ ih => exact ih
  | announce _ _ ih => exact ih
  | deliver _ _ ih => exact ih
  | rest _ _ ih => exact ih

theorem served (h : Sequel E B m₀ heard m p due) :
    Served m.record.past (due.countP (·.1.isResize)) := by
  -- A delivery sets up the calls that a prompt has due, and each of them that is made pays one off.
  induction h with
  | start h =>
    cases h with
    | @setUp _ m p due hsession hnew hok =>
      have hc : m.record.complete = false := by
        by_contra hc
        rw [(Session.isExact hsession).configured (eq_true_of_ne_false hc)] at hnew
        cases hnew
      rw [Session.countP_due hsession hc]
      exact .nil
  | happen _ hw ih =>
    obtain ⟨told, hw, rfl⟩ := hw
    rw [Served, (hw.told_eq true _).1]
    exact ih
  | step h hstep ih =>
    obtain ⟨told, w, hw, hpast, -⟩ := becomes_of_step hstep (configured h)
    rw [hpast, Served, (hw.told_eq true _).1]
    exact ih
  | @deliver heard m e rest h hp ih =>
    -- The set up has seated exactly one handler that passes resizes on, and no step adds another.
    have hcount := (isExact h).countP_waiting e
    have hc : m.roll.record.complete = true := complete h
    rw [hc, if_pos rfl] at hcount
    rw [List.countP_map]
    show Served _ ((m.roll.registry.waiting e).countP (·.isResize))
    rw [hcount]
    exact ih.delivered e
  | call _ hcalls ih =>
    cases hcalls with
    | resize =>
      rw [List.countP_cons_of_pos rfl] at ih
      exact ih.applied _
    | other hh => rwa [List.countP_cons_of_neg (by rw [hh]; exact Bool.false_ne_true)] at ih
  | act _ _ ih => exact ih
  | announce _ _ ih => exact ih
  | rest _ _ ih => exact ih

/--
After a set up that succeeds, whatever else is done and announced, resizes are passed on once for
each prompt that is delivered and never else, if whoever waits for the latest event is called. When
they are, the width of the engine is set to the columns that the window then has, if a resize was
noted since they were passed on last, or else since the mark of it was cleared. At every moment the
calls that have set the width are these and those of the set up.
-/
theorem resizes_passed_on (h : Sequel E B m₀ heard m p due) :
    let before := m₀.world.terminal.resized
    let past := m.record.past
    events past = heard ∧
    (∃ latest times earlier, turns past = (latest, times) :: earlier ∧
      times + due.countP (·.1.isResize) = timesDue latest ∧
      ∀ turn ∈ earlier, turn.2 = timesDue turn.1) ∧
    (due = [] → ∀ turn ∈ turns past, turn.2 = timesDue turn.1) ∧
    m.world.terminal.resized = pending before past ∧
    m.world.engine.widths = widths before past ++ m₀.world.engine.widths := by
  intro before past
  refine ⟨h.events_eq, h.served, fun hdue => ?_, h.resized_eq, h.widths_eq⟩
  obtain ⟨latest, times, earlier, hturns, hlatest, hearlier⟩ := h.served
  rw [hdue] at hlatest
  rw [hturns, List.forall_mem_cons]
  exact ⟨hlatest, hearlier⟩

end Sequel

namespace Watch

theorem becomes_modifyJournal (E : Engine σ ν τ) (f : Journal → Journal)
    (w : World (Recorded σ) extension) : w.Becomes E [] (modifyJournal f w) :=
  .other ⟨rfl, rfl, id⟩ rfl rfl

theorem becomes_write (E : Engine σ ν τ) (h : Watcher) (e : Event)
    (w : World (Recorded σ) extension) : w.Becomes E [] (write E.recorded h e w) := by
  unfold write
  split
  · exact becomes_modifyJournal E _ w
  · exact becomes_modifyJournal E _ w
  · next register number _ _ =>
    have hlook : w.Becomes E [] (w.look number (Registers.get E.recorded register)).2 :=
      .look (i := .use (.read (.get register))) nofun fun _ => rfl
    exact hlook.andThen (becomes_modifyJournal E _ _)

theorem isModest_behavior (E : Engine σ ν τ) : (behavior E.recorded).IsModest E := by
  intro h e m _ _
  refine exists_steps_becomes (becomes_write E h e m.world) fun annals' => ?_
  cases h.further with
  | none => exact ⟨_, .done⟩
  | some further =>
    dsimp only
    split
    · exact exists_steps_becomes (becomes_modifyJournal E _ _) fun _ =>
        ⟨_, .single (.raise further)⟩
    · exact ⟨_, .done⟩

def prompter : Watcher := ⟨0, "prompter", none, some .prompt⟩

def prepare (E : Engine σ ν τ) (d : Debugger (Recorded σ) extension) :
    Debugger (Recorded σ) extension :=
  let d := (Debugger.configure E.recorded d).2
  let d := (d.subscribe [.start] prompter).2.noteResize
  let d := { d with
    world := { d.world with terminal := { d.world.terminal with size := ⟨24, 132⟩ } } }
  (Debugger.attach E.recorded {} d).2

theorem exists_sequel_prepare {E : Engine σ ν τ} {B : Behavior (Recorded σ) extension}
    {d : Debugger (Recorded σ) extension}
    (h : Session E.recorded B [] (.ofDebugger {} d) .done [])
    (hnew : d.world.configured = false) (hok : (Debugger.configure E.recorded d).1 = .ok ()) :
    ∃ roll₀ roll, Sequel E B (.ofDebugger roll₀ (Debugger.configure E.recorded d).2) []
      (.ofDebugger ⟨roll, [.noted]⟩ (prepare E d)) .done [] := by
  obtain ⟨roll₁, h₁⟩ := Sequel.ofConfigure h hnew hok
  obtain ⟨roll₂, h₂⟩ := h₁.subscribe [.start] prompter
  obtain ⟨roll₃, h₃⟩ := (h₂.noteResize.resizeWindow ⟨24, 132⟩).attach {}
  exact ⟨_, roll₃, h₃⟩

def recording : Debugger (Recorded Machine) extension where
  world :=
    { engine := { engine := Machine.initial ⟨"i386:x86-64", 8, .little⟩ }
      config := {}
      terminal := ⟨.usual, false⟩
      state := ({ due := [0] } : Journal) }

theorem resizes_passed_on_watched :
    let E : Engine Machine Value CType := Machine.engine
    let B := behavior E.recorded
    ∃ d d' m₀ heard annals, (prepare E recording).notify E.recorded B .start = some d ∧
      d.notify E.recorded B .prompt = some d' ∧
      Sequel E B m₀ heard (.ofDebugger annals (d'.detach 0)) .done [] ∧
      .start ∈ events annals.past ∧ (∀ turn ∈ turns annals.past, turn.2 = timesDue turn.1) ∧
      widths false annals.past = [.execute "set width 132" false true] := by
  intro E B
  have hrun : (((prepare E recording).notify E.recorded B .start).bind
      (·.notify E.recorded B .prompt)).any (fun d => (d.detach 0).world.engine.widths =
        [.execute "set width 132" false true, .execute "set width 80" false true]) = true := by
    decide +kernel
  obtain ⟨d', hd', hwidths⟩ := (Option.any_eq_true ..).1 hrun
  obtain ⟨d, hd, hd'⟩ := Option.bind_eq_some_iff.1 hd'
  have hok : (Debugger.configure E.recorded recording).1 = .ok () := by rfl
  have hidle : (prepare E recording).registry.Idle := ⟨by decide +kernel, by decide +kernel⟩
  have hB : B.IsModest E := isModest_behavior E
  obtain ⟨roll₀, roll₁, h₁⟩ := exists_sequel_prepare (B := B) (.start (.new rfl rfl)) rfl hok
  obtain ⟨roll₂, past₂, later₂, h₂, hheard⟩ := h₁.notify hB hd
  obtain ⟨-, blocks, hblocks, rfl⟩ := hheard hidle
  obtain ⟨roll₃, past₃, later₃, h₃, -⟩ := h₂.notify hB hd'
  obtain ⟨roll₄, h₄⟩ := h₃.detach 0
  obtain ⟨hevents, -, hturns, -, hcalls⟩ := h₄.resizes_passed_on
  simp only [Stage.ofDebugger] at hevents hcalls
  refine ⟨d, d', _, _, ⟨roll₄, past₃⟩, hd, hd', h₄, ?_, hturns rfl, ?_⟩
  · have hstart : .start ∈ (blocks.map (·.event)).reverse := by
      rw [List.mem_reverse, hblocks]
      exact .head _
    rw [hevents]
    exact List.mem_append_right _ (List.mem_append_left _ hstart)
  · have hbefore : (Debugger.configure E.recorded recording).2.world.terminal.resized = false := by
      decide +kernel
    have hsetUp : (Debugger.configure E.recorded recording).2.world.engine.widths =
        [.execute "set width 80" false true] := by
      decide +kernel
    have hsent : (d'.detach 0).world.engine.widths =
        [.execute "set width 132" false true] ++ [.execute "set width 80" false true] :=
      of_decide_eq_true hwidths
    rw [hsent, hbefore, hsetUp] at hcalls
    exact (List.append_cancel_right hcalls).symm

end Watch

end Debuggee
