import Debuggee.Proofs.Debugger.Duties
import Debuggee.Proofs.Debugger.Setup

namespace Debuggee

open Registers

variable {σ ν τ : Type} {X : Extension}

abbrev Course (E : Engine σ ν τ) (B : Behavior σ X) (a : Attachment) (d₀ : Debugger σ X) :
    List Event → Stage (List (Incident σ)) (Handler X) (World σ X) →
      Program (Handler X) (World σ X) → List (Handler X × Event) → Prop :=
  (lives E B a).Run fun m p due => m = .ofDebugger [] d₀ ∧ p = .done ∧ due = []

variable {E : Engine σ ν τ} {B : Behavior σ X} {a : Attachment} {d₀ : Debugger σ X}
  {heard : List Event} {m : Stage (List (Incident σ)) (Handler X) (World σ X)}
  {p : Program (Handler X) (World σ X)} {due : List (Handler X × Event)}

theorem Course.tells {v : View σ} (hstart : Tells E a v (.ofDebugger [] d₀))
    (h : Course E B a d₀ heard m p due) :
    Tells E a v m ∧ (due.filterMap fun call => dutyOf? a call.2 call.1).reverse ++ duties m.record =
      heard.flatMap dueAt := by
  induction h with
  | start h =>
    obtain ⟨rfl, rfl, rfl⟩ := h
    exact ⟨hstart, rfl⟩
  | happen _ hw ih =>
    obtain ⟨htells, hduties⟩ := ih.1.becomes hw
    exact ⟨htells, hduties ▸ ih.2⟩
  | act _ _ ih => exact ih
  | step _ hstep ih =>
    obtain ⟨htells, hduties⟩ := ih.1.step hstep
    exact ⟨htells, hduties ▸ ih.2⟩
  | announce e _ ih => exact ⟨ih.1.requeue _ _, ih.2⟩
  | @deliver heard m e rest _ _ ih =>
    refine ⟨ih.1.requeue _ _, ?_⟩
    rw [List.filterMap_map, List.flatMap_cons, ← ih.2, ← ih.1.seats.dueAt_eq e]
    rfl
  | call _ hcalls ih =>
    obtain ⟨htells, hduties⟩ := ih.1.calls hcalls
    refine ⟨htells, ?_⟩
    rw [hduties, ← ih.2, List.filterMap_cons]
    split <;> rename_i hduty <;> simp [hduty]
  | rest _ _ ih => exact ⟨ih.1.requeue _ _, ih.2⟩

/-- Whatever is added uses an observer as anybody may, and leaves its subscriptions alone. -/
def Behavior.Minds (E : Engine σ ν τ) (B : Behavior σ X) (a : Attachment) : Prop :=
  ∀ h e (m : Stage (List (Incident σ)) (Handler X) (World σ X)),
    ∃ m', (lives E B a).Steps (B.react h e) m m'

theorem Behavior.Minds.follows (hB : B.Minds E a)
    {Start : Stage (List (Incident σ)) (Handler X) (World σ X) → Program (Handler X) (World σ X) →
      List (Handler X × Event) → Prop} : (lives E B a).Follows Start := by
  intro heard m due h e _
  by_cases hh : ∃ h', h = .other h'
  · obtain ⟨h', rfl⟩ := hh
    obtain ⟨m', hsteps⟩ := hB h' e m
    exact ⟨_, m, m', .other, hsteps⟩
  · exact ⟨_, _, _, .own (fun h' heq => hh ⟨h', heq⟩) rfl, .done⟩

theorem Course.notify (hB : B.Minds E a) (h : Course E B a d₀ heard m .done [])
    (hidle : m.registry.Idle) {e : Event} {d : Debugger σ X}
    (hd : m.debugger.notify E B e = some d) :
    ∃ life, ∃ blocks : List (Block (Handler X)),
      Course E B a d₀ ((blocks.map (·.event)).reverse ++ heard) (.ofDebugger life d) .done [] ∧
        d.registry.Idle ∧ blocks.map (·.event) = e :: blocks.flatMap Block.raised := by
  obtain ⟨⟨r, w⟩, hdispatch, hd⟩ := Option.bind_eq_some_iff.1 hd
  cases hd
  obtain ⟨life, later, hrun, hlater⟩ := h.dispatch hB.follows hdispatch
  obtain ⟨hidle', blocks, hblocks, rfl⟩ := hlater hidle
  exact ⟨life, blocks, hrun, hidle', hblocks⟩

namespace Debugger

structure IsOrderly (d : Debugger σ X) : Prop where
  attachments : ∀ a ∈ d.world.attachments, a.number < d.world.nextObserver
  handlers : ∀ s ∈ d.registry.subscriptions, ∀ a : Attachment, a.Owns s.handler →
    a.number < d.world.nextObserver

theorem IsOrderly.configure {d : Debugger σ X} (hd : d.IsOrderly) :
    (Debugger.configure E d).2.IsOrderly := by
  cases hc : d.world.configured with
  | true =>
    rw [configure_of_configured hc]
    exact hd
  | false =>
    rw [configure_of_not_configured hc]
    split
    · refine ⟨hd.attachments, fun s hs a ha => ?_⟩
      rcases List.mem_append.1 hs with hs | hs
      · exact hd.handlers s hs a ha
      · rw [List.mem_singleton.1 hs] at ha
        cases ha
    · exact ⟨hd.attachments, hd.handlers⟩

theorem IsOrderly.join {d : Debugger σ X} (hd : d.IsOrderly) (config : Config) :
    (d.join config).IsOrderly where
  attachments a ha := by
    rcases List.mem_append.1 ha with ha | ha
    · exact Nat.lt_succ_of_lt (hd.attachments a ha)
    · rw [List.mem_singleton.1 ha]
      exact Nat.lt_succ_self _
  handlers s hs a ha := by
    rw [subscriptions_join] at hs
    rcases List.mem_append.1 hs with hs | hs
    · exact Nat.lt_succ_of_lt (hd.handlers s hs a ha)
    · have hnumber : d.world.nextObserver = a.number := by
        simp only [List.mem_cons, List.not_mem_nil, or_false] at hs
        rcases hs with rfl | rfl <;> exact ha
      exact hnumber ▸ Nat.lt_succ_self _

theorem IsOrderly.detach {d : Debugger σ X} (hd : d.IsOrderly) (number : Nat) :
    (d.detach number).IsOrderly := by
  unfold Debugger.detach
  split
  · exact hd
  · refine ⟨fun a ha => ?_, fun s hs => ?_⟩
    · exact hd.attachments a (List.mem_filter.1 ha).1
    · exact hd.handlers s (List.mem_filter.1 (List.mem_filter.1 hs).1).1

theorem isOrderly_after {d : Debugger σ X} (hd : d.IsOrderly) (past : List (Request σ)) :
    (Request.after E d past).IsOrderly := by
  induction past with
  | nil => exact hd
  | cons request past ih =>
    have hsetsUp {request : Request σ} (h : request.SetsUp) :
        (request.perform E (Request.after E d past)).2.IsOrderly := by
      obtain ⟨-, hleft | ⟨-, config, hleft⟩⟩ := Request.perform_of_setsUp (E := E)
        (d := Request.after E d past) h
      · rw [hleft]
        exact ih.configure
      · rw [hleft]
        exact ih.configure.join config
    cases request with
    | setUp => exact hsetsUp trivial
    | attach config => exact hsetsUp trivial
    | detach number => exact ih.detach number
    | change s => exact ⟨ih.attachments, ih.handlers⟩

theorem attachment?_join {d : Debugger σ X} (hd : d.IsOrderly) (config : Config) :
    (d.join config).world.attachment? d.world.nextObserver =
      some ⟨d.world.nextObserver, { config }, d.registry.nextId, d.registry.nextId + 1⟩ := by
  have hnone : d.world.attachments.find? (·.number == d.world.nextObserver) = none := by
    rw [List.find?_eq_none]
    intro a ha
    simpa using Nat.ne_of_lt (hd.attachments a ha)
  show (d.world.attachments ++ [_]).find? _ = _
  rw [List.find?_append, hnone, Option.none_or]
  exact List.find?_cons_of_pos (beq_self_eq_true d.world.nextObserver)

theorem tells_join {d : Debugger σ X} (hd : d.IsOrderly) (config : Config) :
    Tells E ⟨d.world.nextObserver, { config }, d.registry.nextId, d.registry.nextId + 1⟩
      (attached config d.world.engine) (.ofDebugger [] (d.join config)) where
  seats :=
    { subscriptions := by
        refine ⟨d.registry.subscriptions, [], ?_, ?_⟩
        · rw [List.append_nil]
          exact subscriptions_join config d
        · rw [List.append_nil]
          exact fun s hs howns => Nat.lt_irrefl _ (hd.handlers s hs _ howns)
      forgetId := Nat.lt_succ_of_lt (Nat.lt_succ_self _)
      snapshotId := Nat.lt_succ_self _ }
  view := by
    show (d.join config).world.view? d.world.nextObserver = _
    rw [World.view?, attachment?_join hd]
    rfl

end Debugger

theorem countP_duties (life : List (Incident σ)) :
    (duties life).countP (·.isSnapshot) = life.countP (·.isSnapshot) := by
  rw [duties, List.countP_filter]
  refine List.countP_congr fun i _ => ?_
  cases i <;> simp [Incident.isSnapshot, Incident.isDuty]

theorem exists_heard_since {since before : List (Incident σ)} {heard : List Event}
    (h : since ++ before = heard.flatMap dueAt) :
    ∃ later earlier, heard = later ++ earlier ∧
      since.countP (·.isSnapshot) = later.countP (fun e => e = .continue ∨ e = .stop) ∧
      (before = [] → earlier = []) := by
  induction heard generalizing since with
  | nil =>
    obtain ⟨rfl, -⟩ := List.append_eq_nil_iff.1 h
    exact ⟨[], [], rfl, rfl, fun _ => rfl⟩
  | cons e heard ih =>
    rw [List.flatMap_cons, dueAt] at h
    split at h
    · rename_i he
      rcases since with - | ⟨i, - | ⟨j, since⟩⟩
      · exact ⟨[], e :: heard, rfl, rfl, fun hb => by simp [hb] at h⟩
      · -- the moment lies between what the observer forgets and its snapshot
        obtain ⟨rfl, hrest⟩ := List.cons.inj h
        exact ⟨[e], heard, rfl, by simp [Incident.isSnapshot, he], fun hb => by simp [hb] at hrest⟩
      · simp only [List.cons_append, List.nil_append, List.cons.injEq] at h
        obtain ⟨rfl, rfl, hrest⟩ := h
        obtain ⟨later, earlier, rfl, hcount, hall⟩ := ih hrest
        refine ⟨e :: later, earlier, rfl, ?_, hall⟩
        rw [List.countP_cons, List.countP_cons, List.countP_cons, hcount]
        simp [Incident.isSnapshot, he]
    · rename_i he
      rcases since with - | ⟨i, since⟩
      · exact ⟨[], e :: heard, rfl, rfl, fun hb => by simp [hb] at h⟩
      · obtain ⟨rfl, hrest⟩ := List.cons.inj h
        obtain ⟨later, earlier, rfl, hcount, hall⟩ := ih hrest
        refine ⟨e :: later, earlier, rfl, ?_, hall⟩
        rw [List.countP_cons, List.countP_cons, hcount]
        simp [Incident.isSnapshot, he]

/--
However often the debuggee runs and halts, and whatever events handlers raise on the way, an
attached observer does what it has to for each delivered event, in their order, and nothing more:
it takes one snapshot if the debuggee runs or halts. It keeps the latest two of those that it took
since it was last reset, and each lists the common registers of the architecture of its moment.
Whoever announces an event takes such a course further, by the event and by what is raised on the
way.
-/
theorem Debugger.history_of_course {d : Debugger σ X} (hd : d.IsOrderly) {config : Config}
    {number : Nat} (hattach : Debugger.attach E config d = (.ok number, d₀))
    (ha : d₀.world.attachment? number = some a) (h : Course E B a d₀ heard m p []) :
    let v₀ := attached config d₀.world.engine
    let life := m.record
    duties life = heard.flatMap dueAt ∧
      (∃ later earlier, heard = later ++ earlier ∧
        (moments life).length = later.countP (fun e => e = .continue ∨ e = .stop) ∧
        (life.all (!·.isReset) = true → earlier = [])) ∧
      (∃ v, m.world.view? number = some v ∧ v = lived E v₀ life ∧
        v.observer.last = (taken E v₀ life)[0]?.getD [] ∧
        v.observer.previous = (taken E v₀ life)[1]?.getD []) ∧
      (∀ past ∈ moments life, .snapshot :: past <:+ life ∧
        let names := groupAt E RegisterSet.common (lived E v₀ past).engine
        (commonNow E (lived E v₀ past)).map (·.1) = names ∧ names.Nodup) ∧
      (p = .done → m.registry.Idle → B.Minds E a → ∀ e d', m.debugger.notify E B e = some d' →
        ∃ life', ∃ blocks : List (Block (Handler X)),
          Course E B a d₀ ((blocks.map (·.event)).reverse ++ heard)
              (.ofDebugger life' d') .done [] ∧
            d'.registry.Idle ∧ blocks.map (·.event) = e :: blocks.flatMap Block.raised) := by
  intro v₀ life
  rw [attach_apply] at hattach
  rcases hc : configure E d with ⟨_ | _, d₁⟩
  · rw [hc] at hattach
    cases hattach
  rw [hc] at hattach
  cases hattach
  have hd₁ : d₁.IsOrderly := by
    have := hd.configure (E := E)
    rwa [hc] at this
  rw [attachment?_join hd₁] at ha
  cases ha
  obtain ⟨⟨-, hview⟩, hduties⟩ := h.tells (tells_join hd₁ config)
  obtain ⟨hlast, hprevious⟩ := history_lived (E := E) (v := v₀) rfl rfl life
  refine ⟨hduties, ?_, ⟨_, hview, rfl, hlast, hprevious⟩, fun past hpast => ?_, ?_⟩
  · have hsplit : duties (life.takeWhile (!·.isReset)) ++ duties (life.dropWhile (!·.isReset)) =
        heard.flatMap dueAt := by
      rw [← duties_append, List.takeWhile_append_dropWhile]
      exact hduties
    obtain ⟨later, earlier, hheard, hcount, hall⟩ := exists_heard_since hsplit
    refine ⟨later, earlier, hheard, ?_, fun hnone => hall ?_⟩
    · rw [length_moments, ← hcount, countP_duties]
    · rw [← List.append_nil life, List.dropWhile_append_of_pos (List.all_eq_true.1 hnone)]
      rfl
  · exact ⟨suffix_of_mem_moments hpast, map_fst_commonNow _, nodup_groupAt_common _⟩
  · rintro rfl hidle hB e d' hd'
    exact h.notify hB hidle hd'

namespace Debugger

def curious : Extension := ⟨Unit, Unit, Unit⟩

def curiosity : Behavior Machine curious where
  react
    | _, .stop =>
      .effect (fun w => (w.look 0 (Registers.get Machine.engine "eax")).2) fun _ =>
        .raise .continue .done
    | _, _ => .done
  budget _ := 1
  run _ _ _ := pure ()

def waited : Debugger Machine curious where
  world :=
    { engine := Machine.initial ⟨"i386", 4, .little⟩
      config := {}
      terminal := ⟨.usual, false⟩
      configured := true
      state := () }
  registry := { subscriptions := [⟨0, [.stop], .other ()⟩], nextId := 1 }

theorem isOrderly_waited : waited.IsOrderly where
  attachments := nofun
  handlers := by
    intro s hs a ha
    rw [List.mem_singleton.1 hs] at ha
    cases ha

theorem steps_curiosity (a : Attachment)
    (m : Stage (List (Incident Machine)) (Handler curious) (World Machine curious)) :
    let w := (m.world.look 0 (Registers.get Machine.engine "eax")).2
    (lives Machine.engine curiosity a).Steps (curiosity.react () .stop) m
      ⟨(if 0 = a.number then .use (.read (.get "eax")) else .change fun _ => w.engine) :: m.record,
        m.registry.raise .continue, w⟩ :=
  .step (.effect (becomes_look m 0 rfl fun _ => rfl)) (.single (.raise .continue))

theorem minds_curiosity (a : Attachment) : curiosity.Minds Machine.engine a := by
  intro h e m
  cases e with
  | stop => exact ⟨_, steps_curiosity a m⟩
  | _ => exact ⟨m, .done⟩

def observed (w : World Machine curious) : Debugger Machine curious :=
  { waited.join {} with world := w }

def onward (w : World Machine curious) : World Machine curious :=
  let w := (w.look 0 (Registers.get Machine.engine "eax")).2
  let w := (w.forget 0 .stop).takeSnapshot Machine.engine 0
  (w.forget 0 .continue).takeSnapshot Machine.engine 0

def onwardLife : List (Incident Machine) :=
  [.snapshot, .forget .continue, .snapshot, .forget .stop, .use (.read (.get "eax"))]

theorem notify_observed (w : World Machine curious) :
    (observed w).notify Machine.engine curiosity .stop = some (observed (onward w)) := rfl

theorem course_observed (w : World Machine curious) :
    Course Machine.engine curiosity ⟨0, { config := {} }, 1, 2⟩ (observed w) [.continue, .stop]
      (.ofDebugger onwardLife (observed (onward w))) .done [] := by
  have hstart : Course Machine.engine curiosity ⟨0, { config := {} }, 1, 2⟩ (observed w) []
      (.ofDebugger [] (observed w)) .done [] := .start ⟨rfl, rfl, rfl⟩
  have hcurious := (((hstart.announce .stop).deliver rfl).call .other).steps (steps_curiosity _ _)
  have hstop := (hcurious.call (.own nofun rfl)).call (.own nofun rfl)
  have hcontinue := ((hstop.deliver rfl).call (.own nofun rfl)).call (.own nofun rfl)
  exact hcontinue.rest rfl

theorem history_of_course_curiosity :
    let observer : Attachment := ⟨0, { config := {} }, 1, 2⟩
    waited.IsOrderly ∧ Debugger.attach Machine.engine {} waited = (.ok 0, waited.join {}) ∧
      (waited.join {}).world.attachment? 0 = some observer ∧
      curiosity.Minds Machine.engine observer ∧
      ∃ d, (waited.join {}).notify Machine.engine curiosity .stop = some d ∧ d.registry.Idle ∧
        Course Machine.engine curiosity observer (waited.join {}) [.continue, .stop]
          (.ofDebugger onwardLife d) .done [] ∧
        (moments onwardLife).length = 2 ∧
        ∃ v, d.world.view? 0 = some v ∧ v.observer.previous.map (·.1) =
          groupAt Machine.engine RegisterSet.common waited.world.engine := by
  intro observer
  have hminds : curiosity.Minds Machine.engine observer := minds_curiosity observer
  obtain ⟨d, hnotify, hcourse⟩ : ∃ d, (waited.join {}).notify Machine.engine curiosity .stop =
      some d ∧ Course Machine.engine curiosity observer (waited.join {}) [.continue, .stop]
        (.ofDebugger onwardLife d) .done [] := ⟨_, notify_observed _, course_observed _⟩
  obtain ⟨-, -, -, -, hgoes⟩ :=
    history_of_course isOrderly_waited rfl rfl (.start ⟨rfl, rfl, rfl⟩ : Course Machine.engine
      curiosity observer (waited.join {}) [] (.ofDebugger [] (waited.join {})) .done [])
  obtain ⟨-, -, -, hidle, -⟩ := hgoes rfl ⟨rfl, rfl⟩ hminds .stop d hnotify
  obtain ⟨-, ⟨later, earlier, hheard, hlength, hall⟩, ⟨v, hview, -, -, hprevious⟩, hnames, -⟩ :=
    history_of_course isOrderly_waited rfl rfl hcourse
  refine ⟨isOrderly_waited, rfl, rfl, hminds, d, hnotify, hidle, hcourse, ?_, v, hview, ?_⟩
  · rw [hall rfl, List.append_nil] at hheard
    exact hlength.trans (hheard ▸ rfl)
  · rw [hprevious]
    exact (hnames _ (.tail _ (.head _))).2.1.trans rfl

end Debugger

end Debuggee
