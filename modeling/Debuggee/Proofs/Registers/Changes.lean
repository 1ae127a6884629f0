import Debuggee.Proofs.Registers.History
import Debuggee.Proofs.Registers.Run

namespace Debuggee.Registers

variable {σ ν τ : Type}

section

variable (E : Engine σ ν τ)

/-- The states in which snapshots were taken since the latest reset, the latest first. -/
def marks (v : View σ) (life : List (Incident σ)) : List σ :=
  (moments life).map fun past => (lived E v past).engine

def snapshotAt (s : σ) : Snapshot := liveAll E (groupAt E RegisterSet.common s) s

def Incident.Watches : Incident σ → Prop
  | .use (.read _) | .snapshot => True
  | _ => False

end

variable {E : Engine σ ν τ} {v : View σ}

/-- When the debuggee runs or halts its state is marked. -/
theorem marks_dueAt (e : Event) (past : List (Incident σ)) :
    marks E v (dueAt e ++ past) = if e = .continue ∨ e = .stop
      then (lived E v past).engine :: marks E v past else marks E v past := by
  by_cases he : e = .continue ∨ e = .stop
  · rw [dueAt, if_pos he, if_pos he]
    rfl
  · rw [dueAt, if_neg he, if_neg he]
    rfl

theorem commonNow_eq_snapshotAt (hE : E.IsQuiet) {R : RegisterPlace → Option UInt64 → Prop}
    (hR : Exact E v.engine R) (hv : Recalls R v.observer.caches) :
    commonNow E v = snapshotAt E v.engine := by
  obtain ⟨c, -, h⟩ := snapshotCommon_apply hE hR hv
  rw [← (history_snapshotCommon v).1, h, snapshotAt]

theorem taken_eq_map_marks (hE : E.IsQuiet) (hv : v.observer.caches.values = .empty)
    {life : List (Incident σ)} (ha : Announced E v Incident.Watches life) (hd : Apart E v life) :
    taken E v life = (marks E v life).map (snapshotAt E) := by
  rw [taken, marks, List.map_map]
  refine List.map_congr_left fun past hpast => ?_
  have hlife : .snapshot :: past <:+ life := suffix_of_mem_moments hpast
  have hd' : Apart E v past := hd.suffix ((List.suffix_cons _ past).trans hlife)
  exact commonNow_eq_snapshotAt hE (exact_known hd')
    (recalls_known hE hv hd' (ha.settled hlife trivial))

theorem changes_liveAll (names : List String) (s now : σ) :
    (((liveAll E names s).filter fun (name, x) => (liveLookup E name now).1 ≠ x).map (·.1)) =
      names.filter fun name => (liveLookup E name now).1 ≠ (liveLookup E name s).1 := by
  rw [liveAll, List.filter_map, List.map_map]
  exact List.map_id _

theorem exists_of_mem_marks {life : List (Incident σ)} {s : σ} (h : s ∈ marks E v life) :
    ∃ past, past <:+ life ∧ (lived E v past).engine = s := by
  obtain ⟨past, hpast, rfl⟩ := List.mem_map.1 h
  exact ⟨past, (List.suffix_cons _ past).trans (suffix_of_mem_moments hpast), rfl⟩

theorem liveLookup_congr (hE : E.IsQuiet) {s s' : σ} (h : E.SameRegisters s s')
    (hf : (E.frame? s').1 = (E.frame? s).1) (name : String) :
    (liveLookup E name s').1 = (liveLookup E name s).1 := by
  simp only [liveLookup_apply hE, live_apply hE, hE.asks_arch?.same h, hf, readAt_congr hE h]

theorem apart_of_frame {f? : Option Frame} {life : List (Incident σ)}
    (h : ∀ past, past <:+ life → (E.frame? (lived E v past).engine).1 = f?) :
    Apart E v life := by
  have hmet : ∀ past, past <:+ life → ∀ p f, Met E v f p past → f? = some f := by
    intro past hp p f hf
    induction past with
    | nil => exact (h [] hp).symm.trans hf.1
    | cons i past ih =>
      rcases hf with hf | ⟨-, hf⟩
      · exact (h _ hp).symm.trans hf.1
      · exact ih ((List.suffix_cons i past).trans hp) hf
  intro past hp p f g hf hg
  exact Option.some.inj ((hmet past hp p f hf).symm.trans (hmet past hp p g hg))

def differing (E : Engine σ ν τ) (now : σ) : Option σ → List String
  | none => []
  | some s => (groupAt E RegisterSet.common now).filter fun name =>
      (liveLookup E name now).1 ≠ (liveLookup E name s).1

/--
While architecture and selection stay the same, the registers that have changed are those that
read otherwise than at the last mark but one. So there are none before the second mark, and none
while the registers are as they were then.
-/
theorem changed_eq_differing (hE : E.IsQuiet) (config : Config) (s : σ)
    {life past : List (Incident σ)}
    (harch : ∀ past, past <:+ life →
      (E.arch? (lived E (attached config s) past).engine).1 = (E.arch? s).1)
    (hframe : ∀ past, past <:+ life →
      (E.frame? (lived E (attached config s) past).engine).1 = (E.frame? s).1)
    (ha : Announced E (attached config s) Incident.Watches life)
    (hp : (.use (.read .changed) :: past) <:+ life) :
    let v := lived E (attached config s) past
    let before? := (marks E (attached config s) past)[1]?
    (changed E v).1 = differing E v.engine before? ∧ (changed E v).1.Nodup ∧
      (before? = none → (changed E v).1 = []) ∧
      (∀ before, before? = some before → E.SameRegisters before v.engine →
        (changed E v).1 = []) := by
  intro v before?
  have hd : Apart E (attached config s) life := apart_of_frame hframe
  have hpast : past <:+ life := (List.suffix_cons _ past).trans hp
  have hd' : Apart E (attached config s) past := hd.suffix hpast
  have hs : Settled E (attached config s) past := ha.settled hp trivial
  have hprevious : v.observer.previous = (before?.map (snapshotAt E)).getD [] := by
    rw [(history_lived (E := E) (v := attached config s) rfl rfl past).2,
      taken_eq_map_marks hE rfl (ha.suffix hpast) hd', List.getElem?_map]
  have hbefore {before : σ} (hb : before? = some before) :
      (E.arch? before).1 = (E.arch? s).1 ∧ (E.frame? before).1 = (E.frame? s).1 := by
    obtain ⟨p, hp, rfl⟩ := exists_of_mem_marks (List.mem_of_getElem? hb)
    exact ⟨harch p (hp.trans hpast), hframe p (hp.trans hpast)⟩
  have hanswer : (changed E v).1 = differing E v.engine before? := by
    obtain ⟨c, -, hc⟩ := changedAmong_yields hE (exact_known hd') v.observer.previous _
      (recalls_known hE rfl hd' hs)
    show (changedAmong E v.observer.previous v).1 = _
    rw [hc, hprevious]
    cases hb : before? with
    | none => rfl
    | some before =>
      have hgroup :
          groupAt E RegisterSet.common before = groupAt E RegisterSet.common v.engine := by
        rw [groupAt, groupAt, (hbefore hb).1, harch past hpast]
      rw [Option.map_some, Option.getD_some, snapshotAt, changes_liveAll, hgroup, differing]
  refine ⟨hanswer, ?_, fun hb => ?_, fun before hb hsame => ?_⟩
  · rw [hanswer]
    cases before? with
    | none => exact .nil
    | some before => exact (nodup_groupAt_common _).filter _
  · rw [hanswer, hb, differing]
  · have hf : (E.frame? v.engine).1 = (E.frame? before).1 := by
      rw [hframe past hpast, (hbefore hb).2]
    rw [hanswer, hb, differing]
    simp [liveLookup_congr hE hsame hf]

def watched (eax eip : UInt64) : Machine :=
  { Machine.initial ⟨"i386", 4, .little⟩ with
    frames := [
      { thread := ⟨1⟩, level := 0,
        registers := [("eax", ⟨eax, 4, false⟩), ("eip", ⟨eip, 4, false⟩)] }] }

def haltedLife : List (Incident Machine) := [
  .use (.read .changed), .snapshot, .forget .stop, .change fun _ => watched 1 0x20, .snapshot,
  .forget .continue, .use (.read (.get "eax"))]

def writtenLife : List (Incident Machine) := .use (.write "$eax" 7) :: haltedLife

def written : Machine :=
  (Machine.engine.writeRegister ⟨0⟩ (RegisterName.bare "$eax") 7 (watched 1 0x20)).2

theorem engine_halted :
    (lived Machine.engine (attached {} (watched 1 0x10)) haltedLife).engine = watched 1 0x20 := by
  rw [haltedLife, engine_lived_read Machine.isQuiet, engine_lived_snapshot Machine.isQuiet]
  rfl

theorem write_watched {v : View Machine} (hv : v.engine = watched 1 0x20) :
    (write Machine.engine "$eax" 7 v).1 = .ok () ∧
      (write Machine.engine "$eax" 7 v).2.engine = written := by
  have hf : Machine.engine.frame? v.engine = (some ⟨0⟩, watched 1 0x20) := by
    rw [hv, Machine.frame?_apply]
    rfl
  exact write_of_frame? hf (by decide +kernel)

theorem engine_written :
    (lived Machine.engine (attached {} (watched 1 0x10)) writtenLife).engine = written := by
  rw [writtenLife, lived, Incident.perform, Use.perform, (write_watched engine_halted).2]

theorem marks_written :
    (marks Machine.engine (attached {} (watched 1 0x10)) writtenLife)[1]? =
      some (watched 1 0x10) := by
  have hmark : (marks Machine.engine (attached {} (watched 1 0x10)) writtenLife)[1]? =
      some (lived Machine.engine (attached {} (watched 1 0x10))
        [.forget .continue, .use (.read (.get "eax"))]).engine := rfl
  rw [hmark, engine_lived_forget, engine_lived_read Machine.isQuiet]
  rfl

theorem announced_written :
    Announced Machine.engine (attached {} (watched 1 0x10)) Incident.Watches
      (.use (.read .changed) :: writtenLife) := by
  have hread (w r) : ¬ (Incident.use (.read r)).Disturbs Machine.engine w :=
    not_disturbs_read Machine.isQuiet r w
  have hsnapshot (w) : ¬ Incident.snapshot.Disturbs Machine.engine w :=
    not_disturbs_snapshot Machine.isQuiet w
  have hhalted : Settled Machine.engine (attached {} (watched 1 0x10)) haltedLife :=
    .inr ⟨.inr ⟨.inl (.head _), hsnapshot _⟩, hread _ _⟩
  refine ⟨fun _ => .inr ⟨hhalted, ?_⟩, nofun, fun _ => .inr ⟨.inl (.head _), hsnapshot _⟩,
    fun _ => .inl (.head _), nofun, nofun,
    fun _ => .inr ⟨.inr ⟨trivial, hread _ _⟩, not_disturbs_forget _ _⟩, nofun, fun _ => trivial,
    trivial⟩
  rintro (⟨h, -⟩ | h)
  · cases h
  · exact h.2 (write_watched engine_halted).1

theorem engine_of_suffix_written {past : List (Incident Machine)}
    (hp : past <:+ .use (.read .changed) :: writtenLife) :
    ∃ frames, (lived Machine.engine (attached {} (watched 1 0x10)) past).engine =
      { watched 1 0x10 with frames } := by
  have hstart : ∃ frames, (attached {} (watched 1 0x10)).engine =
      { watched 1 0x10 with frames } := ⟨_, rfl⟩
  have hhalted : ∃ frames, watched 1 0x20 = { watched 1 0x10 with frames } := ⟨_, rfl⟩
  have hwritten : ∃ frames, (lived Machine.engine (attached {} (watched 1 0x10))
      writtenLife).engine = { watched 1 0x10 with frames } := by
    rw [engine_written]
    obtain ⟨g, -, hg⟩ := Machine.snd_writeRegister (watched 1 0x20) ⟨0⟩ (RegisterName.bare "$eax") 7
    exact ⟨_, hg⟩
  revert past
  rw [writtenLife, haltedLife] at hwritten ⊢
  simp only [List.suffix_cons_iff, forall_eq_or_imp, List.suffix_nil, forall_eq,
    engine_lived_read Machine.isQuiet, engine_lived_snapshot Machine.isQuiet, engine_lived_forget,
    engine_lived_change, engine_lived_nil]
  exact ⟨hwritten, hwritten, hhalted, hhalted, hhalted, hhalted, hstart, hstart, hstart, hstart⟩

theorem changed_eq_differing_written :
    Announced Machine.engine (attached {} (watched 1 0x10)) Incident.Watches
        (.use (.read .changed) :: writtenLife) ∧
      (changed Machine.engine (lived Machine.engine (attached {} (watched 1 0x10))
        writtenLife)).1 = ["eax", "eip"] := by
  obtain ⟨hanswer, -⟩ := changed_eq_differing Machine.isQuiet {} (watched 1 0x10)
    (fun past hp => by
      obtain ⟨frames, hf⟩ := engine_of_suffix_written hp
      rw [hf]
      exact Machine.arch?_congr rfl rfl)
    (fun past hp => by
      obtain ⟨frames, hf⟩ := engine_of_suffix_written hp
      rw [hf, Machine.frame?_apply, Machine.frame?_apply])
    announced_written (List.suffix_refl _)
  rw [engine_written, marks_written] at hanswer
  refine ⟨announced_written, hanswer.trans ?_⟩
  decide +kernel

end Debuggee.Registers
