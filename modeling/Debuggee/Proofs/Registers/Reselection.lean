import Debuggee.Proofs.Registers.Again

namespace Debuggee

variable {σ ν τ : Type}

namespace Engine

/-- To select a thread or a frame changes no register of any frame. -/
structure OnlySelects (E : Engine σ ν τ) : Prop where
  switchThread : ∀ t s, E.SameRegisters s (E.switchThread t s).2
  selectFrame : ∀ f s, E.SameRegisters s (E.selectFrame f s).2

end Engine

namespace Registers

section

variable (E : Engine σ ν τ)

def getAfresh (name : String) (v : View σ) : Option UInt64 :=
  (get E name { v with observer := { v.observer with caches := {} } }).1

def visit (t : Thread) (f : Frame) : List (Incident σ) := [.selectFrame E f, .switchThread E t]

def revisit (name : String) (t : Thread) (f : Frame) (u : Thread) (g : Frame) :
    List (Incident σ) :=
  visit E u g ++ .use (.read (.get name)) :: visit E t f

end

variable {E : Engine σ ν τ} {v : View σ} {name : String} {t u : Thread} {f g : Frame}

theorem getAfresh_of_frame? (hE : E.IsQuiet) {f : Frame} (hf : (E.frame? v.engine).1 = some f)
    (name : String) : getAfresh E name v = readAt E f (RegisterName.bare name) v.engine := by
  obtain ⟨c, -, h⟩ := get_of_values_eq_empty (v := { v with observer :=
    { v.observer with caches := {} } }) hE rfl hf name
  rw [getAfresh, h]

theorem engine_lived_revisit (hE : E.IsQuiet) :
    (lived E v (revisit E name t f u g)).engine =
      (E.selectFrame g (E.switchThread u (lived E v (visit E t f)).engine).2).2 := by
  rw [← engine_lived_read hE (.get name) (visit E t f)]
  rfl

theorem sameRegisters_lived_revisit (hE : E.IsQuiet) (hS : E.OnlySelects) :
    E.SameRegisters (lived E v (visit E t f)).engine
      (lived E v (revisit E name t f u g)).engine := by
  rw [engine_lived_revisit hE]
  exact (hS.switchThread u _).trans (hS.selectFrame g _)

theorem values_lived_revisit :
    (lived E v (revisit E name t f u g)).observer.caches.values =
      (get E name (lived E v (visit E t f))).2.observer.caches.values := rfl

theorem get_revisit_of_spot_eq (hE : E.IsQuiet)
    (hf : (E.frame? (lived E v (visit E t f)).engine).1 = some f)
    (hg : (E.frame? (lived E v (revisit E name t f u g)).engine).1 = some g)
    (hspot : spot E g (lived E v (revisit E name t f u g)).engine =
      spot E f (lived E v (visit E t f)).engine) :
    (get E name (lived E v (revisit E name t f u g))).1 =
      (get E name (lived E v (visit E t f))).1 := by
  have hplace : placeOf E (lived E v (revisit E name t f u g)).engine g (RegisterName.bare name) =
      placeOf E (lived E v (visit E t f)).engine f (RegisterName.bare name) := by
    obtain ⟨hptid, hlevel⟩ := Prod.mk.inj hspot
    rw [placeOf, placeOf, hptid, hlevel]
  have hx := get?_get hE name hf
  rw [← hplace, ← values_lived_revisit (u := u) (g := g)] at hx
  rw [get_of_get? hE name hg hx]

theorem get_revisit_of_spot_ne (hE : E.IsQuiet) (hv : v.observer.caches.values = .empty)
    (hf : (E.frame? (lived E v (visit E t f)).engine).1 = some f)
    (hg : (E.frame? (lived E v (revisit E name t f u g)).engine).1 = some g)
    (hspot : spot E g (lived E v (revisit E name t f u g)).engine ≠
      spot E f (lived E v (visit E t f)).engine) :
    (get E name (lived E v (revisit E name t f u g))).1 =
      readAt E g (RegisterName.bare name) (lived E v (revisit E name t f u g)).engine := by
  obtain ⟨c, hc, hget⟩ := get_of_values_eq_empty (v := lived E v (visit E t f)) hE hv hf name
  -- of the second frame's spot nothing has been remembered, so all of it is right
  have hright : Recalls (Right E (lived E v (revisit E name t f u g)).engine)
      (lived E v (revisit E name t f u g)).observer.caches := by
    intro place x hx g' hg' hp
    cases Option.some.inj (hg.symm.trans hg')
    rw [values_lived_revisit, hget] at hx
    have hspot' := (hc place x hx).1
    rw [hp] at hspot'
    exact absurd hspot' hspot
  obtain ⟨c', -, h⟩ := get_yields hE exact_right name _ hright
  rw [show get E name (lived E v (revisit E name t f u g)) = _ from h, live_apply hE, hg,
    Option.bind_some]

/--
What is read of a register in a frame, after it has been read in another one: what it reads as
where nothing is remembered, unless the two are different frames at one spot. Then it is what the
register reads as in the first one. Two threads without a number have frames at one spot.
-/
theorem get_revisit (hE : E.IsQuiet) (hS : E.OnlySelects)
    (hv : v.observer.caches.values = .empty)
    (hf : (E.frame? (lived E v (visit E t f)).engine).1 = some f)
    (hg : (E.frame? (lived E v (revisit E name t f u g)).engine).1 = some g) :
    (get E name (lived E v (revisit E name t f u g))).1 =
      if f ≠ g ∧ spot E g (lived E v (revisit E name t f u g)).engine =
          spot E f (lived E v (visit E t f)).engine
      then getAfresh E name (lived E v (visit E t f))
      else getAfresh E name (lived E v (revisit E name t f u g)) := by
  by_cases hspot : spot E g (lived E v (revisit E name t f u g)).engine =
      spot E f (lived E v (visit E t f)).engine
  · obtain ⟨c, -, hget⟩ := get_of_values_eq_empty (v := lived E v (visit E t f)) hE hv hf name
    rw [get_revisit_of_spot_eq hE hf hg hspot, hget, getAfresh_of_frame? hE hf,
      getAfresh_of_frame? hE hg]
    by_cases hfg : f = g
    · cases hfg
      rw [if_neg fun h => h.1 rfl, readAt_congr hE (sameRegisters_lived_revisit hE hS)]
    · rw [if_pos ⟨hfg, hspot⟩]
  · rw [get_revisit_of_spot_ne hE hv hf hg hspot, getAfresh_of_frame? hE hg,
      if_neg fun h => hspot h.2]

def pair (first second : Option Ptid) : Machine :=
  { Machine.initial ⟨"i386:x86-64", 8, .little⟩ with
    threads := [(⟨1⟩, first), (⟨2⟩, second)]
    frames := [
      { thread := ⟨1⟩, level := 0, registers := [("rax", ⟨1, 8, false⟩)] },
      { thread := ⟨2⟩, level := 0, registers := [("rax", ⟨2, 8, false⟩)] }] }

theorem onlySelects_machine : Machine.engine.OnlySelects where
  selectFrame f m := Machine.sameRegisters_selectFrame m f
  switchThread t m := by
    rw [Machine.switchThread_apply]
    cases m.findThread t with
    | error e => exact .refl _ m
    | ok _ => exact Machine.sameRegisters_select m _ _

theorem engine_lived_visit_pair (first second : Option Ptid) :
    (lived Machine.engine (attached {} (pair first second)) (visit Machine.engine ⟨1⟩ ⟨0⟩)).engine =
      { pair first second with selectedThread := some ⟨1⟩, selectedFrame := some ⟨0⟩ } := rfl

theorem engine_lived_revisit_pair (first second : Option Ptid) :
    (lived Machine.engine (attached {} (pair first second))
      (revisit Machine.engine "rax" ⟨1⟩ ⟨0⟩ ⟨2⟩ ⟨1⟩)).engine =
      { pair first second with selectedThread := some ⟨2⟩, selectedFrame := some ⟨1⟩ } := by
  rw [engine_lived_revisit Machine.isQuiet, engine_lived_visit_pair]
  rfl

theorem frame?_pair (first second : Option Ptid) :
    (Machine.engine.frame? (lived Machine.engine (attached {} (pair first second))
        (visit Machine.engine ⟨1⟩ ⟨0⟩)).engine).1 = some ⟨0⟩ ∧
      (Machine.engine.frame? (lived Machine.engine (attached {} (pair first second))
        (revisit Machine.engine "rax" ⟨1⟩ ⟨0⟩ ⟨2⟩ ⟨1⟩)).engine).1 = some ⟨1⟩ := by
  rw [engine_lived_visit_pair, engine_lived_revisit_pair, Machine.frame?_apply,
    Machine.frame?_apply]
  exact ⟨rfl, rfl⟩

theorem getAfresh_pair (first second : Option Ptid) :
    getAfresh Machine.engine "rax" (lived Machine.engine (attached {} (pair first second))
        (visit Machine.engine ⟨1⟩ ⟨0⟩)) = some 1 ∧
      getAfresh Machine.engine "rax" (lived Machine.engine (attached {} (pair first second))
        (revisit Machine.engine "rax" ⟨1⟩ ⟨0⟩ ⟨2⟩ ⟨1⟩)) = some 2 := by
  obtain ⟨hf, hg⟩ := frame?_pair first second
  have hsame (t f) : Machine.engine.SameRegisters (pair none none)
      { pair first second with selectedThread := t, selectedFrame := f } := by
    constructor <;> intros <;> rfl
  rw [getAfresh_of_frame? Machine.isQuiet hf, getAfresh_of_frame? Machine.isQuiet hg,
    engine_lived_visit_pair, engine_lived_revisit_pair, readAt_congr Machine.isQuiet (hsame _ _),
    readAt_congr Machine.isQuiet (hsame _ _)]
  decide +kernel

theorem get_revisit_numbered :
    (get Machine.engine "rax" (lived Machine.engine
      (attached {} (pair (some ⟨7, 7, 0⟩) (some ⟨7, 8, 0⟩)))
        (revisit Machine.engine "rax" ⟨1⟩ ⟨0⟩ ⟨2⟩ ⟨1⟩))).1 = some 2 := by
  obtain ⟨hf, hg⟩ := frame?_pair (some ⟨7, 7, 0⟩) (some ⟨7, 8, 0⟩)
  rw [get_revisit Machine.isQuiet onlySelects_machine rfl hf hg, engine_lived_visit_pair,
    engine_lived_revisit_pair, if_neg (by decide +kernel)]
  exact (getAfresh_pair _ _).2

/-- The first thread's value is served for the second thread, if neither has a number. -/
theorem get_revisit_unnumbered :
    (get Machine.engine "rax" (lived Machine.engine (attached {} (pair none none))
        (revisit Machine.engine "rax" ⟨1⟩ ⟨0⟩ ⟨2⟩ ⟨1⟩))).1 = some 1 ∧
      getAfresh Machine.engine "rax" (lived Machine.engine (attached {} (pair none none))
        (revisit Machine.engine "rax" ⟨1⟩ ⟨0⟩ ⟨2⟩ ⟨1⟩)) = some 2 := by
  obtain ⟨hf, hg⟩ := frame?_pair none none
  have hspot : spot Machine.engine ⟨1⟩ (lived Machine.engine (attached {} (pair none none))
      (revisit Machine.engine "rax" ⟨1⟩ ⟨0⟩ ⟨2⟩ ⟨1⟩)).engine =
      spot Machine.engine ⟨0⟩ (lived Machine.engine (attached {} (pair none none))
        (visit Machine.engine ⟨1⟩ ⟨0⟩)).engine := by
    rw [engine_lived_visit_pair, engine_lived_revisit_pair]
    rfl
  obtain ⟨c, -, hget⟩ := get_of_values_eq_empty Machine.isQuiet rfl hf "rax"
  rw [get_revisit_of_spot_eq Machine.isQuiet hf hg hspot, hget,
    ← getAfresh_of_frame? Machine.isQuiet hf]
  exact getAfresh_pair none none

end Registers

end Debuggee
