import Debuggee.Proofs.Debugger.Attachment
import Debuggee.Workbench

namespace Debuggee

variable {σ ν τ : Type} {X : Extension}

namespace Registers

section

variable (E : Engine σ ν τ) (s : σ) (c : Caches)

/-- A register of a frame as remembered, or else as it reads over what is remembered of `cs`. -/
def recallAt (f : Frame) (name : String) : Option UInt64 :=
  let segment := (c.values.get? (placeOf E s f "cs")).getD (readOver E none f "cs" s)
  (c.values.get? (placeOf E s f name)).getD (readOver E segment f name s)

def recallAll (names : List String) : Snapshot :=
  names.map fun name => (name, lookupAt E s (recallAt E s c) name)

def Concerns (names : List String) (name : String) : Prop :=
  name = "cs" ∨ ∃ n ∈ names, RegisterName.bare (RegisterName.lowered n) = name

/-- What is remembered of these registers for the selected frame is what they read as. -/
def RightAbout (names : List String) : Prop :=
  ∀ f, (E.frame? s).1 = some f → ∀ name, Concerns names name → ∀ x,
    c.values.get? (placeOf E s f name) = some x → x = readAt E f name s

end

variable {E : Engine σ ν τ} {s : σ} {c : Caches}

theorem recallAt_cs (f : Frame) : recallAt E s c f "cs" =
    (c.values.get? (placeOf E s f "cs")).getD (readOver E none f "cs" s) := by
  rw [recallAt, readOver_cs]

theorem recallAt_eq (f : Frame) (name : String) : recallAt E s c f name =
    (c.values.get? (placeOf E s f name)).getD (readOver E (recallAt E s c f "cs") f name s) := by
  rw [recallAt_cs, recallAt]

theorem recallAt_insert {c' : Caches} {f : Frame} {name : String}
    (hc : c'.values = c.values.insert (placeOf E s f name) (recallAt E s c f name))
    (name' : String) : recallAt E s c' f name' = recallAt E s c f name' := by
  have hget (n : String) : c'.values.get? (placeOf E s f n) =
      if n = name then some (recallAt E s c f name) else c.values.get? (placeOf E s f n) := by
    rw [hc, Cache.get?_insert]
    by_cases h : n = name <;> simp [h, placeOf]
  have hcs : recallAt E s c' f "cs" = recallAt E s c f "cs" := by
    rw [recallAt_cs, hget]
    split
    · next h => rw [← h, Option.getD_some]
    · exact (recallAt_cs f).symm
  rw [recallAt_eq, hcs, hget]
  split
  · next h => rw [h, Option.getD_some]
  · exact (recallAt_eq f name').symm

theorem determines_recallAt : Determines E s
    (fun c' => ∀ f, (E.frame? s).1 = some f → ∀ name,
      recallAt E s c' f name = recallAt E s c f name)
    (recallAt E s c) where
  hit {c' f name x} hc hf hx := by
    rw [← hc f hf, recallAt_eq, hx, Option.getD_some]
  miss {c' f name} hc hf hx := by
    rw [← hc f hf, ← hc f hf, recallAt_eq f name, hx, Option.getD_none]
  store {c' f} hc hf name := by
    intro f' hf' name'
    cases Option.some.inj (hf.symm.trans hf')
    rw [← hc f hf name, recallAt_insert rfl, hc f hf]

theorem get_recalls (hE : E.IsQuiet) (name : String) (v : View σ) :
    ∃ c, (∀ f, (E.frame? v.engine).1 = some f → ∀ name',
        recallAt E v.engine c f name' = recallAt E v.engine v.observer.caches f name') ∧
      get E name v = ((E.frame? v.engine).1.bind fun f =>
        recallAt E v.engine v.observer.caches f (RegisterName.bare name),
        ⟨{ v.observer with caches := c }, v.engine⟩) :=
  get_yieldsUnder hE determines_recallAt name v.observer fun _ _ _ => rfl

theorem fst_get (hE : E.IsQuiet) (name : String) (v : View σ) :
    (get E name v).1 = (E.frame? v.engine).1.bind fun f =>
      recallAt E v.engine v.observer.caches f (RegisterName.bare name) := by
  obtain ⟨c, -, h⟩ := get_recalls hE name v
  rw [h]

theorem recallAt_of_rightAbout {names : List String} (hc : RightAbout E s c names) {f : Frame}
    (hf : (E.frame? s).1 = some f) {name : String} (hname : Concerns names name) :
    recallAt E s c f name = readAt E f name s := by
  have hcs : recallAt E s c f "cs" = readOver E none f "cs" s := by
    rw [recallAt_cs]
    cases hx : c.values.get? (placeOf E s f "cs") with
    | none => rfl
    | some x => rw [Option.getD_some, hc f hf "cs" (.inl rfl) x hx, readAt_cs]
  rw [recallAt_eq, hcs]
  cases hx : c.values.get? (placeOf E s f name) with
  | none => rfl
  | some x => rw [Option.getD_some, hc f hf name hname x hx]

theorem lookupAt_congr {a a' : Frame → String → Option UInt64} {name : String}
    (h : ∀ f, (E.frame? s).1 = some f → a f (RegisterName.bare (RegisterName.lowered name)) =
      a' f (RegisterName.bare (RegisterName.lowered name))) :
    lookupAt E s a name = lookupAt E s a' name := by
  unfold lookupAt
  cases hf : (E.frame? s).1 with
  | none => simp only [Option.bind_none]
  | some f => simp only [Option.bind_some, h f hf]

theorem rightAbout_of_recalls (h : Recalls (Right E s) c) (names : List String) :
    RightAbout E s c names :=
  fun f hf _ _ _ hx => h _ _ hx f hf rfl

theorem recallAll_of_rightAbout (hE : E.IsQuiet) {names : List String}
    (hc : RightAbout E s c names) : recallAll E s c names = liveAll E names s := by
  rw [liveAll_eq_map hE, recallAll]
  refine List.map_congr_left fun name hname => ?_
  have hsame : lookupAt E s (recallAt E s c) name =
      lookupAt E s (fun f name => readAt E f name s) name :=
    lookupAt_congr fun f hf => recallAt_of_rightAbout hc hf (.inr ⟨name, hname, rfl⟩)
  rw [hsame]

theorem rightAbout_onEvent {names : List String} {e : Event}
    (h : e ∉ [Event.stop, .prompt, .registerChanged] → RightAbout E s c names) :
    RightAbout E s (c.onEvent e) names := by
  intro f hf name hname x hx
  rcases values_onEvent c e with ⟨hempty, -⟩ | ⟨hrest, hne⟩
  · rw [hempty] at hx
    cases hx
  · exact h hne f hf name hname x (hrest ▸ hx)

theorem hear_snapshot (hE : E.IsQuiet) (o : Observer) {e : Event}
    (he : e = .continue ∨ e = .stop) :
    ∃ c, hear E e ⟨o, s⟩ = ((), ⟨{ o with
      caches := c
      last := recallAll E s (o.caches.onEvent e) (groupAt E RegisterSet.common s)
      previous := o.last }, s⟩) := by
  obtain ⟨c, -, hsnapshot⟩ := snapshotCommon_of_determines hE
    (determines_recallAt (s := s) (c := o.caches.onEvent e))
    (o := { o with caches := o.caches.onEvent e }) fun _ _ _ => rfl
  refine ⟨c, ?_⟩
  show (if e = .continue ∨ e = .stop then snapshotCommon E else pure ())
    ⟨{ o with caches := o.caches.onEvent e }, s⟩ = _
  rw [if_pos he, hsnapshot]
  rfl

end Registers

namespace Attachment

open Registers

variable {E : Engine σ ν τ} (B : Behavior σ X)

/--
When the debuggee runs or halts, an observer stores of each common register what it remembers of
it, and what it reads as if it remembers nothing. When the debuggee halts it remembers nothing, so
that it stores what the registers read as. When the debuggee runs it does so too, if what it
remembers of them and of the segment of the program counter is right.
-/
theorem last_call_waiting (hE : E.IsQuiet) {w : World σ X} {number : Nat} {a : Attachment}
    (ha : w.attachment? number = some a) {e : Event} (he : e = .continue ∨ e = .stop)
    (r : Registry (Handler X)) :
    let names := groupAt E RegisterSet.common w.engine
    ∃ c, (Registry.call (react E B) e (waiting number e) r w).2.attachment? number =
        some { a with observer := { a.observer with
          caches := c
          last := recallAll E w.engine (a.observer.caches.onEvent e) names
          previous := a.observer.last } } ∧
      ((e = .continue → RightAbout E w.engine a.observer.caches names) →
        recallAll E w.engine (a.observer.caches.onEvent e) names = liveAll E names w.engine) := by
  intro names
  obtain ⟨c, hhear⟩ := hear_snapshot hE a.observer (s := w.engine) he
  refine ⟨c, ?_, fun hright => recallAll_of_rightAbout hE (rightAbout_onEvent fun hne => ?_)⟩
  · rw [call_waiting, World.look_of_attachment? ha, World.attachment?_putView, ha, hhear]
    rfl
  · rcases he with rfl | rfl
    · exact hright rfl
    · exact absurd (List.mem_cons_self) hne

def counting (eax : UInt64) : Machine :=
  { Machine.initial ⟨"i386", 4, .little⟩ with
    frames := [{ thread := ⟨1⟩, level := 0, registers := [("eax", ⟨eax, 4, false⟩)] }] }

def counted (eax : UInt64) : World Machine Watch.extension where
  engine := counting eax
  config := {}
  terminal := ⟨.usual, false⟩
  attachments :=
    [⟨0, (Registers.get Machine.engine "eax" ⟨{ config := {} }, counting 1⟩).2.observer, 0, 1⟩]
  state := ({} : Journal)

def lastOf (w : World Machine Watch.extension) (e : Event) : Option Snapshot :=
  ((Registry.call (react Machine.engine (Watch.behavior Machine.engine)) e (waiting 0 e) {}
    w).2.attachment? 0).map (·.observer.last)

theorem recalls_counted :
    Recalls (Right Machine.engine (counting 1))
      (Registers.get Machine.engine "eax" ⟨{ config := {} }, counting 1⟩).2.observer.caches := by
  obtain ⟨c, hc, hget⟩ := get_yields Machine.isQuiet exact_right "eax" { config := {} }
    (recalls_of_values_eq_empty rfl)
  rw [hget]
  exact hc

theorem last_call_waiting_counted :
    let names := groupAt Machine.engine RegisterSet.common (counting 1)
    lastOf (counted 2) .stop = some (liveAll Machine.engine names (counting 2)) ∧
      lastOf (counted 1) .continue = some (liveAll Machine.engine names (counting 1)) := by
  intro names
  have hattached (eax : UInt64) : (counted eax).attachment? 0 = some _ := rfl
  obtain ⟨_, hstop, hlive⟩ := last_call_waiting (Watch.behavior Machine.engine) Machine.isQuiet
    (hattached 2) (.inr rfl) {}
  obtain ⟨_, hcontinue, hlive'⟩ := last_call_waiting (Watch.behavior Machine.engine)
    Machine.isQuiet (hattached 1) (.inl rfl) {}
  rw [lastOf, lastOf, hstop, hcontinue, Option.map_some, Option.map_some, hlive nofun,
    hlive' fun _ => rightAbout_of_recalls recalls_counted _]
  exact ⟨rfl, rfl⟩

/-- A register that has changed unnoticed is stored as it was before, when the debuggee runs. -/
theorem last_call_waiting_unnoticed :
    ((lastOf (counted 2) .continue).bind (·.lookup "eax")) = some (some 1) ∧
      (liveLookup Machine.engine "eax" (counting 2)).1 = some 2 := by
  decide +kernel

end Attachment

end Debuggee
