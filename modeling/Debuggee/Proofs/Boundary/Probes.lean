import Debuggee.Engine.Recorder
import Debuggee.Proofs.Memory.Written
import Debuggee.Proofs.Registers.History

namespace Debuggee

open Registers

variable {σ ν τ : Type}

structure Paging (σ : Type) : Type where
  byte : σ → Address → UInt8
  readable : σ → Address → Bool
  writable : σ → Address → Bool

namespace Paging

variable (P : Paging σ) (s : σ)

def read? (c : Nat) : Option UInt8 :=
  if c < UInt64.size ∧ P.readable s (.ofNat c) then some (P.byte s (.ofNat c)) else none

def grants (c : Nat) : Bool := c < UInt64.size && P.writable s (.ofNat c)

theorem read?_toNat (a : Address) :
    P.read? s a.toNat = if P.readable s a then some (P.byte s a) else none := by
  simp [read?, a.toNat_lt]

theorem all_grants (a : Address) : (span (a, 1)).all (P.grants s) = P.writable s a := by
  simp [span, grants, a.toNat_lt]

end Paging

theorem overwrite_self {memory : Address → UInt8} {a : Address} {b : UInt8} (h : memory a = b) :
    overwrite memory a [b] = memory := by
  funext c
  by_cases hc : c = a
  · rw [hc, overwrite, if_pos (UInt64.le_refl a), Nat.sub_self, h]
    rfl
  · have hne : c.toNat ≠ a.toNat := mt UInt64.toNat_inj.1 hc
    exact overwrite_eq_of_outside (by simp only [List.length_singleton]; omega)

namespace Engine

structure SameMemory (E : Engine σ ν τ) (P : Paging σ) (s s' : σ) : Prop where
  byte : P.byte s' = P.byte s
  readable : P.readable s' = P.readable s
  writable : P.writable s' = P.writable s
  inferior : E.selectedInferior s' = E.selectedInferior s

/-- The inferior has this memory, which it reads and writes as a whole or not at all. -/
structure Accesses (E : Engine σ ν τ) (i : Inferior) (P : Paging σ) : Prop where
  serves : ∀ s, E.Serves i (P.read? s) (E.SameMemory P s)
  grants : ∀ s, E.Grants i (P.grants s) fun s' => P.writable s' = P.writable s
  atomic : E.IsAtomic i P.byte
  memoryMap : ∀ s, E.SameMemory P s (E.memoryMap i s).2

def Maps (E : Engine σ ν τ) (a : Address) (s : σ) : Prop :=
  ∃ i pages, E.selectedInferior s = some i ∧ (E.memoryMap i s).1 = .ok pages ∧
    ∃ m ∈ pages, m.start ≤ a ∧ a < m.stop

variable {E : Engine σ ν τ} {P : Paging σ} {i : Inferior} {s s' s'' : σ}

theorem SameMemory.refl (s : σ) : E.SameMemory P s s := ⟨rfl, rfl, rfl, rfl⟩

theorem SameMemory.trans (h : E.SameMemory P s s') (h' : E.SameMemory P s' s'') :
    E.SameMemory P s s'' where
  byte := h'.byte.trans h.byte
  readable := h'.readable.trans h.readable
  writable := h'.writable.trans h.writable
  inferior := h'.inferior.trans h.inferior

theorem inferior_eq_error (h : E.selectedInferior s = none) :
    E.inferior s = (.error .noProcess, s) := by
  rw [inferior, Action.bind_apply, Action.ask_apply, h]
  rfl

theorem Grants.write_eq_ok {writable : Nat → Bool} {Steady : σ → Prop}
    (h : E.Grants i writable Steady) (hs : Steady s) {a : Address} {bytes : Bytes} :
    (E.write i a bytes s).1 = .ok () ↔ (span (a, bytes.length)).all writable := by
  rw [← h.writeMemory hs, write, Action.orFail]
  rcases E.writeMemory i a bytes s with ⟨_ | _, _⟩ <;> simp

theorem maps_iff (h : E.selectedInferior s = some i) {a : Address} :
    E.Maps a s ↔ ((E.memoryMap i s).1.toOption.getD []).any (·.contains a) = true := by
  have hcontains (m : Mapping) : m.contains a = true ↔ m.start ≤ a ∧ a < m.stop := by
    simp [Mapping.contains]
  rw [List.any_eq_true]
  constructor
  · rintro ⟨i', pages, hi', hpages, m, hm, hbounds⟩
    obtain rfl : i = i' := Option.some.inj (h.symm.trans hi')
    exact ⟨m, by rwa [hpages], (hcontains m).2 hbounds⟩
  · rintro ⟨m, hm, hbounds⟩
    cases hpages : (E.memoryMap i s).1 with
    | error e =>
      rw [hpages] at hm
      cases hm
    | ok pages =>
      rw [hpages] at hm
      exact ⟨i, pages, h, hpages, m, hm, (hcontains m).1 hbounds⟩

end Engine

namespace Memory

variable {E : Engine σ ν τ} {P : Paging σ} {i : Inferior} {s : σ}

theorem write_apply (h : E.selectedInferior s = some i) (a : Address) (bytes : Bytes) :
    write E a bytes s = E.write i a bytes s := by
  rw [write, Action.bind_apply, Engine.inferior_apply h]

theorem peek_of_none (h : E.selectedInferior s = none) (a : Address) : peek E a s = (none, s) := by
  show (((read E a 1).attempt s).1.bind (·.head?), ((read E a 1).attempt s).2) = _
  rw [Action.attempt_apply, read, Action.bind_apply, Engine.inferior_eq_error h]
  rfl

theorem peek_eq (hE : E.Accesses i P) (h : E.selectedInferior s = some i) (a : Address) :
    (peek E a s).1 = (if P.readable s a then some (P.byte s a) else none) ∧
      E.SameMemory P s (peek E a s).2 := by
  rw [peek_apply (hE.serves s) h (.refl s), P.read?_toNat]
  exact ⟨rfl, (hE.serves s).steady_read (.refl s) a 1⟩

theorem poke_apply (a : Address) (s : σ) :
    poke E a s = match (peek E a s).1 with
      | none => (false, (peek E a s).2)
      | some b => (((write E a [b]).attempt (peek E a s).2).1.isSome,
          ((write E a [b]).attempt (peek E a s).2).2) := by
  show (match (peek E a s).1 with
    | none => (pure false : StateM σ Bool)
    | some b => _) (peek E a s).2 = _
  cases (peek E a s).1 <;> rfl

theorem poke_of_none (h : E.selectedInferior s = none) (a : Address) : poke E a s = (false, s) := by
  rw [poke_apply, peek_of_none h]

theorem poke_eq (hE : E.Accesses i P) (h : E.selectedInferior s = some i) (a : Address) :
    P.byte (poke E a s).2 = P.byte s ∧
      ((poke E a s).1 = true ↔ P.readable s a = true ∧ P.writable s a = true) := by
  obtain ⟨hpeek, hsame⟩ := peek_eq hE h a
  rw [poke_apply, hpeek]
  by_cases hread : P.readable s a = true
  · rw [if_pos hread]
    dsimp only
    obtain ⟨b, hb⟩ : ∃ b, P.byte s a = b := ⟨_, rfl⟩
    have hthere : overwrite (P.byte (peek E a s).2) a [b] = P.byte s := by
      rw [hsame.byte, overwrite_self hb]
    have hgrants : (E.write i a [b] (peek E a s).2).1 = .ok () ↔ P.writable s a = true := by
      rw [(hE.grants s).write_eq_ok hsame.writable]
      exact iff_of_eq (congrArg (· = true) (P.all_grants s a))
    rw [hb, Action.attempt_apply, write_apply (hsame.inferior.trans h), and_iff_right hread,
      ← hgrants]
    rcases hE.atomic.write_cases a [b] (peek E a s).2 with ⟨hok, -, hbyte⟩ | ⟨herror, hbyte⟩
    · rw [hok]
      exact ⟨hbyte.trans hthere, iff_of_true rfl rfl⟩
    · rw [herror]
      exact ⟨hbyte.trans hsame.byte, iff_of_false nofun nofun⟩
  · rw [if_neg hread]
    exact ⟨hsame.byte, iff_of_false nofun fun h => hread h.1⟩

theorem probe_of_none (h : E.selectedInferior s = none) (a : Address) :
    probe E a s = (false, s) := by
  have hmap : (Action.attempt do E.memoryMap (← E.inferior)) s = (none, s) := by
    rw [Action.attempt_apply, Action.bind_apply, Engine.inferior_eq_error h]
    rfl
  simp only [probe, bind, StateT.bind] at hmap ⊢
  rw [hmap]
  rfl

theorem probe_apply (h : E.selectedInferior s = some i) (a : Address) :
    probe E a s =
      if ((E.memoryMap i s).1.toOption.getD []).any (·.contains a) then
        ((peek E a (E.memoryMap i s).2).1.isSome, (peek E a (E.memoryMap i s).2).2)
      else (false, (E.memoryMap i s).2) := by
  have hmap : (Action.attempt do E.memoryMap (← E.inferior)) s =
      ((E.memoryMap i s).1.toOption, (E.memoryMap i s).2) := by
    rw [Action.attempt_apply, Action.bind_apply, Engine.inferior_apply h]
  simp only [probe, bind, StateT.bind] at hmap ⊢
  rw [hmap]
  dsimp only
  split <;> rfl

theorem probe_of_not_maps {a : Address} (h : ¬ E.Maps a s) :
    (probe E a s).1 = false ∧
      ((probe E a s).2 = s ∨ ∃ i, (probe E a s).2 = (E.memoryMap i s).2) := by
  cases hi : E.selectedInferior s with
  | none =>
    rw [probe_of_none hi]
    exact ⟨rfl, .inl rfl⟩
  | some i =>
    rw [probe_apply hi, if_neg (mt (Engine.maps_iff hi).2 h)]
    exact ⟨rfl, .inr ⟨i, rfl⟩⟩

theorem probe_eq (hE : E.Accesses i P) (h : E.selectedInferior s = some i) (a : Address) :
    P.byte (probe E a s).2 = P.byte s ∧
      ((probe E a s).1 = true ↔ E.Maps a s ∧ P.readable s a = true) := by
  have hmap : E.SameMemory P s (E.memoryMap i s).2 := hE.memoryMap s
  rw [probe_apply h, Engine.maps_iff h]
  split
  · next hmapped =>
    obtain ⟨hpeek, hsame⟩ := peek_eq hE (hmap.inferior.trans h) a
    refine ⟨(hmap.trans hsame).byte, ?_⟩
    rw [and_iff_right hmapped, hpeek, hmap.readable]
    split <;> simp_all
  · next hunmapped => exact ⟨hmap.byte, iff_of_false nofun fun h => hunmapped h.1⟩

end Memory

namespace Boundary

variable {E : Engine σ ν τ} {P : Paging σ} {i : Inferior} {v : View σ} {a : Address}

def known? (v : View σ) (a : Address) : Option Bool := v.observer.caches.readable.get? a

theorem allowsRecalling_readable :
    AllowsRecalling E (Leaves fun v : View σ => v.observer.caches.readable) :=
  { (allowsAsking_leaves (p := fun o => o.caches.readable) fun _ _ => rfl).allowsGetting with
    ask := fun _ _ => rfl
    interruptTable := fun _ => rfl
    write := fun name value v => by
      rcases Registers.write_cases (E := E) name value v with ⟨-, h⟩ | ⟨-, h⟩ <;>
        rw [Leaves, h]
    bases := fun _ _ => rfl
    tables := fun _ _ _ _ h => h }

theorem isReadable_of_known {b : Bool} (h : known? v a = some b) : isReadable E a v = (b, v) :=
  View.remembered_of_get? (t := .readable) h

theorem isReadable_of_unknown (h : known? v a = none) :
    (isReadable E a v).1 = (Memory.probe E a v.engine).1 ∧
      (isReadable E a v).2.engine = (Memory.probe E a v.engine).2 := by
  rw [isReadable, View.remembered_of_get?_eq_none (t := .readable) h]
  exact ⟨rfl, rfl⟩

theorem known?_isReadable (b : Address) :
    known? (isReadable E b v).2 a = if a = b then some (isReadable E b v).1 else known? v a := by
  cases h : known? v b with
  | some answer =>
    rw [isReadable_of_known h]
    split
    · next hab => rw [hab, h]
    · rfl
  | none =>
    rw [isReadable, View.remembered_of_get?_eq_none (t := .readable) h]
    exact Cache.get?_insert ..

theorem known?_perform (j : Incident σ) (v : View σ) (a : Address) :
    known? (j.perform E v) a = known? v a ∨
      (j = .forget .stop ∨ j = .use .invalidate) ∧ known? (j.perform E v) a = none ∨
      j = .use (.isReadable a) ∧ known? (j.perform E v) a = some (isReadable E a v).1 := by
  have hsame {v' : View σ} (h : v'.observer.caches.readable = v.observer.caches.readable) :
      known? v' a = known? v a := congrArg (Cache.get? · a) h
  cases j with
  | forget e =>
    by_cases he : e = .stop
    · exact .inr (.inl ⟨.inl (he ▸ rfl), by rw [he]; rfl⟩)
    · refine .inl (hsame ?_)
      show Cache.after _ [.stop] e = _
      rw [Cache.after, if_neg (by simpa using he)]
  | snapshot =>
    exact .inl <| hsame <|
      along_snapshotCommon allowsRecalling_readable.toAllowsGetting (fun _ _ _ => rfl) v
  | reset => exact .inl rfl
  | change f => exact .inl rfl
  | use u =>
    by_cases hforget : u = .invalidate
    · exact .inr (.inl ⟨.inr (hforget ▸ rfl), by rw [hforget]; rfl⟩)
    by_cases hprobe : ∃ b, u = .isReadable b
    · obtain ⟨b, rfl⟩ := hprobe
      have hknown : known? (isReadable E b v).2 a = _ := known?_isReadable b
      by_cases hab : a = b
      · subst hab
        rw [if_pos rfl] at hknown
        exact .inr (.inr ⟨rfl, hknown⟩)
      · rw [if_neg hab] at hknown
        exact .inl hknown
    · exact .inl (hsame (allowsRecalling_readable.use (not_exists.1 hprobe) hforget v))

theorem known?_lived_eq_none {between : List (Incident σ)}
    (hbetween : .use (.isReadable a) ∉ between) :
    known? (lived E v (between ++ [.forget .stop])) a = none := by
  induction between with
  | nil => rfl
  | cons j between ih =>
    obtain ⟨hj, hbetween⟩ := not_or.1 (mt List.mem_cons.2 hbetween)
    rcases known?_perform j (lived E v (between ++ [.forget .stop])) a with h | ⟨-, h⟩ | ⟨rfl, -⟩
    · exact h.trans (ih hbetween)
    · exact h
    · exact absurd rfl hj

theorem isReadable_lived {between : List (Incident σ)} (h : .use (.isReadable a) ∉ between) :
    let w := lived E v (between ++ [.forget .stop])
    (isReadable E a w).1 = (Memory.probe E a w.engine).1 ∧
      (isReadable E a w).2.engine = (Memory.probe E a w.engine).2 :=
  isReadable_of_unknown (known?_lived_eq_none h)

theorem known?_lived_eq_some {b : Bool} (h : known? v a = some b) {later : List (Incident σ)}
    (hstop : .forget .stop ∉ later) (hforget : .use .invalidate ∉ later) :
    known? (lived E v later) a = some b := by
  induction later with
  | nil => exact h
  | cons j later ih =>
    obtain ⟨hj, hstop⟩ := not_or.1 (mt List.mem_cons.2 hstop)
    obtain ⟨hj', hforget⟩ := not_or.1 (mt List.mem_cons.2 hforget)
    have ih := ih hstop hforget
    rcases known?_perform j (lived E v later) a with hsame | ⟨rfl | rfl, -⟩ | ⟨rfl, hagain⟩
    · exact hsame.trans ih
    · exact absurd rfl hj
    · exact absurd rfl hj'
    · rwa [isReadable_of_known ih] at hagain

theorem reads_probe {a : Address} {r : Recorded σ} (h : ¬ E.recorded.Maps a r) :
    (Memory.probe E.recorded a r).2.reads = r.reads := by
  rcases (Memory.probe_of_not_maps h).2 with hsame | ⟨i, hmap⟩
  · rw [hsame]
  · rw [hmap]
    rfl

/--
To poke an address changes no byte, and tells whether it can be both read and written. The first
answer after a halt to whether one is readable is whether it is mapped and can be read, and if it is
not mapped or there is no map, this is found out without a read. The answer is the same, and found
without any engine, until the debuggee halts again or everything is forgotten.
-/
theorem probes_truthful (hE : E.Accesses i P) (a : Address) :
    (∀ s, E.selectedInferior s = some i →
      P.byte (Memory.poke E a s).2 = P.byte s ∧
        ((Memory.poke E a s).1 = true ↔ P.readable s a = true ∧ P.writable s a = true)) ∧
    (∀ s, E.selectedInferior s = none → Memory.poke E a s = (false, s)) ∧
    (∀ v between, .use (.isReadable a) ∉ between →
      let w := lived E v (between ++ [.forget .stop])
      E.selectedInferior w.engine = some i →
        P.byte (isReadable E a w).2.engine = P.byte w.engine ∧
          ((isReadable E a w).1 = true ↔ E.Maps a w.engine ∧ P.readable w.engine a = true)) ∧
    (∀ v between, .use (.isReadable a) ∉ between →
      let w := lived E.recorded v (between ++ [.forget .stop])
      ¬ E.recorded.Maps a w.engine → (isReadable E.recorded a w).1 = false ∧
        (isReadable E.recorded a w).2.engine.reads = w.engine.reads) ∧
    ∀ v later, .forget .stop ∉ later → .use .invalidate ∉ later →
      let w := lived E (isReadable E a v).2 later
      isReadable E a w = ((isReadable E a v).1, w) := by
  refine ⟨fun s h => Memory.poke_eq hE h a, fun s h => Memory.poke_of_none h a, ?_, ?_, ?_⟩
  · intro v between hbetween w h
    obtain ⟨hanswer, hengine⟩ := isReadable_lived (E := E) (v := v) hbetween
    rw [hanswer, hengine]
    exact Memory.probe_eq hE h a
  · intro v between hbetween w h
    obtain ⟨hanswer, hengine⟩ := isReadable_lived (E := E.recorded) (v := v) hbetween
    rw [hanswer, hengine]
    exact ⟨(Memory.probe_of_not_maps h).1, reads_probe h⟩
  · intro v later hstop hforget w
    have hknown : known? (isReadable E a v).2 a = some (isReadable E a v).1 := by
      rw [known?_isReadable, if_pos rfl]
    exact isReadable_of_known (known?_lived_eq_some hknown hstop hforget)

end Boundary

namespace Machine

def paging : Paging Machine := ⟨(·.memory.byte), (·.memory.readable), (·.memory.writable)⟩

theorem accesses : engine.Accesses ⟨1⟩ paging where
  serves m :=
    { readMemory := fun {m'} h _ _ _ _ => by
        have hsame : paging.read? m = m'.memory.readable? := by
          funext c
          rw [Paging.read?, ← h.byte, ← h.readable]
          rfl
        rw [hsame]
        exact m'.memory.read_eq_ok
      steady := fun h _ _ => h }
  grants m := grants m ⟨1⟩
  atomic := isAtomic ⟨1⟩
  memoryMap _ := .refl _

def halfListed : Machine := listPages 0x1000 1 ⟨true, true, false⟩ none Memory.halfWritable

theorem probes_truthful_halfListed :
    let halted := lived engine (attached {} halfListed) [.forget .stop]
    let recorded := lived engine.recorded (attached {} ⟨halfListed, [], []⟩) [.forget .stop]
    let gone : Incident Machine := .change fun _ => unmapPages 0x1000 2 halfListed
    let later := lived engine (Boundary.isReadable engine 0x1fff halted).2 [.forget .prompt, gone]
    (Memory.poke engine 0x1fff halfListed).1 = true ∧
      (Memory.poke engine 0x2000 halfListed).1 = false ∧
      (Boundary.isReadable engine 0x1fff halted).1 = true ∧
      (Boundary.isReadable engine.recorded 0x2000 recorded).2.engine.reads = [] ∧
      (Boundary.isReadable engine 0x1fff later).1 = true := by
  intro halted recorded gone later
  have hi : engine.selectedInferior halfListed = some ⟨1⟩ := rfl
  obtain ⟨hpoke, -, hfirst, -, hagain⟩ := Boundary.probes_truthful accesses 0x1fff
  obtain ⟨hpoke', -, -, hunmapped, -⟩ := Boundary.probes_truthful accesses 0x2000
  have hreadable : (Boundary.isReadable engine 0x1fff halted).1 = true := by
    refine (hfirst (attached {} halfListed) [] nofun hi).2.2 ⟨?_, ?_⟩
    · exact ⟨⟨1⟩, _, hi, rfl, _, .head _, by decide, by decide⟩
    · decide +kernel
  refine ⟨(hpoke halfListed hi).2.2 (by decide +kernel), ?_, hreadable, ?_, ?_⟩
  · rw [← Bool.not_eq_true, (hpoke' halfListed hi).2]
    decide +kernel
  · refine (hunmapped (attached {} ⟨halfListed, [], []⟩) [] nofun ?_).2
    exact mt (Engine.maps_iff rfl).1 (by decide)
  · have hkept := hagain halted [.forget .prompt, gone] (by simp) (by simp)
    rw [hkept]
    exact hreadable

end Machine

end Debuggee
