import Debuggee.Proofs.Engine.Machine
import Debuggee.Proofs.Memory.LeadingRun

namespace Debuggee

variable {σ ν τ : Type}

def overwrite (memory : Address → UInt8) (a : Address) (bytes : Bytes) : Address → UInt8 := fun c =>
  if a ≤ c then (bytes[c.toNat - a.toNat]?).getD (memory c) else memory c

section

variable {memory : Address → UInt8} {a b c : Address} {bytes later : Bytes}

@[simp] theorem overwrite_nil (memory : Address → UInt8) (a : Address) :
    overwrite memory a [] = memory := by
  funext c
  simp [overwrite]

theorem overwrite_eq_of_outside (h : c.toNat < a.toNat ∨ a.toNat + bytes.length ≤ c.toNat) :
    overwrite memory a bytes c = memory c := by
  rw [overwrite]
  split
  · next hle =>
    have hac : a.toNat ≤ c.toNat := UInt64.le_iff_toNat_le.1 hle
    rw [List.getElem?_eq_none (by omega), Option.getD_none]
  · rfl

theorem overwrite_append (h : b.toNat = a.toNat + bytes.length) :
    overwrite (overwrite memory a bytes) b later = overwrite memory a (bytes ++ later) := by
  funext c
  by_cases hfirst : c.toNat < b.toNat
  · have hright : c.toNat - a.toNat < bytes.length ∨ ¬ a ≤ c := by
      rw [UInt64.le_iff_toNat_le]
      omega
    rw [overwrite_eq_of_outside (.inl hfirst), overwrite, overwrite, List.getElem?_append]
    split
    · next hac => rw [if_pos (hright.resolve_right (not_not_intro hac))]
    · rfl
  · have hbc : b ≤ c := UInt64.le_iff_toNat_le.2 (Nat.not_lt.1 hfirst)
    have hac : a ≤ c := UInt64.le_iff_toNat_le.2 (by omega)
    have hskip : c.toNat - a.toNat - bytes.length = c.toNat - b.toNat := by omega
    rw [overwrite, if_pos hbc, overwrite_eq_of_outside (.inr (by omega)), overwrite, if_pos hac,
      List.getElem?_append_right (by omega), hskip]

end

def extent : List (Address × Nat) → Nat
  | [] => 0
  | (_, size) :: pieces => size + extent pieces

@[simp] theorem extent_append (pieces later : List (Address × Nat)) :
    extent (pieces ++ later) = extent pieces + extent later := by
  induction pieces with
  | nil => simp [extent]
  | cons p pieces ih => rw [List.cons_append, extent, extent, ih, Nat.add_assoc]

theorem length_flatMap_span (pieces : List (Address × Nat)) :
    (pieces.flatMap span).length = extent pieces := by
  induction pieces with
  | nil => rfl
  | cons p pieces ih => simp [extent, span, ih]

theorem extent_splitAtPages_le (a : Address) (size : Nat) :
    extent (splitAtPages a size) ≤ size := by
  rw [← length_flatMap_span, flatMap_span_splitAtPages, List.length_range']
  omega

theorem Tiles.offset {start stop : Nat} {before after : List (Address × Nat)} {b : Address}
    {size : Nat} (h : Tiles start stop (before ++ (b, size) :: after)) :
    b.toNat = start + extent before ∧ extent before + size ≤ stop - start := by
  have hcover := h.cover
  rw [List.flatMap_append, List.flatMap_cons] at hcover
  have hlength := congrArg List.length hcover
  simp only [List.length_append, List.length_range', length_flatMap_span] at hlength
  have hsize : (span (b, size)).length = size := List.length_range'
  have hpos : 0 < size := h.pos (b, size) (by simp)
  have hbefore : (before.flatMap span).length = extent before := length_flatMap_span before
  have hfirst := congrArg (·[extent before]?) hcover
  simp only [List.getElem?_append_right (Nat.le_of_eq hbefore), hbefore, Nat.sub_self] at hfirst
  rw [List.getElem?_append_left (by omega), span, List.getElem?_range' (by omega),
    List.getElem?_range' (by omega)] at hfirst
  have hb : b.toNat = start + extent before := by simpa using hfirst
  omega

theorem Tiles.le_of_mem_later {start stop c : Nat} {pieces later : List (Address × Nat)}
    (h : Tiles start stop (pieces ++ later)) (hc : c ∈ later.flatMap span) :
    start + extent pieces ≤ c := by
  obtain ⟨⟨b, size⟩, hp, hspan⟩ := List.mem_flatMap.1 hc
  obtain ⟨between, after, rfl⟩ := List.append_of_mem hp
  rw [← List.append_assoc] at h
  have hb := h.offset.1
  rw [extent_append] at hb
  have hle := (mem_span.1 hspan).1
  omega

namespace Engine

inductive Writes (E : Engine σ ν τ) (i : Inferior) :
    σ → List (Address × Nat) → Bytes → σ → Prop
  | nil {s : σ} : Writes E i s [] [] s
  | cons {s s' t : σ} {a : Address} {size : Nat} {bytes later : Bytes}
      {pieces : List (Address × Nat)} : bytes.length = size →
      E.writeMemory i a bytes s = (.ok (), s') → Writes E i s' pieces later t →
      Writes E i s ((a, size) :: pieces) (bytes ++ later) t

inductive Refuses (E : Engine σ ν τ) (i : Inferior) :
    σ → List (Address × Nat) → Bytes → σ → Prop
  | nil {s : σ} {bytes : Bytes} : Refuses E i s [] bytes s
  | refused {s t : σ} {a : Address} {size : Nat} {bytes later : Bytes} {e : Error}
      {left : List (Address × Nat)} : bytes.length = size →
      E.writeMemory i a bytes s = (.error e, t) →
      Refuses E i s ((a, size) :: left) (bytes ++ later) t

/-- Writing stores all the bytes, each at an address that there is, or leaves memory as it is. -/
structure IsAtomic (E : Engine σ ν τ) (i : Inferior) (memory : σ → Address → UInt8) : Prop where
  ok : ∀ {s t a bytes}, E.writeMemory i a bytes s = (.ok (), t) →
    a.toNat + bytes.length ≤ UInt64.size ∧ memory t = overwrite (memory s) a bytes
  error : ∀ {s t a bytes e}, E.writeMemory i a bytes s = (.error e, t) → memory t = memory s

/-- While the engine is steady, bytes are written if each of them is at an address of this kind. -/
structure Grants (E : Engine σ ν τ) (i : Inferior) (writable : Nat → Bool) (Steady : σ → Prop) :
    Prop where
  writeMemory : ∀ {s}, Steady s → ∀ {a bytes},
    (E.writeMemory i a bytes s).1 = .ok () ↔ (span (a, bytes.length)).all writable
  steady : ∀ {s}, Steady s → ∀ a bytes, Steady (E.writeMemory i a bytes s).2

variable {E : Engine σ ν τ} {i : Inferior}

theorem writeChunks_run (pieces : List (Address × Nat)) (bytes : Bytes) (s : σ)
    (h : extent pieces ≤ bytes.length) :
    ∃ run left written rest s', pieces = run ++ left ∧ bytes = written ++ rest ∧
      E.Writes i s run written s' ∧
      E.Refuses i s' left rest (E.writeChunks i pieces bytes s).2 := by
  induction pieces generalizing bytes s with
  | nil => exact ⟨[], [], [], bytes, s, rfl, rfl, .nil, .nil⟩
  | cons piece pieces ih =>
    obtain ⟨a, size⟩ := piece
    rw [extent] at h
    have htake : (bytes.take size).length = size := List.length_take_of_le (by omega)
    have hbytes : bytes = bytes.take size ++ bytes.drop size := (List.take_append_drop ..).symm
    simp only [writeChunks, bind, StateT.bind, Action.attempt_apply]
    rcases hwrite : E.writeMemory i a (bytes.take size) s with ⟨e | _, s'⟩
    · refine ⟨[], (a, size) :: pieces, [], bytes, s, rfl, rfl, .nil, ?_⟩
      nth_rewrite 1 [hbytes]
      exact .refused htake hwrite
    · obtain ⟨run, left, written, rest, t, rfl, hdrop, hwrites, hrefuses⟩ :=
        ih (bytes.drop size) s' (by rw [List.length_drop]; omega)
      refine ⟨(a, size) :: run, left, bytes.take size ++ written, rest, t, rfl, ?_,
        .cons htake hwrite hwrites, hrefuses⟩
      rw [List.append_assoc, ← hdrop, List.take_append_drop]

namespace Writes

variable {s t : σ} {run : List (Address × Nat)} {written : Bytes}

theorem length_eq (h : E.Writes i s run written t) : written.length = extent run := by
  induction h with
  | nil => rfl
  | cons hsize _ _ ih => simp [extent, hsize, ih]

theorem memory_eq {memory : σ → Address → UInt8} (hatomic : E.IsAtomic i memory)
    (h : E.Writes i s run written t) {a : Address} (hhead : ∀ p ∈ run.head?, p.1 = a)
    (hchain : run.IsChain fun p q => p.1.toNat + p.2 = q.1.toNat) :
    memory t = overwrite (memory s) a written := by
  induction h generalizing a with
  | nil => rw [overwrite_nil]
  | @cons s s' t b size bytes later pieces hsize hwrite hrest ih =>
    obtain rfl : b = a := hhead (b, size) rfl
    obtain ⟨hnext, hchain⟩ := List.isChain_cons.1 hchain
    have hfirst := (hatomic.ok hwrite).2
    cases pieces with
    | nil =>
      cases hrest
      rw [hfirst, List.append_nil]
    | cons q pieces =>
      have hq : q.1.toNat = b.toNat + bytes.length := by
        rw [hsize]
        exact (hnext q rfl).symm
      rw [ih (a := q.1) (by simp) hchain, hfirst, overwrite_append hq]

theorem grants {writable : Nat → Bool} {Steady : σ → Prop} (hgrants : E.Grants i writable Steady)
    (hs : Steady s) (h : E.Writes i s run written t) :
    Steady t ∧ ∀ p ∈ run, (span p).all writable := by
  induction h with
  | nil => exact ⟨hs, by simp⟩
  | @cons s s' t a size bytes later pieces hsize hwrite _ ih =>
    have hok : (E.writeMemory i a bytes s).1 = .ok () := congrArg Prod.fst hwrite
    have hnext : Steady s' := by
      have hsteady := hgrants.steady hs a bytes
      rwa [hwrite] at hsteady
    obtain ⟨ht, hall⟩ := ih hnext
    refine ⟨ht, List.forall_mem_cons.2 ⟨?_, hall⟩⟩
    rw [← hsize]
    exact (hgrants.writeMemory hs).1 hok

end Writes

theorem Refuses.memory_eq {memory : σ → Address → UInt8} (hatomic : E.IsAtomic i memory) {s t : σ}
    {left : List (Address × Nat)} {rest : Bytes} (h : E.Refuses i s left rest t) :
    memory t = memory s := by
  cases h with
  | nil => rfl
  | refused _ hwrite => exact hatomic.error hwrite

theorem Refuses.takeWhile_eq_nil {s t : σ} {left : List (Address × Nat)} {rest : Bytes}
    {writable : Nat → Bool} {Steady : σ → Prop} (hgrants : E.Grants i writable Steady)
    (hs : Steady s) (h : E.Refuses i s left rest t) :
    left.takeWhile (fun p => (span p).all writable) = [] := by
  cases h with
  | nil => rfl
  | @refused _ a size bytes _ e left hsize hwrite =>
    have hfails : ¬ (E.writeMemory i a bytes s).1 = .ok () := by
      rw [hwrite]
      nofun
    rw [hgrants.writeMemory hs, hsize] at hfails
    exact List.takeWhile_cons_of_neg hfails

theorem writePrefix_run (a : Address) (bytes : Bytes) (s : σ) :
    ∃ run left s', splitAtPages a bytes.length = run ++ left ∧
      E.Writes i s run (bytes.take (extent run)) s' ∧
      E.Refuses i s' left (bytes.drop (extent run)) (E.writePrefix i a bytes s).2 := by
  obtain ⟨run, left, written, rest, s', hsplit, rfl, hwrites, hrefuses⟩ :=
    writeChunks_run (E := E) (i := i) (splitAtPages a bytes.length) bytes s
      (extent_splitAtPages_le a bytes.length)
  refine ⟨run, left, s', hsplit, ?_⟩
  rw [← hwrites.length_eq, List.take_left, List.drop_left]
  exact ⟨hwrites, hrefuses⟩

theorem IsAtomic.write_cases {memory : σ → Address → UInt8} (h : E.IsAtomic i memory) (a : Address)
    (bytes : Bytes) (s : σ) :
    (E.write i a bytes s).1 = .ok () ∧ a.toNat + bytes.length ≤ UInt64.size ∧
        memory (E.write i a bytes s).2 = overwrite (memory s) a bytes ∨
      (E.write i a bytes s).1 = .error (.memoryWrite a bytes.length) ∧
        memory (E.write i a bytes s).2 = memory s := by
  rw [write, Action.orFail]
  rcases hwrite : E.writeMemory i a bytes s with ⟨e | _, t⟩
  · exact .inr ⟨rfl, h.error hwrite⟩
  · exact .inl ⟨rfl, h.ok hwrite⟩

end Engine

namespace Store

theorem byte_store (m : Store) (a : Address) (bytes : Bytes) :
    (m.apply (.store a bytes.toArray)).byte = overwrite m.byte a bytes := by
  funext c
  rw [byte_apply, overwrite, Patch.byte?, Patch.covers]
  by_cases hac : a ≤ c
  · by_cases hlt : c.toNat - a.toNat < bytes.length <;> simp [hac, hlt]
  · simp [hac]

theorem writable_store (m : Store) (a : Address) (bytes : Bytes) :
    (m.apply (.store a bytes.toArray)).writable = m.writable := by
  funext c
  rw [writable, page?_apply]
  rfl

def grants (m : Store) (c : Nat) : Bool := c < UInt64.size && m.writable (.ofNat c)

theorem blocked?_writable_eq_none_iff (m : Store) (a : Address) (size : Nat) :
    blocked? m.writable a.toNat size = none ↔ (span (a, size)).all m.grants := by
  rw [blocked?_eq_none_iff]
  simp [span, grants]

theorem le_of_all_grants {m : Store} {a : Address} {size : Nat}
    (h : (span (a, size)).all m.grants) : a.toNat + size ≤ UInt64.size := by
  have ha : a.toNat < UInt64.size := a.toNat_lt
  by_cases hsize : size = 0
  · omega
  · have hlast := List.all_eq_true.1 h (a.toNat + size - 1) (mem_span.2 (by omega))
    rw [grants, Bool.and_eq_true, decide_eq_true_eq] at hlast
    omega

end Store

namespace Machine

theorem writeMemory_cases (m : Machine) (i : Inferior) (a : Address) (bytes : Bytes) :
    (∃ e, Machine.engine.writeMemory i a bytes m = (.error e, m)) ∧
        ¬ (span (a, bytes.length)).all m.memory.grants ∨
      Machine.engine.writeMemory i a bytes m = (.ok (), storeBytes a bytes m) ∧
        (span (a, bytes.length)).all m.memory.grants := by
  rw [writeMemory_apply, Store.write, ← Store.blocked?_writable_eq_none_iff]
  cases Store.blocked? m.memory.writable a.toNat bytes.length with
  | some e => exact .inl ⟨⟨e, rfl⟩, nofun⟩
  | none => exact .inr ⟨rfl, rfl⟩

theorem isAtomic (i : Inferior) : Machine.engine.IsAtomic i (·.memory.byte) where
  ok {m t a bytes} h := by
    rcases m.writeMemory_cases i a bytes with ⟨⟨e, he⟩, -⟩ | ⟨hok, hall⟩
    · cases he.symm.trans h
    · cases hok.symm.trans h
      exact ⟨Store.le_of_all_grants hall, m.memory.byte_store a bytes⟩
  error {m t a bytes e} h := by
    rcases m.writeMemory_cases i a bytes with ⟨⟨e, he⟩, -⟩ | ⟨hok, -⟩
    · cases he.symm.trans h
      rfl
    · cases hok.symm.trans h

theorem grants (m : Machine) (i : Inferior) :
    Machine.engine.Grants i m.memory.grants (·.memory.writable = m.memory.writable) where
  writeMemory {s} hs {a bytes} := by
    have hgrants : m.memory.grants = s.memory.grants := by
      funext c
      rw [Store.grants, Store.grants, hs]
    rw [hgrants]
    rcases s.writeMemory_cases i a bytes with ⟨⟨e, he⟩, hall⟩ | ⟨hok, hall⟩
    · rw [he]
      exact iff_of_false nofun hall
    · rw [hok]
      exact iff_of_true rfl hall
  steady {s} hs a bytes := by
    rcases s.writeMemory_cases i a bytes with ⟨⟨e, he⟩, -⟩ | ⟨hok, -⟩
    · rw [he]
      exact hs
    · rw [hok]
      exact (s.memory.writable_store a bytes).trans hs

end Machine

namespace Memory

variable {E : Engine σ ν τ} {i : Inferior} {memory : σ → Address → UInt8}

/--
Writing as far as possible never fails. It stores the front of the bytes, as much as belongs to the
pieces before the first that is refused, each piece at as great a distance from the address as its
bytes are from the front, and no other byte of memory changes; the last address of all belongs to no
piece. Writing whole stores all the bytes or fails and changes nothing.
-/
theorem writePrefix_leadingRun (h : E.IsAtomic i memory) (a : Address) (bytes : Bytes) (s : σ) :
    (∃ run left s' t, splitAtPages a bytes.length = run ++ left ∧
      E.Writes i s run (bytes.take (extent run)) s' ∧
      E.Refuses i s' left (bytes.drop (extent run)) t ∧
      Action.ofState (E.writePrefix i a bytes) s = (.ok (), t) ∧
      memory t = overwrite (memory s) a (bytes.take (extent run)) ∧
      (∀ c, c.toNat ∈ left.flatMap span ∨ c.toNat ∉ span (a, bytes.length) →
        memory t c = memory s c) ∧
      ∀ writable Steady, E.Grants i writable Steady → Steady s →
        run = (splitAtPages a bytes.length).takeWhile fun p => (span p).all writable) ∧
    (∀ before b size after, splitAtPages a bytes.length = before ++ (b, size) :: after →
      b.toNat = a.toNat + extent before ∧ extent before + size ≤ bytes.length) ∧
    ((E.write i a bytes s).1 = .ok () ∧ a.toNat + bytes.length ≤ UInt64.size ∧
        memory (E.write i a bytes s).2 = overwrite (memory s) a bytes ∨
      (E.write i a bytes s).1 = .error (.memoryWrite a bytes.length) ∧
        memory (E.write i a bytes s).2 = memory s) := by
  have htiles := tiles_splitAtPages a bytes.length
  refine ⟨?_, fun before b size after hsplit => ?_, h.write_cases a bytes s⟩
  · obtain ⟨run, left, s', hsplit, hwrites, hrefuses⟩ :=
      Engine.writePrefix_run (E := E) (i := i) a bytes s
    rw [hsplit] at htiles
    have hhead : ∀ p ∈ run.head?, p.1 = a := fun p hp =>
      (hsplit ▸ cuts_splitAtPages a bytes.length).head p (by simp_all)
    have hmemory := hwrites.memory_eq h hhead htiles.contiguous.left_of_append
    have hstop : memory (E.writePrefix i a bytes s).2 = memory s' := hrefuses.memory_eq h
    rw [← hstop] at hmemory
    refine ⟨run, left, s', _, hsplit, hwrites, hrefuses, rfl, hmemory, fun c hc => ?_,
      fun writable Steady hgrants hs => ?_⟩
    · have htake : (bytes.take (extent run)).length = min (extent run) bytes.length :=
        List.length_take
      rw [hmemory]
      refine overwrite_eq_of_outside ?_
      rcases hc with hleft | houtside
      · have hle := htiles.le_of_mem_later hleft
        omega
      · rw [mem_span] at houtside
        omega
    · obtain ⟨hs', hall⟩ := hwrites.grants hgrants hs
      rw [hsplit, List.takeWhile_append_of_pos hall, hrefuses.takeWhile_eq_nil hgrants hs',
        List.append_nil]
  · rw [hsplit] at htiles
    obtain ⟨hb, hle⟩ := htiles.offset
    exact ⟨hb, by omega⟩

def halfWritable : Machine :=
  Machine.mapPages 0x2000 1 ⟨true, false, false⟩ <|
    Machine.mapPages 0x1000 1 ⟨true, true, false⟩ <| Machine.initial ⟨"i386:x86-64", 8, .little⟩

theorem writePrefix_leadingRun_halfWritable :
    Machine.engine.IsAtomic ⟨1⟩ (·.memory.byte) ∧
      (Machine.engine.writePrefix ⟨1⟩ 0x1ffe [97, 98, 99, 100] halfWritable).2.memory.byte =
        overwrite halfWritable.memory.byte 0x1ffe [97, 98] := by
  have hatomic : Machine.engine.IsAtomic ⟨1⟩ (·.memory.byte) := Machine.isAtomic ⟨1⟩
  obtain ⟨⟨run, left, s', t, -, -, -, hwrite, hmemory, -, hrun⟩, -⟩ :=
    writePrefix_leadingRun hatomic 0x1ffe [97, 98, 99, 100] halfWritable
  have hpieces : (splitAtPages 0x1ffe [97, 98, 99, 100].length).takeWhile
      (fun p => (span p).all halfWritable.memory.grants) = [(0x1ffe, 2)] := by decide +kernel
  obtain rfl := (hrun _ _ (halfWritable.grants ⟨1⟩) rfl).trans hpieces
  have ht : (Machine.engine.writePrefix ⟨1⟩ 0x1ffe [97, 98, 99, 100] halfWritable).2 = t :=
    congrArg Prod.snd hwrite
  rw [ht]
  exact ⟨hatomic, hmemory⟩

end Memory

end Debuggee
