import Debuggee.Proofs.Arch.Word
import Debuggee.Proofs.Engine.Machine

namespace Debuggee

variable {σ ν τ : Type}

namespace Engine

/-- The frame has a register of this name and of this many bytes, and it holds the number. -/
def HasRegister (E : Engine σ ν τ) (s : σ) (f : Frame) (name : String) (size n : Nat) : Prop :=
  ∃ u t w, (E.readRegister f name s).1 = .ok (some u) ∧ E.sizeOf s (E.typeOf s u) = size ∧
    (E.typeNamed (unsignedName size) s).1 = .ok t ∧ (E.cast u t s).1 = .ok w ∧
    (E.toInt w s).1 = .ok (n : Int)

/--
What is written to a register of the frame is stored, as far as it fits, and a name that the frame
does not have changes nothing. A write that fails may have done anything.
-/
structure Stores (E : Engine σ ν τ) (f : Frame) (s : σ) : Prop where
  stored : ∀ {name value}, (E.writeRegister f name value s).1 = .ok true →
    ∃ size, E.HasRegister (E.writeRegister f name value s).2 f name size
      (value.toNat % 2 ^ (8 * size))
  selected : ∀ {name value}, (E.writeRegister f name value s).1 = .ok true →
    (E.frame? (E.writeRegister f name value s).2).1 = (E.frame? s).1
  unknown : ∀ {name value}, (E.writeRegister f name value s).1 = .ok false →
    (E.writeRegister f name value s).2 = s

/-- The frame can be written to by just the names by which its registers are read. -/
structure Accepts (E : Engine σ ν τ) (f : Frame) (s : σ) : Prop where
  known : ∀ {name u}, (E.readRegister f name s).1 = .ok (some u) →
    ∀ value, (E.writeRegister f name value s).1 = .ok true
  unknown : ∀ {name}, (E.readRegister f name s).1 = .ok none →
    ∀ value, (E.writeRegister f name value s).1 = .ok false

theorem HasRegister.congr {E : Engine σ ν τ} {s s' : σ} {f : Frame} {name : String} {size n : Nat}
    (h : E.HasRegister s f name size n) (hs : E.SameRegisters s s') :
    E.HasRegister s' f name size n := by
  obtain ⟨u, t, w, hu, hsize, ht, hw, hn⟩ := h
  exact ⟨u, t, w, (hs.readRegister f name).trans hu,
    by rw [hs.typeOf, hs.sizeOf, hsize], (hs.typeNamed _).trans ht, (hs.cast u t).trans hw,
    (hs.toInt w).trans hn⟩

end Engine

theorem CType.size_ofSize (size : Nat) : (CType.ofSize size).size = size := by
  unfold ofSize
  split <;> rfl

namespace Machine

variable {m : Machine} {f : Frame} {state : FrameState} {name : String} {r : Register}

def KeepsRegisters (m : Machine) (f : Frame) : Prop :=
  ∀ state, m.findFrame f = .ok state → ∀ entry ∈ state.registers, entry.2.optimized = false

theorem findFrame_modifyFrame {g : FrameState → FrameState}
    (hg : ∀ state, (g state).live = state.live) (h : m.findFrame f = .ok state) :
    (m.modifyFrame f g).findFrame f = .ok (g state) := by
  have hlive : (FrameState.live ∘ g) = FrameState.live := funext hg
  unfold findFrame at h ⊢
  rw [modifyFrame, List.getElem?_modify_eq, Option.map_eq_map, Option.filter_map, hlive]
  cases hfound : m.frames[f.number]?.filter (·.live) with
  | none =>
    rw [hfound] at h
    cases h
  | some found =>
    rw [hfound] at h
    cases h
    rfl

theorem registerName_congr {m' : Machine} (h : m'.aliases = m.aliases) (state : FrameState)
    (name : String) : m'.registerName state name = m.registerName state name := by
  rw [registerName, registerName, h]

def writtenTo (m : Machine) (name : String) (r : Register) (value : UInt64) (state : FrameState) :
    FrameState :=
  let stored := { r with value := value &&& byteMask r.size }
  { state with registers := Assoc.store (m.registerName state name) stored state.registers }

theorem registerName_writtenTo
    (h : state.registers.lookup (m.registerName state name) = some r) (value : UInt64) :
    m.registerName (m.writtenTo name r value state) name = m.registerName state name := by
  unfold writtenTo
  unfold registerName at h ⊢
  split at h
  · next hown =>
    rw [if_pos hown, Assoc.lookup_store, if_pos rfl, Option.isSome_some, if_pos rfl]
  · next hown =>
    have hname : name ≠ (m.aliases.lookup name).getD name := by
      intro hname
      rw [← hname] at h
      exact hown (h ▸ rfl)
    simp only [if_neg hown, Assoc.lookup_store, if_neg hname]

theorem fst_readRegister_of_error {e : Error} (h : m.findFrame f = .error e) (name : String) :
    (engine.readRegister f name m).1 = .error e := by
  simp only [engine, Action.query_apply, readRegister, h]
  rfl

theorem fst_readRegister (h : m.findFrame f = .ok state) (name : String) :
    (engine.readRegister f name m).1 =
      .ok ((state.registers.lookup (m.registerName state name)).map fun r =>
        { bits := r.value, type := .ofSize r.size, optimized := r.optimized, age := m.age }) := by
  simp only [engine, Action.query_apply, readRegister, h]
  rfl

theorem writeRegister_cases (m : Machine) (f : Frame) (name : String) (value : UInt64) :
    (∃ e, m.findFrame f = .error e ∧ engine.writeRegister f name value m = (.error e, m)) ∨
    ∃ state, m.findFrame f = .ok state ∧
      (state.registers.lookup (m.registerName state name) = none ∧
          engine.writeRegister f name value m = (.ok false, m) ∨
        ∃ r, state.registers.lookup (m.registerName state name) = some r ∧
          ∃ m' : Machine, engine.writeRegister f name value m = (.ok true, m') ∧
            m'.findFrame f = .ok (m.writtenTo name r value state) ∧
            m'.withheldTypes = m.withheldTypes ∧ m'.aliases = m.aliases) := by
  simp only [engine, Action.step, writeRegister]
  cases hf : m.findFrame f with
  | error e => exact .inl ⟨e, rfl, rfl⟩
  | ok state =>
    refine .inr ⟨state, rfl, ?_⟩
    simp only [bind, Except.bind]
    cases hr : state.registers.lookup (m.registerName state name) with
    | none => exact .inl ⟨rfl, rfl⟩
    | some r =>
      refine .inr ⟨r, rfl, _, rfl, ?_, rfl, rfl⟩
      rw [findFrame_modifyFrame (fun _ => by rfl) hf]
      rfl

theorem findType_unsignedName (m : Machine) (size : Nat) :
    ∃ t, m.findType (unsignedName size) = .ok t ∧ t.isSigned = false ∧
      min size 8 ≤ t.size := by
  unfold unsignedName
  split
  · exact ⟨_, rfl, rfl, by decide⟩
  · exact ⟨_, rfl, rfl, by decide⟩
  · exact ⟨_, rfl, rfl, by decide⟩
  · exact ⟨_, rfl, rfl, by decide⟩
  · exact ⟨_, rfl, rfl, Nat.min_le_right _ _⟩

theorem isStale_of_age {v : Value} (h : v.age = m.age) : m.isStale v = false :=
  decide_eq_false (h ▸ Nat.lt_irrefl _)

theorem fresh_of_age {v : Value} (h : v.age = m.age) : m.fresh v = .ok () :=
  if_neg (Bool.eq_false_iff.1 (isStale_of_age h))

theorem fst_cast {v : Value} (h : v.age = m.age) (t : CType) :
    (engine.cast v t m).1 =
      .ok { v with bits := v.bits &&& byteMask t.size, type := t, address := none } := by
  simp only [engine, Action.query_apply, cast, fresh_of_age h]
  rfl

theorem fst_toInt {v : Value} (h : v.age = m.age) (hkept : v.optimized = false)
    (hsigned : v.type.isSigned = false) :
    (engine.toInt v m).1 = .ok ((v.bits &&& byteMask v.type.size).toNat : Int) := by
  simp only [engine, Action.query_apply, toInt, fresh_of_age h, hkept, hsigned]
  rfl

theorem hasRegister_of_lookup (hnamed : m.withheldTypes = []) (hf : m.findFrame f = .ok state)
    (hr : state.registers.lookup (m.registerName state name) = some r)
    (hkept : r.optimized = false) {value : UInt64} (hvalue : r.value = value &&& byteMask r.size) :
    engine.HasRegister m f name r.size (value.toNat % 2 ^ (8 * r.size)) := by
  obtain ⟨t, ht, hsigned, hsize⟩ := m.findType_unsignedName r.size
  let u : Value :=
    { bits := r.value, type := .ofSize r.size, optimized := r.optimized, age := m.age }
  have hu : (engine.readRegister f name m).1 = .ok (some u) := by
    rw [fst_readRegister hf, hr]
    rfl
  have hsizeOf : engine.sizeOf m (engine.typeOf m u) = r.size := by
    show (m.typeOf u).size = r.size
    rw [typeOf, isStale_of_age rfl]
    exact CType.size_ofSize r.size
  have htype : (engine.typeNamed (unsignedName r.size) m).1 = .ok t := by
    simp only [engine, Action.query_apply, typeNamed, hnamed]
    exact ht
  have hbits : r.value &&& byteMask t.size &&& byteMask t.size = r.value := by
    rw [hvalue, land_byteMask_of_le value hsize, land_byteMask_of_le value hsize]
  refine ⟨u, t, _, hu, hsizeOf, htype, fst_cast rfl t, ?_⟩
  rw [fst_toInt rfl hkept hsigned]
  show Except.ok ((r.value &&& byteMask t.size &&& byteMask t.size).toNat : Int) = _
  rw [hbits, hvalue, toNat_land_byteMask]

theorem stores (hnamed : m.withheldTypes = []) (hkept : m.KeepsRegisters f) :
    engine.Stores f m where
  stored {name value} h := by
    obtain ⟨e, -, hw⟩ | ⟨state, hf, ⟨-, hw⟩ | ⟨r, hr, m', hw, hf', hnamed', haliases⟩⟩ :=
      writeRegister_cases m f name value
    · rw [hw] at h
      cases h
    · rw [hw] at h
      cases h
    · rw [hw]
      have hr' : (m.writtenTo name r value state).registers.lookup
          (m'.registerName (m.writtenTo name r value state) name) =
            some { r with value := value &&& byteMask r.size } := by
        rw [registerName_congr haliases, registerName_writtenTo hr, writtenTo, Assoc.lookup_store,
          if_pos rfl]
      obtain ⟨before, after, hregisters, -⟩ := List.lookup_eq_some_iff.1 hr
      have hmem : (m.registerName state name, r) ∈ state.registers := by
        rw [hregisters]
        exact List.mem_append_right before (.head after)
      exact ⟨r.size, hasRegister_of_lookup (hnamed'.trans hnamed) hf' hr'
        (hkept state hf _ hmem) rfl⟩
  selected {name value} _ := by
    obtain ⟨g, -, hg⟩ := snd_writeRegister m f name value
    rw [frame?_apply, frame?_apply, hg]
    rfl
  unknown {name value} h := by
    obtain ⟨e, -, hw⟩ | ⟨state, -, ⟨-, hw⟩ | ⟨r, -, m', hw, -⟩⟩ :=
      writeRegister_cases m f name value
    · rw [hw]
    · rw [hw]
    · rw [hw] at h
      cases h

theorem accepts (m : Machine) (f : Frame) : engine.Accepts f m where
  known {name u} h value := by
    obtain ⟨e, hf, -⟩ | ⟨state, hf, ⟨hr, -⟩ | ⟨r, -, m', hw, -⟩⟩ :=
      writeRegister_cases m f name value
    · rw [fst_readRegister_of_error hf] at h
      cases h
    · rw [fst_readRegister hf, hr] at h
      cases h
    · rw [hw]
  unknown {name} h value := by
    obtain ⟨e, hf, -⟩ | ⟨state, hf, ⟨-, hw⟩ | ⟨r, hr, -⟩⟩ :=
      writeRegister_cases m f name value
    · rw [fst_readRegister_of_error hf] at h
      cases h
    · rw [hw]
    · rw [fst_readRegister hf, hr] at h
      cases h

end Machine

end Debuggee
