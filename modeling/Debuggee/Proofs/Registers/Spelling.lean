import Debuggee.Proofs.Registers.Written

namespace Debuggee.Registers

variable {σ ν τ : Type} {E : Engine σ ν τ} {s : σ} {f : Frame} {name : String}

theorem exists_of_readSpelling (hE : E.IsQuiet) {names : List String} {u : ν}
    (h : (readSpelling E f names s).1 = some u) :
    ∃ spelling ∈ names, (E.readRegister f spelling s).1 = .ok (some u) := by
  induction names with
  | nil => cases h
  | cons spelling names ih =>
    rw [readSpelling_cons hE] at h
    have hlater (h : (readSpelling E f names s).1 = some u) :
        ∃ other ∈ spelling :: names, (E.readRegister f other s).1 = .ok (some u) := by
      obtain ⟨other, hmem, hread⟩ := ih h
      exact ⟨other, .tail spelling hmem, hread⟩
    cases hread : (E.readRegister f spelling s).1 with
    | error e =>
      rw [hread] at h
      exact hlater h
    | ok u? =>
      rw [hread] at h
      cases u? with
      | none => exact hlater h
      | some u' =>
        cases h
        exact ⟨spelling, .head names, hread⟩

theorem exists_of_readAt (hE : E.IsQuiet) {x : UInt64} (h : readAt E f name s = some x) :
    ∃ spelling ∈ RegisterName.spellings name, ∃ u,
      (E.readRegister f spelling s).1 = .ok (some u) := by
  cases hspelling : (readSpelling E f (RegisterName.spellings name) s).1 with
  | some u =>
    obtain ⟨spelling, hmem, hread⟩ := exists_of_readSpelling hE hspelling
    exact ⟨spelling, hmem, u, hread⟩
  | none =>
    have hnone : (readInteger E f name s).1 = none := by
      simp only [readInteger, bind, StateT.bind]
      rw [show readSpelling E f (RegisterName.spellings name) s = (none, _) from
        Prod.ext hspelling rfl]
      rfl
    rw [readAt, readOver, hnone] at h
    cases h

/--
What can be read can be written, by the name by which the frame has it. A register that is read is
one that the frame has by some spelling of the name. If that is the name itself, every write
succeeds, and the register then reads as what it has room for. If the frame has no register of the
name itself, every write fails and changes nothing, so that the register still reads as before.
-/
theorem write_of_get (hE : E.IsQuiet) {v : View σ} (hf : (E.frame? v.engine).1 = some f)
    (hstores : E.Stores f v.engine) (haccepts : E.Accepts f v.engine)
    (hv : Recalls (Right E v.engine) v.observer.caches) {x : UInt64}
    (hx : (get E name v).1 = some x) :
    (∃ spelling ∈ RegisterName.spellings (RegisterName.bare name), ∃ u,
      (E.readRegister f spelling v.engine).1 = .ok (some u)) ∧
    (∀ u, (E.readRegister f (RegisterName.bare name) v.engine).1 = .ok (some u) → ∀ value,
      let w := (write E name value v).2
      (write E name value v).1 = .ok () ∧ ∃ size,
        E.HasRegister w.engine f (RegisterName.bare name) size (value.toNat % 2 ^ (8 * size)) ∧
          ∀ arch, (E.arch? w.engine).1 = some arch →
            arch.isSegmented (RegisterName.bare name) = false →
              (get E name w).1 = some (value &&& byteMask size &&& arch.mask)) ∧
    ((E.readRegister f (RegisterName.bare name) v.engine).1 = .ok none → ∀ value,
      write E name value v =
        (.error (.invalidArgument s!"no register named '{RegisterName.bare name}'"), v)) := by
  have hframe : E.frame? v.engine = (some f, v.engine) := Prod.ext hf (hE.snd_frame? v.engine)
  refine ⟨?_, fun u hu value => ?_, fun hnone value => ?_⟩
  · obtain ⟨c, -, hget⟩ := get_yields hE exact_right name v.observer hv
    rw [show get E name v = _ from hget, live_apply hE, hf, Option.bind_some] at hx
    dsimp only at hx
    exact exists_of_readAt hE hx
  · intro w
    have hknown := haccepts.known hu value
    have hok : (write E name value v).1 = .ok () :=
      (write_of_frame? hframe (by rw [hknown]; rfl)).1
    have hstores' : ∀ g, (E.frame? v.engine).1 = some g → E.Stores g v.engine := by
      intro g hg
      cases hf.symm.trans hg
      exact hstores
    obtain ⟨g, size, hg, hg', hreg⟩ := stored_of_write hE hstores' hok
    cases hf.symm.trans hg
    refine ⟨hok, size, hreg, fun arch harch hflat => ?_⟩
    rw [(Faithful.readsLive hE (faithful_of_write hok _)).fst_get]
    exact fst_live_of_hasRegister hE hg' hreg harch hflat
  · have hrefused := haccepts.unknown hnone value
    have hanswer : E.writeRegister f (RegisterName.bare name) value v.engine =
        (.ok false, v.engine) := Prod.ext hrefused (hstores.unknown hrefused)
    rw [write_apply, hframe]
    dsimp only
    rw [hanswer]

def statusInCapitals : Machine :=
  let registers := [("CPSR", ⟨0x10, 4, false⟩), ("r0", ⟨1, 4, false⟩)]
  { Machine.initial ⟨"arm", 4, .little⟩ with
    frames := [{ thread := ⟨1⟩, level := 0, registers }] }

theorem stores_statusInCapitals : Machine.engine.Stores ⟨0⟩ statusInCapitals := by
  refine Machine.stores rfl fun state hstate => ?_
  cases hstate
  simp

theorem get_statusInCapitals :
    (get Machine.engine "cpsr" (attached {} statusInCapitals)).1 = some 0x10 ∧
      (get Machine.engine "r0" (attached {} statusInCapitals)).1 = some 1 := by
  decide +kernel

theorem write_of_get_statusInCapitals :
    (∀ value, write Machine.engine "cpsr" value (attached {} statusInCapitals) =
      (.error (.invalidArgument "no register named 'cpsr'"), attached {} statusInCapitals)) ∧
    (write Machine.engine "r0" 2 (attached {} statusInCapitals)).1 = .ok () := by
  obtain ⟨hcpsr, hr0⟩ := get_statusInCapitals
  have hframe : (Machine.engine.frame? statusInCapitals).1 = some ⟨0⟩ :=
    congrArg Prod.fst (Machine.frame?_apply _)
  have hforgotten : Recalls (Right Machine.engine statusInCapitals)
      (attached {} statusInCapitals).observer.caches := recalls_of_values_eq_empty rfl
  obtain ⟨-, -, hrefused⟩ := write_of_get Machine.isQuiet (v := attached {} statusInCapitals) hframe
    stores_statusInCapitals (Machine.accepts _ _) hforgotten hcpsr
  obtain ⟨-, hwritten, -⟩ := write_of_get Machine.isQuiet (v := attached {} statusInCapitals) hframe
    stores_statusInCapitals (Machine.accepts _ _) hforgotten hr0
  exact ⟨hrefused rfl, (hwritten _ rfl 2).1⟩

/-- A register that is read by its name in capitals cannot be written by the name it is read by. -/
theorem get_statusInCapitals_unwritten :
    Machine.engine.Accepts ⟨0⟩ statusInCapitals ∧ Machine.engine.Stores ⟨0⟩ statusInCapitals ∧
      (get Machine.engine "cpsr" (attached {} statusInCapitals)).1 = some 0x10 ∧
      (write Machine.engine "cpsr" 0x20 (attached {} statusInCapitals)).1 =
        .error (.invalidArgument "no register named 'cpsr'") :=
  ⟨Machine.accepts _ _, stores_statusInCapitals, get_statusInCapitals.1, by rfl⟩

end Debuggee.Registers
