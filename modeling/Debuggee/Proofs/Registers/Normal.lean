import Debuggee.Proofs.Debugger.Snapshot
import Debuggee.Proofs.Registers.Written
import Debuggee.Proofs.Text.Case
import Mathlib.Algebra.Group.Int.Defs

namespace Debuggee.Registers

open Text

variable {σ ν τ : Type}

def candidates (name : String) : List String :=
  name :: RegisterName.capitals name ::
    if name.toList.map Char.toLower = "xpsr".toList then ["xPSR"] else []

section

variable (E : Engine σ ν τ) (s : σ)

def readable? (f : Frame) (name : String) : Option ν :=
  match (E.readRegister f name s).1 with
  | .ok v? => v?
  | .error _ => none

def unsigned? (v : ν) : Option Int := do
  let _ ← E.selectedInferior s
  let t ← (E.typeNamed (unsignedName (E.sizeOf s (E.typeOf s v))) s).1.toOption
  let u ← (E.cast v t s).1.toOption
  (E.toInt u s).1.toOption

/-- What a register of the selected frame reads as, where `cs` reads as this. -/
def normalised (cs : Option UInt64) (name : String) : Option UInt64 := do
  let f ← (E.frame? s).1
  let v ← (candidates name).findSome? (readable? E s f)
  let arch ← (E.arch? s).1
  let n ← unsigned? E s v
  let flat? := if name = "pc" ∧ arch.name = .i8086 then cs.map (n + 16 * ·.toNat) else some n
  flat?.map fun flat => .ofNat (flat % 2 ^ (8 * arch.pointerSize)).toNat

end

variable {E : Engine σ ν τ} {s : σ}

theorem capitals_of_toLower {name : String} (h : name.toList.map Char.toLower = "xpsr".toList) :
    RegisterName.capitals name = "XPSR" := by
  have hascii : "xpsr".toList.all (·.toNat < 128) = true := by decide +kernel
  rw [RegisterName.capitals, upper_of_toLower hascii h]
  decide +kernel

theorem readSpelling_eq (hE : E.IsQuiet) (f : Frame) (names : List String) :
    readSpelling E f names s = (names.findSome? (readable? E s f), s) := by
  induction names with
  | nil => rfl
  | cons name names ih =>
    rw [readSpelling_cons hE, ih, List.findSome?_cons, readable?]
    rcases (E.readRegister f name s).1 with e | _ | v <;> rfl

theorem findSome?_spellings (f : Frame) (name : String) :
    (RegisterName.spellings name).findSome? (readable? E s f) =
      (candidates name).findSome? (readable? E s f) := by
  unfold RegisterName.spellings candidates
  dsimp only
  split
  · next h =>
    rw [show RegisterName.capitals "xPSR" = "XPSR" by decide +kernel, capitals_of_toLower h]
    simp only [List.findSome?_append, List.findSome?_cons, List.findSome?_nil]
    cases readable? E s f name <;> cases readable? E s f "XPSR" <;> simp
  · rfl

theorem toOption_bind {α β : Type} {x : Action σ α} (hx : (x s).2 = s) (f : α → Action σ β) :
    ((x >>= f) s).1.toOption = (x s).1.toOption.bind fun a => (f a s).1.toOption := by
  rw [Action.bind_apply]
  rcases h : x s with ⟨e | a, s'⟩ <;> rw [h] at hx <;> cases hx <;> rfl

theorem attempt_toUnsigned (hE : E.IsQuiet) (v : ν) :
    (do
      let _ ← E.inferior
      E.toInt (← E.cast v (← E.typeNamed (unsignedName (E.sizeOf s (E.typeOf s v))))) :
        Action σ Int).attempt s = (unsigned? E s v, s) := by
  have hstate := (hE.asks_toUnsigned v (unsignedName (E.sizeOf s (E.typeOf s v)))).quiet s
  have hinferior : (E.inferior s).1.toOption = E.selectedInferior s := by
    rw [Engine.inferior, Action.bind_apply, Action.ask_apply]
    dsimp only
    cases E.selectedInferior s <;> rfl
  rw [Action.attempt_apply, hstate, toOption_bind (hE.asks_inferior.quiet s), hinferior]
  simp only [toOption_bind (hE.typeNamed _ s), toOption_bind (hE.cast _ _ s)]
  rfl

theorem fst_readInteger (hE : E.IsQuiet) (f : Frame) (name : String) :
    (readInteger E f name s).1 = (do
      let v ← (candidates name).findSome? (readable? E s f)
      let arch ← (E.arch? s).1
      return (arch, ← unsigned? E s v)) := by
  have harch : E.arch? s = ((E.arch? s).1, s) := Prod.ext rfl (hE.asks_arch?.quiet s)
  simp only [readInteger, bind, StateT.bind]
  rw [readSpelling_eq hE, findSome?_spellings]
  cases (candidates name).findSome? (readable? E s f) with
  | none => rfl
  | some v =>
    simp only [StateT.bind, bind]
    rw [harch]
    cases (E.arch? s).1 with
    | none => rfl
    | some arch =>
      show ((do
        let _ ← E.inferior
        E.toInt (← E.cast v (← E.typeNamed (unsignedName (E.sizeOf s (E.typeOf s v))))) :
          Action σ Int).attempt s).1.map (arch, ·) = _
      rw [attempt_toUnsigned hE, Option.bind_some, Option.bind_some]
      cases unsigned? E s v <;> rfl

theorem reduce_eq {arch : Arch} (h : arch.pointerSize ≤ 8) (n : Int) :
    arch.reduce n = .ofNat (n % 2 ^ (8 * arch.pointerSize)).toNat := by
  have hmask : arch.mask.toNat + 1 = 2 ^ (8 * arch.pointerSize) := by
    rw [Arch.mask, toNat_byteMask, Nat.min_eq_left h]
    exact Nat.sub_add_cancel Nat.one_le_two_pow
  have hmodulus : (arch.mask.toNat : Int) + 1 = 2 ^ (8 * arch.pointerSize) := by
    exact_mod_cast hmask
  rw [Arch.reduce, hmodulus]

theorem isSegmented_iff (arch : Arch) (name : String) :
    arch.isSegmented name = true ↔ name = "pc" ∧ arch.name = .i8086 := by
  rw [Arch.isSegmented, Bool.and_eq_true, beq_iff_eq, beq_iff_eq]

theorem readOver_eq_normalised (hE : E.IsQuiet) {f : Frame} (hf : (E.frame? s).1 = some f)
    (hsize : ∀ arch, (E.arch? s).1 = some arch → arch.pointerSize ≤ 8) (cs : Option UInt64)
    (name : String) : readOver E cs f name s = normalised E s cs name := by
  rw [readOver, fst_readInteger hE, normalised, hf]
  simp only [Option.bind_eq_bind, Option.bind_some]
  cases (candidates name).findSome? (readable? E s f) with
  | none => rfl
  | some v =>
    cases harch : (E.arch? s).1 with
    | none => rfl
    | some arch =>
      cases hn : unsigned? E s v with
      | none => simp [hn]
      | some n =>
        have hreduce := reduce_eq (hsize arch harch)
        simp only [Option.bind_some, Option.pure_def, hn, isSegmented_iff, Arch.readsAs, hreduce]
        split
        · cases cs <;> rfl
        · rfl

theorem bare_dollars (dollars : Nat) {name : List Char} (h : name.head? ≠ some '$') :
    RegisterName.bare (String.ofList (List.replicate dollars '$' ++ name)) =
      String.ofList name := by
  have hdrop : (List.replicate dollars '$' ++ name).dropWhile (· = '$') = name := by
    induction dollars with
    | zero =>
      cases name with
      | nil => rfl
      | cons c name =>
        have hc : c ≠ '$' := by simpa using h
        simp [hc]
    | succ dollars ih => simpa [List.replicate_succ] using ih
  rw [RegisterName.bare, String.toList_ofList, hdrop]

theorem fst_get_eq_normalised (hE : E.IsQuiet) {v : View σ} {name : String}
    (hsize : ∀ arch, (E.arch? v.engine).1 = some arch → arch.pointerSize ≤ 8)
    (hnew : ∀ f, (E.frame? v.engine).1 = some f →
      v.observer.caches.values.get? (placeOf E v.engine f (RegisterName.bare name)) = none) :
    (get E name v).1 =
      normalised E v.engine (get E "cs" v).1 (RegisterName.bare name) := by
  rw [fst_get hE, fst_get hE "cs", RegisterName.bare_cs]
  cases hf : (E.frame? v.engine).1 with
  | none =>
    rw [Option.bind_none, Option.bind_none, normalised, hf]
    rfl
  | some f =>
    rw [Option.bind_some, Option.bind_some, recallAt_eq, hnew f hf, Option.getD_none,
      readOver_eq_normalised hE hf hsize]

end Debuggee.Registers
