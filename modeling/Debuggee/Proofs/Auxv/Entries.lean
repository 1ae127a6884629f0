import Debuggee.Auxv.Stack
import Debuggee.Engine.Scene
import Debuggee.Proofs.Occurrences
import Debuggee.Proofs.Text.Numeral
import Mathlib.Data.List.Nodup

namespace Debuggee

namespace AuxvKind

theorem repr_injective : Function.Injective Nat.repr := by
  intro m n h
  rw [Nat.repr_eq_ofList_toDigits, Nat.repr_eq_ofList_toDigits] at h
  exact Text.Numeral.decimal_injective (String.ofList_injective h)

theorem name_cases (kind : UInt64) :
    (kind, name kind) ∈ names ∨ name kind = "AT_UNKNOWN" ++ Nat.repr kind.toNat := by
  rw [name]
  cases h : names.lookup kind with
  | none => exact .inr rfl
  | some text =>
    obtain ⟨before, later, hnames, -⟩ := List.lookup_eq_some_iff.1 h
    rw [hnames]
    exact .inl List.mem_append_cons_self

theorem ne_append_of_mem {entry : UInt64 × String} (h : entry ∈ names) (digits : String) :
    entry.2 ≠ "AT_UNKNOWN" ++ digits := by
  have hall : ∀ entry ∈ names, ¬"AT_UNKNOWN".toList <+: entry.2.toList := by decide
  intro heq
  refine hall entry h ?_
  rw [heq, String.toList_append]
  exact List.prefix_append _ _

theorem name_injective : Function.Injective name := by
  intro kind kind' heq
  -- Names that are known differ, and none of them begins as those do that are made up of a number.
  have honce : (names.map (·.2)).Nodup := by decide
  rcases name_cases kind with hknown | hunknown <;>
    rcases name_cases kind' with hknown' | hunknown'
  · exact congrArg Prod.fst (List.inj_on_of_nodup_map honce hknown hknown' heq)
  · exact (ne_append_of_mem hknown _ (heq.trans hunknown')).elim
  · exact (ne_append_of_mem hknown' _ (heq.symm.trans hunknown)).elim
  · rw [hunknown, hunknown', String.append_right_inj] at heq
    exact UInt64.toNat_inj.1 (repr_injective heq)

end AuxvKind

namespace AuxvValue

def kept (kind word : UInt64) (followed : Except Error String) : AuxvValue :=
  if AuxvKind.isString kind then
    match followed with
    | .ok text => .str text
    | .error _ => .unreadable word
  else .int word

theorem int?_eq_some_iff {value : AuxvValue} {n : UInt64} :
    value.int? = some n ↔ value = .int n := by
  cases value <;> simp [int?]

theorem str?_eq_some_iff {value : AuxvValue} {text : String} :
    value.str? = some text ↔ value = .str text := by
  cases value <;> simp [str?]

end AuxvValue

namespace AuxvSource

variable {σ ν τ : Type} (E : Engine σ ν τ)

theorem entryValue_fst (kind word : UInt64) (s : σ) :
    (entryValue E kind word s).1 = .kept kind word (followString E word s).1 := by
  unfold entryValue AuxvValue.kept
  by_cases hkind : AuxvKind.isString kind
  · rw [if_pos hkind, if_pos hkind]
    simp only [bind, StateT.bind, Action.attempt_apply]
    cases (followString E word s).1 <;> rfl
  · rw [if_neg hkind, if_neg hkind]
    rfl

theorem set_fst (v : Auxv) (kind word : UInt64) (s : σ) :
    (set E v kind word s).1 = v.insert kind (.kept kind word (followString E word s).1) :=
  congrArg (v.insert kind) (entryValue_fst E kind word s)

end AuxvSource

namespace Auxv

/-- What has been stored in a vector, the latest first, by whatever engine strings are followed. -/
inductive Stored : List (UInt64 × AuxvValue) → Auxv → Prop
  | empty : Stored [] Auxv.empty
  | insert {past v} (kind : UInt64) (value : AuxvValue) :
    Stored past v → Stored ((kind, value) :: past) (v.insert kind value)
  | set {past v} {σ ν τ : Type} (E : Engine σ ν τ) (s : σ) (kind word : UInt64) :
    Stored past v →
      Stored ((kind, .kept kind word (AuxvSource.followString E word s).1) :: past)
        (AuxvSource.set E v kind word s).1

def storing (past : List (UInt64 × AuxvValue)) : Auxv :=
  past.foldr (fun entry v => v.insert entry.1 entry.2) empty

variable {past : List (UInt64 × AuxvValue)} {v : Auxv}

theorem get?_insert (v : Auxv) (kind kind' : UInt64) (value : AuxvValue) :
    (v.insert kind value).get? kind' = if kind' = kind then some value else v.get? kind' :=
  Assoc.lookup_store kind kind' value v.entries

theorem int?_eq_some_iff {kind n : UInt64} :
    v.int? kind = some n ↔ v.get? kind = some (.int n) := by
  simp only [int?, Option.bind_eq_some_iff, AuxvValue.int?_eq_some_iff, exists_eq_right]

theorem str?_eq_some_iff {kind : UInt64} {text : String} :
    v.str? kind = some text ↔ v.get? kind = some (.str text) := by
  simp only [str?, Option.bind_eq_some_iff, AuxvValue.str?_eq_some_iff, exists_eq_right]

theorem named?_name (v : Auxv) (kind : UInt64) : v.named? (AuxvKind.name kind) = v.get? kind := by
  obtain ⟨entries⟩ := v
  simp only [named?, get?, AuxvKind.name_injective.beq_eq]
  induction entries with
  | nil => rfl
  | cons entry entries ih =>
    rw [Assoc.lookup_cons_eq_ite]
    by_cases h : kind = entry.1
    · rw [List.find?_cons, beq_iff_eq.2 h.symm, if_pos h, Option.map_some]
    · rw [List.find?_cons, beq_false_of_ne (Ne.symm h), if_neg h, ih]

theorem get?_storing (past : List (UInt64 × AuxvValue)) (kind : UInt64) :
    (storing past).get? kind = past.lookup kind := by
  induction past with
  | nil => rfl
  | cons entry past ih =>
    rw [Assoc.lookup_cons_eq_ite, ← ih]
    exact get?_insert _ _ _ _

theorem firstOccurrences_storing (past : List (UInt64 × AuxvValue)) :
    FirstOccurrences (past.map (·.1)).reverse ((storing past).entries.map (·.1)) := by
  induction past with
  | nil => exact .nil
  | cons entry past ih =>
    show FirstOccurrences _ ((Assoc.store entry.1 entry.2 (storing past).entries).map (·.1))
    rw [List.map_cons, List.reverse_cons, Assoc.map_fst_store]
    exact ih.concat entry.1

namespace Stored

theorem eq_storing (h : Stored past v) : v = storing past := by
  induction h with
  | empty => rfl
  | insert kind value _ ih => exact congrArg (·.insert kind value) ih
  | set E s kind word _ ih =>
    rw [AuxvSource.set_fst, ih]
    rfl

theorem setAll (h : Stored past v) {σ ν τ : Type} (E : Engine σ ν τ)
    (pairs : List (UInt64 × UInt64)) (s : σ) :
    ∃ values : List (UInt64 × AuxvValue), values.map (·.1) = (pairs.map (·.1)).reverse ∧
      Stored (values ++ past) (AuxvSource.setAll E v pairs s).1 := by
  induction pairs generalizing past v s with
  | nil => exact ⟨[], rfl, h⟩
  | cons pair pairs ih =>
    -- The first pair is stored before the others, and so comes after their values.
    obtain ⟨values, hkinds, hstored⟩ :=
      ih (h.set E s pair.1 pair.2) (AuxvSource.set E v pair.1 pair.2 s).2
    refine ⟨values ++ [_], ?_, List.append_cons .. ▸ hstored⟩
    simp [hkinds]

/--
The numbers are listed once each, in the order in which they were first stored. A number has what
was stored under it last, if anything was; it is an integer or a text exactly if that is one. No two
numbers have the same name, known or not, so that a name finds what its number finds.
-/
theorem isMap (h : Stored past v) :
    (v.entries.map (·.1)).Nodup ∧
    FirstOccurrences (past.map (·.1)).reverse (v.entries.map (·.1)) ∧
    (∀ kind, v.get? kind = past.lookup kind) ∧
    (∀ kind n, v.int? kind = some n ↔ v.get? kind = some (.int n)) ∧
    (∀ kind text, v.str? kind = some text ↔ v.get? kind = some (.str text)) ∧
    (∀ kind, v.named? (AuxvKind.name kind) = v.get? kind) ∧
    Function.Injective AuxvKind.name := by
  have hfirst : FirstOccurrences (past.map (·.1)).reverse (v.entries.map (·.1)) := by
    rw [h.eq_storing]
    exact firstOccurrences_storing past
  refine ⟨hfirst.nodup, hfirst, fun kind => ?_, fun _ _ => int?_eq_some_iff,
    fun _ _ => str?_eq_some_iff, v.named?_name, AuxvKind.name_injective⟩
  rw [h.eq_storing, get?_storing]

def onePage : Machine :=
  Machine.storeBytes 0x1000 [0x2f, 0x61] <|
    Machine.mapPages 0x1000 1 ⟨true, false, false⟩ <| Machine.initial ⟨"i386:x86-64", 8, .little⟩

theorem isMap_onePage :
    let v := ((Auxv.empty.insert 51 (.int 1)).insert AuxvKind.entry (.str "start"))
    let v := (AuxvSource.set Machine.engine v AuxvKind.execFileName 0x1000 onePage).1
    let v := (AuxvSource.set Machine.engine v AuxvKind.platform 0x2000 onePage).1
    let v := (AuxvSource.set Machine.engine v 51 2 onePage).1
    v.entries.map (·.1) = [51, AuxvKind.entry, AuxvKind.execFileName, AuxvKind.platform] ∧
      v.named? "AT_UNKNOWN51" = some (.int 2) ∧ v.str? AuxvKind.execFileName = some "/a" ∧
        v.named? "AT_PLATFORM" = some (.unreadable 0x2000) ∧ v.int? AuxvKind.entry = none := by
  intro v₀ v₁ v₂ v
  have hstored := ((((Stored.empty.insert 51 (.int 1)).insert AuxvKind.entry (.str "start")).set
    Machine.engine onePage AuxvKind.execFileName 0x1000).set
      Machine.engine onePage AuxvKind.platform 0x2000).set Machine.engine onePage 51 2
  obtain ⟨-, -, hget, -, hstr, hname, -⟩ := hstored.isMap
  have hvector : v.entries.map (·.1) =
      [51, AuxvKind.entry, AuxvKind.execFileName, AuxvKind.platform] := by
    decide +kernel
  refine ⟨hvector, (hname 51).trans ?_, (hstr _ _).2 ?_, (hname AuxvKind.platform).trans ?_, ?_⟩
  · rw [hget]
    decide +kernel
  · rw [hget]
    decide +kernel
  · rw [hget]
    decide +kernel
  · decide +kernel

end Stored

end Auxv

end Debuggee
