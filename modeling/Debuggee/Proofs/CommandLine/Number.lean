import Debuggee.CommandLine
import Debuggee.Proofs.Arch.Word
import Debuggee.Proofs.Text.Blank
import Debuggee.Proofs.Text.Numeral

namespace Debuggee

open Text

namespace Command

def hexMarks : List (List Char) := [['0', 'x'], ['0', 'X']]

/-- Hexadecimal digits after a mark, or decimal ones without; a plus sign may stand before them. -/
inductive Written : List Char → Nat → Prop
  | hex {mark digits n} : mark ∈ hexMarks → Numeral.Signed 16 digits n → Written (mark ++ digits) n
  | decimal {digits n} : (∀ mark ∈ hexMarks, ¬ mark <+: digits) → Numeral.Signed 10 digits n →
      Written digits n

theorem length_of_mem_hexMarks {mark : List Char} (h : mark ∈ hexMarks) : mark.length = 2 := by
  revert mark
  decide

theorem number?_mark {mark : List Char} (h : mark ∈ hexMarks) (digits : List Char) :
    number? (mark ++ digits) = Numeral.hex? UInt64.size digits := by
  simp only [hexMarks, List.mem_cons, List.not_mem_nil, or_false] at h
  rcases h with rfl | rfl <;> rfl

theorem number?_of_not_mark {word : List Char} (h : ∀ mark ∈ hexMarks, ¬ mark <+: word) :
    number? word = Numeral.decimal? UInt64.size word := by
  unfold number?
  split
  · exact absurd (List.prefix_append ['0', 'x'] _) (h _ (by decide))
  · exact absurd (List.prefix_append ['0', 'X'] _) (h _ (by decide))
  · rfl

theorem written_mark_iff {mark digits : List Char} {n : Nat} (h : mark ∈ hexMarks) :
    Written (mark ++ digits) n ↔ Numeral.Signed 16 digits n := by
  refine ⟨fun hwritten => ?_, .hex h⟩
  generalize hword : mark ++ digits = word at hwritten
  cases hwritten with
  | @hex mark' digits' _ h' hdigits =>
    have hlength : mark.length = mark'.length := by
      rw [length_of_mem_hexMarks h, length_of_mem_hexMarks h']
    exact (List.append_inj hword hlength).2 ▸ hdigits
  | decimal hnone _ => exact absurd ⟨digits, hword⟩ (hnone mark h)

theorem written_iff_of_not_mark {word : List Char} {n : Nat}
    (h : ∀ mark ∈ hexMarks, ¬ mark <+: word) : Written word n ↔ Numeral.Signed 10 word n := by
  refine ⟨fun hwritten => ?_, .decimal h⟩
  cases hwritten with
  | @hex mark digits _ hmark _ => exact absurd (List.prefix_append mark digits) (h mark hmark)
  | decimal _ hdigits => exact hdigits

theorem number?_eq_some_iff {word : List Char} {n : Nat} :
    number? word = some n ↔ Written word n ∧ n < UInt64.size := by
  by_cases h : ∃ mark ∈ hexMarks, mark <+: word
  · obtain ⟨mark, hmark, digits, rfl⟩ := h
    rw [number?_mark hmark, written_mark_iff hmark, Numeral.hex?,
      Numeral.read?_eq_some_iff (by decide)]
  · have hnone : ∀ mark ∈ hexMarks, ¬ mark <+: word := by simpa using h
    rw [number?_of_not_mark hnone, written_iff_of_not_mark hnone, Numeral.decimal?,
      Numeral.read?_eq_some_iff (by decide)]

theorem readNumber_eq_ok_iff {text : String} {v : UInt64} :
    readNumber text = .ok v ↔ Written (trim text.toList) v.toNat := by
  rw [readNumber]
  constructor
  · intro h
    cases hnumber : number? (trim text.toList) with
    | none => simp [hnumber] at h
    | some n =>
      obtain ⟨hwritten, hlt⟩ := number?_eq_some_iff.1 hnumber
      simp only [hnumber, Except.ok.injEq] at h
      rwa [← h, UInt64.toNat_ofNat_of_lt' hlt]
  · intro h
    simp [number?_eq_some_iff.2 ⟨h, v.toNat_lt⟩]

theorem readNumber_eq_error_iff {text : String} {e : Error} :
    readNumber text = .error e ↔ (∀ v : UInt64, ¬ Written (trim text.toList) v.toNat) ∧
      e = .invalidArgument s!"invalid value: {String.ofList (trim text.toList)}" := by
  simp only [← readNumber_eq_ok_iff]
  rw [readNumber]
  cases number? (trim text.toList) with
  | none => simp [eq_comm]
  | some n => simp

theorem toNat_land_byteMask_lt (a : Address) (pointerSize : Nat) :
    (a &&& byteMask pointerSize).toNat < 16 ^ (2 * pointerSize) := by
  rw [toNat_land_byteMask, show 16 ^ (2 * pointerSize) = 2 ^ (8 * pointerSize) by
    rw [show 16 = 2 ^ 4 from rfl, ← Nat.pow_mul, ← Nat.mul_assoc]]
  exact Nat.mod_lt _ (Nat.two_pow_pos _)

theorem toList_padded (a : Address) (pointerSize : Nat) :
    (a.padded pointerSize).toList = ['0', 'x'] ++
      Numeral.padded ((2 * pointerSize + 2) % UInt64.size - 2)
        (Nat.toDigits 16 (a &&& byteMask pointerSize).toNat) := by
  simp [Address.padded, Numeral.hex]

theorem length_padded (a : Address) {pointerSize : Nat} (h : 1 ≤ pointerSize)
    (h' : pointerSize ≤ 8) : (a.padded pointerSize).length = 2 + 2 * pointerSize := by
  have hdigits : (Nat.toDigits 16 (a &&& byteMask pointerSize).toNat).length ≤ 2 * pointerSize :=
    Nat.toDigits_length 16 _ _ (by omega) (toNat_land_byteMask_lt a pointerSize)
  have hwidth : (2 * pointerSize + 2) % UInt64.size = 2 * pointerSize + 2 :=
    Nat.mod_eq_of_lt (Nat.lt_of_le_of_lt (show _ ≤ 18 by omega) (by decide))
  rw [← String.length_toList, toList_padded, hwidth, Numeral.padded, List.length_append,
    List.length_append, List.length_replicate]
  simp only [List.length_cons, List.length_nil]
  omega

theorem readNumber_padded (a : Address) (pointerSize : Nat) :
    readNumber (a.padded pointerSize) = .ok (a &&& byteMask pointerSize) := by
  have hlist := toList_padded a pointerSize
  have hbare : Bare (a.padded pointerSize).toList := by
    have hmark : ∀ c ∈ ['0', 'x'], isBlank c = false :=
      List.forall_mem_cons.2 ⟨by decide, List.forall_mem_singleton.2 (by decide)⟩
    refine .of_forall fun c hc => ?_
    rw [hlist] at hc
    rcases List.mem_append.1 hc with hc | hc
    · exact hmark c hc
    · exact Numeral.isBlank_of_mem_padded (by decide) (by decide) hc
  rw [readNumber_eq_ok_iff, trim_eq_self_iff.2 hbare, hlist, written_mark_iff (by decide)]
  exact .bare (Numeral.denotes_padded (by decide) (by decide) _ _)

/--
A text is read as the number it is written as, if that fits a word, and refused else. An address
is printed with two digits for each byte of a pointer, and read again but for what does not fit one;
the width is idealised as `Address.padded` says.
-/
theorem readNumber_written :
    (∀ text v, readNumber text = .ok v ↔ Written (trim text.toList) v.toNat) ∧
      (∀ text e, readNumber text = .error e ↔ (∀ v : UInt64, ¬ Written (trim text.toList) v.toNat) ∧
        e = .invalidArgument s!"invalid value: {String.ofList (trim text.toList)}") ∧
      ∀ (a : Address) pointerSize, 1 ≤ pointerSize →
        (pointerSize ≤ 8 → (a.padded pointerSize).length = 2 + 2 * pointerSize) ∧
        (readNumber (a.padded pointerSize)).map UInt64.toNat =
          .ok (a.toNat % 2 ^ (8 * pointerSize)) := by
  refine ⟨fun _ _ => readNumber_eq_ok_iff, fun _ _ => readNumber_eq_error_iff,
    fun a pointerSize h => ⟨length_padded a h, ?_⟩⟩
  rw [readNumber_padded, Except.map, toNat_land_byteMask]

theorem readNumber_written_truncated :
    (Address.padded 0x100000040 4).length = 10 ∧
      (readNumber (Address.padded 0x100000040 4)).map UInt64.toNat = .ok 0x40 := by
  obtain ⟨hlength, hread⟩ := readNumber_written.2.2 0x100000040 4 (by decide)
  exact ⟨hlength (by decide), hread⟩

end Command

end Debuggee
