import Debuggee.Text.Blank
import Debuggee.Text.Numeral
import Mathlib.Data.List.Forall2
import Mathlib.Data.Nat.Digits.Defs
import Mathlib.Tactic.IntervalCases
import Mathlib.Tactic.Ring

namespace Debuggee.Text.Numeral

variable {base : Nat}

def Stands (base : Nat) (c : Char) (d : Nat) : Prop :=
  d < base ∧ (c = Nat.digitChar d ∨ c = (Nat.digitChar d).toUpper)

/-- Digits of this value, the most significant first. -/
def Denotes (base : Nat) (cs : List Char) (n : Nat) : Prop :=
  cs ≠ [] ∧ ∃ ds, List.Forall₂ (Stands base) cs ds ∧ Nat.ofDigits base ds.reverse = n

inductive Signed (base : Nat) : List Char → Nat → Prop
  | bare {cs n} : Denotes base cs n → Signed base cs n
  | plus {cs n} : Denotes base cs n → Signed base ('+' :: cs) n

theorem digit?_digitChar (hbase : base ≤ 16) {d : Nat} (hd : d < base) :
    digit? base (Nat.digitChar d) = some d := by
  have h : d < 16 := Nat.lt_of_lt_of_le hd hbase
  interval_cases d <;> simp [digit?, Nat.digitChar, hd]

theorem char_le_iff (c c' : Char) : c ≤ c' ↔ c.toNat ≤ c'.toNat := by
  rw [Char.le_def, UInt32.le_iff_toNat_le]
  rfl

theorem toNat_of_digit? {c : Char} {d : Nat} (h : digit? base c = some d) :
    d < base ∧ (d < 10 ∧ c.toNat = 48 + d ∨ 10 ≤ d ∧ (c.toNat = 87 + d ∨ c.toNat = 55 + d)) := by
  simp only [digit?, char_le_iff, Char.reduceToNat, Option.ite_none_right_eq_some,
    Option.some.injEq] at h
  obtain ⟨hlt, rfl⟩ := h
  refine ⟨hlt, ?_⟩
  split at hlt
  · next hdigit =>
    rw [if_pos hdigit]
    omega
  · next hdigit =>
    rw [if_neg hdigit]
    split at hlt
    · next hlower =>
      rw [if_pos hlower]
      omega
    · next hlower =>
      rw [if_neg hlower]
      split at hlt
      · next hupper =>
        rw [if_pos hupper]
        omega
      · exact absurd hlt (Nat.lt_irrefl base)

theorem digit?_eq_some_iff (hbase : base ≤ 16) {c : Char} {d : Nat} :
    digit? base c = some d ↔ Stands base c d := by
  constructor
  · intro h
    obtain ⟨hd, hcode⟩ := toNat_of_digit? h
    have hd' : d < 16 := Nat.lt_of_lt_of_le hd hbase
    have hchar {k : Nat} (hc : c.toNat = k) : c = Char.ofNat k := hc ▸ (Char.ofNat_toNat c).symm
    refine ⟨hd, ?_⟩
    rcases hcode with ⟨hten, hcode⟩ | ⟨hten, hcode | hcode⟩
    · exact .inl (by rw [hchar hcode]; interval_cases d <;> rfl)
    · exact .inl (by rw [hchar hcode]; interval_cases d <;> rfl)
    · exact .inr (by rw [hchar hcode]; interval_cases d <;> rfl)
  · rintro ⟨hd, rfl | rfl⟩
    · exact digit?_digitChar hbase hd
    · have hd' : d < 16 := Nat.lt_of_lt_of_le hd hbase
      interval_cases d <;> simp [digit?, Nat.digitChar, hd]

theorem readFrom?_eq_some_iff (hbase : base ≤ 16) {value n : Nat} {cs : List Char} :
    readFrom? base value cs = some n ↔
      ∃ ds, List.Forall₂ (Stands base) cs ds ∧
        value * base ^ ds.length + Nat.ofDigits base ds.reverse = n := by
  induction cs generalizing value with
  | nil => simp [readFrom?, List.forall₂_nil_left_iff]
  | cons c cs ih =>
    simp only [readFrom?, Option.bind_eq_bind, Option.bind_eq_some_iff, digit?_eq_some_iff hbase,
      ih, List.forall₂_cons_left_iff]
    have hvalue (d : Nat) (ds : List Nat) :
        (value * base + d) * base ^ ds.length + Nat.ofDigits base ds.reverse =
          value * base ^ (d :: ds).length + Nat.ofDigits base (d :: ds).reverse := by
      rw [List.reverse_cons, Nat.ofDigits_append, Nat.ofDigits_singleton, List.length_reverse,
        List.length_cons]
      ring
    constructor
    · rintro ⟨d, hd, ds, hds, rfl⟩
      exact ⟨d :: ds, ⟨d, ds, hd, hds, rfl⟩, (hvalue d ds).symm⟩
    · rintro ⟨_, ⟨d, ds, hd, hds, rfl⟩, rfl⟩
      exact ⟨d, hd, ds, hds, hvalue d ds⟩

theorem digits?_eq_some_iff (hbase : base ≤ 16) {cs : List Char} {n : Nat} :
    digits? base cs = some n ↔ Denotes base cs n := by
  cases cs with
  | nil => simp [digits?, Denotes]
  | cons c cs => simp [digits?, Denotes, readFrom?_eq_some_iff hbase]

theorem not_stands_plus (hbase : base ≤ 16) {d : Nat} : ¬ Stands base '+' d := by
  rw [← digit?_eq_some_iff hbase]
  simp [digit?]

theorem not_denotes_plus (hbase : base ≤ 16) {cs : List Char} {n : Nat} :
    ¬ Denotes base ('+' :: cs) n := by
  rintro ⟨-, _, hstands, -⟩
  cases hstands with
  | cons hplus _ => exact not_stands_plus hbase hplus

theorem read?_eq_some_iff (hbase : base ≤ 16) {bound n : Nat} {cs : List Char} :
    read? base bound cs = some n ↔ Signed base cs n ∧ n < bound := by
  unfold read?
  rw [Option.filter_eq_some_iff, decide_eq_true_eq]
  refine and_congr_left fun _ => ?_
  split
  · next cs =>
    rw [digits?_eq_some_iff hbase]
    constructor
    · exact .plus
    · rintro (h | h)
      · exact absurd h (not_denotes_plus hbase)
      · exact h
  · next hplus =>
    rw [digits?_eq_some_iff hbase]
    constructor
    · exact .bare
    · rintro (h | h)
      · exact h
      · exact absurd rfl (hplus _)

theorem readFrom?_append (value : Nat) (cs cs' : List Char) :
    readFrom? base value (cs ++ cs') =
      (readFrom? base value cs).bind fun value => readFrom? base value cs' := by
  induction cs generalizing value with
  | nil => rfl
  | cons c cs ih =>
    rw [List.cons_append, readFrom?, readFrom?]
    cases digit? base c with
    | none => rfl
    | some d => exact ih _

theorem mem_toDigits (hbase : 1 < base) {n : Nat} {c : Char} (h : c ∈ Nat.toDigits base n) :
    ∃ d < base, c = Nat.digitChar d := by
  induction n using Nat.strongRecOn with
  | ind n ih =>
    by_cases hn : n < base
    · rw [Nat.toDigits_of_lt_base hn] at h
      exact ⟨n, hn, List.mem_singleton.1 h⟩
    · rw [Nat.toDigits_of_base_le hbase (Nat.le_of_not_lt hn)] at h
      rcases List.mem_append.1 h with h | h
      · exact ih _ (Nat.div_lt_self (by omega) hbase) h
      · exact ⟨_, Nat.mod_lt n (by omega), List.mem_singleton.1 h⟩

theorem readFrom?_toDigits (hbase : 1 < base) (hbase' : base ≤ 16) (value n : Nat) :
    readFrom? base value (Nat.toDigits base n) =
      some (value * base ^ (Nat.toDigits base n).length + n) := by
  have hlast (value : Nat) {d : Nat} (hd : d < base) :
      readFrom? base value [Nat.digitChar d] = some (value * base + d) := by
    rw [readFrom?, digit?_digitChar hbase' hd]
    rfl
  induction n using Nat.strongRecOn with
  | ind n ih =>
    by_cases hn : n < base
    · rw [Nat.toDigits_of_lt_base hn, hlast value hn, List.length_singleton, Nat.pow_one]
    · have hrest := ih (n / base) (Nat.div_lt_self (by omega) hbase)
      rw [Nat.toDigits_of_base_le hbase (Nat.le_of_not_lt hn), readFrom?_append, hrest,
        Option.bind_some, hlast _ (Nat.mod_lt n (by omega)), List.length_append,
        List.length_singleton, Nat.pow_succ]
      refine congrArg some ?_
      calc (value * base ^ (Nat.toDigits base (n / base)).length + n / base) * base + n % base
        _ = value * (base ^ (Nat.toDigits base (n / base)).length * base) +
            (n / base * base + n % base) := by ring
        _ = _ := by rw [Nat.div_add_mod']

theorem readFrom?_replicate (hbase : 0 < base) (zeros : Nat) :
    readFrom? base 0 (List.replicate zeros '0') = some 0 := by
  induction zeros with
  | zero => rfl
  | succ zeros ih => simpa [List.replicate_succ, readFrom?, digit?, hbase] using ih

theorem mem_padded (hbase : 1 < base) {places n : Nat} {c : Char}
    (h : c ∈ padded places (Nat.toDigits base n)) : ∃ d < base, c = Nat.digitChar d := by
  rcases List.mem_append.1 h with h | h
  · exact ⟨0, by omega, (List.mem_replicate.1 h).2⟩
  · exact mem_toDigits hbase h

theorem isBlank_digitChar {d : Nat} (hd : d < 16) : isBlank (Nat.digitChar d) = false := by
  interval_cases d <;> decide

theorem isBlank_of_mem_padded (hbase : 1 < base) (hbase' : base ≤ 16) {places n : Nat} {c : Char}
    (h : c ∈ padded places (Nat.toDigits base n)) : isBlank c = false := by
  obtain ⟨d, hd, rfl⟩ := mem_padded hbase h
  exact isBlank_digitChar (Nat.lt_of_lt_of_le hd hbase')

@[simp] theorem padded_zero (digits : List Char) : padded 0 digits = digits := by
  simp [padded]

theorem padded_ne_nil (places n : Nat) : padded places (Nat.toDigits base n) ≠ [] :=
  List.append_ne_nil_of_right_ne_nil _ Nat.toDigits_ne_nil

theorem digits?_padded (hbase : 1 < base) (hbase' : base ≤ 16) (places n : Nat) :
    digits? base (padded places (Nat.toDigits base n)) = some n := by
  have hread : readFrom? base 0 (padded places (Nat.toDigits base n)) = some n := by
    rw [padded, readFrom?_append, readFrom?_replicate (by omega), Option.bind_some,
      readFrom?_toDigits hbase hbase', Nat.zero_mul, Nat.zero_add]
  have hne : padded places (Nat.toDigits base n) ≠ [] := padded_ne_nil places n
  obtain ⟨c, cs, hcs⟩ := List.exists_cons_of_ne_nil hne
  rw [hcs] at hread ⊢
  exact hread

theorem denotes_padded (hbase : 1 < base) (hbase' : base ≤ 16) (places n : Nat) :
    Denotes base (padded places (Nat.toDigits base n)) n :=
  (digits?_eq_some_iff hbase').1 (digits?_padded hbase hbase' places n)

theorem read?_padded (hbase : 1 < base) (hbase' : base ≤ 16) {n bound : Nat} (h : n < bound)
    (places : Nat) : read? base bound (padded places (Nat.toDigits base n)) = some n :=
  (read?_eq_some_iff hbase').2 ⟨.bare (denotes_padded hbase hbase' places n), h⟩

theorem decimal_injective : Function.Injective decimal := by
  intro m n h
  have hread := congrArg (Nat.ofDigitChars 10 · 0) h
  simpa only [decimal, Nat.ofDigitChars_toDigits (by decide : 1 < 10) (by decide : 10 ≤ 10)]
    using hread

theorem decimal_append_inj {m n : Nat} {rest rest' : List Char}
    (hrest : ∀ c ∈ rest.head?, c.isDigit = false) (hrest' : ∀ c ∈ rest'.head?, c.isDigit = false)
    (h : decimal m ++ rest = decimal n ++ rest') : m = n ∧ rest = rest' := by
  have hrun {k : Nat} {text : List Char} (htext : ∀ c ∈ text.head?, c.isDigit = false) :
      (decimal k ++ text).takeWhile Char.isDigit = decimal k := by
    have hdigits : ∀ c ∈ decimal k, c.isDigit = true := fun c hc =>
      Nat.isDigit_of_mem_toDigits (by decide) (by decide) hc
    have hnone : text.takeWhile Char.isDigit = [] := by
      cases text with
      | nil => rfl
      | cons c text => exact List.takeWhile_cons_of_neg (Bool.eq_false_iff.1 (htext c rfl))
    rw [List.takeWhile_append_of_pos hdigits, hnone, List.append_nil]
  have hsame : decimal m = decimal n :=
    calc decimal m
      _ = (decimal m ++ rest).takeWhile Char.isDigit := (hrun hrest).symm
      _ = (decimal n ++ rest').takeWhile Char.isDigit := congrArg _ h
      _ = decimal n := hrun hrest'
  refine ⟨decimal_injective hsame, ?_⟩
  rwa [hsame, List.append_cancel_left_eq] at h

theorem decimal_ne_nil (n : Nat) : decimal n ≠ [] := Nat.toDigits_ne_nil

theorem isBlank_of_mem_decimal {n : Nat} {c : Char} (h : c ∈ decimal n) : isBlank c = false := by
  rw [← padded_zero (decimal n)] at h
  exact isBlank_of_mem_padded (by decide) (by decide) h

theorem decimal?_decimal {n bound : Nat} (h : n < bound) : decimal? bound (decimal n) = some n := by
  have hread := read?_padded (show 1 < 10 by decide) (by decide) h 0
  rwa [padded_zero] at hread

theorem isDigits_padded (places n : Nat) : isDigits (padded places (decimal n)) = true := by
  have hall : ∀ c ∈ padded places (decimal n), c.isDigit = true := by
    intro c hc
    obtain ⟨d, hd, rfl⟩ := mem_padded (by decide) hc
    rw [Nat.isDigit_digitChar, decide_eq_true hd]
  have hne : padded places (decimal n) ≠ [] := padded_ne_nil places n
  simp [isDigits, hne, List.all_eq_true.2 hall]

end Debuggee.Text.Numeral
