import Debuggee.Text.Case

namespace Debuggee.Text

theorem mapCase_below (limit : Nat) {run : CaseRun} {runs : List CaseRun}
    {expansions : List (Nat × List Nat)} (hruns : runs.all (limit ≤ ·.1) = true)
    (hexpansions : expansions.all (limit ≤ ·.1) = true) {c : Char} (hc : c.toNat < limit) :
    mapCase (run :: runs) expansions c = mapCase [run] [] c := by
  have hnone : runs.findSome? (·.image? c.toNat) = none := by
    refine List.findSome?_eq_none_iff.2 fun r hr => if_neg fun hwithin => ?_
    have hle := of_decide_eq_true (List.all_eq_true.1 hruns r hr)
    exact Nat.not_lt.2 (Nat.le_trans hle hwithin.1) hc
  have hlookup : expansions.lookup c.toNat = none := by
    refine List.lookup_eq_none_iff.2 fun e he => bne_iff_ne.2 fun hsame => ?_
    have hle := of_decide_eq_true (List.all_eq_true.1 hexpansions e he)
    exact Nat.not_lt.2 hle (hsame ▸ hc)
  rw [mapCase, mapCase, List.findSome?_cons, List.findSome?_cons, hnone, hlookup]
  cases run.image? c.toNat <;> rfl

def capitalRun : CaseRun := (0x41, 0x5a, 1, 0x61)

def smallRun : CaseRun := (0x61, 0x7a, 1, 0x41)

theorem mapCase_ascii {c : Char} (h : c.toNat < 128) :
    upperChar c = [c.toUpper] ∧ lowerChar c = [c.toLower] := by
  have hall : ∀ n < 128, mapCase [smallRun] [] (.ofNat n) = [(Char.ofNat n).toUpper] ∧
      mapCase [capitalRun] [] (.ofNat n) = [(Char.ofNat n).toLower] := by
    decide +kernel
  have hupper : upperChar c = mapCase [smallRun] [] c :=
    mapCase_below 128 (by decide +kernel) (by decide +kernel) h
  have hlower : lowerChar c = mapCase [capitalRun] [] c :=
    mapCase_below 128 (by decide +kernel) (by decide +kernel) h
  have hc := hall c.toNat h
  rwa [Char.ofNat_toNat, ← hupper, ← hlower] at hc

theorem toUpper_ascii {c : Char} (h : c.toNat < 128) :
    c.toLower.toUpper = c.toUpper ∧ (c.isAlpha = true → c.toUpper ≠ c.toLower) := by
  have hall : ∀ n < 128, (Char.ofNat n).toLower.toUpper = (Char.ofNat n).toUpper ∧
      ((Char.ofNat n).isAlpha = true → (Char.ofNat n).toUpper ≠ (Char.ofNat n).toLower) := by
    decide +kernel
  have hc := hall c.toNat h
  rwa [Char.ofNat_toNat] at hc

theorem toNat_lt_of_toLower {c : Char} (h : c.toLower.toNat < 128) : c.toNat < 128 := by
  unfold Char.toLower at h
  split at h
  · next hcapital =>
    have hle : c.toNat ≤ 90 := hcapital.2
    omega
  · exact h

variable {cs : List Char}

theorem upper_ascii (h : ∀ c ∈ cs, c.toNat < 128) : upper cs = cs.map Char.toUpper := by
  induction cs with
  | nil => rfl
  | cons c cs ih =>
    obtain ⟨hc, hcs⟩ := List.forall_mem_cons.1 h
    rw [upper, List.flatMap_cons, (mapCase_ascii hc).1, ← upper, ih hcs]
    rfl

theorem lowerFrom_ascii (h : ∀ c ∈ cs, c.toNat < 128) (before : List Char) :
    lowerFrom before cs = cs.map Char.toLower := by
  induction cs generalizing before with
  | nil => rfl
  | cons c cs ih =>
    obtain ⟨hc, hcs⟩ := List.forall_mem_cons.1 h
    have hsigma : c ≠ 'Σ' := by
      rintro rfl
      exact absurd hc (by decide)
    rw [lowerFrom, if_neg hsigma, (mapCase_ascii hc).2, ih hcs]
    rfl

theorem lower_ascii (h : ∀ c ∈ cs, c.toNat < 128) : lower cs = cs.map Char.toLower :=
  lowerFrom_ascii h []

theorem upper_ne_lower (h : ∀ c ∈ cs, c.toNat < 128) (hletter : ∃ c ∈ cs, c.isAlpha = true) :
    upper cs ≠ lower cs := by
  obtain ⟨c, hc, halpha⟩ := hletter
  rw [upper_ascii h, lower_ascii h]
  intro hsame
  exact (toUpper_ascii (h c hc)).2 halpha (List.map_inj_left.1 hsame c hc)

theorem upper_of_toLower {small : List Char} (hsmall : small.all (·.toNat < 128) = true)
    (h : cs.map Char.toLower = small) : upper cs = small.map Char.toUpper := by
  subst h
  have hascii : ∀ c ∈ cs, c.toNat < 128 := fun c hc =>
    toNat_lt_of_toLower
      (of_decide_eq_true (List.all_eq_true.1 hsmall c.toLower (List.mem_map_of_mem hc)))
  rw [upper_ascii hascii, List.map_map]
  exact List.map_congr_left fun c hc => (toUpper_ascii (hascii c hc)).1.symm

end Debuggee.Text
