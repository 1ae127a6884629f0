namespace Debuggee.Text

abbrev Ranges := List (Nat × Nat)

def Ranges.holds (ranges : Ranges) (c : Char) : Bool :=
  ranges.any fun (first, last) => first ≤ c.toNat && c.toNat ≤ last

@[simp] theorem Ranges.holds_iff {ranges : Ranges} {c : Char} :
    ranges.holds c = true ↔ ∃ r ∈ ranges, r.1 ≤ c.toNat ∧ c.toNat ≤ r.2 := by
  simp [Ranges.holds]

end Debuggee.Text
