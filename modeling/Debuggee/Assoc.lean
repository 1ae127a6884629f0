namespace Debuggee.Assoc

variable {κ α : Type} [DecidableEq κ]

def store (k : κ) (v : α) : List (κ × α) → List (κ × α)
  | [] => [(k, v)]
  | entry :: rest => if entry.1 = k then (k, v) :: rest else entry :: store k v rest

theorem lookup_cons_eq_ite (k : κ) (entry : κ × α) (rest : List (κ × α)) :
    (entry :: rest).lookup k = if k = entry.1 then some entry.2 else rest.lookup k := by
  rw [List.lookup_cons]
  by_cases h : k = entry.1
  · rw [beq_iff_eq.2 h, if_pos h]
  · rw [beq_false_of_ne h, if_neg h]

theorem lookup_store (k k' : κ) (v : α) (entries : List (κ × α)) :
    (store k v entries).lookup k' = if k' = k then some v else entries.lookup k' := by
  induction entries with
  | nil => rw [store, lookup_cons_eq_ite]
  | cons entry rest ih =>
    rw [store]
    split <;> simp only [lookup_cons_eq_ite, ih] <;> grind

theorem map_fst_store (k : κ) (v : α) (entries : List (κ × α)) :
    (store k v entries).map (·.1) =
      if k ∈ entries.map (·.1) then entries.map (·.1) else entries.map (·.1) ++ [k] := by
  induction entries with
  | nil => simp [store]
  | cons entry rest ih =>
    by_cases h : entry.1 = k
    · simp [store, h]
    · simp only [store, if_neg h, List.map_cons, ih, List.mem_cons, Ne.symm h, false_or]
      split <;> simp

end Debuggee.Assoc
