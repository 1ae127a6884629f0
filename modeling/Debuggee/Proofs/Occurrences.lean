import Mathlib.Data.List.Basic
import Mathlib.Data.List.Induction

namespace Debuggee

variable {α : Type} [DecidableEq α]

/-- The elements of a list, each once, in the order in which they first occur. -/
structure FirstOccurrences (all once : List α) : Prop where
  mem_iff : ∀ a, a ∈ once ↔ a ∈ all
  increasing : once.Pairwise fun a b => all.idxOf a < all.idxOf b

namespace FirstOccurrences

variable {all once : List α}

theorem nil : FirstOccurrences ([] : List α) [] := ⟨fun _ => Iff.rfl, .nil⟩

theorem nodup (h : FirstOccurrences all once) : once.Nodup :=
  h.increasing.imp fun hlt heq => Nat.ne_of_lt hlt (congrArg all.idxOf heq)

theorem concat (h : FirstOccurrences all once) (a : α) :
    FirstOccurrences (all ++ [a]) (if a ∈ once then once else once ++ [a]) := by
  have hold : once.Pairwise fun b c => (all ++ [a]).idxOf b < (all ++ [a]).idxOf c := by
    refine h.increasing.imp_of_mem fun hb hc hlt => ?_
    rwa [List.idxOf_append_of_mem ((h.mem_iff _).1 hb),
      List.idxOf_append_of_mem ((h.mem_iff _).1 hc)]
  by_cases ha : a ∈ once
  · rw [if_pos ha]
    refine ⟨fun b => ?_, hold⟩
    rw [List.mem_append, List.mem_singleton, ← h.mem_iff]
    exact ⟨.inl, fun hb => hb.elim id fun heq => heq ▸ ha⟩
  · rw [if_neg ha]
    refine ⟨fun b => ?_, List.pairwise_append.2 ⟨hold, List.pairwise_singleton _ _, ?_⟩⟩
    · rw [List.mem_append, List.mem_append, h.mem_iff]
    · intro b hb c hc
      have hb := (h.mem_iff b).1 hb
      rw [List.mem_singleton.1 hc, List.idxOf_append_of_mem hb,
        List.idxOf_append_of_notMem (mt (h.mem_iff a).2 ha)]
      exact Nat.lt_of_lt_of_le (List.idxOf_lt_length_of_mem hb) (Nat.le_add_right ..)

end FirstOccurrences

theorem eraseDups_concat (all : List α) (a : α) :
    (all ++ [a]).eraseDups = if a ∈ all.eraseDups then all.eraseDups else all.eraseDups ++ [a] := by
  rw [List.eraseDups_append]
  by_cases ha : a ∈ all <;> simp [List.removeAll, List.eraseDups_cons, ha]

theorem firstOccurrences_eraseDups (all : List α) : FirstOccurrences all all.eraseDups := by
  induction all using List.reverseRecOn with
  | nil => exact .nil
  | append_singleton all a ih =>
    rw [eraseDups_concat]
    exact ih.concat a

theorem nodup_eraseDups (all : List α) : all.eraseDups.Nodup :=
  (firstOccurrences_eraseDups all).nodup

theorem eraseDups_of_nodup {all : List α} (h : all.Nodup) : all.eraseDups = all := by
  induction all using List.reverseRecOn with
  | nil => rfl
  | append_singleton all a ih =>
    obtain ⟨hall, -, hdisjoint⟩ := List.nodup_append.1 h
    have ha : a ∉ all := fun ha => hdisjoint a ha a (List.mem_singleton_self a) rfl
    rw [eraseDups_concat, ih hall, if_neg ha]

end Debuggee
