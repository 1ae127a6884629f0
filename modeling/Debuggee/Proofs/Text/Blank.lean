import Debuggee.Text.Blank
import Mathlib.Data.List.DropRight
import Mathlib.Data.List.TakeWhile

namespace Debuggee.Text

structure Bare (text : List Char) : Prop where
  head : ∀ c ∈ text.head?, isBlank c = false
  last : ∀ c ∈ text.getLast?, isBlank c = false

theorem Bare.of_forall {text : List Char} (h : ∀ c ∈ text, isBlank c = false) : Bare text where
  head c hc := h c (List.mem_of_mem_head? hc)
  last c hc := h c (List.mem_of_mem_getLast? hc)

theorem trimStart_append {gap : List Char} (h : ∀ c ∈ gap, isBlank c = true) (text : List Char) :
    trimStart (gap ++ text) = trimStart text :=
  List.dropWhile_append_of_pos h

theorem trimStart_eq_self {text : List Char} (h : ∀ c ∈ text.head?, isBlank c = false) :
    trimStart text = text := by
  cases text with
  | nil => rfl
  | cons c cs => exact List.dropWhile_cons_of_neg (by simp [h c rfl])

theorem trimEnd_append {gap : List Char} (h : ∀ c ∈ gap, isBlank c = true) (text : List Char) :
    trimEnd (text ++ gap) = trimEnd text := by
  have hgap : ∀ c ∈ gap.reverse, isBlank c = true := fun c hc => h c (List.mem_reverse.1 hc)
  rw [trimEnd, trimEnd, List.reverse_append, List.dropWhile_append_of_pos hgap]

theorem trimEnd_eq_self {text : List Char} (h : ∀ c ∈ text.getLast?, isBlank c = false) :
    trimEnd text = text :=
  List.rdropWhile_eq_self_iff.2 fun hne =>
    Bool.eq_false_iff.1 (h _ (List.getLast?_eq_getLast_of_ne_nil hne))

theorem trim_append {gap : List Char} (h : ∀ c ∈ gap, isBlank c = true) (text : List Char) :
    trim (gap ++ text) = trim text :=
  congrArg trimEnd (trimStart_append h text)

theorem bare_trim (text : List Char) : Bare (trim text) where
  head c hc := by
    obtain ⟨gap, hgap⟩ := List.rdropWhile_prefix isBlank (trimStart text)
    have hstart : (trimStart text).head? = some c := by
      rw [← hgap, List.head?_append, show (List.rdropWhile isBlank _).head? = some c from hc]
      rfl
    have hnot := List.head?_dropWhile_not isBlank text
    rwa [show (text.dropWhile isBlank).head? = some c from hstart] at hnot
  last c hc := by
    obtain ⟨hne, rfl⟩ := List.mem_getLast?_eq_getLast hc
    exact Bool.eq_false_iff.2 (List.rdropWhile_last_not isBlank (trimStart text) hne)

theorem trim_eq_iff {text core : List Char} :
    trim text = core ↔ Bare core ∧ ∃ before after, (∀ c ∈ before, isBlank c = true) ∧
      (∀ c ∈ after, isBlank c = true) ∧ text = before ++ (core ++ after) := by
  constructor
  · rintro rfl
    refine ⟨bare_trim text, text.takeWhile isBlank, (trimStart text).rtakeWhile isBlank,
      fun c hc => List.mem_takeWhile_imp hc, fun c hc => List.mem_rtakeWhile_imp hc, ?_⟩
    calc text
      _ = text.takeWhile isBlank ++ trimStart text := List.takeWhile_append_dropWhile.symm
      _ = _ := congrArg _ (List.rdropWhile_append_rtakeWhile ..).symm
  · rintro ⟨hcore, before, after, hbefore, hafter, rfl⟩
    rw [trim_append hbefore, trim]
    cases core with
    | nil => rw [List.nil_append, ← List.append_nil after, trimStart_append hafter]; rfl
    | cons c cs =>
      have hstart : trimStart (c :: cs ++ after) = c :: cs ++ after :=
        trimStart_eq_self fun d hd => hcore.head d hd
      rw [hstart, trimEnd_append hafter, trimEnd_eq_self hcore.last]

theorem trim_eq_self_iff {text : List Char} : trim text = text ↔ Bare text := by
  refine ⟨fun h => h ▸ bare_trim text, fun h => trim_eq_iff.2 ⟨h, [], [], nofun, nofun, ?_⟩⟩
  rw [List.nil_append, List.append_nil]

end Debuggee.Text
