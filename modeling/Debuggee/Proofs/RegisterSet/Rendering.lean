import Debuggee.Proofs.RegisterSet.Fields
import Debuggee.Proofs.Text.Case
import Debuggee.Proofs.Text.Numeral

namespace Debuggee

open Text

namespace Flag

/-- The name can be written in either case, and where the case shows the bit it does. -/
structure IsLegible (f : Flag) : Prop where
  ascii : ∀ c ∈ f.name.toList, c.toNat < 128
  letter : f.width ≤ 1 → ∃ c ∈ f.name.toList, c.isAlpha = true

-- by `List.all` and `List.any`: to decide the same of each character would walk all there are
instance (f : Flag) : Decidable f.IsLegible :=
  decidable_of_iff (f.name.toList.all (·.toNat < 128) = true ∧
      (f.width ≤ 1 → f.name.toList.any Char.isAlpha = true)) <| by
    rw [List.all_eq_true, List.any_eq_true]
    exact ⟨fun h => ⟨fun c hc => of_decide_eq_true (h.1 c hc), h.2⟩,
      fun h => ⟨fun c hc => decide_eq_true (h.ascii c hc), h.letter⟩⟩

variable {f : Flag}

theorem toList_render_of_wide (h : 1 < f.width) (value : UInt64) :
    (f.render value).toList =
      f.name.toList ++ '=' :: Numeral.decimal (f.extract value).toNat := by
  rw [render, if_pos h]
  simp [toString, Numeral.decimal]

theorem toList_render_of_narrow (h : f.width ≤ 1) (value : UInt64) :
    (f.render value).toList =
      if f.extract value = 1 then upper f.name.toList else lower f.name.toList := by
  rw [render, if_neg (Nat.not_lt.2 h)]
  split <;> exact String.toList_ofList

theorem extract_of_narrow (h : f.width ≤ 1) (value : UInt64) :
    f.extract value = 0 ∨ f.extract value = 1 := by
  have hmask : f.mask.toNat ≤ 1 := by
    rw [toNat_mask, Nat.min_eq_left (Nat.le_trans h (by decide))]
    exact Nat.sub_le_sub_right (Nat.pow_le_pow_right (by decide) h) 1
  have hle : (f.extract value).toNat ≤ 1 := by
    rw [extract, UInt64.toNat_and]
    exact Nat.le_trans Nat.and_le_right hmask
  rw [← UInt64.toNat_inj, ← UInt64.toNat_inj]
  exact Nat.le_one_iff_eq_zero_or_eq_one.1 hle

theorem render_append_inj (hf : f.IsLegible) {v w : UInt64} {rest rest' : List Char}
    (hrest : ∀ c ∈ rest.head?, c = ' ') (hrest' : ∀ c ∈ rest'.head?, c = ' ')
    (h : (f.render v).toList ++ rest = (f.render w).toList ++ rest') :
    f.extract v = f.extract w ∧ rest = rest' := by
  rcases Nat.lt_or_ge 1 f.width with hwide | hnarrow
  · have hdigit {text : List Char} (htext : ∀ c ∈ text.head?, c = ' ') :
        ∀ c ∈ text.head?, c.isDigit = false := fun c hc => htext c hc ▸ rfl
    rw [toList_render_of_wide hwide, toList_render_of_wide hwide, List.append_assoc,
      List.append_assoc, List.append_cancel_left_eq] at h
    obtain ⟨hsame, hrests⟩ :=
      Numeral.decimal_append_inj (hdigit hrest) (hdigit hrest') (List.cons.inj h).2
    exact ⟨UInt64.toNat_inj.1 hsame, hrests⟩
  · have hlength (value : UInt64) : (f.render value).toList.length = f.name.toList.length := by
      rw [toList_render_of_narrow hnarrow, upper_ascii hf.ascii, lower_ascii hf.ascii]
      split <;> exact List.length_map _
    obtain ⟨hsame, hrests⟩ := List.append_inj h ((hlength v).trans (hlength w).symm)
    rw [toList_render_of_narrow hnarrow, toList_render_of_narrow hnarrow] at hsame
    have hcases := upper_ne_lower hf.ascii (hf.letter hnarrow)
    refine ⟨?_, hrests⟩
    rcases extract_of_narrow hnarrow v with hv | hv <;>
      rcases extract_of_narrow hnarrow w with hw | hw <;> rw [hv, hw] at hsame ⊢
    · exact absurd hsame.symm hcases
    · exact absurd hsame hcases

end Flag

namespace FlagLayout

variable {layout : FlagLayout}

theorem cons_intercalate (c : Char) {words : List (List Char)} (h : words ≠ []) :
    c :: [c].intercalate words = words.flatMap (c :: ·) := by
  induction words with
  | nil => exact absurd rfl h
  | cons word words ih =>
    cases words with
    | nil => simp
    | cons next words =>
      rw [List.intercalate_cons_cons, List.flatMap_cons, ← ih (List.cons_ne_nil next words)]
      simp

theorem cons_toList_render (h : layout ≠ []) (value : UInt64) :
    ' ' :: (layout.render value).toList =
      layout.flatMap fun f => ' ' :: (f.render value).toList := by
  have hwords : (layout.map fun f => (f.render value).toList) ≠ [] := mt List.map_eq_nil_iff.1 h
  rw [render, String.toList_intercalate, List.map_map]
  exact (cons_intercalate ' ' hwords).trans (List.flatMap_map _ _ layout)

theorem extract_eq_of_flatMap (h : ∀ f ∈ layout, f.IsLegible) {v w : UInt64}
    (hsame : layout.flatMap (fun f => ' ' :: (f.render v).toList) =
      layout.flatMap fun f => ' ' :: (f.render w).toList) :
    ∀ f ∈ layout, f.extract v = f.extract w := by
  induction layout with
  | nil => exact List.forall_mem_nil _
  | cons f layout ih =>
    obtain ⟨hf, hlayout⟩ := List.forall_mem_cons.1 h
    have hspace (value : UInt64) :
        ∀ c ∈ (layout.flatMap fun f => ' ' :: (f.render value).toList).head?, c = ' ' := by
      cases layout with
      | nil => exact nofun
      | cons g layout => simp
    rw [List.flatMap_cons, List.flatMap_cons, List.cons_append, List.cons_append] at hsame
    obtain ⟨hextract, hrest⟩ :=
      Flag.render_append_inj hf (hspace v) (hspace w) (List.cons.inj hsame).2
    exact List.forall_mem_cons.2 ⟨hextract, ih hlayout hrest⟩

/--
Where every name is ASCII, and has a letter if its case shows a bit, what is written of a value is
as good as its fields: two values are written alike if and only if they have the same.
-/
theorem render_eq_iff (h : ∀ f ∈ layout, f.IsLegible) (v w : UInt64) :
    layout.render v = layout.render w ↔ layout.decode v = layout.decode w := by
  rw [decode_eq_iff_extract]
  constructor
  · intro hsame
    rcases eq_or_ne layout [] with rfl | hne
    · exact List.forall_mem_nil _
    · refine extract_eq_of_flatMap h ?_
      rw [← cons_toList_render hne, ← cons_toList_render hne, hsame]
  · intro hsame
    rw [render, render]
    refine congrArg _ (List.map_inj_left.2 fun f hf => ?_)
    rw [Flag.render, Flag.render, hsame f hf]

theorem render_eq_iff_aarch64 :
    (∀ f ∈ aarch64, f.IsLegible) ∧ aarch64.decode 0x60000018 = aarch64.decode 0x60000008 ∧
      aarch64.render 0x60000008 ≠ aarch64.render 0x60000004 := by
  have h : ∀ f ∈ aarch64, f.IsLegible := by decide +kernel
  have hsame : aarch64.render 0x60000018 = aarch64.render 0x60000008 := by decide +kernel
  have hdiffer : aarch64.decode 0x60000008 ≠ aarch64.decode 0x60000004 := by decide
  exact ⟨h, (render_eq_iff h _ _).1 hsame, fun heq => hdiffer ((render_eq_iff h _ _).1 heq)⟩

end FlagLayout

end Debuggee
