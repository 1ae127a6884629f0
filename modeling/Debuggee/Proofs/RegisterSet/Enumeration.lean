import Debuggee.Proofs.Occurrences
import Debuggee.RegisterSet
import Mathlib.Tactic.Tauto

namespace Debuggee

def FlagLayout.IsFirst (layouts : List (String × FlagLayout)) (name : String)
    (layout : FlagLayout) : Prop :=
  ∃ before later, layouts = before ++ (name, layout) :: later ∧ name ∉ before.map (·.1)

namespace RegisterSet

variable {s : RegisterSet} {name : String} {layout : FlagLayout}

theorem nodup_common (s : RegisterSet) : s.common.Nodup := nodup_eraseDups _

theorem mem_common :
    name ∈ s.common ↔ name ∈ s.general ∨ s.frame = some name ∨ name = s.stack ∨ name = s.pc ∨
      name ∈ s.flagNames := by
  simp [common]

theorem mem_all :
    name ∈ s.all ↔ name = s.pc ∨ name = s.stack ∨ s.frame = some name ∨
      name ∈ s.returnAddresses ∨ name ∈ s.flagNames ∨ name ∈ s.general ∨ name ∈ s.misc := by
  simp [all]

theorem mem_members :
    name ∈ s.members ↔ name ∈ s.all ∨ name ∈ s.extraFlagNames ∨ name ∈ s.arguments ∨
      s.result = some name := by
  simp only [members, List.mem_eraseDups, List.mem_append, mem_common, mem_all, Option.mem_toList]
  tauto

theorem common_prefix_members (s : RegisterSet) : s.common <+: s.members := by
  simp only [members, List.append_assoc]
  rw [List.eraseDups_append, eraseDups_of_nodup s.nodup_common]
  exact List.prefix_append _ _

theorem contains_iff : s.contains name = true ↔ name ∈ s.members := List.contains_iff_mem

theorem count_all (s : RegisterSet) (name : String) :
    s.all.count name = [s.pc, s.stack].count name + s.frame.toList.count name +
      s.returnAddresses.count name + s.flagNames.count name + s.general.count name +
      s.misc.count name := by
  simp only [all, List.count_append]

theorem length_all (s : RegisterSet) :
    s.all.length = 2 + s.frame.toList.length + s.returnAddresses.length + s.flags.length +
      s.general.length + s.misc.length := by
  simp only [all, flagNames, List.length_append, List.length_map, List.length_cons, List.length_nil]

theorem lookup_eq_some_iff_isFirst {layouts : List (String × FlagLayout)} :
    layouts.lookup name = some layout ↔ FlagLayout.IsFirst layouts name layout := by
  rw [List.lookup_eq_some_iff]
  refine exists_congr fun before => exists_congr fun later => and_congr_right fun _ => ?_
  simp only [List.mem_map, not_exists, not_and, bne_iff_ne]
  exact forall₂_congr fun entry _ => ne_comm

theorem lookup_eq_none_iff_notMem {layouts : List (String × FlagLayout)} :
    layouts.lookup name = none ↔ name ∉ layouts.map (·.1) := by
  rw [← Option.not_isSome_iff_eq_none, List.lookup_isSome_iff, List.mem_map]
  exact not_congr (exists_congr fun entry => and_congr_right fun _ => beq_iff_eq.trans eq_comm)

theorem layout?_eq_some_iff :
    s.layout? name = some layout ↔ FlagLayout.IsFirst s.flags name layout ∨
      name ∉ s.flagNames ∧ FlagLayout.IsFirst s.extraFlags name layout := by
  rw [layout?, List.lookup_append, Option.or_eq_some_iff, lookup_eq_some_iff_isFirst,
    lookup_eq_some_iff_isFirst, lookup_eq_none_iff_notMem]
  rfl

theorem isSome_layout?_iff :
    (s.layout? name).isSome ↔ name ∈ s.flagNames ∨ name ∈ s.extraFlagNames := by
  rw [layout?, List.lookup_append, ← not_iff_not, Option.not_isSome_iff_eq_none,
    Option.or_eq_none_iff, lookup_eq_none_iff_notMem, lookup_eq_none_iff_notMem, not_or]
  rfl

/--
The common registers are the general ones, the frame, the stack, the program counter and the flag
registers, each once where it is first named. The members begin with them, repeat nothing either,
and are all that the set names. The enumeration of everything but the extra flags, the arguments and
the result keeps every repetition. Exactly the flag registers have a layout, which is the first of
the flags, or else the first of the extra flags, and each of them is a member.
-/
theorem enumerations_agree (s : RegisterSet) :
    (s.common.Nodup ∧
      FirstOccurrences (s.general ++ s.frame.toList ++ [s.stack, s.pc] ++ s.flagNames) s.common) ∧
    (s.members.Nodup ∧ s.common <+: s.members ∧
      (∀ name, name ∈ s.members ↔ name ∈ s.all ∨ name ∈ s.extraFlagNames ∨ name ∈ s.arguments ∨
        s.result = some name) ∧
      ∀ name, s.contains name = true ↔ name ∈ s.members) ∧
    ((∀ name, s.all.count name = [s.pc, s.stack].count name + s.frame.toList.count name +
        s.returnAddresses.count name + s.flagNames.count name + s.general.count name +
        s.misc.count name) ∧
      s.all.length = 2 + s.frame.toList.length + s.returnAddresses.length + s.flags.length +
        s.general.length + s.misc.length) ∧
    ∀ name, ((s.layout? name).isSome ↔ name ∈ s.flagNames ∨ name ∈ s.extraFlagNames) ∧
      (∀ layout, s.layout? name = some layout ↔ FlagLayout.IsFirst s.flags name layout ∨
        name ∉ s.flagNames ∧ FlagLayout.IsFirst s.extraFlags name layout) ∧
      ((s.layout? name).isSome → s.contains name = true) := by
  refine ⟨⟨s.nodup_common, firstOccurrences_eraseDups _⟩,
    ⟨nodup_eraseDups _, s.common_prefix_members, fun _ => mem_members, fun _ => contains_iff⟩,
    ⟨s.count_all, s.length_all⟩,
    fun name => ⟨isSome_layout?_iff, fun _ => layout?_eq_some_iff, fun h => ?_⟩⟩
  rw [contains_iff, mem_members, mem_all]
  rcases isSome_layout?_iff.1 h with hflag | hextra
  · exact .inl (.inr (.inr (.inr (.inr (.inl hflag)))))
  · exact .inr (.inl hextra)

end RegisterSet

end Debuggee
