import Debuggee.Process
import Debuggee.Proofs.Text.Numeral
import Debuggee.Proofs.Text.Words

namespace Debuggee.PastCommand

open Text

/--
A line written for a command: its number and two spaces before it. One written for none begins with
another word than such a number, or ends with its first word.
-/
inductive IsLine : Option PastCommand → List Char → Prop
  | entry {c : PastCommand} {gap} : (∀ a ∈ gap, isBlank a = true) → c.index < UInt32.size →
      trim c.command.toList = c.command.toList →
      IsLine (some c) (gap ++ (Numeral.decimal c.index ++ ([' ', ' '] ++ c.command.toList)))
  | other {line} : (∀ n, Numeral.Signed 10 ((words line).headD []) n → UInt32.size ≤ n) →
      IsLine none line
  | lone {gap word} : (∀ a ∈ gap, isBlank a = true) → IsWord word → IsLine none (gap ++ word)

theorem parse?_of_trimStart {line first rest : List Char} (hline : trimStart line = first ++ rest)
    (hfirst : ∀ a ∈ first, isBlank a = false) (hrest : Parted rest) :
    parse? line = if rest.isEmpty then none else
      (Numeral.decimal? UInt32.size first).map fun index => ⟨index, String.ofList (trim rest)⟩ := by
  have hfirst : ∀ a ∈ first, (!isBlank a) = true := by simpa using hfirst
  have htake : (first ++ rest).takeWhile (!isBlank ·) = first := by
    rw [List.takeWhile_append_of_pos hfirst]
    cases rest with
    | nil => simp
    | cons c cs => simp [hrest c rfl]
  have hdrop : (first ++ rest).dropWhile (!isBlank ·) = rest := by
    rw [List.dropWhile_append_of_pos hfirst]
    cases rest with
    | nil => rfl
    | cons c cs => simp [hrest c rfl]
  simp only [parse?, hline, htake, hdrop]
  split
  · rfl
  · cases Numeral.decimal? UInt32.size first <;> rfl

theorem parse?_entry {c : PastCommand} {gap : List Char} (hgap : ∀ a ∈ gap, isBlank a = true)
    (hindex : c.index < UInt32.size) (hcommand : trim c.command.toList = c.command.toList) :
    parse? (gap ++ (Numeral.decimal c.index ++ ([' ', ' '] ++ c.command.toList))) = some c := by
  have hhead : ∀ a ∈ (Numeral.decimal c.index ++ ([' ', ' '] ++ c.command.toList)).head?,
      isBlank a = false := by
    intro a ha
    rw [List.head?_append_of_ne_nil _ (Numeral.decimal_ne_nil c.index)] at ha
    exact Numeral.isBlank_of_mem_decimal (List.mem_of_mem_head? ha)
  have hstart := (trimStart_append hgap _).trans (trimStart_eq_self hhead)
  have hspaces : ∀ a ∈ [' ', ' '], isBlank a = true := List.all_eq_true.1 (by decide)
  rw [parse?_of_trimStart hstart (fun _ => Numeral.isBlank_of_mem_decimal) (parted_cons rfl _),
    Numeral.decimal?_decimal hindex, trim_append hspaces, hcommand, String.ofList_toList]
  rfl

theorem parse?_other {line : List Char}
    (h : ∀ n, Numeral.Signed 10 ((words line).headD []) n → UInt32.size ≤ n) :
    parse? line = none := by
  have hfirst : Numeral.decimal? UInt32.size ((words line).headD []) = none := by
    refine Option.eq_none_iff_forall_ne_some.2 fun n hn => ?_
    obtain ⟨hsigned, hlt⟩ := (Numeral.read?_eq_some_iff (by decide)).1 hn
    exact Nat.not_le_of_lt hlt (h n hsigned)
  rw [headD_words] at hfirst
  simp [parse?, hfirst]

theorem parse?_lone {gap word : List Char} (hgap : ∀ a ∈ gap, isBlank a = true)
    (hword : IsWord word) : parse? (gap ++ word) = none := by
  have hstart : trimStart (gap ++ word) = word ++ [] := by
    rw [trimStart_append hgap, List.append_nil]
    exact trimStart_eq_self (Bare.of_forall hword.unbroken).head
  rw [parse?_of_trimStart hstart hword.unbroken parted_nil]
  rfl

theorem IsLine.parse?_eq {c? : Option PastCommand} {line : List Char} (h : IsLine c? line) :
    parse? line = c? := by
  cases h with
  | entry hgap hindex hcommand => exact parse?_entry hgap hindex hcommand
  | other h => exact parse?_other h
  | lone hgap hword => exact parse?_lone hgap hword

theorem IsLine.of_return {c? : Option PastCommand} {line : List Char}
    (h : IsLine c? (line ++ ['\r'])) : IsLine c? line := by
  generalize hline : line ++ ['\r'] = line' at h
  have hlast : line'.getLast? = some '\r' := by rw [← hline, List.getLast?_concat]
  cases h with
  | @entry c gap hgap hindex hcommand =>
    rw [← List.append_assoc, ← List.append_assoc] at hlast
    by_cases hempty : c.command.toList = []
    · rw [hempty, List.append_nil, List.getLast?_append_of_ne_nil _ (by simp)] at hlast
      cases hlast
    · rw [List.getLast?_append_of_ne_nil _ hempty] at hlast
      exact absurd ((trim_eq_self_iff.1 hcommand).last _ hlast) (by decide)
  | other h =>
    refine .other ?_
    rwa [← hline, words_append _ (parted_cons (by decide) []),
      show words ['\r'] = [] by decide, List.append_nil] at h
  | @lone gap word hgap hword =>
    rw [List.getLast?_append_of_ne_nil _ hword.ne_nil] at hlast
    have hreturn := hword.unbroken _ (List.mem_of_getLast? hlast)
    exact absurd hreturn (by decide)

theorem IsLine.exists_lines {c? : Option PastCommand} {line ending : List Char} (h : IsLine c? line)
    (hline : '\n' ∉ line) (hending : ending ∈ lineEnds) (text : List Char) :
    ∃ line', IsLine c? line' ∧ lines (line ++ (ending ++ text)) = line' :: lines text := by
  simp only [lineEnds, List.mem_cons, List.not_mem_nil, or_false] at hending
  rcases hending with rfl | rfl
  · by_cases hlast : line.getLast? = some '\r'
    · obtain ⟨line', rfl⟩ := List.getLast?_eq_some_iff.1 hlast
      refine ⟨line', h.of_return, ?_⟩
      rw [List.append_assoc]
      exact lines_append_return (mt (List.mem_append_left _) hline) text
    · exact ⟨line, h, lines_append_feed hline hlast text⟩
  · exact ⟨line, h, lines_append_return hline text⟩

inductive Lists : List PastCommand → List Char → Prop
  | last {c? line} : IsLine c? line → '\n' ∉ line → Lists c?.toList line
  | line {c? line ending cs text} : IsLine c? line → '\n' ∉ line → ending ∈ lineEnds →
      Lists cs text → Lists (c?.toList ++ cs) (line ++ (ending ++ text))

/-- A list gives back the commands it was written for. -/
theorem parseAll_of_lists {cs : List PastCommand} {text : List Char} (h : Lists cs text) :
    parseAll (String.ofList text) = cs := by
  rw [parseAll, String.toList_ofList]
  induction h with
  | @last c? line hwritten hline =>
    cases line with
    | nil => rw [← hwritten.parse?_eq]; rfl
    | cons a line =>
      rw [lines_eq_singleton (List.cons_ne_nil a line) hline, List.filterMap_cons,
        hwritten.parse?_eq]
      cases c? <;> rfl
  | @line c? line ending cs text hwritten hline hending _ ih =>
    obtain ⟨line', hwritten', hlines⟩ := hwritten.exists_lines hline hending text
    rw [hlines, List.filterMap_cons, hwritten'.parse?_eq, ih]
    cases c? <;> rfl

theorem parseAll_of_lists_session :
    parseAll "    1  break main\n-1  run\r\n\t12  \n    7\n    10  x/4gx  $rsp" =
      [⟨1, "break main"⟩, ⟨12, ""⟩, ⟨10, "x/4gx  $rsp"⟩] := by
  have hgap : ∀ a ∈ "    ".toList, isBlank a = true := List.all_eq_true.1 (by decide +kernel)
  have hbreak := IsLine.entry (c := ⟨1, "break main"⟩) hgap (show 1 < UInt32.size by decide)
    (by decide +kernel)
  have hnegative : IsLine none "-1  run".toList := by
    refine .other fun n hn => ?_
    rw [show (words "-1  run".toList).headD [] = ['-', '1'] by decide +kernel] at hn
    cases hn with
    | bare h =>
      obtain ⟨-, _, hstands, -⟩ := h
      cases hstands with
      | cons hminus _ => simp [← Numeral.digit?_eq_some_iff, Numeral.digit?] at hminus
  have htab : ∀ a ∈ ['\t'], isBlank a = true := List.forall_mem_singleton.2 (by decide)
  have hempty := IsLine.entry (c := ⟨12, ""⟩) htab (show 12 < UInt32.size by decide)
    (by decide +kernel)
  have hlone : IsLine none ("    ".toList ++ ['7']) :=
    .lone hgap ⟨List.cons_ne_nil '7' [], List.forall_mem_singleton.2 (by decide)⟩
  have hprint := IsLine.entry (c := ⟨10, "x/4gx  $rsp"⟩) hgap (show 10 < UInt32.size by decide)
    (by decide +kernel)
  have hlists := Lists.line hbreak (by decide +kernel) (.head _) <|
    .line hnegative (by decide +kernel) (.tail _ (.head _)) <|
    .line hempty (by decide +kernel) (.head _) <| .line hlone (by decide +kernel) (.head _) <|
    .last hprint (by decide +kernel)
  refine .trans (congrArg parseAll ?_) (parseAll_of_lists hlists)
  decide +kernel

end Debuggee.PastCommand
