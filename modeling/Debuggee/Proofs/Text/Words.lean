import Debuggee.Proofs.Text.Blank

namespace Debuggee.Text

structure IsWord (word : List Char) : Prop where
  ne_nil : word ≠ []
  unbroken : ∀ c ∈ word, isBlank c = false

def Parted (text : List Char) : Prop := ∀ c ∈ text.head?, isBlank c = true

/-- These words stand in the text, with blanks between them and wherever else. -/
inductive Laid : List (List Char) → List Char → Prop
  | blank {gap} : (∀ c ∈ gap, isBlank c = true) → Laid [] gap
  | word {gap word words text} : (∀ c ∈ gap, isBlank c = true) → IsWord word → Parted text →
      Laid words text → Laid (word :: words) (gap ++ word ++ text)

theorem parted_nil : Parted [] := by simp [Parted]

theorem parted_cons {c : Char} (h : isBlank c = true) (cs : List Char) : Parted (c :: cs) := by
  simpa [Parted] using h

theorem words_ne_nil {c : Char} (h : isBlank c = false) (cs : List Char) :
    words (c :: cs) ≠ [] := by
  cases cs with
  | nil => simp [words, h]
  | cons d cs =>
    simp only [words, h, Bool.false_eq_true, if_false]
    split <;> exact List.cons_ne_nil _ _

theorem words_cons_of_parted {c : Char} (h : isBlank c = false) {cs : List Char} (hcs : Parted cs) :
    words (c :: cs) = [c] :: words cs := by
  cases cs with
  | nil => simp [words, h]
  | cons d cs =>
    have hd : isBlank d = true := hcs d rfl
    simp [words, h, hd]

theorem words_cons_cons {c d : Char} (hc : isBlank c = false) (hd : isBlank d = false)
    (cs : List Char) :
    words (c :: d :: cs) = (c :: (words (d :: cs)).headD []) :: (words (d :: cs)).tail := by
  rw [words]
  simp only [hc, hd, Bool.false_eq_true, if_false]

theorem words_append (a : List Char) {b : List Char} (hb : Parted b) :
    words (a ++ b) = words a ++ words b := by
  induction a with
  | nil => rfl
  | cons c a ih =>
    rw [List.cons_append]
    cases hc : isBlank c with
    | true => rw [words_cons_of_isBlank hc, words_cons_of_isBlank hc, ih]
    | false =>
      cases a with
      | nil =>
        rw [List.nil_append, words_cons_of_parted hc hb, words_cons_of_parted hc parted_nil]
        rfl
      | cons d a =>
        cases hd : isBlank d with
        | true =>
          rw [List.cons_append, words_cons_of_parted hc (parted_cons hd _),
            words_cons_of_parted hc (parted_cons hd _), List.cons_append, ← ih]
          rfl
        | false =>
          obtain ⟨w, ws, hw⟩ := List.exists_cons_of_ne_nil (words_ne_nil hd a)
          rw [List.cons_append] at ih ⊢
          rw [words_cons_cons hc hd, words_cons_cons hc hd, ih, hw]
          rfl

theorem words_append_of_forall {gap : List Char} (h : ∀ c ∈ gap, isBlank c = true)
    (text : List Char) : words (gap ++ text) = words text := by
  induction gap with
  | nil => rfl
  | cons c gap ih =>
    obtain ⟨hc, hgap⟩ := List.forall_mem_cons.1 h
    rw [List.cons_append, words_cons_of_isBlank hc, ih hgap]

theorem words_of_forall {gap : List Char} (h : ∀ c ∈ gap, isBlank c = true) : words gap = [] := by
  simpa [words] using words_append_of_forall h []

theorem IsWord.words_eq {word : List Char} (h : IsWord word) : words word = [word] := by
  obtain ⟨hne, hword⟩ := h
  induction word with
  | nil => exact absurd rfl hne
  | cons c word ih =>
    obtain ⟨hc, hword⟩ := List.forall_mem_cons.1 hword
    cases word with
    | nil => exact words_cons_of_parted hc parted_nil
    | cons d word =>
      rw [words_cons_cons hc (hword d (.head _)), ih (List.cons_ne_nil d word) hword]
      rfl

theorem Laid.words_eq {ws : List (List Char)} {text : List Char} (h : Laid ws text) :
    words text = ws := by
  induction h with
  | blank hgap => exact words_of_forall hgap
  | word hgap hword ht _ ih =>
    rw [words_append _ ht, words_append_of_forall hgap, hword.words_eq, ih]
    rfl

theorem Laid.first {word : List Char} (hword : IsWord word) {ws : List (List Char)}
    {text : List Char} (ht : Parted text) (h : Laid ws text) :
    Laid (word :: ws) (word ++ text) := by
  have hgap : ∀ c ∈ ([] : List Char), isBlank c = true := nofun
  exact .word hgap hword ht h

theorem Laid.cons_blank {c : Char} (hc : isBlank c = true) {ws : List (List Char)}
    {text : List Char} (h : Laid ws text) : Laid ws (c :: text) := by
  cases h with
  | blank hgap => exact .blank (List.forall_mem_cons.2 ⟨hc, hgap⟩)
  | word hgap hword ht hws => exact .word (List.forall_mem_cons.2 ⟨hc, hgap⟩) hword ht hws

theorem Laid.cons_word {c d : Char} (hc : isBlank c = false) (hd : isBlank d = false)
    {word : List Char} {ws : List (List Char)} {text : List Char}
    (h : Laid (word :: ws) (d :: text)) : Laid ((c :: word) :: ws) (c :: d :: text) := by
  generalize htext : d :: text = whole at h
  cases h with
  | @word gap _ _ rest hgap hword ht hws =>
    cases gap with
    | nil =>
      have hword' : IsWord (c :: word) :=
        ⟨List.cons_ne_nil c word, List.forall_mem_cons.2 ⟨hc, hword.unbroken⟩⟩
      exact .first hword' ht hws
    | cons e gap =>
      obtain rfl : d = e := (List.cons.inj htext).1
      exact absurd (hgap d (.head gap)) (by simp [hd])

theorem laid_words (text : List Char) : Laid (words text) text := by
  induction text with
  | nil => exact .blank nofun
  | cons c text ih =>
    cases hc : isBlank c with
    | true => rw [words_cons_of_isBlank hc]; exact ih.cons_blank hc
    | false =>
      have hone : IsWord [c] := ⟨List.cons_ne_nil c [], by simpa using hc⟩
      cases text with
      | nil => rw [words_cons_of_parted hc parted_nil]; exact .first hone parted_nil ih
      | cons d text =>
        cases hd : isBlank d with
        | true =>
          have hd := parted_cons hd text
          rw [words_cons_of_parted hc hd]
          exact .first hone hd ih
        | false =>
          obtain ⟨w, ws, hw⟩ := List.exists_cons_of_ne_nil (words_ne_nil hd text)
          rw [words_cons_cons hc hd, hw]
          rw [hw] at ih
          exact ih.cons_word hc hd

theorem laid_iff {ws : List (List Char)} {text : List Char} : Laid ws text ↔ words text = ws :=
  ⟨Laid.words_eq, fun h => h ▸ laid_words text⟩

theorem headD_words (text : List Char) :
    (words text).headD [] = (trimStart text).takeWhile (!isBlank ·) := by
  induction text with
  | nil => rfl
  | cons c text ih =>
    cases hc : isBlank c with
    | true => rw [words_cons_of_isBlank hc, trimStart, List.dropWhile_cons_of_pos hc, ih, trimStart]
    | false =>
      have hstart {c : Char} (hc : isBlank c = false) (cs : List Char) :
          trimStart (c :: cs) = c :: cs := trimStart_eq_self (by simp [hc])
      rw [hstart hc, List.takeWhile_cons_of_pos (by simp [hc])]
      cases text with
      | nil => rw [words_cons_of_parted hc parted_nil]; rfl
      | cons d text =>
        cases hd : isBlank d with
        | true =>
          rw [words_cons_of_parted hc (parted_cons hd text),
            List.takeWhile_cons_of_neg (by simp [hd])]
          rfl
        | false => rw [words_cons_cons hc hd, List.headD_cons, ih, hstart hd]

def putFirst (text : List Char) (lines : List (List Char)) : List (List Char) :=
  (text ++ lines.headD []) :: lines.tail

theorem putFirst_putFirst (text text' : List Char) (ls : List (List Char)) :
    putFirst text (putFirst text' ls) = putFirst (text ++ text') ls :=
  congrArg (· :: ls.tail) (List.append_assoc ..).symm

theorem splitOn_cons_of_ne {c : Char} (h : c ≠ '\n') (cs : List Char) :
    (c :: cs).splitOn '\n' = putFirst [c] (cs.splitOn '\n') := by
  obtain ⟨l, ls, hls⟩ := List.exists_cons_of_ne_nil (List.splitOn_ne_nil '\n' cs)
  rw [List.splitOn_cons_eq_if_modifyHead, if_neg (by simpa using h), hls]
  rfl

theorem filterMap_putFirst_nil {α : Type} {f : List Char → Option α} (h : f [] = none)
    (ls : List (List Char)) : (putFirst [] ls).filterMap f = ls.filterMap f := by
  cases ls with
  | nil => simp [putFirst, h]
  | cons l ls => rfl

theorem filterMap_lines {α : Type} {f : List Char → Option α} (hnil : f [] = none)
    (hreturn : ∀ line, f (line ++ ['\r']) = f line) (text : List Char) :
    (lines text).filterMap f = (text.splitOn '\n').filterMap f := by
  have hfirst (before : List Char) : (putFirst before (lines text)).filterMap f =
      (putFirst before (text.splitOn '\n')).filterMap f := by
    fun_induction lines text generalizing before with
    | case1 => rfl
    | case2 cs ih =>
      have hrest := ih []
      rw [filterMap_putFirst_nil hnil, filterMap_putFirst_nil hnil] at hrest
      have hsplit : ('\r' :: '\n' :: cs).splitOn '\n' = ['\r'] :: cs.splitOn '\n' :=
        List.splitOn_append_cons_self ['\r'] cs
      simp [hsplit, putFirst, List.filterMap_cons, hreturn, hrest]
    | case3 cs ih =>
      have hrest := ih []
      rw [filterMap_putFirst_nil hnil, filterMap_putFirst_nil hnil] at hrest
      have hsplit : ('\n' :: cs).splitOn '\n' = [] :: cs.splitOn '\n' :=
        List.splitOn_append_cons_self [] cs
      simp [hsplit, putFirst, List.filterMap_cons, hrest]
    | case4 c cs _ hc hl ih =>
      rw [splitOn_cons_of_ne hc, putFirst_putFirst, ← ih, hl, ← putFirst_putFirst]
      rfl
    | case5 c cs _ hc l ls hl ih =>
      rw [splitOn_cons_of_ne hc, putFirst_putFirst, ← ih, hl, ← putFirst_putFirst]
      rfl
  have h := hfirst []
  rwa [filterMap_putFirst_nil hnil, filterMap_putFirst_nil hnil] at h

theorem lines_ne_nil {text : List Char} (h : text ≠ []) : lines text ≠ [] := by
  fun_cases lines text <;> simp_all

theorem lines_cons {c : Char} {cs : List Char} (h : c ≠ '\n')
    (h' : c = '\r' → cs.head? ≠ some '\n') : lines (c :: cs) = putFirst [c] (lines cs) := by
  rw [lines]
  · cases lines cs <;> rfl
  · rintro cs rfl rfl
    exact h' rfl rfl
  · exact h

theorem lines_append {line rest : List Char} (hne : line ++ rest ≠ []) (h : '\n' ∉ line)
    (hlast : line.getLast? = some '\r' → rest.head? ≠ some '\n') :
    lines (line ++ rest) = putFirst line (lines rest) := by
  induction line with
  | nil =>
    obtain ⟨l, ls, hls⟩ := List.exists_cons_of_ne_nil (lines_ne_nil hne)
    rw [List.nil_append] at hls ⊢
    rw [hls]
    rfl
  | cons c line ih =>
    obtain ⟨hc, hline⟩ := not_or.1 (List.mem_cons.not.1 h)
    cases line with
    | nil => exact lines_cons (Ne.symm hc) fun hreturn => hlast (by rw [hreturn]; rfl)
    | cons d line =>
      have hd : d ≠ '\n' := fun hd => hline (by simp [hd])
      have hrest := ih (List.cons_ne_nil d (line ++ rest)) hline (by simpa using hlast)
      rw [List.cons_append, lines_cons (Ne.symm hc) (by simp [hd]), hrest, putFirst_putFirst]
      rfl

theorem lines_eq_singleton {line : List Char} (hne : line ≠ []) (h : '\n' ∉ line) :
    lines line = [line] := by
  have hline := lines_append (show line ++ [] ≠ [] by simpa using hne) h (by simp)
  simpa [putFirst, lines] using hline

def lineEnds : List (List Char) := [['\n'], ['\r', '\n']]

theorem lines_append_return {line : List Char} (h : '\n' ∉ line) (text : List Char) :
    lines (line ++ '\r' :: '\n' :: text) = line :: lines text := by
  rw [lines_append (by simp) h (by simp)]
  simp [putFirst, lines]

theorem lines_append_feed {line : List Char} (h : '\n' ∉ line) (hlast : line.getLast? ≠ some '\r')
    (text : List Char) : lines (line ++ '\n' :: text) = line :: lines text := by
  rw [lines_append (by simp) h fun hreturn => absurd hreturn hlast]
  simp [putFirst]

end Debuggee.Text
