import Debuggee.Expression
import Debuggee.Proofs.Loop
import Mathlib.Data.List.SplitBy
import Mathlib.Data.List.TakeWhile

namespace Debuggee.Expression

open Text

def runs (text : List Char) : List (List Char) :=
  text.splitBy fun c d => isWordPart c == isWordPart d

def words (text : List Char) : List (List Char) := (runs text).filter (·.all isWordPart)

variable {b : Bool} {run rest text : List Char}

theorem eq_false_of_mem_head?_dropWhile {p : Char → Bool} {c : Char}
    (hc : c ∈ (text.dropWhile p).head?) : p c = false := by
  have hother := List.head?_dropWhile_not p text
  rwa [Option.mem_def.1 hc] at hother

theorem runs_append (hne : run ≠ []) (hrun : ∀ c ∈ run, isWordPart c = b)
    (hrest : ∀ c ∈ rest.head?, isWordPart c = !b) : runs (run ++ rest) = run :: runs rest := by
  have hchain : run.IsChain fun c d => (isWordPart c == isWordPart d) = true :=
    List.Pairwise.isChain <| List.pairwise_of_forall_mem_list fun c hc d hd => by
      rw [hrun c hc, hrun d hd, beq_self_eq_true]
  rw [runs, List.splitBy_append, List.splitBy_of_isChain hne hchain]
  · rfl
  · intro c hc d hd
    rw [hrun c (List.mem_of_getLast? hc), hrest d hd]
    cases b <;> rfl

theorem runs_induction {motive : List Char → Prop} (nil : motive [])
    (append : ∀ (b : Bool) (run rest : List Char), run ≠ [] → (∀ c ∈ run, isWordPart c = b) →
      (∀ c ∈ rest.head?, isWordPart c = !b) → motive rest → motive (run ++ rest))
    (text : List Char) : motive text := by
  induction h : text.length using Nat.strongRecOn generalizing text with
  | ind n ih =>
    cases text with
    | nil => exact nil
    | cons c cs =>
      have hsplit := List.takeWhile_append_dropWhile (p := (isWordPart · == isWordPart c)) (l := cs)
      have hlength := List.length_dropWhile_le (isWordPart · == isWordPart c) cs
      rw [← hsplit, ← List.cons_append]
      refine append (isWordPart c) _ _ (List.cons_ne_nil _ _) (fun d hd => ?_) (fun d hd => ?_)
        (ih _ ?_ _ rfl)
      · rcases List.mem_cons.1 hd with rfl | hd
        · rfl
        · exact beq_iff_eq.1 (List.mem_takeWhile_imp (p := (isWordPart · == isWordPart c)) hd)
      · exact Bool.eq_not.2 (beq_eq_false_iff_ne.1 (eq_false_of_mem_head?_dropWhile hd))
      · rw [List.length_cons] at h
        omega

theorem exists_gap (text : List Char) : ∃ gap rest, text = gap ++ rest ∧
    (∀ c ∈ gap, isWordPart c = false) ∧ ∀ c ∈ rest.head?, isWordPart c = true :=
  ⟨text.takeWhile (!isWordPart ·), text.dropWhile (!isWordPart ·),
    List.takeWhile_append_dropWhile.symm,
    fun _ hc => Bool.not_eq_true' _ ▸ List.mem_takeWhile_imp (p := (!isWordPart ·)) hc,
    fun _ hc => Bool.not_eq_false' _ ▸ eq_false_of_mem_head?_dropWhile hc⟩

theorem exists_word (text : List Char) : ∃ word rest, text = word ++ rest ∧
    (∀ c ∈ word, isWordPart c = true) ∧ ∀ c ∈ rest.head?, isWordPart c = false :=
  ⟨text.takeWhile isWordPart, text.dropWhile isWordPart, List.takeWhile_append_dropWhile.symm,
    fun _ hc => List.mem_takeWhile_imp hc, fun _ hc => eq_false_of_mem_head?_dropWhile hc⟩

theorem takeWhile_eq_nil (h : ∀ c ∈ text.head?, isWordPart c = false) :
    text.takeWhile isWordPart = [] := by
  cases text with
  | nil => rfl
  | cons c cs => exact List.takeWhile_cons_of_neg (h c rfl ▸ Bool.false_ne_true)

theorem dropWhile_eq_self (h : ∀ c ∈ text.head?, isWordPart c = false) :
    text.dropWhile isWordPart = text := by
  cases text with
  | nil => rfl
  | cons c cs => exact List.dropWhile_cons_of_neg (h c rfl ▸ Bool.false_ne_true)

theorem words_append_of_forall (hne : run ≠ []) (hrun : ∀ c ∈ run, isWordPart c = true)
    (hrest : ∀ c ∈ rest.head?, isWordPart c = false) : words (run ++ rest) = run :: words rest := by
  have hword : run.all isWordPart = true := List.all_eq_true.2 hrun
  rw [words, runs_append hne hrun hrest, List.filter_cons, if_pos hword, words]

theorem words_append_of_forall_not (hrun : ∀ c ∈ run, isWordPart c = false) (rest : List Char) :
    words (run ++ rest) = words rest := by
  have hbefore {gap later : List Char} (hgap : ∀ c ∈ gap, isWordPart c = false)
      (hlater : ∀ c ∈ later.head?, isWordPart c = true) : words (gap ++ later) = words later := by
    cases gap with
    | nil => rfl
    | cons c gap =>
      have hnone : ¬ (c :: gap).all isWordPart = true := by
        rw [List.all_cons, hgap c List.mem_cons_self]
        exact Bool.false_ne_true
      rw [words, runs_append (List.cons_ne_nil c gap) hgap hlater, List.filter_cons, if_neg hnone,
        words]
  obtain ⟨gap, later, rfl, hgap, hlater⟩ := exists_gap rest
  rw [← List.append_assoc, hbefore _ hlater, hbefore hgap hlater]
  intro c hc
  exact (List.mem_append.1 hc).elim (hrun c) (hgap c)

def dollar (names : List String) (before run : List Char) : List Char :=
  if run.all isWordPart ∧ isRegister names run ∧ before.getLast? ≠ some '$' then ['$'] else []

theorem getLast?_cons_eq_or (c : Char) (cs : List Char) :
    (c :: cs).getLast? = cs.getLast?.or (some c) := by
  rw [List.getLast?_cons]
  cases cs.getLast? <;> rfl

section

variable {isRegister : List Char → Bool} {before : Option Char}

theorem fixFrom_append (hrun : ∀ c ∈ run, isWordPart c = b)
    (hbefore : b = true → before.any isWordPart = true) (rest : List Char) :
    fixFrom isRegister before (run ++ rest) =
      run ++ fixFrom isRegister (run.getLast?.or before) rest := by
  induction run generalizing before with
  | nil => rfl
  | cons c run ih =>
    have hc : isWordPart c = b := hrun c List.mem_cons_self
    have hinside : (isWordPart c && !before.any isWordPart) = false := by
      rw [hc]
      cases b with
      | false => rfl
      | true => rw [hbefore rfl, Bool.not_true, Bool.and_false]
    have hlater : ∀ d ∈ run, isWordPart d = b := fun d hd => hrun d (List.mem_cons_of_mem c hd)
    rw [List.cons_append, fixFrom, hinside, getLast?_cons_eq_or, Option.or_assoc, Option.some_or]
    exact congrArg (c :: ·) (ih hlater fun hb => hc.trans hb)

theorem fixFrom_cons_append {c : Char} {cs : List Char} (hrun : ∀ d ∈ c :: cs, isWordPart d = true)
    (hbefore : before.any isWordPart = false) (hrest : ∀ d ∈ rest.head?, isWordPart d = false) :
    fixFrom isRegister before (c :: cs ++ rest) =
      (if before ≠ some '$' ∧ isRegister (c :: cs) then ['$'] else []) ++ (c :: cs) ++
        fixFrom isRegister (c :: cs).getLast? rest := by
  have hlater : ∀ d ∈ cs, isWordPart d = true := fun d hd => hrun d (List.mem_cons_of_mem c hd)
  have hword : (cs ++ rest).takeWhile isWordPart = cs := by
    rw [List.takeWhile_append_of_pos hlater, takeWhile_eq_nil hrest, List.append_nil]
  have hc : isWordPart c = true := hrun c List.mem_cons_self
  have hany : (some c).any isWordPart = true := hc
  have hinside : fixFrom isRegister (some c) (cs ++ rest) =
      cs ++ fixFrom isRegister (cs.getLast?.or (some c)) rest :=
    fixFrom_append hlater (fun _ => hany) rest
  rw [List.cons_append, fixFrom, hword, hinside, getLast?_cons_eq_or]
  simp only [hc, hbefore, Bool.not_false, Bool.true_and, Bool.and_eq_true, decide_eq_true_eq]
  split <;> rfl

end

variable {names : List String}

theorem fixFrom_run {before : List Char} (hne : run ≠ []) (hrun : ∀ c ∈ run, isWordPart c = b)
    (hbefore : b = true → ∀ c ∈ before.getLast?, isWordPart c = false)
    (hrest : ∀ c ∈ rest.head?, isWordPart c = !b) :
    fixFrom (isRegister names) before.getLast? (run ++ rest) =
      dollar names before run ++ run ++
        fixFrom (isRegister names) (before ++ run).getLast? rest := by
  obtain ⟨c, cs, rfl⟩ := List.exists_cons_of_ne_nil hne
  have hlast : (before ++ c :: cs).getLast? = (c :: cs).getLast? := by
    rw [List.getLast?_append, List.getLast?_cons, Option.some_or]
  cases b with
  | false =>
    have hnone : dollar names before (c :: cs) = [] := by
      rw [dollar, if_neg]
      rw [List.all_cons, hrun c List.mem_cons_self]
      exact fun h => Bool.false_ne_true h.1
    rw [fixFrom_append hrun nofun, hlast, hnone, List.getLast?_cons, Option.some_or,
      List.nil_append]
  | true =>
    have hoff : before.getLast?.any isWordPart = false := by
      cases hl : before.getLast? with
      | none => rfl
      | some d => exact hbefore rfl d hl
    have hall : (c :: cs).all isWordPart = true := List.all_eq_true.2 hrun
    rw [fixFrom_cons_append hrun hoff hrest, hlast, dollar]
    simp only [hall, true_and, and_comm]

def Parts (before text : List Char) : Prop :=
  ∀ c ∈ before.getLast?, ∀ d ∈ text.head?, isWordPart d = true → isWordPart c = false

theorem parts_nil (text : List Char) : Parts [] text := fun _ hc => nomatch hc

theorem Parts.before {before : List Char} (h : Parts before (run ++ rest)) (hne : run ≠ [])
    (hrun : ∀ c ∈ run, isWordPart c = b) :
    b = true → ∀ c ∈ before.getLast?, isWordPart c = false := by
  obtain ⟨d, ds, rfl⟩ := List.exists_cons_of_ne_nil hne
  exact fun hb c hc => h c hc d rfl ((hrun d List.mem_cons_self).trans hb)

theorem parts_rest {before : List Char} (hne : run ≠ []) (hrun : ∀ c ∈ run, isWordPart c = b)
    (hrest : ∀ c ∈ rest.head?, isWordPart c = !b) : Parts (before ++ run) rest := by
  obtain ⟨e, es, rfl⟩ := List.exists_cons_of_ne_nil hne
  intro c hc d hd hword
  rw [List.getLast?_append, List.getLast?_cons, Option.some_or] at hc
  rw [hrest d hd, Bool.not_eq_true'] at hword
  rw [← hword]
  exact hrun c (List.mem_of_getLast? (List.getLast?_cons ▸ hc))

theorem fixFrom_eq_flatten {before : List Char} (hbefore : Parts before text) :
    fixFrom (isRegister names) before.getLast? text = ((runs text).mapIdx fun i run =>
      dollar names (before ++ ((runs text).take i).flatten) run ++ run).flatten := by
  induction text using runs_induction generalizing before with
  | nil => rfl
  | append b run rest hne hrun hrest ih =>
    rw [fixFrom_run hne hrun (hbefore.before hne hrun) hrest, ih (parts_rest hne hrun hrest),
      runs_append hne hrun hrest, List.mapIdx_cons, List.flatten_cons, List.take_zero,
      List.flatten_nil, List.append_nil]
    simp only [List.take_succ_cons, List.flatten_cons, List.append_assoc]

theorem isWordPart_dollar : isWordPart '$' = false := by decide +kernel

section

variable {isRegister : List Char → Bool}

theorem head?_fixFrom (before : Option Char) (h : ∀ c ∈ text.head?, isWordPart c = false) :
    (fixFrom isRegister before text).head? = text.head? := by
  cases text with
  | nil => rfl
  | cons c cs =>
    rw [fixFrom, h c rfl]
    rfl

theorem takeWhile_fixFrom {c : Char} (hc : isWordPart c = true) (cs : List Char) :
    (fixFrom isRegister (some c) cs).takeWhile isWordPart = cs.takeWhile isWordPart := by
  induction cs generalizing c with
  | nil => rfl
  | cons d cs ih =>
    have hinside : (isWordPart d && !(some c).any isWordPart) = false := by
      rw [Option.any_some, hc, Bool.not_true, Bool.and_false]
    rw [fixFrom, hinside, Bool.false_and, Bool.false_and, if_neg Bool.false_ne_true,
      List.takeWhile_cons, List.takeWhile_cons]
    split
    · next hd => rw [ih hd]
    · rfl

theorem fixFrom_fixFrom (before : Option Char) (text : List Char) :
    fixFrom isRegister before (fixFrom isRegister before text) =
      fixFrom isRegister before text := by
  induction text generalizing before with
  | nil => rfl
  | cons c cs ih =>
    have hdollar (rest : List Char) : fixFrom isRegister before ('$' :: rest) =
        '$' :: fixFrom isRegister (some '$') rest := by
      rw [fixFrom, isWordPart_dollar]
      rfl
    have hsame : (isWordPart c && !before.any isWordPart && decide (before ≠ some '$') &&
          isRegister (c :: (fixFrom isRegister (some c) cs).takeWhile isWordPart)) =
        (isWordPart c && !before.any isWordPart && decide (before ≠ some '$') &&
          isRegister (c :: cs.takeWhile isWordPart)) := by
      cases hc : isWordPart c with
      | false => rfl
      | true => rw [takeWhile_fixFrom hc]
    rw [fixFrom]
    split
    · rw [hdollar, fixFrom, ih]
      simp
    · next hoff => rw [fixFrom, hsame, if_neg hoff, ih]

end

theorem words_fixFrom {before : List Char} (hbefore : Parts before text) :
    words (fixFrom (isRegister names) before.getLast? text) = words text := by
  induction text using runs_induction generalizing before with
  | nil => rfl
  | append b run rest hne hrun hrest ih =>
    have hdollar : ∀ c ∈ dollar names before run, isWordPart c = false := by
      intro c hc
      unfold dollar at hc
      split at hc
      · rw [List.mem_singleton.1 hc, isWordPart_dollar]
      · cases hc
    rw [fixFrom_run hne hrun (hbefore.before hne hrun) hrest, List.append_assoc,
      words_append_of_forall_not hdollar]
    cases b with
    | false =>
      rw [words_append_of_forall_not hrun, words_append_of_forall_not hrun,
        ih (parts_rest hne hrun hrest)]
    | true =>
      have hhead : (fixFrom (isRegister names) (before ++ run).getLast? rest).head? = rest.head? :=
        head?_fixFrom _ hrest
      rw [words_append_of_forall hne hrun hrest, words_append_of_forall hne hrun (hhead ▸ hrest),
        ih (parts_rest hne hrun hrest)]

/--
One round of a scan that has written some text and has some left. What stands before the next word
is copied, and then the word, after a dollar sign if it wants one; without a word the scan ends.
-/
def scan {σ : Type} (names : List String) :
    List Char × List Char → Action σ (List Char × List Char ⊕ List Char)
  | (written, text) =>
    let gap := text.takeWhile (!isWordPart ·)
    match text.dropWhile (!isWordPart ·) with
    | [] => pure (.inr (written ++ text))
    | c :: cs =>
      let word := (c :: cs).takeWhile isWordPart
      pure (.inl (written ++ gap ++ dollar names gap word ++ word, (c :: cs).dropWhile isWordPart))

section

variable {σ : Type} {gap word : List Char}

theorem scan_of_forall_not (hgap : ∀ c ∈ gap, isWordPart c = false) (written : List Char) (s : σ) :
    scan names (written, gap) s = (.ok (.inr (written ++ gap)), s) := by
  have hnone : gap.dropWhile (!isWordPart ·) = [] :=
    List.dropWhile_eq_nil_iff.2 fun c hc => by rw [hgap c hc, Bool.not_false]
  rw [scan, hnone]
  rfl

theorem scan_append (hgap : ∀ c ∈ gap, isWordPart c = false) (hne : word ≠ [])
    (hword : ∀ c ∈ word, isWordPart c = true) (hrest : ∀ c ∈ rest.head?, isWordPart c = false)
    (written : List Char) (s : σ) :
    scan names (written, gap ++ (word ++ rest)) s =
      (.ok (.inl (written ++ gap ++ dollar names gap word ++ word, rest)), s) := by
  obtain ⟨c, cs, rfl⟩ := List.exists_cons_of_ne_nil hne
  have hc : (!isWordPart c) = false := by rw [hword c List.mem_cons_self, Bool.not_true]
  have hbefore : ∀ d ∈ gap, (!isWordPart d) = true := fun d hd => by rw [hgap d hd, Bool.not_false]
  have hupto : (gap ++ c :: (cs ++ rest)).takeWhile (!isWordPart ·) = gap := by
    rw [List.takeWhile_append_of_pos hbefore, List.takeWhile_cons, hc, if_neg Bool.false_ne_true,
      List.append_nil]
  have hafter : (gap ++ c :: (cs ++ rest)).dropWhile (!isWordPart ·) = c :: (cs ++ rest) := by
    rw [List.dropWhile_append_of_pos hbefore, List.dropWhile_cons, hc, if_neg Bool.false_ne_true]
  have hword' : (c :: (cs ++ rest)).takeWhile isWordPart = c :: cs := by
    rw [← List.cons_append, List.takeWhile_append_of_pos hword, takeWhile_eq_nil hrest,
      List.append_nil]
  have hrest' : (c :: (cs ++ rest)).dropWhile isWordPart = rest := by
    rw [← List.cons_append, List.dropWhile_append_of_pos hword, dropWhile_eq_self hrest]
  rw [List.cons_append, scan, hafter, hupto]
  dsimp only
  rw [hword', hrest']
  rfl

theorem dollar_append {before : List Char} (word : List Char) (h : gap = [] → before = []) :
    dollar names (before ++ gap) word = dollar names gap word := by
  cases gap with
  | nil => rw [h rfl, List.append_nil]
  | cons c cs => rw [dollar, dollar, List.getLast?_append, List.getLast?_cons, Option.some_or]

theorem scan_ends (s : σ) (written : List Char) {before : List Char}
    (hbefore : before = [] ∨ ∀ c ∈ text.head?, isWordPart c = false) :
    Action.Ending.Loop (scan names) (written, text) s
      (.ok (written ++ fixFrom (isRegister names) before.getLast? text)) s := by
  induction h : text.length using Nat.strongRecOn generalizing text written before with
  | ind n ih =>
    obtain ⟨gap, tail, rfl, hgap, htail⟩ := exists_gap text
    rw [fixFrom_append hgap nofun, ← List.getLast?_append]
    obtain ⟨word, rest, rfl, hword, hrest⟩ := exists_word tail
    cases word with
    | nil =>
      -- what begins with no word is empty, so that the gap was all there is
      have hnone : rest = [] := by
        cases rest with
        | nil => rfl
        | cons c cs => cases (htail c rfl).symm.trans (hrest c rfl)
      rw [hnone, List.append_nil, List.append_nil, fixFrom, List.append_nil]
      exact .ended (scan_of_forall_not hgap written s)
    | cons c cs =>
      have hfirst : gap = [] → before = [] := by
        rintro rfl
        refine hbefore.resolve_right fun hnot => ?_
        cases (hword c List.mem_cons_self).symm.trans (hnot c rfl)
      have hoff : ∀ d ∈ (before ++ gap).getLast?, isWordPart d = false := by
        intro d hd
        cases gap with
        | nil =>
          rw [hfirst rfl] at hd
          cases hd
        | cons e es =>
          refine hgap d (List.mem_of_getLast? ?_)
          rw [← hd, List.getLast?_append, List.getLast?_cons, Option.some_or]
      have hne : c :: cs ≠ [] := List.cons_ne_nil c cs
      have hlength : rest.length < n := by
        rw [← h, List.length_append, List.length_append, List.length_cons]
        omega
      have hparts : before ++ gap ++ c :: cs = [] ∨ ∀ d ∈ rest.head?, isWordPart d = false :=
        .inr hrest
      have hnext := ih _ hlength (written ++ gap ++ dollar names gap (c :: cs) ++ c :: cs)
        hparts rfl
      rw [fixFrom_run hne hword (fun _ => hoff) hrest, dollar_append _ hfirst]
      refine .again (scan_append hgap hne hword hrest written s) ?_
      simpa only [List.append_assoc] using hnext

end

/--
An expression with its registers marked is the same runs of characters, each after the dollar sign
that it wants. A scan from word to word ends with that text. To mark its registers again changes
nothing, its words stay what they are, and where no word is a register all stays as it is.
-/
theorem toList_fix_eq_flatten (names : List String) (e : String) :
    (fix names e).toList = ((runs e.toList).mapIdx fun i run =>
      dollar names ((runs e.toList).take i).flatten run ++ run).flatten ∧
    (∀ {σ : Type} (s : σ), Action.Ending.Loop (scan names) ([], e.toList) s
      (.ok (fix names e).toList) s) ∧
    fix names (fix names e) = fix names e ∧
    words (fix names e).toList = words e.toList ∧
    ((∀ word ∈ words e.toList, isRegister names word = false) → fix names e = e) := by
  have htext (e : String) :
      (fix names e).toList = fixFrom (isRegister names) [].getLast? e.toList :=
    String.toList_ofList
  have hflat := (htext e).trans (fixFrom_eq_flatten (parts_nil _))
  simp only [List.nil_append] at hflat
  refine ⟨hflat, fun s => ?_, ?_, ?_, fun hnone => ?_⟩
  · rw [htext]
    exact scan_ends s [] (.inl rfl)
  · rw [← String.toList_inj, htext, htext, fixFrom_fixFrom]
  · rw [htext, words_fixFrom (parts_nil _)]
  · have hkept : ((runs e.toList).mapIdx fun i run =>
        dollar names ((runs e.toList).take i).flatten run ++ run) = runs e.toList := by
      refine List.ext_getElem List.length_mapIdx fun i hi hi' => ?_
      rw [List.getElem_mapIdx, dollar, if_neg, List.nil_append]
      rintro ⟨hword, hregister, -⟩
      have hmem := List.mem_filter (p := (·.all isWordPart)).2 ⟨List.getElem_mem hi', hword⟩
      exact Bool.false_ne_true ((hnone _ hmem).symm.trans hregister)
    rw [← String.toList_inj, hflat, hkept, runs, List.flatten_splitBy]

theorem toList_fix_eq_flatten_indexed :
    runs "$eax+maxeax*eax".toList =
        ["$", "eax", "+", "maxeax", "*", "eax"].map String.toList ∧
      fix ["eax", "ecx"] "$eax+maxeax*eax" = "$eax+maxeax*$eax" ∧
      fix ["eax", "ecx"] "maxeax-eax_2" = "maxeax-eax_2" := by
  have hruns : runs "$eax+maxeax*eax".toList =
      ["$", "eax", "+", "maxeax", "*", "eax"].map String.toList := by decide +kernel
  have hwords : ∀ word ∈ words "maxeax-eax_2".toList, isRegister ["eax", "ecx"] word = false := by
    decide +kernel
  obtain ⟨-, -, -, -, hkept⟩ := toList_fix_eq_flatten ["eax", "ecx"] "maxeax-eax_2"
  obtain ⟨hflat, -⟩ := toList_fix_eq_flatten ["eax", "ecx"] "$eax+maxeax*eax"
  refine ⟨hruns, String.toList_inj.1 (hflat.trans ?_), hkept hwords⟩
  rw [hruns]
  decide +kernel

end Debuggee.Expression
