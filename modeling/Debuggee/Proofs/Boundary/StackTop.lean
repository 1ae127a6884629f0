import Debuggee.Proofs.Boundary.Reach
import Mathlib.Data.Set.Basic
import Mathlib.Order.Bounds.Defs

namespace Debuggee

variable {σ ν τ : Type}

namespace Boundary

variable {E : Engine σ ν τ} {s s' t t' : σ} {a b p p' : Address}

def lastPage : Address := 0xfffffffffffff000

theorem eq_or_le_of_add? {q : Address} (ha : a.page = a) (h : a.add? Address.pageSize = some b)
    (hq : q.page = q) (hle : a ≤ q) : q = a ∨ b ≤ q := by
  have hb := Address.toNat_of_add? h
  rw [Address.page_eq_self_iff] at ha hq
  rw [UInt64.le_iff_toNat_le] at hle
  rw [← UInt64.toNat_inj, UInt64.le_iff_toNat_le, hb]
  unfold Address.pageSize at *
  omega

theorem le_lastPage (ha : a.page = a) : a ≤ lastPage := by
  have hlt : a.toNat < 18446744073709551616 := a.toNat_lt
  rw [Address.page_eq_self_iff] at ha
  rw [UInt64.le_iff_toNat_le]
  show a.toNat ≤ 0xfffffffffffff000
  unfold Address.pageSize at ha
  omega

theorem eq_lastPage (ha : a.page = a) (h : a.add? Address.pageSize = none) : a = lastPage := by
  have hle := UInt64.le_iff_toNat_le.1 (le_lastPage ha)
  have hnone : UInt64.size ≤ a.toNat + Address.pageSize := Address.add?_eq_none_iff.1 h
  rw [← UInt64.toNat_inj]
  show a.toNat = 0xfffffffffffff000
  change a.toNat ≤ 0xfffffffffffff000 at hle
  unfold Address.pageSize UInt64.size at hnone
  omega

theorem pagesAbove_eq_zero_iff : pagesAbove a = 0 ↔ a.add? Address.pageSize = none := by
  have ha : a.toNat < UInt64.size := a.toNat_lt
  rw [Address.add?_eq_none_iff]
  unfold pagesAbove Address.pageSize
  omega

theorem pagesAbove_of_add? (h : a.add? Address.pageSize = some b) :
    pagesAbove a = pagesAbove b + 1 := by
  have hsum := Address.toNat_of_add? h
  have hb : b.toNat < UInt64.size := b.toNat_lt
  unfold pagesAbove Address.pageSize at *
  omega

theorem eq_add_of_add? {offset : Nat} (h : a.add? offset = some b) : b = a + .ofNat offset := by
  unfold Address.add? at h
  split at h
  · cases h
    rw [UInt64.ofNat_add, UInt64.ofNat_toNat]
  · cases h

inductive Climbs (E : Engine σ ν τ) : σ → Address → Address → σ → Prop
  | top {s t : σ} {a : Address} : isStackTop E a s = (true, t) → Climbs E s a a t
  | last {s t : σ} {a : Address} : isStackTop E a s = (false, t) →
      a.add? Address.pageSize = none → Climbs E s a a t
  | next {s s' t : σ} {a b p : Address} : isStackTop E a s = (false, s') →
      a.add? Address.pageSize = some b → Climbs E s' b p t → Climbs E s a p t

theorem Climbs.unique (h : Climbs E s a p t) (h' : Climbs E s a p' t') : p' = p ∧ t' = t := by
  induction h generalizing p' t' with
  | top htop =>
    cases h' with
    | top htop' =>
      cases htop.symm.trans htop'
      exact ⟨rfl, rfl⟩
    | last hgoes | next hgoes => cases htop.symm.trans hgoes
  | last hgoes hnone =>
    cases h' with
    | top htop => cases hgoes.symm.trans htop
    | last hgoes' =>
      cases hgoes.symm.trans hgoes'
      exact ⟨rfl, rfl⟩
    | next _ hsome => cases hnone.symm.trans hsome
  | next hgoes hsome _ ih =>
    cases h' with
    | top htop => cases hgoes.symm.trans htop
    | last _ hnone => cases hnone.symm.trans hsome
    | next hgoes' hsome' h' =>
      cases hgoes.symm.trans hgoes'
      cases hsome.symm.trans hsome'
      exact ih h'

theorem climbStack_eq (pages : Nat) (cursor : Address) :
    climbStack E pages cursor = (do
      if ← isStackTop E cursor then return cursor
      match pages with
      | 0 => return cursor
      | pages + 1 => climbStack E pages (cursor + .ofNat Address.pageSize)) := by
  cases pages <;> rfl

theorem climbs_climbStack (E : Engine σ ν τ) (a : Address) (s : σ) :
    Climbs E s a (climbStack E (pagesAbove a) a s).1 (climbStack E (pagesAbove a) a s).2 := by
  induction hpages : pagesAbove a generalizing a s with
  | zero =>
    have hnone := pagesAbove_eq_zero_iff.1 hpages
    rw [climbStack_eq]
    simp only [bind, StateT.bind]
    rcases htop : isStackTop E a s with ⟨_ | _, t⟩
    · exact .last htop hnone
    · exact .top htop
  | succ pages ih =>
    rw [climbStack_eq]
    simp only [bind, StateT.bind]
    rcases htop : isStackTop E a s with ⟨_ | _, t⟩
    · cases hnext : a.add? Address.pageSize with
      | none =>
        rw [pagesAbove_eq_zero_iff.2 hnext] at hpages
        cases hpages
      | some b =>
        have hb := Nat.succ.inj ((pagesAbove_of_add? hnext).symm.trans hpages)
        rw [← eq_add_of_add? hnext]
        exact .next htop hnext (ih b t hb)
    · exact .top htop

theorem climbs_iff {a : Address} :
    Climbs E s a p t ↔ climbStack E (pagesAbove a) a s = (p, t) := by
  have hrun := climbs_climbStack E a s
  constructor
  · intro h
    obtain ⟨hp, ht⟩ := h.unique hrun
    exact Prod.ext hp ht
  · intro h
    rwa [h] at hrun

theorem Climbs.page (h : Climbs E s a p t) (ha : a.page = a) : p.page = p := by
  induction h with
  | top | last => exact ha
  | next _ hnext _ ih => exact ih (Address.page_of_add? hnext ha (Nat.mod_self _))

theorem Climbs.le (h : Climbs E s a p t) : a ≤ p := by
  induction h with
  | @top _ _ a | @last _ _ a => exact UInt64.le_refl a
  | next _ hnext _ ih =>
    have hsum := Address.toNat_of_add? hnext
    rw [UInt64.le_iff_toNat_le] at ih ⊢
    omega

theorem page_stackTop (E : Engine σ ν τ) (a : Address) (s : σ) :
    (stackTop E a s).1.page = (stackTop E a s).1 :=
  (climbs_climbStack E a.page s).page a.page_page

theorem page_le_stackTop (E : Engine σ ν τ) (a : Address) (s : σ) :
    a.page ≤ (stackTop E a s).1 := (climbs_climbStack E a.page s).le

def EndsStack (bytes? : Address → Option Bytes) (p : Address) : Prop :=
  bytes? p = none ∨ bytes? p = some imageStart

instance (bytes? : Address → Option Bytes) (p : Address) : Decidable (EndsStack bytes? p) :=
  inferInstanceAs (Decidable (_ ∨ _))

def stackEnds (bytes? : Address → Option Bytes) (a : Address) : Set Address :=
  {p | p.page = p ∧ a ≤ p ∧ EndsStack bytes? p}

/-- From one page up to another, which is the first where a stack ends, or else the last of all. -/
structure Tops (bytes? : Address → Option Bytes) (a p : Address) : Prop where
  page : p.page = p
  le : a ≤ p
  ends : EndsStack bytes? p ∨ p = lastPage
  goes_on : ∀ q : Address, q.page = q → a ≤ q → q < p → ¬ EndsStack bytes? q

section

variable {bytes? : Address → Option Bytes}

theorem Tops.le_of_mem (h : Tops bytes? a p) {q : Address} (hq : q ∈ stackEnds bytes? a) :
    p ≤ q := by
  obtain ⟨hpage, hle, hends⟩ := hq
  exact UInt64.not_lt.1 fun hlt => h.goes_on q hpage hle hlt hends

theorem Tops.isLeast (h : Tops bytes? a p) (hne : (stackEnds bytes? a).Nonempty) :
    IsLeast (stackEnds bytes? a) p := by
  refine ⟨?_, fun q => h.le_of_mem⟩
  obtain ⟨q, hq⟩ := hne
  rcases h.ends with hends | rfl
  · exact ⟨h.page, h.le, hends⟩
  · -- no page follows the last one, so the stack ends there
    rwa [UInt64.le_antisymm (h.le_of_mem hq) (le_lastPage hq.1)]

theorem Tops.eq_lastPage (h : Tops bytes? a p) (hnone : stackEnds bytes? a = ∅) : p = lastPage :=
  h.ends.resolve_left fun hends => (hnone ▸ ⟨h.page, h.le, hends⟩ : p ∈ (∅ : Set Address))

theorem Tops.readable (h : Tops bytes? a p) {q : Address} (hq : q.page = q) (hle : a ≤ q)
    (hlt : q < p) : ∃ bytes, bytes? q = some bytes ∧ bytes ≠ imageStart := by
  have hgoes := not_or.1 (h.goes_on q hq hle hlt)
  obtain ⟨bytes, hbytes⟩ := Option.ne_none_iff_exists'.1 hgoes.1
  exact ⟨bytes, hbytes, fun himage => hgoes.2 (by rw [hbytes, himage])⟩

end

section

variable {bytes? : Address → Option Bytes} {Steady : σ → Prop}

theorem isStackTop_apply (h : Shows (Memory.read E · imageStart.length) bytes? Steady)
    (hs : Steady s) (a : Address) :
    ∃ s' ends, Steady s' ∧ isStackTop E a s = (ends, s') ∧ (ends = true ↔ EndsStack bytes? a) := by
  obtain ⟨s', hs', hread⟩ := h.attempt hs a
  simp only [isStackTop, bind, StateT.bind, hread]
  cases hb : bytes? a with
  | none => exact ⟨s', true, hs', rfl, iff_of_true rfl (.inl hb)⟩
  | some bytes => exact ⟨s', decide (bytes = imageStart), hs', rfl, by simp [EndsStack, hb]⟩

theorem Climbs.tops (h : Shows (Memory.read E · imageStart.length) bytes? Steady)
    (hclimbs : Climbs E s a p t) (hs : Steady s) (ha : a.page = a) : Tops bytes? a p := by
  induction hclimbs with
  | @top s t a htop =>
    obtain ⟨s', ends, -, happly, hiff⟩ := isStackTop_apply h hs a
    cases htop.symm.trans happly
    exact ⟨ha, UInt64.le_refl a, .inl (hiff.1 rfl), fun q _ hle hlt =>
      absurd hle (UInt64.not_le.2 hlt)⟩
  | @last s t a _ hnone =>
    exact ⟨ha, UInt64.le_refl a, .inr (eq_lastPage ha hnone), fun q _ hle hlt =>
      absurd hle (UInt64.not_le.2 hlt)⟩
  | @next s s' t a b p hgoes hnext _ ih =>
    obtain ⟨s', ends, hs', happly, hiff⟩ := isStackTop_apply h hs a
    cases hgoes.symm.trans happly
    have htops := ih hs' (Address.page_of_add? hnext ha (Nat.mod_self _))
    have hab := Address.toNat_of_add? hnext
    have hbp := UInt64.le_iff_toNat_le.1 htops.le
    refine ⟨htops.page, UInt64.le_iff_toNat_le.2 (by omega), htops.ends, fun q hq hle hlt => ?_⟩
    rcases eq_or_le_of_add? ha hnext hq hle with rfl | hbq
    · rw [← hiff]
      exact Bool.false_ne_true
    · exact htops.goes_on q hq hbq hlt

/--
The climb to the top of a stack ends, whatever the engine answers, and where memory stays as it is
it ends at the least page that cannot be read or begins with an image, or at the last page if there
is no such page. The pages below can be read, and no image begins with them.
-/
theorem stackTop_isLeast (E : Engine σ ν τ) (a : Address) (s : σ) :
    (∀ p t, Climbs E s a.page p t ↔ stackTop E a s = (p, t)) ∧
    ∀ bytes? Steady, Shows (Memory.read E · imageStart.length) bytes? Steady → Steady s →
        ((stackEnds bytes? a.page).Nonempty →
          IsLeast (stackEnds bytes? a.page) (stackTop E a s).1) ∧
        (stackEnds bytes? a.page = ∅ → (stackTop E a s).1 = 0xfffffffffffff000) ∧
        ∀ q : Address, q.page = q → a.page ≤ q → q < (stackTop E a s).1 →
          ∃ bytes, bytes? q = some bytes ∧ bytes ≠ imageStart := by
  refine ⟨fun p t => climbs_iff, fun bytes? Steady h hs => ?_⟩
  have htops : Tops bytes? a.page (stackTop E a s).1 :=
    (climbs_climbStack E a.page s).tops h hs a.page_page
  exact ⟨htops.isLeast, htops.eq_lastPage, fun q => htops.readable⟩

end

def lastPages : Machine :=
  Machine.storeBytes 0xffffffffffffd000 imageStart <|
    Machine.mapPages 0xffffffffffffc000 4 ⟨true, true, false⟩ <|
      Machine.initial ⟨"i386:x86-64", 8, .little⟩

theorem stackTop_isLeast_lastPages :
    let bytes? : Address → Option Bytes := fun a =>
      (lastPages.memory.read a imageStart.length).toOption
    Shows (Memory.read Machine.engine · imageStart.length) bytes? (· = lastPages) ∧
      (stackTop Machine.engine 0xffffffffffffc800 lastPages).1 = 0xffffffffffffd000 ∧
      stackEnds bytes? 0xffffffffffffe000 = ∅ ∧
      (stackTop Machine.engine 0xffffffffffffe800 lastPages).1 = 0xfffffffffffff000 := by
  intro bytes?
  have hshows : Shows (Memory.read Machine.engine · imageStart.length) bytes? (· = lastPages) :=
    (lastPages.shows ⟨1⟩ imageStart.length).memory_read fun _ hs => by rw [hs]; rfl
  have hnone : stackEnds bytes? 0xffffffffffffe000 = ∅ := by
    refine Set.eq_empty_iff_forall_notMem.2 fun q ⟨hpage, hle, hends⟩ => ?_
    rcases eq_or_le_of_add? (b := lastPage) (by decide) (by decide) hpage hle with rfl | hlast
    · exact absurd hends (by decide +kernel)
    · obtain rfl := UInt64.le_antisymm (le_lastPage hpage) hlast
      exact absurd hends (by decide +kernel)
  refine ⟨hshows, ?_, hnone, ?_⟩
  · obtain ⟨-, hmemory⟩ := stackTop_isLeast Machine.engine 0xffffffffffffc800 lastPages
    have hmem : 0xffffffffffffd000 ∈ stackEnds bytes? 0xffffffffffffc000 := by
      refine ⟨?_, ?_, .inr ?_⟩ <;> decide +kernel
    obtain ⟨⟨hpage, hle, hends⟩, hlower⟩ := (hmemory _ _ hshows rfl).1 ⟨_, hmem⟩
    refine UInt64.le_antisymm (hlower hmem) ?_
    refine (eq_or_le_of_add? (by decide) (by decide) hpage hle).resolve_left fun hfirst => ?_
    rw [hfirst] at hends
    exact absurd hends (by decide +kernel)
  · obtain ⟨-, hmemory⟩ := stackTop_isLeast Machine.engine 0xffffffffffffe800 lastPages
    exact (hmemory _ _ hshows rfl).2.1 hnone

end Boundary

end Debuggee
