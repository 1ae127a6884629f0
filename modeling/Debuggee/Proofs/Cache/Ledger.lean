import Debuggee.Cache.Bank
import Mathlib.Data.List.Dedup

/-!
What the tables of a bank hold, told by what has been done to them; tables for different keys and
values are one bank over the sums of them.
-/

namespace Debuggee

variable {κ α : Type}

inductive Ledger.Entry (κ α : Type) : Type
  | opened : String → Option (List Event) → Entry κ α
  | stored : Nat → κ → α → Entry κ α
  | cleared : Nat → Entry κ α
  | raised : Event → Entry κ α
  | clearedAll : Entry κ α

abbrev Ledger (κ α : Type) : Type := List (Ledger.Entry κ α)

namespace Ledger.Entry

def clears (i : Nat) (ends : Option (List Event)) : Entry κ α → Bool
  | opened _ _ | stored _ _ _ => false
  | cleared j => j = i
  | raised e => ends.any (·.contains e)
  | clearedAll => ends.isSome

def key? : Entry κ α → Option κ
  | stored _ k _ => some k
  | _ => none

end Ledger.Entry

namespace Ledger

def tables : Ledger κ α → List (Option (List Event))
  | [] => []
  | .opened _ ends :: earlier => tables earlier ++ [ends]
  | _ :: earlier => tables earlier

def ends (h : Ledger κ α) (i : Nat) : Option (List Event) := h.tables[i]?.join

variable [DecidableEq κ]

/-- The value stored last under a key of a table since the table was last cleared. -/
def held (i : Nat) (k : κ) : Ledger κ α → Option α
  | [] => none
  | .stored j k' v :: earlier =>
    if i < (tables earlier).length ∧ j = i ∧ k' = k then some v else held i k earlier
  | entry :: earlier => if entry.clears i (ends earlier i) then none else held i k earlier

def heldKeys (h : Ledger κ α) (i : Nat) : List κ :=
  (h.filterMap Entry.key?).dedup.filter fun k => (h.held i k).isSome

end Ledger

namespace Bank

def enter [DecidableEq κ] (b : Bank κ α) : Ledger.Entry κ α → Bank κ α
  | .opened name none => b.add name
  | .opened name (some events) => b.register name events
  | .stored i k v => b.insert i k v
  | .cleared i => b.clear i
  | .raised e => b.onEvent e
  | .clearedAll => b.clearAll

def size (b : Bank κ α) (i : Nat) : Nat := (b.tables[i]?.map (·.2.size)).getD 0

end Bank

/--
Operations on a bank, each of which may depend on the answers so far. What computes a missing value
is a script itself.
-/
inductive Script (κ α : Type) : Type → Type 1
  | done {ρ : Type} : ρ → Script κ α ρ
  | enter {ρ : Type} : Ledger.Entry κ α → Script κ α ρ → Script κ α ρ
  | count {ρ : Type} : (Nat → Script κ α ρ) → Script κ α ρ
  | get {ρ : Type} : Nat → κ → (Option α → Script κ α ρ) → Script κ α ρ
  | size {ρ : Type} : Nat → (Nat → Script κ α ρ) → Script κ α ρ
  | getOrInsert {ρ : Type} : Nat → κ → Script κ α α → (α → Script κ α ρ) → Script κ α ρ

namespace Script

variable {ρ : Type} [DecidableEq κ]

def perform {ρ : Type} : Script κ α ρ → Bank κ α → ρ × Bank κ α
  | done a, b => (a, b)
  | enter entry next, b => next.perform (b.enter entry)
  | count next, b => (next b.tables.length).perform b
  | get i k next, b => (next (b.get? i k)).perform b
  | size i next, b => (next (b.size i)).perform b
  | getOrInsert i k compute next, b =>
    let (v, b) := b.getOrInsert i k compute.perform
    (next v).perform b

def recount {ρ : Type} : Script κ α ρ → Ledger κ α → ρ × Ledger κ α
  | done a, h => (a, h)
  | enter entry next, h => next.recount (entry :: h)
  | count next, h => (next h.tables.length).recount h
  | get i k next, h => (next (h.held i k)).recount h
  | size i next, h => (next (h.heldKeys i).length).recount h
  | getOrInsert i k compute next, h =>
    match h.held i k with
    | some v => (next v).recount h
    | none =>
      let (v, h) := compute.recount h
      (next v).recount (.stored i k v :: h)

end Script

namespace Cache

variable [DecidableEq κ]

theorem isSome_get?_iff (c : Cache κ α) (k : κ) :
    (c.get? k).isSome ↔ k ∈ c.entries.map (·.1) := by
  simp [get?, List.lookup_isSome_iff]

theorem nodup_insert {c : Cache κ α} (h : (c.entries.map (·.1)).Nodup) (k : κ) (v : α) :
    ((c.insert k v).entries.map (·.1)).Nodup := by
  rw [insert, Assoc.map_fst_store]
  split
  · exact h
  · next hk => exact List.nodup_append.2 ⟨h, List.nodup_singleton k, by grind⟩

end Cache

namespace Bank

theorem getElem?_modify (b : Bank κ α) (i j : Nat) (f : Cache κ α → Cache κ α) :
    (b.modify i f).tables[j]? = b.tables[j]?.map fun t => if i = j then (t.1, f t.2) else t := by
  rw [modify, List.getElem?_modify]
  rfl

theorem getElem?_modify_of_ne (b : Bank κ α) {i j : Nat} (h : i ≠ j)
    (f : Cache κ α → Cache κ α) : (b.modify i f).tables[j]? = b.tables[j]? := by
  simp [getElem?_modify, h]

@[simp] theorem length_modify (b : Bank κ α) (i : Nat) (f : Cache κ α → Cache κ α) :
    (b.modify i f).tables.length = b.tables.length := List.length_modify ..

def IsTidy (b : Bank κ α) : Prop :=
  ∀ (i : Nat) t, b.tables[i]? = some t → (t.2.entries.map (·.1)).Nodup

theorem IsTidy.of_tables_eq {b b' : Bank κ α} (hb : b.IsTidy) {name : String}
    (h : b'.tables = b.tables ++ [(name, .empty)]) : b'.IsTidy := by
  intro i t ht
  rw [h, List.getElem?_append] at ht
  split at ht
  · exact hb i t ht
  · obtain rfl := List.mem_singleton.1 (List.mem_of_getElem? ht)
    exact List.nodup_nil

theorem IsTidy.modify {b : Bank κ α} (hb : b.IsTidy) (i : Nat) {f : Cache κ α → Cache κ α}
    (hf : ∀ c, (c.entries.map (·.1)).Nodup → ((f c).entries.map (·.1)).Nodup) :
    (b.modify i f).IsTidy := by
  intro j t ht
  rw [getElem?_modify] at ht
  obtain ⟨t', ht', rfl⟩ := Option.map_eq_some_iff.1 ht
  split
  · exact hf _ (hb j t' ht')
  · exact hb j t' ht'

theorem IsTidy.clear {b : Bank κ α} (hb : b.IsTidy) (i : Nat) : (b.clear i).IsTidy :=
  hb.modify i fun _ _ => List.nodup_nil

theorem clearWhere_induction {P : Bank κ α → Prop} (hclear : ∀ b i, P b → P (b.clear i))
    {b : Bank κ α} (hb : P b) (due : List Event → Bool) : P (b.clearWhere due) := by
  unfold clearWhere
  generalize b.listed = listed
  induction listed generalizing b with
  | nil => exact hb
  | cons entry listed ih =>
    obtain ⟨events, j⟩ := entry
    rw [List.foldl_cons]
    refine ih ?_
    show P (if due events then b.clear j else b)
    split
    · exact hclear b j hb
    · exact hb

variable [DecidableEq κ]

theorem get?_insert (b : Bank κ α) (i j : Nat) (k k' : κ) (v : α) :
    (b.insert i k v).get? j k' =
      if j < b.tables.length ∧ i = j ∧ k = k' then some v else b.get? j k' := by
  rw [get?, insert, getElem?_modify, get?]
  by_cases hlt : j < b.tables.length
  · by_cases hi : i = j <;> simp [hlt, hi, eq_comm]
  · simp [hlt]

theorem get?_clear (b : Bank κ α) (i j : Nat) (k : κ) :
    (b.clear i).get? j k = if i = j then none else b.get? j k := by
  rw [get?, clear, getElem?_modify, get?]
  cases b.tables[j]? <;> by_cases hi : i = j <;> simp [hi]

theorem get?_clearWhere (b : Bank κ α) (due : List Event → Bool) (i : Nat) (k : κ) :
    (b.clearWhere due).get? i k =
      if b.listed.any fun (events, j) => j == i && due events then none else b.get? i k := by
  unfold clearWhere
  generalize b.listed = listed
  induction listed generalizing b with
  | nil => rfl
  | cons entry listed ih =>
    obtain ⟨events, j⟩ := entry
    rw [List.foldl_cons, ih, List.any_cons]
    split <;> grind [get?_clear]

theorem get?_of_tables_eq {b b' : Bank κ α} {name : String}
    (h : b'.tables = b.tables ++ [(name, .empty)]) (i : Nat) (k : κ) :
    b'.get? i k = b.get? i k := by
  rw [get?, get?, h, List.getElem?_append]
  split
  · rfl
  · next hi =>
    rw [List.getElem?_eq_none (Nat.not_lt.1 hi)]
    cases i - b.tables.length <;> rfl

theorem IsTidy.insert {b : Bank κ α} (hb : b.IsTidy) (i : Nat) (k : κ) (v : α) :
    (b.insert i k v).IsTidy :=
  hb.modify i fun _ hc => Cache.nodup_insert hc k v

end Bank

namespace Ledger

theorem ends_of_le {h : Ledger κ α} {i : Nat} (hi : h.tables.length ≤ i) : h.ends i = none := by
  rw [ends, List.getElem?_eq_none hi]
  rfl

theorem ends_opened (h : Ledger κ α) (name : String) (e : Option (List Event)) (i : Nat) :
    ends (.opened name e :: h) i = if i = h.tables.length then e else h.ends i := by
  rw [ends, tables, List.getElem?_append]
  split
  · next hi => rw [if_neg (Nat.ne_of_lt hi), ends]
  · next hi =>
    split
    · next heq => simp [heq]
    · next hne => rw [ends_of_le (Nat.not_lt.1 hi), List.getElem?_eq_none (by simp; omega)]; rfl

variable [DecidableEq κ]

theorem held_cons (h : Ledger κ α) {entry : Entry κ α} (hkey : entry.key? = none) (i : Nat)
    (k : κ) : held i k (entry :: h) = if entry.clears i (h.ends i) then none else held i k h := by
  cases entry <;> first | rfl | cases hkey

theorem mem_heldKeys {h : Ledger κ α} {i : Nat} {k : κ} :
    k ∈ h.heldKeys i ↔ (h.held i k).isSome := by
  have hkey : (h.held i k).isSome → k ∈ h.filterMap Entry.key? := by
    induction h with
    | nil => simp [held]
    | cons entry h ih => cases entry <;> grind [held, Entry.key?]
  simpa [heldKeys] using hkey

theorem nodup_heldKeys (h : Ledger κ α) (i : Nat) : (h.heldKeys i).Nodup :=
  (List.nodup_dedup _).filter _

/-- The ledger tells what the bank holds and which of its tables an event clears. -/
structure Describes (h : Ledger κ α) (b : Bank κ α) : Prop where
  length : b.tables.length = h.tables.length
  listed : ∀ events i, (events, i) ∈ b.listed ↔ h.ends i = some events
  tidy : b.IsTidy
  get? : ∀ i k, b.get? i k = h.held i k

namespace Describes

variable {h : Ledger κ α} {b : Bank κ α}

theorem nil : Describes ([] : Ledger κ α) ({} : Bank κ α) where
  length := rfl
  listed _ _ := iff_of_false List.not_mem_nil nofun
  tidy _ _ ht := nomatch ht
  get? _ _ := rfl

theorem any_listed (hb : h.Describes b) (due : List Event → Bool) (i : Nat) :
    (b.listed.any fun (events, j) => j == i && due events) = (h.ends i).any due := by
  rw [Bool.eq_iff_iff]
  simp [hb.listed, Option.any_eq_true]

theorem opened (hb : h.Describes b) (name : String) (ends : Option (List Event)) :
    Describes (.opened name ends :: h) (b.enter (.opened name ends)) := by
  have htables : (b.enter (.opened name ends)).tables = b.tables ++ [(name, .empty)] := by
    cases ends <;> rfl
  refine ⟨?_, fun events i => ?_, hb.tidy.of_tables_eq htables, fun i k => ?_⟩
  · rw [htables, tables, List.length_append, List.length_append, hb.length]
    rfl
  · have hold := hb.listed events i
    have hnew : i = h.tables.length → h.ends i = none := fun hi => ends_of_le (Nat.le_of_eq hi.symm)
    rw [ends_opened]
    cases ends <;> grind [Bank.enter, Bank.add, Bank.register, hb.length]
  · rw [Bank.get?_of_tables_eq htables, hb.get?, held_cons h rfl]
    rfl

theorem stored (hb : h.Describes b) (i : Nat) (k : κ) (v : α) :
    Describes (.stored i k v :: h) (b.insert i k v) where
  length := (Bank.length_modify ..).trans hb.length
  listed := hb.listed
  tidy := hb.tidy.insert i k v
  get? j k' := by rw [Bank.get?_insert, hb.length, hb.get?, held]

theorem cleared (hb : h.Describes b) (i : Nat) : Describes (.cleared i :: h) (b.clear i) where
  length := (Bank.length_modify ..).trans hb.length
  listed := hb.listed
  tidy := hb.tidy.clear i
  get? j k := by
    rw [Bank.get?_clear, hb.get?, held_cons h rfl]
    simp [Entry.clears]

theorem clearedWhere (hb : h.Describes b) {entry : Entry κ α} (hkey : entry.key? = none)
    (htables : tables (entry :: h) = h.tables) {due : List Event → Bool}
    (hdue : ∀ i ends, entry.clears i ends = ends.any due) :
    Describes (entry :: h) (b.clearWhere due) := by
  have hlength : (b.clearWhere due).tables.length = b.tables.length :=
    Bank.clearWhere_induction (P := fun b' => b'.tables.length = b.tables.length)
      (fun _ _ => (Bank.length_modify ..).trans) rfl due
  have hlisted : (b.clearWhere due).listed = b.listed :=
    Bank.clearWhere_induction (P := fun b' => b'.listed = b.listed) (fun _ _ => id) rfl due
  refine ⟨?_, fun events i => ?_, Bank.clearWhere_induction (fun _ i hb => hb.clear i) hb.tidy due,
    fun i k => ?_⟩
  · rw [hlength, htables, hb.length]
  · rw [hlisted, ends, htables, hb.listed, ends]
  · rw [Bank.get?_clearWhere, hb.any_listed, hb.get?, held_cons h hkey, hdue]

theorem enter (hb : h.Describes b) (entry : Entry κ α) :
    Describes (entry :: h) (b.enter entry) := by
  cases entry with
  | opened name ends => exact hb.opened name ends
  | stored i k v => exact hb.stored i k v
  | cleared i => exact hb.cleared i
  | raised e => exact hb.clearedWhere rfl rfl fun _ _ => rfl
  | clearedAll =>
    show Describes (.clearedAll :: h) (b.clearWhere fun _ => true)
    refine hb.clearedWhere rfl rfl fun i ends => ?_
    cases ends <;> rfl

theorem size_eq (hb : h.Describes b) (i : Nat) : b.size i = (h.heldKeys i).length := by
  cases ht : b.tables[i]? with
  | none =>
    have hnil : h.heldKeys i = [] := by
      refine List.eq_nil_iff_forall_not_mem.2 fun k hk => ?_
      rw [mem_heldKeys, ← hb.get?, Bank.get?, ht] at hk
      cases hk
    rw [Bank.size, ht, hnil]
    rfl
  | some t =>
    have hmem (k : κ) : k ∈ t.2.entries.map (·.1) ↔ k ∈ h.heldKeys i := by
      rw [mem_heldKeys, ← hb.get?, Bank.get?, ht]
      exact (t.2.isSome_get?_iff k).symm
    have hperm := (List.perm_ext_iff_of_nodup (hb.tidy i t ht) (nodup_heldKeys h i)).2 hmem
    rw [Bank.size, ht, ← hperm.length_eq, List.length_map]
    rfl

end Describes

end Ledger

theorem Script.describes_perform [DecidableEq κ] {ρ : Type} (p : Script κ α ρ) {h : Ledger κ α}
    {b : Bank κ α} (hb : h.Describes b) :
    (p.perform b).1 = (p.recount h).1 ∧ (p.recount h).2.Describes (p.perform b).2 := by
  induction p generalizing h b with
  | done a => exact ⟨rfl, hb⟩
  | enter entry next ih => exact ih (hb.enter entry)
  | count next ih =>
    rw [perform, recount, hb.length]
    exact ih _ hb
  | get i k next ih =>
    rw [perform, recount, hb.get?]
    exact ih _ hb
  | size i next ih =>
    rw [perform, recount, hb.size_eq]
    exact ih _ hb
  | getOrInsert i k compute next ihc ih =>
    simp only [perform, recount, Bank.getOrInsert, hb.get?]
    cases h.held i k with
    | some v => exact ih v hb
    | none =>
      obtain ⟨hanswer, hcompute⟩ := ihc hb
      simp only [hanswer]
      exact ih _ (hcompute.stored i k _)

namespace Bank

/--
Whatever a script does to a new bank, its answers are those of the ledger of what was done, and so
is what is left in the tables: under a key the value stored last since its table was cleared, and
as many entries as keys are held. What is done to one table leaves the others as they are.
-/
theorem perform_eq_recount [DecidableEq κ] {ρ : Type} (p : Script κ α ρ) :
    (p.perform {}).1 = (p.recount []).1 ∧
    (∀ i, (∀ k, (p.perform {}).2.get? i k = (p.recount []).2.held i k) ∧
      (∀ k, k ∈ (p.recount []).2.heldKeys i ↔ ((p.recount []).2.held i k).isSome) ∧
      ((p.recount []).2.heldKeys i).Nodup ∧
      (p.perform {}).2.size i = ((p.recount []).2.heldKeys i).length) ∧
    ∀ (b : Bank κ α) i j, i ≠ j → ∀ k v compute,
      (b.insert i k v).tables[j]? = b.tables[j]? ∧ (b.clear i).tables[j]? = b.tables[j]? ∧
      (b.getOrInsert i k compute).2.tables[j]? =
        (if (b.get? i k).isSome then b else (compute b).2).tables[j]? := by
  obtain ⟨hanswer, hb⟩ := p.describes_perform Ledger.Describes.nil
  refine ⟨hanswer, fun i => ⟨hb.get? i, fun _ => Ledger.mem_heldKeys, Ledger.nodup_heldKeys _ i,
    hb.size_eq i⟩, fun b i j hij k v compute => ?_⟩
  refine ⟨b.getElem?_modify_of_ne hij _, b.getElem?_modify_of_ne hij _, ?_⟩
  rw [getOrInsert]
  cases b.get? i k with
  | some v => rfl
  | none => exact getElem?_modify_of_ne _ hij _

example :
    ((Script.getOrInsert 0 "pc"
      (.getOrInsert 0 "cs" (.done 0x10) fun cs => .done (cs * 16 + 4)) fun pc =>
        .get 0 "cs" fun cs => .size 0 fun n => .done (pc, cs, n)).perform
      (({} : Bank String Nat).add "test")).1 = (0x104, some 0x10, 2) := by decide

end Bank

end Debuggee
