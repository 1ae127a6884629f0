import Debuggee.Proofs.Registers.Life

/-!
What is left of an observer that is used. A relation that holds of each question and of each table
that is filled holds of whatever is read, looked for or written through an observer.
-/

namespace Debuggee.Registers

variable {σ ν τ α κ : Type} {E : Engine σ ν τ} {v : View σ}

structure AllowsAsking (E : Engine σ ν τ) (R : View σ → View σ → Prop) : Prop
    extends IsPreorder R where
  frame? : Along R (View.ask E.frame?)
  selectedPtid? : Along R (View.ask E.selectedPtid?)
  level : ∀ f, Along R (View.ask (E.level f).attempt)
  arch? : Along R (View.ask E.arch?)
  readInteger : ∀ f name, Along R (View.ask (readInteger E f name))
  values : ∀ v place x, R v { v with observer := { v.observer with
    caches := { v.observer.caches with values := v.observer.caches.values.insert place x } } }

theorem allowsAsking_engine (hE : E.IsQuiet) : AllowsAsking E (Leaves View.engine) :=
  have hask {α : Type} {x : StateM σ α} (hx : ∀ s, (x s).2 = s) :
      Along (Leaves View.engine) (View.ask x) := fun v => hx v.engine
  { isPreorder_leaves _ with
    frame? := hask hE.snd_frame?
    selectedPtid? := hask hE.snd_selectedPtid?
    level := fun f => hask (hE.snd_level f)
    arch? := hask hE.asks_arch?.quiet
    readInteger := fun f name => hask (hE.asks_readInteger f name).quiet
    values := fun _ _ _ => rfl }

theorem allowsAsking_leaves {p : Observer → α}
    (hp : ∀ o table, p { o with caches := { o.caches with values := table } } = p o) :
    AllowsAsking E (Leaves fun v => p v.observer) :=
  { isPreorder_leaves _ with
    frame? := fun _ => rfl
    selectedPtid? := fun _ => rfl
    level := fun _ _ => rfl
    arch? := fun _ => rfl
    readInteger := fun _ _ _ => rfl
    values := fun v _ _ => hp v.observer _ }

structure AllowsGetting (E : Engine σ ν τ) (R : View σ → View σ → Prop) : Prop
    extends IsPreorder R where
  arch? : Along R (View.ask E.arch?)
  get : ∀ name, Along R (Registers.get E name)

theorem along_remembered {α κ : Type} [DecidableEq κ] {R : View σ → View σ → Prop}
    (hR : IsPreorder R) {t : Table κ α} (k : κ)
    (ht : ∀ v a, R v { v with observer := { v.observer with
      caches := t.put ((t.get v.observer.caches).insert k a) v.observer.caches } })
    {x : StateM (View σ) α} (hx : Along R x) : Along R (View.remembered t k x) := by
  intro v
  cases h : (t.get v.observer.caches).get? k with
  | some a =>
    rw [View.remembered_of_get? h]
    exact hR.refl v
  | none =>
    rw [View.remembered_of_get?_eq_none h]
    exact hR.trans (hx v) (ht _ _)

section

variable {R : View σ → View σ → Prop} (hR : AllowsAsking E R)

include hR

theorem along_readIn {segment : StateM (View σ) (Option UInt64)} (hs : Along R segment) (f : Frame)
    (name : String) : Along R (readIn E View.ask segment f name) := by
  refine .bind hR.toIsPreorder (hR.readInteger f name) fun p? => ?_
  cases p? with
  | none => exact .pure hR.toIsPreorder _
  | some p =>
    dsimp only
    split
    · exact .bind hR.toIsPreorder hs fun _ => .pure hR.toIsPreorder _
    · exact .pure hR.toIsPreorder _

theorem along_getWith {segment : StateM (View σ) (Option UInt64)} (hs : Along R segment)
    (name : String) : Along R (getWith E segment name) := by
  refine .bind hR.toIsPreorder hR.frame? fun f? => ?_
  cases f? with
  | none => exact .pure hR.toIsPreorder _
  | some f =>
    refine .bind hR.toIsPreorder hR.selectedPtid? fun ptid => ?_
    refine .bind hR.toIsPreorder (hR.level f) fun level => ?_
    exact along_remembered hR.toIsPreorder _ (fun v => hR.values v _) (along_readIn hR hs f _)

theorem along_get (name : String) : Along R (get E name) :=
  along_getWith hR (along_getWith hR (.pure hR.toIsPreorder none) "cs") name

theorem AllowsAsking.allowsGetting : AllowsGetting E R := { hR with get := along_get hR }

end

section

variable {R : View σ → View σ → Prop} (hR : AllowsGetting E R)

include hR

theorem along_lookup (name : String) : Along R (lookup E name) :=
  .bind hR.toIsPreorder hR.arch? fun _ =>
    .bind hR.toIsPreorder (hR.get _) fun _ => .pure hR.toIsPreorder _

theorem along_group {α : Type} (f : RegisterSet → List α) : Along R (group E f) :=
  .bind hR.toIsPreorder
    (.bind hR.toIsPreorder hR.arch? fun _ => .pure hR.toIsPreorder _)
    fun _ => .pure hR.toIsPreorder _

theorem along_lookupAll (names : List String) : Along R (lookupAll E names) := by
  induction names with
  | nil => exact .pure hR.toIsPreorder _
  | cons name names ih =>
    exact .bind hR.toIsPreorder (along_lookup hR name) fun _ =>
      .bind hR.toIsPreorder ih fun _ => .pure hR.toIsPreorder _

theorem along_changedAmong (snapshot : Snapshot) : Along R (changedAmong E snapshot) := by
  induction snapshot with
  | nil => exact .pure hR.toIsPreorder _
  | cons entry rest ih =>
    exact .bind hR.toIsPreorder (along_lookup hR _) fun _ =>
      .bind hR.toIsPreorder ih fun _ => .pure hR.toIsPreorder _

theorem along_reading (r : Reading) : Along R (r.perform E) := by
  have hanswer {α : Type} {x : StateM (View σ) α} (f : α → Answer) (hx : Along R x) :
      Along R (do return f (← x)) :=
    .bind hR.toIsPreorder hx fun _ => .pure hR.toIsPreorder _
  cases r with
  | get name => exact hanswer _ (hR.get name)
  | lookup name => exact hanswer _ (along_lookup hR name)
  | items =>
    exact hanswer _ (.bind hR.toIsPreorder (along_group hR _) (along_lookupAll hR))
  | pc => exact hanswer _ (hR.get "pc")
  | sp => exact hanswer _ (hR.get "sp")
  | changed =>
    exact hanswer _ fun v => along_changedAmong hR v.observer.previous v

theorem along_snapshotCommon (hsnapshots : ∀ v last previous,
    R v { v with observer := { v.observer with last, previous } }) :
    Along R (snapshotCommon E) := by
  refine .bind hR.toIsPreorder (along_group hR _) fun names => ?_
  exact .bind hR.toIsPreorder (along_lookupAll hR names) fun snapshot v => hsnapshots v _ _

end

theorem looks_get (hE : E.IsQuiet) (name : String) : View.Looks (get E name) :=
  along_get (allowsAsking_engine hE) name

theorem looks_reading (hE : E.IsQuiet) (r : Reading) : View.Looks (r.perform E) :=
  along_reading (allowsAsking_engine hE).allowsGetting r

theorem along_segmentBase {R : View σ → View σ → Prop} (hR : AllowsGetting E R)
    (hptid : Along R (View.ask E.selectedPtid?))
    (hbases : ∀ v table, R v { v with observer := { v.observer with
      caches := { v.observer.caches with bases := table } } }) (segment : Segment) :
    Along R (segmentBase E segment) := by
  refine .bind hR.toIsPreorder hptid fun ptid => ?_
  refine along_remembered hR.toIsPreorder (t := .bases) _ (fun v _ => hbases v _) ?_
  refine .bind hR.toIsPreorder hR.arch? fun arch? => ?_
  cases arch? with
  | none => exact .pure hR.toIsPreorder _
  | some arch =>
    dsimp only
    split
    · exact .bind hR.toIsPreorder (hR.get _) fun _ => .pure hR.toIsPreorder _
    · refine .bind hR.toIsPreorder hR.refl fun v => ?_
      cases E.selectedInferior v.engine with
      | none => exact .pure hR.toIsPreorder _
      | some i =>
        have hremote : Along R (View.ask (E.isRemote i)) := hR.refl
        refine .bind hR.toIsPreorder hremote fun isRemote => ?_
        cases isRemote with
        | true => exact .pure hR.toIsPreorder _
        | false => exact .bind hR.toIsPreorder hR.refl fun _ => .pure hR.toIsPreorder _

theorem along_descriptor {R : View σ → View σ → Prop} (hR : IsPreorder R)
    (hask : Along R (View.ask (readInterruptTable E)))
    (hdescriptors : ∀ v table, R v { v with observer := { v.observer with
      caches := { v.observer.caches with descriptors := table } } })
    (key : String) (f : UInt64 × UInt64 → UInt64) :
    Along R (View.remembered .descriptors key do
      return (← View.ask (readInterruptTable E)).map f) :=
  along_remembered hR key (fun v _ => hdescriptors v _) (.bind hR hask fun _ => .pure hR _)

theorem along_instructionSet {R : View σ → View σ → Prop} (hR : AllowsGetting E R) :
    Along R (Registers.instructionSet E) := by
  refine .bind hR.toIsPreorder ?_ fun _ => .pure hR.toIsPreorder _
  refine .bind hR.toIsPreorder hR.arch? fun arch? => ?_
  cases arch? with
  | none => exact .pure hR.toIsPreorder _
  | some arch =>
    show Along R (arch.name.readInstructionSetBit (get E))
    unfold ArchName.readInstructionSetBit
    cases arch.name.instructionSetBit? with
    | none => exact .pure hR.toIsPreorder _
    | some p => exact .bind hR.toIsPreorder (hR.get _) fun _ => .pure hR.toIsPreorder _

structure AllowsSearching (E : Engine σ ν τ) (R : View σ → View σ → Prop) : Prop
    extends AllowsGetting E R where
  ask : ∀ {α : Type} {x : StateM σ α}, E.IsQuestion x → Along R (View.ask x)
  tables : ∀ v c, c.values = v.observer.caches.values → c.bases = v.observer.caches.bases →
    c.readable = v.observer.caches.readable →
    R v { v with observer := { v.observer with caches := c } }

/--
Holds of what an observer does when it is used, but for single addresses that it probes and what it
is made to forget: it writes registers too, and remembers where segments begin.
-/
structure AllowsRecalling (E : Engine σ ν τ) (R : View σ → View σ → Prop) : Prop
    extends AllowsSearching E R where
  interruptTable : Along R (View.ask (readInterruptTable E))
  write : ∀ name value, Along R (Registers.write E name value)
  bases : ∀ v table, R v { v with observer := { v.observer with
    caches := { v.observer.caches with bases := table } } }

/--
Holds of whatever an observer does when it is used: it reads registers and writes them, asks about
the debuggee, and remembers or forgets. The registers that it remembers it has read.
-/
structure AllowsUsing (E : Engine σ ν τ) (R : View σ → View σ → Prop) : Prop
    extends AllowsGetting E R where
  ask : ∀ {α : Type} {x : StateM σ α}, E.IsQuestion x → Along R (View.ask x)
  probe : ∀ a, Along R (View.ask (Memory.probe E a))
  interruptTable : Along R (View.ask (readInterruptTable E))
  write : ∀ name value, Along R (Registers.write E name value)
  tables : ∀ v c, c.values = v.observer.caches.values ∨ c.values = .empty →
    R v { v with observer := { v.observer with caches := c } }

namespace AllowsSearching

variable {R : View σ → View σ → Prop} (hR : AllowsSearching E R)

include hR

theorem act {x : Action σ α} (hx : E.IsQuestion x) : Along R (View.act x) := fun v => hR.ask hx v

theorem remembered [DecidableEq κ] {t : Table κ α}
    (ht : ∀ table c, (t.put table c).values = c.values ∧ (t.put table c).bases = c.bases ∧
      (t.put table c).readable = c.readable)
    (k : κ) {x : StateM (View σ) α} (hx : Along R x) : Along R (View.remembered t k x) :=
  along_remembered hR.toIsPreorder k
    (fun v _ => hR.tables v _ (ht _ _).1 (ht _ _).2.1 (ht _ _).2.2) hx

theorem upper (a : Address) (max? : Option Nat) : Along R (Boundary.upper E a max?) := fun v =>
  hR.remembered (t := .upper) (fun _ _ => ⟨rfl, rfl, rfl⟩) (a, max?.getD v.observer.config.maxPages)
    (hR.ask (Boundary.isQuestion_findUpper E a _)) v

theorem lower (a : Address) (max? : Option Nat) : Along R (Boundary.lower E a max?) := fun v =>
  hR.remembered (t := .lower) (fun _ _ => ⟨rfl, rfl, rfl⟩) (a, max?.getD v.observer.config.maxPages)
    (hR.ask (Boundary.isQuestion_findLower E a _)) v

theorem string (a : Address) (max? : Option Nat) : Along R (Boundary.string E a max?) :=
  fun v => hR.ask (Memory.isQuestion_string E a (max?.getD v.observer.config.stringMax)) v

theorem stringBuffered (a : Address) (max? : Option Nat) :
    Along R (Boundary.stringBuffered E a max?) := fun v =>
  hR.ask (Memory.isQuestion_stringBuffered E a (max?.getD v.observer.config.stringMax)) v

theorem fromStackPointer (i : Inferior) (skew : Nat) :
    Along R (AuxvSource.fromStackPointer E i skew) := by
  have hsp : Along R (Action.ofState (sp E)) := hR.get "sp"
  refine .andThen hR.toIsPreorder hsp fun sp? => ?_
  cases sp? with
  | none => exact .pure hR.toIsPreorder _
  | some sp =>
    have htop : E.IsQuestion (Action.ofState (Boundary.stackTop E sp)) :=
      Boundary.isQuestion_stackTop E sp
    exact hR.act <| .andThen (E.isQuestion_archOf i) fun arch => .andThen htop fun top =>
      AuxvSource.isQuestion_readStack E arch.pointerSize top skew

theorem fileNameFromStack : Along R (AuxvSource.fileNameFromStack E) := by
  refine .bind hR.toIsPreorder (hR.get "sp") fun sp? => ?_
  cases sp? with
  | none => exact .pure hR.toIsPreorder _
  | some sp =>
    refine .bind hR.toIsPreorder (hR.ask (Memory.isQuestion_peek E sp)) fun first? => ?_
    dsimp only
    split
    · exact .pure hR.toIsPreorder _
    · refine .bind hR.toIsPreorder (hR.upper sp none) fun top => ?_
      refine .bind hR.toIsPreorder (hR.ask (AuxvSource.isQuestion_lastString? E top))
        fun start? => ?_
      cases start? with
      | none => exact .pure hR.toIsPreorder _
      | some a =>
        refine .bind hR.toIsPreorder (hR.string a _) fun name => ?_
        split
        · exact .pure hR.toIsPreorder _
        · exact .bind hR.toIsPreorder hR.refl fun _ => .pure hR.toIsPreorder _

theorem fromStack (i : Inferior) : Along R (AuxvSource.fromStack E i) := by
  have hwalk (skew : Nat) : Along R (AuxvSource.walk E i skew) :=
    .bind hR.toIsPreorder (.attempt (hR.fromStackPointer i skew)) fun _ => .pure hR.toIsPreorder _
  have hkernel : E.IsQuestion (E.isEmulatedKernel i) := .of_snd fun _ => rfl
  refine .bind hR.toIsPreorder (hR.ask E.isQuestion_runsLinux) fun isLinux => ?_
  cases isLinux with
  | false => exact .pure hR.toIsPreorder _
  | true =>
    refine .bind hR.toIsPreorder (hR.ask hkernel) fun isKernel => ?_
    cases isKernel with
    | true => exact .pure hR.toIsPreorder _
    | false =>
      refine .bind hR.toIsPreorder (hwalk 0) fun aligned => ?_
      refine .bind_or hR.toIsPreorder (hwalk 1) aligned fun v => ?_
      dsimp only
      split
      · refine .bind hR.toIsPreorder hR.fileNameFromStack fun path? => ?_
        cases path? <;> exact .pure hR.toIsPreorder _
      · exact .pure hR.toIsPreorder _

theorem auxv : Along R (AuxvSource.get E) := by
  refine hR.remembered (t := .auxv) (fun _ _ => ⟨rfl, rfl, rfl⟩) () ?_
  refine .bind hR.toIsPreorder hR.refl fun v => ?_
  cases E.selectedInferior v.engine with
  | none => exact .pure hR.toIsPreorder _
  | some i =>
    refine .bind hR.toIsPreorder (hR.ask (AuxvSource.isQuestion_listed? E)) fun listed? => ?_
    cases listed? with
    | none => exact hR.fromStack i
    | some listed => exact .pure hR.toIsPreorder _

end AllowsSearching

namespace AllowsRecalling

variable {R : View σ → View σ → Prop} (hR : AllowsRecalling E R)

include hR

theorem use {u : Use} (hprobe : ∀ a, u ≠ .isReadable a) (hforget : u ≠ .invalidate)
    (v : View σ) : R v (u.perform E v) := by
  have hdescriptor (key : String) (f : UInt64 × UInt64 → UInt64) :=
    along_descriptor (E := E) hR.toIsPreorder hR.interruptTable
      (fun v _ => hR.tables v _ rfl rfl rfl) key f
  cases u with
  | read r => exact along_reading hR.toAllowsGetting r v
  | write name value => exact hR.write name value v
  | base segment =>
    exact along_segmentBase hR.toAllowsGetting (hR.ask E.isQuestion_selectedPtid?)
      hR.bases segment v
  | interruptTable => exact hdescriptor _ _ v
  | interruptTableLimit => exact hdescriptor _ _ v
  | instructionSet => exact along_instructionSet hR.toAllowsGetting v
  | isReadable a => exact absurd rfl (hprobe a)
  | upper a max? => exact hR.upper a max? v
  | lower a max? => exact hR.lower a max? v
  | string a max? => exact hR.stringBuffered a max? v
  | auxv => exact hR.auxv v
  | invalidate => exact absurd rfl hforget

end AllowsRecalling

namespace AllowsUsing

variable {R : View σ → View σ → Prop} (hR : AllowsUsing E R)

include hR

theorem allowsRecalling : AllowsRecalling E R :=
  { hR with
    tables := fun v c hvalues _ _ => hR.tables v c (.inl hvalues)
    bases := fun v _ => hR.tables v _ (.inl rfl) }

theorem use (u : Use) (v : View σ) : R v (u.perform E v) := by
  cases u with
  | isReadable a =>
    exact along_remembered hR.toIsPreorder (t := .readable) a (fun v _ => hR.tables v _ (.inl rfl))
      (hR.probe a) v
  | invalidate => exact hR.tables v .empty (.inr rfl)
  | _ => exact hR.allowsRecalling.use (by simp) (by simp) v

end AllowsUsing

structure AllowsRemembering (R : View σ → View σ → Prop) : Prop extends IsPreorder R where
  left : ∀ v c s, R v ⟨{ v.observer with caches := c }, s⟩

namespace AllowsRemembering

variable {R : View σ → View σ → Prop} (hR : AllowsRemembering R)

include hR

theorem ask (x : StateM σ α) : Along R (View.ask x) := fun v => hR.left v v.observer.caches _

theorem allowsGetting : AllowsGetting E R :=
  AllowsAsking.allowsGetting
    { hR with
      frame? := hR.ask _
      selectedPtid? := hR.ask _
      level := fun _ => hR.ask _
      arch? := hR.ask _
      readInteger := fun _ _ => hR.ask _
      values := fun _ _ _ => hR.left _ _ _ }

theorem write (name : String) (value : UInt64) : Along R (Registers.write E name value) := by
  intro v
  show R v ⟨(Registers.write E name value v).2.observer, _⟩
  rcases write_cases (E := E) name value v with ⟨-, hforgotten⟩ | ⟨-, hsame⟩
  · rw [hforgotten]
    exact hR.left v _ _
  · rw [hsame]
    exact hR.left v v.observer.caches _

theorem allowsUsing : AllowsUsing E R :=
  { hR.allowsGetting with
    ask := fun _ => hR.ask _
    probe := fun _ => hR.ask _
    interruptTable := hR.ask _
    write := hR.write
    tables := fun _ _ _ => hR.left _ _ _ }

theorem use (u : Use) (v : View σ) : R v (u.perform E v) := hR.allowsUsing.use u v

end AllowsRemembering

/-- Uses that read no register, and of which no more is remembered than their own answer. -/
def Use.IsMinor : Use → Prop
  | .interruptTable | .interruptTableLimit | .isReadable _ | .lower _ _ | .string _ _ => True
  | _ => False

structure SameTables (v v' : View σ) : Prop where
  config : v'.observer.config = v.observer.config
  values : v'.observer.caches.values = v.observer.caches.values
  bases : v'.observer.caches.bases = v.observer.caches.bases
  upper : v'.observer.caches.upper = v.observer.caches.upper
  auxv : v'.observer.caches.auxv = v.observer.caches.auxv

theorem isPreorder_sameTables : IsPreorder (SameTables (σ := σ)) where
  refl _ := ⟨rfl, rfl, rfl, rfl, rfl⟩
  trans h h' := ⟨h'.config.trans h.config, h'.values.trans h.values, h'.bases.trans h.bases,
    h'.upper.trans h.upper, h'.auxv.trans h.auxv⟩

theorem sameTables_ask (x : StateM σ α) : Along SameTables (View.ask x) :=
  fun _ => ⟨rfl, rfl, rfl, rfl, rfl⟩

theorem Use.IsMinor.sameTables {u : Use} (hu : u.IsMinor) (v : View σ) :
    SameTables v (u.perform E v) := by
  have hdescriptor (key : String) (f : UInt64 × UInt64 → UInt64) :=
    along_descriptor (E := E) isPreorder_sameTables (sameTables_ask _)
      (fun _ _ => ⟨rfl, rfl, rfl, rfl, rfl⟩) key f
  cases u with
  | interruptTable => exact hdescriptor _ _ v
  | interruptTableLimit => exact hdescriptor _ _ v
  | isReadable a =>
    exact along_remembered isPreorder_sameTables (t := .readable) a
      (fun _ _ => ⟨rfl, rfl, rfl, rfl, rfl⟩) (sameTables_ask _) v
  | lower a max? =>
    exact along_remembered isPreorder_sameTables (t := .lower) (a, _)
      (fun _ _ => ⟨rfl, rfl, rfl, rfl, rfl⟩) (sameTables_ask _) v
  | string a max? => exact ⟨rfl, rfl, rfl, rfl, rfl⟩
  | _ => cases hu

theorem upper_leaves {p : Observer → α}
    (hp : ∀ o table, p { o with caches := { o.caches with upper := table } } = p o)
    (a : Address) (max? : Option Nat) :
    Along (Leaves fun v => p v.observer) (Boundary.upper E a max?) := by
  intro v
  have hask : Along (Leaves fun v : View σ => p v.observer)
      (View.ask (Boundary.findUpper E a (max?.getD v.observer.config.maxPages))) := fun _ => rfl
  have hR := isPreorder_leaves fun v : View σ => p v.observer
  exact along_remembered hR (t := .upper) (a, _) (fun v _ => hp v.observer _) hask v

theorem upper_tables (a : Address) (max? : Option Nat) (v : View σ) :
    let v' := (Boundary.upper E a max? v).2
    v'.observer.caches.values = v.observer.caches.values ∧
      v'.observer.caches.bases = v.observer.caches.bases :=
  ⟨upper_leaves (p := fun o => o.caches.values) (fun _ _ => rfl) a max? v,
    upper_leaves (p := fun o => o.caches.bases) (fun _ _ => rfl) a max? v⟩

end Debuggee.Registers
