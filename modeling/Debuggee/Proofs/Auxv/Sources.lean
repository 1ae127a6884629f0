import Debuggee.Proofs.Auxv.Recovery
import Debuggee.Proofs.Boundary.Reach
import Debuggee.Proofs.Debugger.Snapshot
import Debuggee.Proofs.Registers.History

namespace Debuggee

open Registers

variable {σ ν τ α β : Type}

namespace Registers

variable {E : Engine σ ν τ} {v v' : View σ}

theorem fst_get_congr (hE : E.IsQuiet) (hengine : v'.engine = v.engine)
    (hvalues : v'.observer.caches.values = v.observer.caches.values) (name : String) :
    (get E name v').1 = (get E name v).1 := by
  rw [fst_get hE, fst_get hE, hengine]
  unfold recallAt
  rw [hvalues]

theorem fst_get_get (hE : E.IsQuiet) (name name' : String) (v : View σ) :
    (get E name' (get E name v).2).1 = (get E name' v).1 := by
  obtain ⟨c, hc, h⟩ := get_recalls hE name v
  rw [h, fst_get hE, fst_get hE]
  cases hf : (E.frame? v.engine).1 with
  | none => rfl
  | some f => exact hc f hf _

end Registers

namespace Boundary

variable {E : Engine σ ν τ} {v v' : View σ}

theorem fst_upper_congr (hengine : v'.engine = v.engine)
    (hconfig : v'.observer.config = v.observer.config)
    (hupper : v'.observer.caches.upper = v.observer.caches.upper) (a : Address)
    (max? : Option Nat) : (upper E a max? v').1 = (upper E a max? v).1 := by
  rw [fst_upper, fst_upper, hengine, hconfig, hupper]

end Boundary

namespace AuxvSource

section

variable (E : Engine σ ν τ)

/-- Two observers, set up alike, of one debuggee take the sources of its vector to be the same. -/
structure Alike (v v' : View σ) : Prop where
  engine : v'.engine = v.engine
  config : v'.observer.config = v.observer.config
  sp : (sp E v').1 = (sp E v).1
  upper : ∀ a, (Registers.sp E v).1 = some a →
    (Boundary.upper E a none v').1 = (Boundary.upper E a none v).1

/--
Nothing has happened to the debuggee since the observer was attached, or since it heard that the
debuggee halted.
-/
def Undisturbed (v : View σ) : List (Incident σ) → Prop
  | [] => True
  | i :: past => i = .forget .stop ∨ Undisturbed v past ∧
    (lived E v (i :: past)).engine = (lived E v past).engine

def Respects (sp? : Option Address) (x : StateM (View σ) α) : Prop :=
  ∀ ⦃v v'⦄, Alike E v v' → (sp E v).1 = sp? → (x v').1 = (x v).1 ∧ Alike E v (x v).2

end

variable {E : Engine σ ν τ} {v v' : View σ}

namespace Alike

theorem refl (v : View σ) : Alike E v v := ⟨rfl, rfl, rfl, fun _ _ => rfl⟩

theorem symm (h : Alike E v v') : Alike E v' v where
  engine := h.engine.symm
  config := h.config.symm
  sp := h.sp.symm
  upper a ha := (h.upper a (h.sp ▸ ha)).symm

theorem trans {v'' : View σ} (h : Alike E v v') (h' : Alike E v' v'') : Alike E v v'' where
  engine := h'.engine.trans h.engine
  config := h'.config.trans h.config
  sp := h'.sp.trans h.sp
  upper a ha := (h'.upper a (h.sp.trans ha)).trans (h.upper a ha)

theorem isPreorder : IsPreorder (Alike E) := ⟨refl, trans⟩

theorem of_tables (hE : E.IsQuiet) (hengine : v'.engine = v.engine)
    (hconfig : v'.observer.config = v.observer.config)
    (hvalues : v'.observer.caches.values = v.observer.caches.values)
    (hupper : v'.observer.caches.upper = v.observer.caches.upper) : Alike E v v' where
  engine := hengine
  config := hconfig
  sp := fst_get_congr hE hengine hvalues "sp"
  upper a _ := Boundary.fst_upper_congr hengine hconfig hupper a none

end Alike

theorem along_ask {x : StateM σ α} (hx : Along Unchanged x) : Along (Alike E) (View.ask x) := by
  intro v
  rw [View.ask_apply (hx v.engine)]
  exact .refl v

theorem get_boundaries (name : String) (v : View σ) :
    let v' := (Registers.get E name v).2
    v'.observer.config = v.observer.config ∧
      v'.observer.caches.upper = v.observer.caches.upper :=
  ⟨along_get (allowsAsking_leaves (p := Observer.config) fun _ _ => rfl) name v,
    along_get (allowsAsking_leaves (p := fun o => o.caches.upper) fun _ _ => rfl) name v⟩

theorem allowsGetting_alike (hE : E.IsQuiet) : AllowsGetting E (Alike E) where
  toIsPreorder := Alike.isPreorder
  arch? := along_ask hE.asks_arch?.quiet
  get name v := by
    have hengine : (Registers.get E name v).2.engine = v.engine := looks_get hE name v
    obtain ⟨hconfig, hupper⟩ := get_boundaries (E := E) name v
    exact {
      engine := hengine
      config := hconfig
      sp := fst_get_get hE name "sp" v
      upper := fun a _ => Boundary.fst_upper_congr hengine hconfig hupper a none }

theorem along_upper (hE : E.IsStill) (a : Address) (max? : Option Nat) :
    Along (Alike E) (Boundary.upper E a max?) := by
  intro v
  let max := max?.getD v.observer.config.maxPages
  let top := (Boundary.findUpper E a max v.engine).1
  cases h : v.observer.caches.upper.get? (a, max) with
  | some top =>
    have hsame : Boundary.upper E a max? v = (top, v) :=
      View.remembered_of_get? (t := .upper) (k := (a, max)) h
    rw [hsame]
    exact .refl v
  | none =>
    let w : View σ := ⟨{ v.observer with caches := { v.observer.caches with
      upper := v.observer.caches.upper.insert (a, max) top } }, v.engine⟩
    have hnew : Boundary.upper E a max? v = (top, w) := by
      refine (View.remembered_of_get?_eq_none (t := .upper) (k := (a, max)) h).trans ?_
      rw [View.ask_apply ((Boundary.isQuestion_findUpper E a max).unchanged hE v.engine)]
      rfl
    rw [hnew]
    have hsp : (sp E w).1 = (sp E v).1 :=
      fst_get_congr hE.toIsQuiet (show w.engine = v.engine from rfl) rfl "sp"
    refine ⟨rfl, rfl, hsp, fun b _ => ?_⟩
    rw [Boundary.fst_upper, Boundary.fst_upper]
    show ((v.observer.caches.upper.insert (a, max) top).get? (b, _)).getD _ = _
    rw [Cache.get?_insert]
    split
    · next hkey =>
      rw [hkey, h, (Prod.mk.inj hkey).1, (Prod.mk.inj hkey).2]
      rfl
    · rfl

namespace Respects

variable {sp? : Option Address}

theorem pure (a : α) : Respects E sp? (Pure.pure a) := fun _ _ _ _ => ⟨rfl, .refl _⟩

theorem of_along {x : StateM (View σ) α} (hx : Along (Alike E) x)
    (h : ∀ ⦃v v'⦄, Alike E v v' → (sp E v).1 = sp? → (x v').1 = (x v).1) : Respects E sp? x :=
  fun v _ hv hsp => ⟨h hv hsp, hx v⟩

theorem bind {x : StateM (View σ) α} {f : α → StateM (View σ) β} (hx : Respects E sp? x)
    (hf : ∀ a, Respects E sp? (f a)) : Respects E sp? (x >>= f) := by
  intro v v' hv hsp
  obtain ⟨hanswer, hleft⟩ := hx hv hsp
  -- the other view has to be compared with what is left of itself too
  obtain ⟨-, hleft'⟩ := hx (.refl v') (hv.sp.trans hsp)
  have hafter : Alike E (x v).2 (x v').2 := hleft.symm.trans (hv.trans hleft')
  obtain ⟨h, hrest⟩ := hf (x v).1 hafter (hleft.sp.trans hsp)
  refine ⟨?_, hleft.trans hrest⟩
  rw [View.bind_apply, View.bind_apply, hanswer, h]

theorem bind_or {c : Prop} [Decidable c] {x : StateM (View σ) α} {f : α → StateM (View σ) β}
    (hx : Respects E sp? x) (a : α) (hf : ∀ a, Respects E sp? (f a)) :
    Respects E sp? (if c then x >>= f else f a) := by
  split
  · exact bind hx hf
  · exact hf a

theorem ask {x : StateM σ α} (hx : Along Unchanged x) : Respects E sp? (View.ask x) :=
  .of_along (along_ask hx) fun v v' hv _ => by
    show (x v'.engine).1 = (x v.engine).1
    rw [hv.engine]

theorem act {x : Action σ α} (hx : Along Unchanged x) : Respects E sp? (View.act x) :=
  ask hx

theorem attempt {x : Action (View σ) α} (hx : Respects E sp? x) : Respects E sp? x.attempt := by
  intro v v' hv hsp
  obtain ⟨hanswer, hleft⟩ := hx hv hsp
  rw [Action.attempt_apply, Action.attempt_apply, hanswer]
  exact ⟨rfl, hleft⟩

theorem get_bind {f : View σ → StateM (View σ) α}
    (hf : ∀ ⦃v v'⦄, Alike E v v' → f v' = f v) (h : ∀ v, Respects E sp? (f v)) :
    Respects E sp? (MonadState.get >>= f) := by
  intro v v' hv hsp
  show (f v' v').1 = (f v v).1 ∧ Alike E v (f v v).2
  rw [hf hv]
  exact h v hv hsp

theorem sp_bind (hE : E.IsQuiet) {f : Option Address → StateM (View σ) α}
    (hf : Respects E sp? (f sp?)) : Respects E sp? (Registers.sp E >>= f) := by
  intro v v' hv hsp
  have hleft : Along (Alike E) (Registers.sp E) := (allowsGetting_alike hE).get "sp"
  have hafter := (hleft v).symm.trans (hv.trans (hleft v'))
  obtain ⟨h, hrest⟩ := hf hafter ((hleft v).sp.trans hsp)
  rw [View.bind_apply, View.bind_apply, hv.sp.trans hsp, hsp]
  exact ⟨h, (hleft v).trans hrest⟩

theorem sp_andThen (hE : E.IsQuiet) {f : Option Address → Action (View σ) α}
    (hf : Respects E sp? (f sp?)) :
    Respects E sp? (Action.ofState (Registers.sp E) >>= f : Action (View σ) α) := by
  have hbind : (Action.ofState (Registers.sp E) >>= f : Action (View σ) α) =
      (Registers.sp E >>= f : StateM (View σ) (Except Error α)) := by
    funext v
    rw [Action.bind_apply, Action.ofState_apply]
    rfl
  rw [hbind]
  exact sp_bind hE hf

theorem upper (hE : E.IsStill) (a : Address) :
    Respects E (some a) (Boundary.upper E a none) :=
  .of_along (along_upper hE a none) fun _ _ hv hsp => hv.upper a hsp

theorem string (hE : E.IsStill) (a : Address) (max? : Option Nat) :
    Respects E sp? (Boundary.string E a max?) :=
  get_bind (fun _ _ hv => by rw [hv.config]) fun _ =>
    ask ((Memory.isQuestion_string E a _).unchanged hE)

end Respects

section

variable {sp? : Option Address} (hE : E.IsStill)

include hE

theorem respects_walk (i : Inferior) (skew : Nat) : Respects E sp? (walk E i skew) := by
  have hpointer : Respects E sp? (fromStackPointer E i skew) := by
    refine .sp_andThen hE.toIsQuiet ?_
    cases sp? with
    | none => exact .pure _
    | some sp =>
      refine .act (.andThen isPreorder_unchanged (hE.snd_archOf i) fun arch => ?_)
      exact .andThen isPreorder_unchanged (Boundary.along_stackTop hE sp) fun top =>
        along_readStack hE arch.pointerSize top skew
  exact .bind hpointer.attempt fun _ => .pure _

theorem respects_fileNameFromStack : Respects E sp? (fileNameFromStack E) := by
  refine .sp_bind hE.toIsQuiet ?_
  cases sp? with
  | none => exact .pure _
  | some sp =>
    refine .bind (.ask ((Memory.isQuestion_peek E sp).unchanged hE)) fun first? => ?_
    dsimp only
    split
    · exact .pure _
    · refine .bind (.upper hE sp) fun top => ?_
      refine .bind (.ask ((isQuestion_lastString? E top).unchanged hE)) fun start? => ?_
      cases start? with
      | none => exact .pure _
      | some a =>
        refine .bind (.string hE a _) fun name => ?_
        split
        · exact .pure _
        · exact .get_bind (fun _ _ hv => by rw [hv.config]) fun _ => .pure _

theorem respects_fromStack (i : Inferior) : Respects E sp? (fromStack E i) := by
  refine .bind (.ask (E.isQuestion_runsLinux.unchanged hE)) fun isLinux => ?_
  cases isLinux with
  | false => exact .pure _
  | true =>
    refine .bind (.ask fun _ => rfl) fun isKernel => ?_
    cases isKernel with
    | true => exact .pure _
    | false =>
      refine .bind (respects_walk hE i 0) fun aligned => ?_
      refine .bind_or (respects_walk hE i 1) aligned fun v => ?_
      dsimp only
      split
      · refine .bind (respects_fileNameFromStack hE) fun path? => ?_
        cases path? <;> exact .pure _
      · exact .pure _

theorem respects_readNow : Respects E sp? (readNow E) := by
  refine .get_bind (fun _ _ hv => by rw [hv.engine]) fun v => ?_
  cases E.selectedInferior v.engine with
  | none => exact .pure _
  | some i =>
    refine .bind (.ask ((isQuestion_listed? E).unchanged hE)) fun listed? => ?_
    cases listed? with
    | none => exact respects_fromStack hE i
    | some listed => exact .pure _

end

theorem fst_get_of_alike (hE : E.IsStill) (hv : Alike E v v')
    (h : v.observer.caches.auxv = .empty) (h' : v'.observer.caches.auxv = .empty) :
    (AuxvSource.get E v').1 = (AuxvSource.get E v).1 := by
  rw [fst_get_of_auxv h, fst_get_of_auxv h']
  exact (respects_readNow hE hv rfl).1

theorem fst_readNow_of_listed {listed : Auxv} (h : (listed? E v.engine).1 = some listed) :
    (readNow E v).1 = if (E.selectedInferior v.engine).isSome then listed else {} := by
  have hself : (MonadState.get : StateM (View σ) (View σ)) v = (v, v) := rfl
  have hask : (View.ask (listed? E) v).1 = some listed := h
  rw [readNow, View.bind_apply, hself]
  dsimp only
  cases E.selectedInferior v.engine with
  | none => rfl
  | some i =>
    dsimp only
    rw [View.bind_apply, hask]
    rfl

theorem along_auxv (hE : E.IsStill) : Along (Alike E) (AuxvSource.get E) :=
  along_remembered Alike.isPreorder (t := .auxv) ()
    (fun _ _ => .of_tables hE.toIsQuiet rfl rfl rfl rfl)
    fun v => (respects_readNow hE (.refl v) rfl).2

theorem write_tables (name : String) (value : UInt64) (v : View σ) :
    let v' := (Registers.write E name value v).2
    v'.observer.config = v.observer.config ∧
      (v'.observer.caches.values = v.observer.caches.values ∨ v'.observer.caches.values = .empty) ∧
      v'.observer.caches.upper = v.observer.caches.upper ∧
      v'.observer.caches.auxv = v.observer.caches.auxv := by
  dsimp only
  rcases write_cases (E := E) name value v with ⟨-, hforgotten⟩ | ⟨-, hsame⟩
  · rw [hforgotten]
    exact ⟨rfl, .inr rfl, rfl, rfl⟩
  · rw [hsame]
    exact ⟨rfl, .inl rfl, rfl, rfl⟩

theorem allowsAsking_auxv : AllowsAsking E (Leaves fun v : View σ => v.observer.caches.auxv) :=
  allowsAsking_leaves (p := fun o => o.caches.auxv) fun _ _ => rfl

theorem auxv_use {u : Use} (hu : u ≠ .auxv) (h : v.observer.caches.auxv = .empty) :
    (u.perform E v).observer.caches.auxv = .empty := by
  have hR := (allowsAsking_auxv (E := E)).allowsGetting
  have hminor (hu : u.IsMinor) : (u.perform E v).observer.caches.auxv = .empty :=
    (hu.sameTables v).auxv.trans h
  cases u with
  | read r => exact (along_reading hR r v).trans h
  | write name value => exact (write_tables name value v).2.2.2.trans h
  | base segment => exact (along_segmentBase hR (fun _ => rfl) (fun _ _ => rfl) segment v).trans h
  | instructionSet => exact (along_instructionSet hR v).trans h
  | upper a max? =>
    exact (upper_leaves (p := fun o => o.caches.auxv) (fun _ _ => rfl) a max? v).trans h
  | auxv => exact absurd rfl hu
  | invalidate => rfl
  | _ => exact hminor trivial

theorem auxv_lived {before since : List (Incident σ)} (hsince : .use .auxv ∉ since)
    (h : (lived E v before).observer.caches.auxv = .empty) :
    (lived E v (since ++ before)).observer.caches.auxv = .empty := by
  induction since with
  | nil => exact h
  | cons i since ih =>
    obtain ⟨hi, hsince⟩ := not_or.1 (mt List.mem_cons.2 hsince)
    have ih := ih hsince
    cases i with
    | forget e =>
      let auxv := (lived E v (since ++ before)).observer.caches.auxv
      rcases auxv.after_eq_or [.start, .newModule] e with h | h
      · exact h.trans ih
      · exact h
    | snapshot =>
      exact (along_snapshotCommon allowsAsking_auxv.allowsGetting (fun _ _ _ => rfl) _).trans ih
    | reset => exact ih
    | change f => exact ih
    | use u => exact auxv_use (fun hu => hi (congrArg Incident.use hu).symm) ih

theorem alike_attached_of_alike {config : Config} (h : Alike E v (attached config v.engine))
    (hv : Alike E v v') : Alike E v' (attached config v'.engine) := by
  rw [hv.engine]
  exact hv.symm.trans h

theorem alike_attached_of_tables (hE : E.IsQuiet) {config : Config}
    (h : Alike E v (attached config v.engine)) (hengine : v'.engine = v.engine)
    (hconfig : v'.observer.config = v.observer.config)
    (hvalues : v'.observer.caches.values = v.observer.caches.values ∨
      v'.observer.caches.values = .empty)
    (hupper : v'.observer.caches.upper = v.observer.caches.upper ∨
      v'.observer.caches.upper = .empty) : Alike E v' (attached config v'.engine) := by
  rw [hengine]
  let new := attached config v.engine
  have hsp : (sp E v').1 = (sp E new).1 := by
    rcases hvalues with hvalues | hvalues
    · exact (fst_get_congr hE hengine hvalues "sp").trans h.sp.symm
    · exact fst_get_congr hE (show v'.engine = new.engine from hengine) hvalues "sp"
  refine ⟨hengine.symm, h.config.trans hconfig.symm, hsp.symm, fun a ha => ?_⟩
  rcases hupper with hupper | hupper
  · have hsame := Boundary.fst_upper_congr (E := E) hengine hconfig hupper a none
    rw [hsame]
    exact h.upper a (h.sp.symm.trans (hsp.symm.trans ha))
  · exact (Boundary.fst_upper_congr (show v'.engine = new.engine from hengine)
      (hconfig.trans h.config.symm) hupper a none).symm

theorem alike_attached_of_empty (hE : E.IsQuiet) (hvalues : v.observer.caches.values = .empty)
    (hupper : v.observer.caches.upper = .empty) :
    Alike E v (attached v.observer.config v.engine) :=
  .of_tables hE rfl rfl hvalues.symm hupper.symm

theorem config_lived (v : View σ) (life : List (Incident σ)) :
    (lived E v life).observer.config = v.observer.config := by
  induction life with
  | nil => rfl
  | cons i past ih =>
    cases i with
    | snapshot =>
      have hR := allowsRemembering_config.allowsGetting (E := E)
      exact (along_snapshotCommon hR (fun _ _ _ => rfl) _).trans ih
    | use u => exact (allowsRemembering_config.use u _).trans ih
    | _ => exact ih

theorem alike_attached_use (hE : E.IsStill) {config : Config}
    (h : Alike E v (attached config v.engine)) (u : Use)
    (hengine : (u.perform E v).engine = v.engine) :
    Alike E (u.perform E v) (attached config (u.perform E v).engine) := by
  have hR : AllowsGetting E (Alike E) := allowsGetting_alike hE.toIsQuiet
  have hminor (hu : u.IsMinor) : Alike E (u.perform E v) (attached config (u.perform E v).engine) :=
    have hsame := hu.sameTables (E := E) v
    alike_attached_of_tables hE.toIsQuiet h hengine hsame.config (.inl hsame.values)
      (.inl hsame.upper)
  cases u with
  | read r => exact alike_attached_of_alike h (along_reading hR r v)
  | write name value =>
    obtain ⟨hconfig, hvalues, hupper, -⟩ := write_tables (E := E) name value v
    exact alike_attached_of_tables hE.toIsQuiet h hengine hconfig hvalues (.inl hupper)
  | base segment =>
    have hptid : Along (Alike E) (View.ask E.selectedPtid?) := along_ask hE.snd_selectedPtid?
    exact alike_attached_of_alike h <| along_segmentBase hR hptid
      (fun _ _ => .of_tables hE.toIsQuiet rfl rfl rfl rfl) segment v
  | instructionSet => exact alike_attached_of_alike h (along_instructionSet hR v)
  | upper a max? => exact alike_attached_of_alike h (along_upper hE a max? v)
  | auxv => exact alike_attached_of_alike h (along_auxv hE v)
  | invalidate => exact alike_attached_of_tables hE.toIsQuiet h rfl rfl (.inr rfl) (.inr rfl)
  | _ => exact hminor trivial

theorem alike_lived (hE : E.IsStill) {config : Config} {s : σ} {life : List (Incident σ)}
    (h : Undisturbed E (attached config s) life) :
    let v := lived E (attached config s) life
    Alike E v (attached config v.engine) := by
  induction life with
  | nil => exact .refl _
  | cons i past ih =>
    rcases h with rfl | ⟨hpast, hengine⟩
    -- to hear of the halt is to forget both sources, whatever was remembered of them
    · have hconfig := config_lived (E := E) (attached config s) (.forget .stop :: past)
      have hfresh := alike_attached_of_empty (v := lived E (attached config s)
        (.forget .stop :: past)) hE.toIsQuiet rfl rfl
      rwa [hconfig] at hfresh
    have ih := ih hpast
    cases i with
    | forget e =>
      exact alike_attached_of_tables hE.toIsQuiet ih rfl rfl (Cache.after_eq_or ..)
        (Cache.after_eq_or ..)
    | snapshot =>
      exact alike_attached_of_alike ih <| along_snapshotCommon (allowsGetting_alike hE.toIsQuiet)
        (fun _ _ _ => .of_tables hE.toIsQuiet rfl rfl rfl rfl) _
    | reset => exact alike_attached_of_alike ih (.of_tables hE.toIsQuiet rfl rfl rfl rfl)
    | change f => exact alike_attached_of_alike ih (.of_tables hE.toIsQuiet hengine rfl rfl rfl)
    | use u => exact alike_attached_use hE ih u hengine

/--
The first vector that is read after the debuggee started or loaded a module is the one that a new
observer would read, if the engine lists the vector, or if the observer takes the stack pointer and
the end of the memory above it to be what a new one would, or if nothing has happened to the
debuggee since it halted.
-/
theorem get_eq_attached (hE : E.IsStill) (config : Config) (s : σ)
    (before since : List (Incident σ)) {e : Event} (he : e = .start ∨ e = .newModule)
    (hsince : .use .auxv ∉ since) :
    let life := since ++ .forget e :: before
    let v := lived E (attached config s) life
    let new := attached config v.engine
    (listed? E v.engine).1.isSome ∨ Alike E v new ∨ Undisturbed E (attached config s) life →
      (AuxvSource.get E v).1 = (AuxvSource.get E new).1 := by
  intro life v new hsources
  have hforgotten :
      (lived E (attached config s) (.forget e :: before)).observer.caches.auxv = .empty := by
    rcases he with rfl | rfl <;> rfl
  have hv : v.observer.caches.auxv = .empty := auxv_lived hsince hforgotten
  rcases hsources with hlisted | halike | hundisturbed
  · obtain ⟨listed, hlisted⟩ := Option.isSome_iff_exists.1 hlisted
    rw [fst_get_of_auxv hv, fst_get_of_auxv (v := new) rfl, fst_readNow_of_listed hlisted,
      fst_readNow_of_listed (v := new) hlisted]
    rfl
  · exact (fst_get_of_alike hE halike hv rfl).symm
  · exact (fst_get_of_alike hE (alike_lived hE hundisturbed) hv rfl).symm

end AuxvSource

namespace Machine

def vectorStack : Machine :=
  stacked 0x7ffd0fb0 [0x7ffd0f00, 0, 6, 0x1000, 7, 0x7fff0000, 9, 0x401040, 0, 0]

def vectorStackElsewhere : Machine := setRegister ⟨0⟩ "sp" ⟨0x5000, 8, false⟩ vectorStack

def vectorStackBelow : Machine := mapPages 0x7ffd1000 1 ⟨true, true, false⟩ vectorStack

def changeAfter (u : Use) (events : List Event) : List (Incident Machine) :=
  events.map .forget ++ [.change fun _ => vectorStack, .use u]

theorem get_eq_attached_halted :
    let v₀ := attached {} vectorStackElsewhere
    let life := changeAfter (.read .sp) [.stop, .start]
    AuxvSource.Undisturbed engine v₀ life ∧
      (AuxvSource.get engine (lived engine v₀ life)).1.get? AuxvKind.entry =
        some (.int 0x401040) := by
  intro v₀ life
  have hhalted : AuxvSource.Undisturbed engine v₀ life := .inl rfl
  have hget := AuxvSource.get_eq_attached isStill {} vectorStackElsewhere
    [.change fun _ => vectorStack, .use (.read .sp)] [.forget .stop] (.inl rfl) (by simp)
    (.inr (.inr hhalted))
  refine ⟨hhalted, ?_⟩
  refine (congrArg (Auxv.get? · AuxvKind.entry) hget).trans ?_
  decide +kernel

/-- A start makes an observer forget neither where the stack was nor where memory ended above it. -/
theorem get_ne_attached_unhalted :
    let moved := lived engine (attached {} vectorStackElsewhere)
      (changeAfter (.read .sp) [.start])
    let shrunk := lived engine (attached {} vectorStackBelow)
      (changeAfter (.upper 0x7ffd0fb0 none) [.start])
    (AuxvSource.get engine moved).1 ≠ (AuxvSource.get engine (attached {} moved.engine)).1 ∧
      (AuxvSource.get engine shrunk).1 ≠
        (AuxvSource.get engine (attached {} shrunk.engine)).1 := by
  decide +kernel

end Machine

end Debuggee
