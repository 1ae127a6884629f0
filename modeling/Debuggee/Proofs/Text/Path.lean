import Debuggee.Text.Path
import Mathlib.Logic.Relation

namespace Debuggee.Text

theorem pieces_eq_splitOn (separator : Char) (text : List Char) :
    pieces separator text = text.splitOn separator := by
  induction text with
  | nil => rfl
  | cons c cs ih =>
    rw [pieces, List.splitOn_cons_eq_if_modifyHead, ih]
    by_cases hc : c = separator
    · rw [if_pos hc, if_pos (beq_iff_eq.2 hc)]
    · rw [if_neg hc, if_neg (mt beq_iff_eq.1 hc)]
      obtain ⟨p, ps, hps⟩ := List.exists_cons_of_ne_nil (List.splitOn_ne_nil separator cs)
      rw [hps, List.modifyHead_cons]

theorem notMem_of_mem_pieces {separator : Char} {text piece : List Char}
    (h : piece ∈ pieces separator text) : separator ∉ piece := by
  induction text generalizing piece with
  | nil =>
    rw [List.mem_singleton.1 h]
    exact List.not_mem_nil
  | cons c cs ih =>
    obtain ⟨p, ps, hps⟩ := List.exists_cons_of_ne_nil (pieces_ne_nil separator cs)
    rw [hps] at ih
    rw [pieces, hps] at h
    split at h
    · rcases List.mem_cons.1 h with rfl | h
      · exact List.not_mem_nil
      · exact ih h
    · next hc =>
      rcases List.mem_cons.1 h with rfl | h
      · exact List.not_mem_cons_of_ne_of_not_mem (Ne.symm hc) (ih List.mem_cons_self)
      · exact ih (List.mem_cons_of_mem p h)

namespace Path

structure IsPlain (name : List Char) : Prop where
  ne_nil : name ≠ []
  ne_dot : name ≠ ['.']
  ne_dots : name ≠ ['.', '.']
  no_slash : '/' ∉ name

/-- A slash and plain names with a slash between each two. -/
def IsNormal (path : List Char) : Prop :=
  ∃ names, (∀ name ∈ names, IsPlain name) ∧ path = ofComponents names

theorem isName_iff {piece : List Char} : isName piece = true ↔ piece ≠ [] ∧ piece ≠ ['.'] := by
  simp [isName]

theorem eq_nil_or_dot {piece : List Char} (h : ¬isName piece = true) : piece = [] ∨ piece = ['.'] :=
  Classical.byContradiction fun hother => h (isName_iff.2 (not_or.1 hother))

theorem IsPlain.isName {name : List Char} (h : IsPlain name) : isName name = true :=
  isName_iff.2 ⟨h.ne_nil, h.ne_dot⟩

@[simp] theorem components_nil : components [] = [] := rfl

theorem components_append (before after : List Char) :
    components (before ++ '/' :: after) = components before ++ components after := by
  rw [components, pieces_eq_splitOn, List.splitOn_append_cons_self, List.filter_append,
    ← pieces_eq_splitOn, ← pieces_eq_splitOn]
  rfl

theorem components_cons (path : List Char) : components ('/' :: path) = components path :=
  components_append [] path

theorem components_intercalate {names : List (List Char)}
    (h : ∀ name ∈ names, isName name = true ∧ '/' ∉ name) :
    components (['/'].intercalate names) = names := by
  cases names with
  | nil => rfl
  | cons name names =>
    rw [components, pieces_eq_splitOn, List.splitOn_intercalate '/' (fun n hn => (h n hn).2)
      (List.cons_ne_nil name names), List.filter_eq_self.2 fun n hn => (h n hn).1]

theorem components_ofComponents {names : List (List Char)} (h : ∀ name ∈ names, IsPlain name) :
    components (ofComponents names) = names := by
  rw [ofComponents, components_cons]
  exact components_intercalate fun name hname => ⟨(h name hname).isName, (h name hname).no_slash⟩

theorem of_mem_components {path name : List Char} (h : name ∈ components path) :
    isName name = true ∧ '/' ∉ name :=
  ⟨(List.mem_filter.1 h).2, notMem_of_mem_pieces (List.mem_filter.1 h).1⟩

theorem components_join (directory path : List Char) :
    components (join directory path) =
      if isAbsolute path then components path else components directory ++ components path := by
  unfold join
  split
  · rfl
  split
  · next hlast =>
    rcases Bool.or_eq_true_iff.1 hlast with hempty | hslash
    · rw [List.isEmpty_iff.1 hempty]
      rfl
    · obtain ⟨before, rfl⟩ := List.getLast?_eq_some_iff.1 (of_decide_eq_true hslash)
      rw [List.append_assoc, List.singleton_append, components_append, components_append,
        components_nil, List.append_nil]
  · exact components_append directory path

theorem isAbsolute_cons (c : Char) (cs : List Char) : isAbsolute (c :: cs) = decide (c = '/') := by
  by_cases hc : c = '/'
  · subst hc
    rfl
  · simp [isAbsolute, hc]

theorem isAbsolute_iff {path : List Char} :
    isAbsolute path = true ↔ ∃ rest, path = '/' :: rest := by
  cases path with
  | nil => exact iff_of_false Bool.false_ne_true nofun
  | cons c cs => simp [isAbsolute_cons]

theorem isAbsolute_join {directory : List Char} (h : isAbsolute directory = true)
    (path : List Char) : isAbsolute (join directory path) = true := by
  obtain ⟨rest, rfl⟩ := isAbsolute_iff.1 h
  unfold join
  split
  · next hpath => exact hpath
  · split <;> rfl

/-- From where some names lead, along pieces of a path, to where others do. -/
inductive Walk : List (List Char) → List (List Char) → List (List Char) → Prop
  | done {names} : Walk names [] names
  | stay {names piece pieces last} : piece = [] ∨ piece = ['.'] → Walk names pieces last →
      Walk names (piece :: pieces) last
  | enter {names name pieces last} : IsPlain name → Walk (names ++ [name]) pieces last →
      Walk names (name :: pieces) last
  | leave {names name pieces last} : Walk names pieces last →
      Walk (names ++ [name]) (['.', '.'] :: pieces) last
  | atRoot {pieces last} : Walk [] pieces last → Walk [] (['.', '.'] :: pieces) last

inductive Leads (directory : List Char) : List Char → List (List Char) → Prop
  | fromRoot {path last} : isAbsolute path = true → Walk [] (pieces '/' path) last →
      Leads directory path last
  | fromDirectory {path here last} : isAbsolute path = false → Walk [] (pieces '/' directory) here →
      Walk here (pieces '/' path) last → Leads directory path last

theorem step_of_isPlain {name : List Char} (h : IsPlain name) (names : List (List Char)) :
    step names name = names ++ [name] := if_neg h.ne_dots

@[simp] theorem step_dots (names : List (List Char)) : step names ['.', '.'] = names.dropLast :=
  if_pos rfl

theorem Walk.eq_foldl {names ps last : List (List Char)} (h : Walk names ps last) :
    last = (ps.filter isName).foldl step names := by
  induction h with
  | done => rfl
  | stay hpiece _ ih =>
    rcases hpiece with rfl | rfl <;> exact ih
  | enter hname _ ih =>
    rw [List.filter_cons_of_pos hname.isName, List.foldl_cons, step_of_isPlain hname, ih]
  | leave _ ih =>
    rw [List.filter_cons_of_pos rfl, List.foldl_cons, step_dots, List.dropLast_concat, ih]
  | atRoot _ ih =>
    rw [List.filter_cons_of_pos rfl, List.foldl_cons, step_dots, List.dropLast_nil, ih]

theorem walk_foldl {ps : List (List Char)} (h : ∀ piece ∈ ps, '/' ∉ piece)
    (names : List (List Char)) : Walk names ps ((ps.filter isName).foldl step names) := by
  induction ps generalizing names with
  | nil => exact .done
  | cons piece ps ih =>
    obtain ⟨hpiece, hps⟩ := List.forall_mem_cons.1 h
    by_cases hname : isName piece = true
    · rw [List.filter_cons_of_pos hname, List.foldl_cons]
      by_cases hdots : piece = ['.', '.']
      · subst hdots
        rw [step_dots]
        rcases List.eq_nil_or_concat names with rfl | ⟨names, name, rfl⟩
        · exact .atRoot (ih hps [])
        · rw [List.concat_eq_append, List.dropLast_concat]
          exact .leave (ih hps names)
      · obtain ⟨hne, hdot⟩ := isName_iff.1 hname
        have hplain : IsPlain piece := ⟨hne, hdot, hdots, hpiece⟩
        rw [step_of_isPlain hplain]
        exact .enter hplain (ih hps _)
    · rw [List.filter_cons_of_neg hname]
      exact .stay (eq_nil_or_dot hname) (ih hps names)

theorem walk_pieces_iff {names last : List (List Char)} {path : List Char} :
    Walk names (pieces '/' path) last ↔ last = (components path).foldl step names := by
  constructor
  · exact Walk.eq_foldl
  · rintro rfl
    exact walk_foldl (fun _ => notMem_of_mem_pieces) names

theorem leads_iff {directory path : List Char} {last : List (List Char)} :
    Leads directory path last ↔ last = (components (join directory path)).foldl step [] := by
  rw [components_join]
  constructor
  · rintro (⟨habsolute, hwalk⟩ | ⟨hrelative, hhere, hwalk⟩)
    · rw [if_pos habsolute]
      exact walk_pieces_iff.1 hwalk
    · rw [hrelative, if_neg Bool.false_ne_true, List.foldl_append, ← walk_pieces_iff.1 hhere]
      exact walk_pieces_iff.1 hwalk
  · cases habsolute : isAbsolute path with
    | true => exact fun h => .fromRoot habsolute (walk_pieces_iff.2 h)
    | false =>
      rw [if_neg Bool.false_ne_true, List.foldl_append]
      exact fun h => .fromDirectory habsolute (walk_pieces_iff.2 rfl) (walk_pieces_iff.2 h)

theorem isPlain_foldl {names cs : List (List Char)} (hnames : ∀ name ∈ names, IsPlain name)
    (hcs : ∀ c ∈ cs, isName c = true ∧ '/' ∉ c) : ∀ name ∈ cs.foldl step names, IsPlain name := by
  induction cs generalizing names with
  | nil => exact hnames
  | cons c cs ih =>
    obtain ⟨⟨hname, hslash⟩, hcs⟩ := List.forall_mem_cons.1 hcs
    refine ih ?_ hcs
    by_cases hdots : c = ['.', '.']
    · subst hdots
      rw [step_dots]
      exact fun name hmem => hnames name (List.dropLast_subset names hmem)
    · obtain ⟨hne, hdot⟩ := isName_iff.1 hname
      have hplain : IsPlain c := ⟨hne, hdot, hdots, hslash⟩
      rw [step_of_isPlain hplain]
      exact List.forall_mem_append.2 ⟨hnames, List.forall_mem_singleton.2 hplain⟩

theorem foldl_step_of_isPlain {cs : List (List Char)} (h : ∀ c ∈ cs, IsPlain c)
    (names : List (List Char)) : cs.foldl step names = names ++ cs := by
  induction cs generalizing names with
  | nil => exact (List.append_nil names).symm
  | cons c cs ih =>
    obtain ⟨hc, hcs⟩ := List.forall_mem_cons.1 h
    rw [List.foldl_cons, step_of_isPlain hc, ih hcs, List.append_assoc, List.singleton_append]

theorem isPlain_of_mem_foldl {path : List Char} :
    ∀ name ∈ (components path).foldl step [], IsPlain name :=
  isPlain_foldl (List.forall_mem_nil _) fun _ => of_mem_components

theorem isNormal_absolute (directory path : List Char) : IsNormal (absolute directory path) :=
  ⟨_, isPlain_of_mem_foldl, rfl⟩

theorem IsNormal.absolute_eq {path : List Char} (h : IsNormal path) (directory : List Char) :
    absolute directory path = path := by
  obtain ⟨names, hnames, rfl⟩ := h
  have habsolute : isAbsolute (ofComponents names) = true := rfl
  rw [absolute, components_join, if_pos habsolute, components_ofComponents hnames,
    foldl_step_of_isPlain hnames, List.nil_append]

/-- A path and the same one written with a slash or a dot less. -/
inductive Respells : List Char → List Char → Prop
  | slashes {before after} : Respells (before ++ '/' :: '/' :: after) (before ++ '/' :: after)
  | lastSlash {path} : path ≠ [] → Respells (path ++ ['/']) path
  | dot {before after} : (∀ c ∈ after.head?, c = '/') →
      Respells (before ++ '/' :: '.' :: after) (before ++ '/' :: after)
  | firstDot {path} : isAbsolute path = false → Respells ('.' :: '/' :: path) path

abbrev SpeltAlike : List Char → List Char → Prop := Relation.EqvGen Respells

theorem components_dot_cons {after : List Char} (h : ∀ c ∈ after.head?, c = '/') :
    components ('.' :: after) = components after := by
  cases after with
  | nil => rfl
  | cons c after =>
    obtain rfl : c = '/' := h c rfl
    exact (components_append ['.'] after).trans (components_cons after).symm

theorem Respells.components_eq {path other : List Char} (h : Respells path other) :
    components path = components other := by
  cases h with
  | slashes => rw [components_append, components_append, components_cons]
  | lastSlash => rw [components_append, components_nil, List.append_nil]
  | dot hafter => rw [components_append, components_append, components_dot_cons hafter]
  | firstDot =>
    rw [components_dot_cons (by simp), components_cons]

theorem Respells.isAbsolute_eq {path other : List Char} (h : Respells path other) :
    isAbsolute path = isAbsolute other := by
  cases h with
  | @slashes before after | @dot before after _ =>
    cases before with
    | nil => rfl
    | cons c before => rw [List.cons_append, List.cons_append, isAbsolute_cons, isAbsolute_cons]
  | lastSlash hne =>
    obtain ⟨c, path, rfl⟩ := List.exists_cons_of_ne_nil hne
    rw [List.cons_append, isAbsolute_cons, isAbsolute_cons]
  | firstDot hrelative => exact hrelative.symm

theorem speltAlike_cons {piece : List Char} (hne : piece ≠ []) (before : List Char)
    (ps : List (List Char)) :
    SpeltAlike (before ++ (piece ++ '/' :: ['/'].intercalate ps))
      (before ++ ['/'].intercalate (piece :: ps)) := by
  cases ps with
  | nil =>
    rw [List.intercalate_nil, List.intercalate_singleton, ← List.append_assoc]
    exact .rel _ _ (.lastSlash (List.append_ne_nil_of_right_ne_nil before hne))
  | cons q ps =>
    rw [List.intercalate_cons_cons, List.append_assoc piece]
    exact .refl _

theorem speltAlike_filter (ps : List (List Char)) (before : List Char) :
    SpeltAlike (before ++ '/' :: ['/'].intercalate ps)
      (before ++ '/' :: ['/'].intercalate (ps.filter isName)) := by
  induction ps generalizing before with
  | nil => exact .refl _
  | cons piece ps ih =>
    by_cases hname : isName piece = true
    · rw [List.filter_cons_of_pos hname]
      cases ps with
      | nil => exact .refl _
      | cons q ps =>
        have hlast := speltAlike_cons (isName_iff.1 hname).1 (before ++ ['/'])
          ((q :: ps).filter isName)
        have hrest := ih (before ++ '/' :: piece)
        simp only [List.append_assoc, List.cons_append, List.nil_append] at hlast hrest
        rw [List.intercalate_cons_cons, List.append_assoc]
        exact .trans _ _ _ hrest hlast
    · rw [List.filter_cons_of_neg hname]
      cases ps with
      | nil =>
        rcases eq_nil_or_dot hname with rfl | rfl
        · exact .refl _
        · exact .rel _ _ (.dot nofun)
      | cons q ps =>
        have hslash : SpeltAlike (before ++ '/' :: '/' :: ['/'].intercalate (q :: ps))
            (before ++ '/' :: ['/'].intercalate (q :: ps)) := .rel _ _ .slashes
        rw [List.intercalate_cons_cons]
        refine .trans _ _ _ ?_ (ih before)
        rcases eq_nil_or_dot hname with rfl | rfl
        · exact hslash
        · exact .trans _ _ _ (.rel _ _ (.dot (by simp))) hslash

theorem isAbsolute_intercalate {names : List (List Char)}
    (h : ∀ name ∈ names, isName name = true ∧ '/' ∉ name) :
    isAbsolute (['/'].intercalate names) = false := by
  rcases names with _ | ⟨_ | ⟨c, name⟩, names⟩
  · rfl
  · exact absurd (h _ List.mem_cons_self).1 (by simp [isName])
  · have hc : c ≠ '/' := fun hc => (h _ List.mem_cons_self).2 (hc ▸ List.mem_cons_self)
    cases names <;> simp [isAbsolute_cons, hc]

theorem speltAlike_of_relative {piece : List Char} {ps : List (List Char)}
    (hrelative : isAbsolute (['/'].intercalate (piece :: ps)) = false)
    (hslash : ∀ q ∈ ps, '/' ∉ q) :
    SpeltAlike (['/'].intercalate (piece :: ps))
      (['/'].intercalate ((piece :: ps).filter isName)) := by
  have hfirstDot {path : List Char} (hpath : isAbsolute path = false) :
      SpeltAlike ('.' :: '/' :: path) path := .rel _ _ (.firstDot hpath)
  cases ps with
  | nil =>
    by_cases hname : isName piece = true
    · rw [List.filter_cons_of_pos hname]
      exact .refl _
    · rw [List.filter_cons_of_neg hname]
      rcases eq_nil_or_dot hname with rfl | rfl
      · exact .refl _
      · exact .trans _ _ _ (.symm _ _ (.rel _ _ (.lastSlash (List.cons_ne_nil '.' []))))
          (hfirstDot rfl)
  | cons q ps =>
    have hrest := speltAlike_filter (q :: ps) piece
    have hkept : isAbsolute (['/'].intercalate ((q :: ps).filter isName)) = false :=
      isAbsolute_intercalate fun name hname =>
        ⟨(List.mem_filter.1 hname).2, hslash name (List.mem_filter.1 hname).1⟩
    rw [List.intercalate_cons_cons, List.append_assoc] at hrelative ⊢
    refine .trans _ _ _ hrest ?_
    by_cases hname : isName piece = true
    · rw [List.filter_cons_of_pos hname]
      exact speltAlike_cons (isName_iff.1 hname).1 [] _
    · rw [List.filter_cons_of_neg hname]
      rcases eq_nil_or_dot hname with rfl | rfl
      · cases hrelative
      · exact hfirstDot hkept

def spelling (path : List Char) : List Char :=
  if isAbsolute path then ofComponents (components path) else ['/'].intercalate (components path)

theorem speltAlike_spelling (path : List Char) : SpeltAlike path (spelling path) := by
  have hpath (path : List Char) : ['/'].intercalate (pieces '/' path) = path := by
    rw [pieces_eq_splitOn, List.intercalate_splitOn]
  unfold spelling
  split
  · next habsolute =>
    obtain ⟨rest, rfl⟩ := isAbsolute_iff.1 habsolute
    have hrest := speltAlike_filter (pieces '/' rest) []
    rw [hpath] at hrest
    rwa [components_cons]
  · next hrelative =>
    obtain ⟨piece, ps, hpieces⟩ := List.exists_cons_of_ne_nil (pieces_ne_nil '/' path)
    have hslash : ∀ q ∈ ps, '/' ∉ q := fun q hq =>
      notMem_of_mem_pieces (hpieces ▸ List.mem_cons_of_mem piece hq)
    have hspelt := hpath path
    rw [hpieces] at hspelt
    rw [← hspelt, Bool.not_eq_true] at hrelative
    have hnames := speltAlike_of_relative hrelative hslash
    rwa [← hpieces, hpath] at hnames

theorem speltAlike_iff {path other : List Char} : SpeltAlike path other ↔
    isAbsolute path = isAbsolute other ∧ components path = components other := by
  constructor
  · intro h
    induction h with
    | rel _ _ h => exact ⟨h.isAbsolute_eq, h.components_eq⟩
    | refl => exact ⟨rfl, rfl⟩
    | symm _ _ _ ih => exact ⟨ih.1.symm, ih.2.symm⟩
    | trans _ _ _ _ _ ih ih' => exact ⟨ih.1.trans ih'.1, ih.2.trans ih'.2⟩
  · rintro ⟨habsolute, hcomponents⟩
    have hsame : spelling path = spelling other := by
      rw [spelling, spelling, habsolute, hcomponents]
    exact .trans _ _ _ (speltAlike_spelling path)
      (.symm _ _ (hsame ▸ speltAlike_spelling other))

/--
Made absolute from a working directory, a path is normal: it has the plain names that lead where the
path leads, which is where its walk from the root ends once it is joined to the directory. Nothing
changes if it is made absolute again, from wherever, or if the path is spelt in another way, that
is, with the same components.
-/
theorem absolute_normal {directory : List Char} (h : isAbsolute directory = true)
    (path : List Char) :
    let joined := join directory path
    let result := absolute directory path
    isAbsolute joined = true ∧ isAbsolute result = true ∧
    (∃ names, (∀ name ∈ names, IsPlain name) ∧ result = ofComponents names ∧
      (∀ last, Walk [] (pieces '/' joined) last ↔ last = names) ∧
        ∀ last, Leads directory path last ↔ last = names) ∧
    (∀ other, absolute other result = result) ∧
    ∀ other, (SpeltAlike path other ↔
        isAbsolute path = isAbsolute other ∧ components path = components other) ∧
      (SpeltAlike path other → absolute directory other = result) := by
  intro joined result
  refine ⟨isAbsolute_join h path, rfl,
    ⟨_, isPlain_of_mem_foldl, rfl, fun _ => walk_pieces_iff, fun _ => leads_iff⟩,
    fun other => (isNormal_absolute directory path).absolute_eq other,
    fun other => ⟨speltAlike_iff, fun hspelt => ?_⟩⟩
  obtain ⟨habsolute, hcomponents⟩ := speltAlike_iff.1 hspelt
  rw [absolute, components_join, ← habsolute, ← hcomponents, ← components_join]
  rfl

theorem absolute_normal_beyondRoot :
    let directory := "/home/me".toList
    let path := "../.././../tmp//build/../a.out/".toList
    isAbsolute directory = true ∧ Leads directory path ["tmp".toList, "a.out".toList] ∧
      absolute directory "../../../tmp/build/../a.out".toList = absolute directory path ∧
        absolute directory path = "/tmp/a.out".toList := by
  intro directory path
  have habsolute : isAbsolute directory = true := rfl
  have hresult : absolute directory path = "/tmp/a.out".toList := by decide +kernel
  obtain ⟨-, -, ⟨names, hnames, hsame, -, hleads⟩, -, hspelt⟩ := absolute_normal habsolute path
  have hlast : ["tmp".toList, "a.out".toList] = names := by
    rw [← components_ofComponents hnames, ← hsame, hresult]
    decide +kernel
  exact ⟨habsolute, (hleads _).2 hlast, (hspelt _).2 ((hspelt _).1.2 (by decide +kernel)), hresult⟩

end Path

end Debuggee.Text
