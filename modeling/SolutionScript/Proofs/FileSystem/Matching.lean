import SolutionScript.Proofs.FileSystem.WellFormed

/-!
# What patterns find

A pattern finds the files that fit it (`PathPattern.FitsFile`), all of them and each of them once:
what the steps lead to fits (`Disk.fitsFile_of_mem_select`), what fits is led to
(`Disk.mem_select_of_fitsFile`), and no path is led to twice (`Disk.nodup_select`). In order, the
paths that are found ascend name by name (`pairwise_sorted_below`).
-/

namespace SolutionScript.FileSystem

open Fallible

/-! ## Fitting -/

/-- The names of a file, seen from the folder that is searched, fit a pattern. A fixed name and a
name pattern stand for one name, and two stars for any number of folders. The way back to the parent
fits a fixed name only. A pattern that ends in two stars or in a slash asks for a folder,
so no file fits it. -/
inductive PathPattern.FitsFile : PathPattern → List String → Prop where
  | nil : FitsFile [] []
  | named {rest : PathPattern} {names : List String} (name : String) (h : FitsFile rest names) :
    FitsFile (.named name :: rest) (name :: names)
  | like {rest : PathPattern} {names : List String} {pattern : NamePattern} {name : String}
    (fits : pattern.fits name.toList = true) (ne : name ≠ "..") (h : FitsFile rest names) :
    FitsFile (.like pattern :: rest) (name :: names)
  | everywhere {rest : PathPattern} {names folders : List String} (down : ".." ∉ folders)
    (ne : names ≠ []) (h : FitsFile rest names) : FitsFile (.everywhere :: rest) (folders ++ names)

theorem PathPattern.FitsFile.eq_nil {pattern : PathPattern} (h : pattern.FitsFile []) :
    pattern = [] := by
  generalize hnames : ([] : List String) = names at h
  cases h with
  | nil => rfl
  | named => cases hnames
  | like => cases hnames
  | everywhere down ne h => exact absurd (List.append_eq_nil_iff.1 hnames.symm).2 ne

namespace Disk

variable {d : Disk} {here l : Location} {folder p q : HostPath} {names : List String}
  {step : PathStep} {rest pattern : PathPattern} {found : List HostPath}

/-! ## One step of a search -/

theorem folderAt_eq_some : d.folderAt p = .ok (some l) ↔ d.locate p = .ok l := by
  constructor
  · intro h
    unfold folderAt at h
    split at h
    · rename_i l' hl'
      cases h
      exact hl'
    · split at h <;> cases h
  · intro h
    rw [folderAt, h]

/-- The names by which one step leads on, where the steps that come after it are known. -/
inductive LeadsOn (d : Disk) (p : HostPath) (rest : PathPattern) : PathStep → List String → Prop
  | named {name : String} (last : rest = [] → d.isPresent (p.child name) = .ok true)
    (inner : rest ≠ [] → d.isFolder (p.child name) = .ok true) :
    LeadsOn d p rest (.named name) [name]
  | like {l : Location} {name : String} {pattern : NamePattern} (place : d.locate p = .ok l)
    (stands : (d.tree.entry? (l ++ [name])).isSome = true)
    (inner : rest ≠ [] → d.tree.entry? (l ++ [name]) = some .folder)
    (fits : pattern.fits name.toList = true) : LeadsOn d p rest (.like pattern) [name]
  | stay : LeadsOn d p rest .everywhere []
  | down {l : Location} {names : List String} (place : d.locate p = .ok l)
    (below : names ∈ d.tree.foldersBelow l) : LeadsOn d p rest .everywhere names

/-- What is found is found by way of the first step, and so is all that is found from where it leads
on. -/
structure Branches (d : Disk) (p : HostPath) (step : PathStep) (rest : PathPattern)
    (found : List HostPath) : Prop where
  of_mem : ∀ q ∈ found, ∃ names, LeadsOn d p rest step names ∧
    ∃ group, d.select rest { p with names := p.names ++ names } = .ok group ∧ q ∈ group
  exists_group : ∀ names, LeadsOn d p rest step names →
    ∃ group, d.select rest { p with names := p.names ++ names } = .ok group ∧ group ⊆ found

/-- A check decides whether a fixed name leads on. -/
theorem branches_of_check {name : String} {goOn : Bool}
    (hcheck : ∀ names, LeadsOn d p rest (.named name) names ↔ names = [name] ∧ goOn = true)
    (h : (if goOn then d.select rest (p.child name) else pure []) = .ok found) :
    Branches d p (.named name) rest found := by
  cases goOn with
  | false =>
    cases h
    exact ⟨fun q hq => absurd hq List.not_mem_nil,
      fun names hleads => absurd ((hcheck names).1 hleads).2 (by decide)⟩
  | true =>
    have hnext : d.select rest (p.child name) = .ok found := h
    refine ⟨fun q hq => ⟨[name], (hcheck _).2 ⟨rfl, rfl⟩, found, hnext, hq⟩, fun names hleads => ?_⟩
    obtain rfl := ((hcheck names).1 hleads).1
    exact ⟨found, hnext, List.Subset.refl _⟩

theorem branches_named {name : String} (h : d.select (.named name :: rest) p = .ok found) :
    Branches d p (.named name) rest found := by
  rw [select] at h
  by_cases hrest : rest = []
  · rw [if_pos (List.isEmpty_iff.2 hrest)] at h
    obtain ⟨goOn, hgoOn, h⟩ := bind_eq_ok.1 h
    refine branches_of_check (fun names => ⟨?_, ?_⟩) h
    · rintro ⟨last, -⟩
      exact ⟨rfl, Except.ok.inj (hgoOn.symm.trans (last hrest))⟩
    · rintro ⟨rfl, rfl⟩
      exact .named (fun _ => hgoOn) (absurd hrest)
  · rw [if_neg fun hempty => hrest (List.isEmpty_iff.1 hempty)] at h
    obtain ⟨goOn, hgoOn, h⟩ := bind_eq_ok.1 h
    refine branches_of_check (fun names => ⟨?_, ?_⟩) h
    · rintro ⟨-, inner⟩
      exact ⟨rfl, Except.ok.inj (hgoOn.symm.trans (inner hrest))⟩
    · rintro ⟨rfl, rfl⟩
      exact .named (fun hnil => absurd hnil hrest) (fun _ => hgoOn)

theorem branches_like {pattern : NamePattern} (h : d.select (.like pattern :: rest) p = .ok found) :
    Branches d p (.like pattern) rest found := by
  rw [select] at h
  obtain ⟨place, hplace, h⟩ := bind_eq_ok.1 h
  obtain ⟨groups, hgroups, h⟩ := bind_eq_ok.1 h
  cases h
  have hfitting (l : Location) (name : String) : name ∈ ((d.tree.names l).filter fun name =>
      (rest.isEmpty || d.tree.isFolder (l ++ [name])) && pattern.fits name.toList) ↔
        (d.tree.entry? (l ++ [name])).isSome = true ∧
          (rest ≠ [] → d.tree.entry? (l ++ [name]) = some .folder) ∧
            pattern.fits name.toList = true := by
    rw [List.mem_filter, FileTree.mem_names, Bool.and_eq_true, Bool.or_eq_true, List.isEmpty_iff,
      FileTree.isFolder_iff, Classical.or_iff_not_imp_left]
  constructor
  · intro q hq
    obtain ⟨group, hmem, hq⟩ := List.mem_flatten.1 hq
    obtain ⟨name, hname, hgroup⟩ := (mem_iff_of_mapM_eq_ok hgroups).1 hmem
    cases place with
    | none => cases hname
    | some l =>
      obtain ⟨hstands, hinner, hfits⟩ := (hfitting l name).1 hname
      exact ⟨[name], .like (folderAt_eq_some.1 hplace) hstands hinner hfits, group, hgroup, hq⟩
  · intro names hleads
    cases hleads with
    | @like l name _ hl hstands hinner hfits =>
      obtain rfl : place = some l := Except.ok.inj (hplace.symm.trans (folderAt_eq_some.2 hl))
      obtain ⟨group, hmem, hgroup⟩ :=
        exists_of_mapM_eq_ok hgroups ((hfitting l name).2 ⟨hstands, hinner, hfits⟩)
      exact ⟨group, hgroup, fun q hq => List.mem_flatten.2 ⟨group, hmem, hq⟩⟩

theorem branches_everywhere (h : d.select (.everywhere :: rest) p = .ok found) :
    Branches d p .everywhere rest found := by
  rw [select] at h
  obtain ⟨place, hplace, h⟩ := bind_eq_ok.1 h
  obtain ⟨groups, hgroups, h⟩ := bind_eq_ok.1 h
  cases h
  -- The folder of each start is looked at once more, which changes nothing in what is found there.
  have hlook {start : HostPath} {group : List HostPath} :
      (do
        let found ← d.select rest start
        let _ ← d.folderAt start
        pure found) = .ok group → d.select rest start = .ok group := by
    intro h
    obtain ⟨group', hselect, h⟩ := bind_eq_ok.1 h
    obtain ⟨place, -, h⟩ := bind_eq_ok.1 h
    cases h
    exact hselect
  constructor
  · intro q hq
    obtain ⟨group, hmem, hq⟩ := List.mem_flatten.1 (List.mem_eraseDups.1 hq)
    obtain ⟨start, hstart, hgroup⟩ := (mem_iff_of_mapM_eq_ok hgroups).1 hmem
    rcases List.mem_cons.1 hstart with rfl | hstart
    · refine ⟨[], .stay, group, ?_, hq⟩
      rw [List.append_nil]
      exact hlook hgroup
    · obtain ⟨names, hnames, rfl⟩ := List.mem_map.1 hstart
      cases place with
      | none => cases hnames
      | some l => exact ⟨names, .down (folderAt_eq_some.1 hplace) hnames, group, hlook hgroup, hq⟩
  · intro names hleads
    have hstart := exists_of_mapM_eq_ok hgroups (a := { p with names := p.names ++ names })
    obtain ⟨group, hmem, hgroup⟩ := hstart <| by
      cases hleads with
      | stay => simp
      | down hl hbelow =>
        obtain rfl := Except.ok.inj (hplace.symm.trans (folderAt_eq_some.2 hl))
        exact List.mem_cons_of_mem _ (List.mem_map.2 ⟨names, hbelow, rfl⟩)
    exact ⟨group, hlook hgroup, fun q hq =>
      List.mem_eraseDups.2 (List.mem_flatten.2 ⟨group, hmem, hq⟩)⟩

/-- Every step but the one that stops branches. -/
theorem branches (hstep : step ≠ .here) (h : d.select (step :: rest) p = .ok found) :
    Branches d p step rest found := by
  cases step with
  | here => exact absurd rfl hstep
  | named name => exact branches_named h
  | like pattern => exact branches_like h
  | everywhere => exact branches_everywhere h

/-! ## Searches -/

/-- Only a fixed name can lead back. -/
theorem LeadsOn.not_mem (h : LeadsOn d p rest step names) (hw : d.tree.WellFormed)
    (hstep : ∀ name, step ≠ .named name) : ".." ∉ names := by
  cases h with
  | named => exact absurd rfl (hstep _)
  | like place stands inner fits =>
    exact fun hmem => hw.not_mem_of_entry? stands (List.mem_append_right _ hmem)
  | stay => exact List.not_mem_nil
  | down place below =>
    have hfolder := (hw.mem_foldersBelow.1 below).2
    exact fun hmem => hw.not_mem_of_entry? (by rw [hfolder]; rfl) (List.mem_append_right _ hmem)

/-- A step from a folder leads to a folder if more steps follow, and two stars always do. -/
theorem LeadsOn.isFolder (h : LeadsOn d p rest step names) (hw : d.tree.WellFormed)
    (hp : ∀ l, d.locate p = .ok l → d.tree.entry? l = some .folder)
    (hrest : step = .everywhere ∨ rest ≠ [])
    (hl : d.locate { p with names := p.names ++ names } = .ok l) :
    d.tree.entry? l = some .folder := by
  have hnames := h.not_mem hw
  cases h with
  | named last inner =>
    have hne : rest ≠ [] := hrest.resolve_left (by simp)
    obtain ⟨-, l', hl', hfolder⟩ := isFolder_iff.1 (inner hne)
    exact Except.ok.inj (hl'.symm.trans hl) ▸ hfolder
  | like place stands inner fits =>
    rw [eq_append_of_locate place (hnames (by simp)) hl]
    exact inner (hrest.resolve_left (by simp))
  | stay => exact hp l (by rwa [List.append_nil] at hl)
  | down place below =>
    rw [eq_append_of_locate place (hnames (by simp)) hl]
    exact (hw.mem_foldersBelow.1 below).2

/-- No file stands where a folder does. -/
theorem not_isFile (hp : ∀ l, d.locate p = .ok l → d.tree.entry? l = some .folder) :
    d.isFile p ≠ .ok true := fun hfile => by
  obtain ⟨-, l, bytes, hl, hentry⟩ := isFile_iff.1 hfile
  rw [hp l hl] at hentry
  cases hentry

/-- A file that is found fits the pattern. -/
theorem fitsFile_of_mem_select (hw : d.tree.WellFormed) (h : d.select pattern p = .ok found)
    (hp : pattern ≠ [] → ∀ l, d.locate p = .ok l → d.tree.entry? l = some .folder)
    (hq : q ∈ found) (hfile : d.isFile q = .ok true) :
    ∃ names, q = { p with names := p.names ++ names } ∧ pattern.FitsFile names := by
  induction pattern generalizing p found with
  | nil =>
    cases h
    obtain rfl := List.mem_singleton.1 hq
    exact ⟨[], by rw [List.append_nil], .nil⟩
  | cons step rest ih =>
    replace hp := hp (List.cons_ne_nil step rest)
    by_cases hstep : step = .here
    · subst hstep
      cases h
      obtain rfl := List.mem_singleton.1 hq
      exact absurd hfile (not_isFile hp)
    · obtain ⟨names, hleads, group, hgroup, hq⟩ := (branches hstep h).of_mem q hq
      have hfolder := fun hrest l => hleads.isFolder hw hp hrest (l := l)
      obtain ⟨more, rfl, hfits⟩ := ih hgroup (fun hrest => hfolder (.inr hrest)) hq
      have hmore (heverywhere : step = .everywhere) : more ≠ [] := fun hnil => by
        subst hnil
        rw [List.append_nil] at hfile
        exact not_isFile (hfolder (.inl heverywhere)) hfile
      refine ⟨names ++ more, by rw [List.append_assoc], ?_⟩
      have hnames := hleads.not_mem hw
      cases hleads with
      | named => exact .named _ hfits
      | like place stands inner fits =>
        exact .like fits (fun heq => hnames (by simp) (by simp [heq])) hfits
      | stay =>
        have hstay : ".." ∉ ([] : List String) := List.not_mem_nil
        exact .everywhere hstay (hmore rfl) hfits
      | down => exact .everywhere (hnames (by simp)) (hmore rfl) hfits

/-- The way to a file that fits leads on by a fixed name. -/
theorem leadsOn_named {name : String} (hfits : rest.FitsFile names)
    (hfile : d.isFile { p with names := p.names ++ [name] ++ names } = .ok true) :
    LeadsOn d p rest (.named name) [name] := by
  refine .named (fun hrest => ?_) fun hrest => isFolder_of_isFile (p := p.child name) ?_ hfile
  · subst hrest
    cases hfits
    rw [List.append_nil] at hfile
    exact isPresent_of_isFile hfile
  · rintro rfl
    exact hrest hfits.eq_nil

/-- It leads on by a name that fits a name pattern. -/
theorem leadsOn_like {pattern : NamePattern} {name : String}
    (fits : pattern.fits name.toList = true) (ne : name ≠ "..") (hfits : rest.FitsFile names)
    (hfile : d.isFile { p with names := p.names ++ [name] ++ names } = .ok true) :
    LeadsOn d p rest (.like pattern) [name] := by
  obtain ⟨-, place, bytes, hplace, hentry⟩ := isFile_iff.1 hfile
  obtain ⟨middle, hmiddle, hmore⟩ := locate_append (p := p.child name) hplace
  obtain ⟨l, hl, -⟩ := locate_append hmiddle
  obtain rfl : middle = l ++ [name] := eq_append_of_locate hl (by simpa using ne.symm) hmiddle
  have hinner (hrest : rest ≠ []) : d.tree.entry? (l ++ [name]) = some .folder :=
    entry?_of_follow (fun hnil => hrest (hnil ▸ hfits).eq_nil) hmore
  refine .like hl ?_ hinner fits
  by_cases hrest : rest = []
  · subst hrest
    cases hfits
    cases hmore
    rw [hentry]
    rfl
  · rw [hinner hrest]
    rfl

/-- It leads on down any number of folders. -/
theorem leadsOn_everywhere {folders : List String} (hw : d.tree.WellFormed) (down : ".." ∉ folders)
    (ne : names ≠ [])
    (hfile : d.isFile { p with names := p.names ++ folders ++ names } = .ok true) :
    LeadsOn d p rest .everywhere folders := by
  by_cases hnil : folders = []
  · rw [hnil]
    exact .stay
  · obtain ⟨-, middle, hmiddle, hfolder⟩ := isFolder_iff.1
      (isFolder_of_isFile (p := { p with names := p.names ++ folders }) ne hfile)
    obtain ⟨l, hl, -⟩ := locate_append hmiddle
    rw [eq_append_of_locate hl down hmiddle] at hfolder
    exact .down hl (hw.mem_foldersBelow.2 ⟨hnil, hfolder⟩)

/-- A file that fits the pattern is found. The induction is on the steps that the names take. -/
theorem mem_select_of_fitsFile (hw : d.tree.WellFormed) (hfits : pattern.FitsFile names)
    (h : d.select pattern p = .ok found)
    (hfile : d.isFile { p with names := p.names ++ names } = .ok true) :
    { p with names := p.names ++ names } ∈ found := by
  induction hfits generalizing p found with
  | nil =>
    cases h
    simp
  | named name hfits ih =>
    rw [List.append_cons] at hfile ⊢
    obtain ⟨group, hgroup, hsub⟩ :=
      (branches_named h).exists_group _ (leadsOn_named hfits hfile)
    exact hsub (ih hgroup hfile)
  | like fits ne hfits ih =>
    rw [List.append_cons] at hfile ⊢
    obtain ⟨group, hgroup, hsub⟩ :=
      (branches_like h).exists_group _ (leadsOn_like fits ne hfits hfile)
    exact hsub (ih hgroup hfile)
  | everywhere down ne hfits ih =>
    rw [← List.append_assoc] at hfile ⊢
    obtain ⟨group, hgroup, hsub⟩ :=
      (branches_everywhere h).exists_group _ (leadsOn_everywhere hw down ne hfile)
    exact hsub (ih hgroup hfile)

/-- Paths below different names in a folder are different. -/
theorem disjoint_of_below {name name' : String} {group group' : List HostPath} (hne : name ≠ name')
    (hgroup : ∀ q ∈ group, Below (p.child name) q)
    (hgroup' : ∀ q ∈ group', Below (p.child name') q) : group.Disjoint group' := by
  intro q hq hq'
  have hnames := (hgroup q hq).names
  have hnames' := (hgroup' q hq').names
  have heq := List.prefix_of_prefix_length_le hnames hnames' (by simp [HostPath.child])
  exact hne (by simpa [HostPath.child] using heq)

/-- No path is found twice. -/
theorem nodup_select (hw : d.tree.WellFormed) (h : d.select pattern p = .ok found) :
    found.Nodup := by
  induction pattern generalizing p found with
  | nil =>
    cases h
    exact List.nodup_singleton p
  | cons step rest ih =>
    cases step with
    | here =>
      cases h
      exact List.nodup_singleton p
    | named name =>
      rcases select_named_eq_ok h with rfl | h
      · exact List.nodup_nil
      · exact ih h
    | everywhere =>
      rw [select] at h
      obtain ⟨place, hplace, h⟩ := bind_eq_ok.1 h
      obtain ⟨groups, hgroups, h⟩ := bind_eq_ok.1 h
      cases h
      exact nodup_eraseDups _
    | like pattern =>
      rw [select] at h
      obtain ⟨place, hplace, h⟩ := bind_eq_ok.1 h
      obtain ⟨groups, hgroups, h⟩ := bind_eq_ok.1 h
      cases h
      refine List.nodup_flatten.2 ⟨fun group hgroup => ?_, ?_⟩
      · obtain ⟨name, -, hselect⟩ := (mem_iff_of_mapM_eq_ok hgroups).1 hgroup
        exact ih hselect
      · refine pairwise_of_mapM_eq_ok hgroups (S := (· ≠ ·)) ?_ ?_
        · cases place with
          | none => exact .nil
          | some l => exact (FileTree.nodup_names hw.locations l).filter _
        · intro name name' group group' hgroup hgroup' hne
          exact disjoint_of_below hne (fun q => below_of_mem_select (.refl _) hgroup)
            fun q => below_of_mem_select (.refl _) hgroup'

/-- The files that are found below a folder are those that fit the pattern. -/
theorem mem_glob_iff (hw : d.tree.WellFormed) (hpattern : pattern ≠ [])
    (h : d.glob folder pattern = .ok found)
    (hfile : d.isFile { folder with names := folder.names ++ names } = .ok true) :
    { folder with names := folder.names ++ names } ∈ found ↔ pattern.FitsFile names := by
  rw [glob, bind_eq_ok] at h
  obtain ⟨stands, hstands, h⟩ := h
  cases stands with
  | false =>
    cases h
    refine iff_of_false List.not_mem_nil fun hfits => ?_
    have hne : names ≠ [] := fun hnil => hpattern (hnil ▸ hfits).eq_nil
    cases hstands.symm.trans (isFolder_of_isFile hne hfile)
  | true =>
    obtain ⟨-, l, hl, hfolder⟩ := isFolder_iff.1 hstands
    have hplace : ∀ l', d.locate folder = .ok l' → d.tree.entry? l' = some .folder :=
      fun l' hl' => Except.ok.inj (hl.symm.trans hl') ▸ hfolder
    refine ⟨fun hq => ?_, fun hfits => mem_select_of_fitsFile hw hfits h hfile⟩
    obtain ⟨names', heq, hfits⟩ := fitsFile_of_mem_select hw h (fun _ => hplace) hq hfile
    obtain rfl : names = names' := by simpa using heq
    exact hfits

theorem nodup_glob (hw : d.tree.WellFormed) (h : d.glob folder pattern = .ok found) :
    found.Nodup := by
  rw [glob, bind_eq_ok] at h
  obtain ⟨stands, -, h⟩ := h
  cases stands with
  | false =>
    cases h
    exact List.nodup_nil
  | true => exact nodup_select hw h

end Disk

/-! ## In order -/

theorem HostPath.partsLe_append (as bs cs : List String) :
    HostPath.partsLe (as ++ bs) (as ++ cs) = HostPath.partsLe bs cs := by
  induction as with
  | nil => rfl
  | cons a as ih => rw [List.cons_append, List.cons_append, HostPath.partsLe, if_pos rfl, ih]

theorem Below.names_eq {folder p : HostPath} (h : Below folder p) :
    p.names = folder.names ++ below folder p := by
  obtain ⟨more, hmore⟩ := h.names
  rw [below, ← hmore, List.drop_left]

theorem Below.eq_append {folder p : HostPath} (h : Below folder p) :
    p = { folder with names := folder.names ++ below folder p } := by
  rw [← h.names_eq, ← h.root]

theorem mem_map_below {folder : HostPath} {paths : List HostPath} {names : List String}
    (hbelow : ∀ p ∈ paths, Below folder p) :
    names ∈ paths.map (below folder) ↔ { folder with names := folder.names ++ names } ∈ paths := by
  rw [List.mem_map]
  constructor
  · rintro ⟨p, hp, rfl⟩
    rwa [← (hbelow p hp).eq_append]
  · exact fun hp => ⟨_, hp, List.drop_left⟩

theorem Below.parts_eq {folder p : HostPath} (h : Below folder p) :
    p.parts = folder.parts ++ below folder p := by
  rw [HostPath.parts, HostPath.parts, h.root, h.names_eq]
  split <;> rfl

/-- Below a folder, different paths in order ascend name by name from the folder. -/
theorem pairwise_sorted_below {folder : HostPath} {paths : List HostPath}
    (hbelow : ∀ p ∈ paths, Below folder p) (hnodup : paths.Nodup) :
    (sorted paths).Pairwise fun p q => below folder p < below folder q := by
  have hle : (sorted paths).Pairwise fun p q => p.parts ≤ q.parts :=
    pairwise_mergeSort_of_key HostPath.parts (fun _ _ => HostPath.partsLe_iff) paths
  have hne : (sorted paths).Pairwise (· ≠ ·) := (List.mergeSort_perm paths _).nodup_iff.2 hnodup
  refine (hle.and hne).imp_of_mem fun {p q} hp hq hpq => ?_
  have hp := hbelow p (mem_sorted.1 hp)
  have hq := hbelow q (mem_sorted.1 hq)
  refine lt_of_le_of_ne ?_ fun heq => hpq.2 (by rw [hp.eq_append, hq.eq_append, heq])
  rw [← HostPath.partsLe_iff, ← HostPath.partsLe_append folder.parts, ← hp.parts_eq, ← hq.parts_eq,
    HostPath.partsLe_iff]
  exact hpq.1

end SolutionScript.FileSystem
