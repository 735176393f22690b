import SolutionScript.Proofs.Solution.Inclusion
import SolutionScript.Proofs.Solution.Placement

/-!
# Two loads

Two disks from which each descriptor is read alike (`LoadsAlike`) are disks from which the blocks
of a solution are loaded alike (`LoadsAlike.entries`). What is alike is a matter of the disks: the
relation between failures, and the one between the projects that are loaded. A walk through
templates takes the same way on both if the documents that it reads are the same templates
(`Template.Runs.exists_alike`).
-/

namespace SolutionScript

open FileSystem Fallible

/-- A failure points to a line of a file, and to no column. -/
def Failure.PointsToLine (e : Failure) : Prop :=
  ∃ path cause line, e = .tool (.descriptor path cause { line := some line })

/-- The blocks are the same, and their lines are related. -/
structure SolutionEntry.Alike (L : ℕ → ℕ → Prop) (e e' : SolutionEntry) : Prop where
  outline : e'.outline = e.outline
  line : L e.line e'.line

/-! ## Templates -/

namespace Template

/-- Two documents are the same template, or neither is one. -/
def SameTemplate (root root' : Xml.Element) : Prop :=
  ∀ general, IsTemplate root' general ↔ IsTemplate root general

theorem SameTemplate.refl (root : Xml.Element) : SameTemplate root root := fun _ => Iff.rfl

section

variable {d d' : Disk} {F : Failure → Failure → Prop} (hhome : d.home = d'.home)
  (hF : ∀ e, ¬ e.PointsToLine → F e e)
  (hload : ∀ file name,
    Alike F SameTemplate (Descriptor.load d file name) (Descriptor.load d' file name))
include hhome hF hload

/-- The cases are those of a walk. Only where it opens a file does it matter which disk it is on. -/
theorem Runs.exists_alike {seen : List Location} {v : Visit}
    {r : Except Failure (List TemplateEntry)} (h : Runs d seen v r) :
    ∃ r', Runs d' seen v r' ∧ Alike F Eq r r' := by
  induction h with
  | null hnull => exact ⟨_, .null hnull, .error (hF _ (by rintro ⟨_, _, _, ⟨⟩⟩))⟩
  | again hnull hseen =>
    exact ⟨_, .again hnull (hhome ▸ hseen), .error (hF _ (by rintro ⟨_, _, _, ⟨⟩⟩))⟩
  | @unread seen file declared name e hnull hseen h =>
    have hroot := hload file name
    rw [h] at hroot
    generalize hroot' : Descriptor.load d' file name = x at hroot
    cases hroot with
    | error he => exact ⟨_, .unread hnull (hhome ▸ hseen) hroot', .error he⟩
  | @other seen file declared name root hnull hseen h hother =>
    have hroot := hload file name
    rw [h] at hroot
    generalize hroot' : Descriptor.load d' file name = x at hroot
    cases hroot with
    | ok hsame =>
      exact ⟨_, .other hnull (hhome ▸ hseen) hroot' fun general hgeneral =>
        hother general ((hsame general).1 hgeneral), .error (hF _ (by rintro ⟨_, _, _, ⟨⟩⟩))⟩
  | @opened seen file declared name root general r hnull hseen h htemplate _ ih =>
    have hroot := hload file name
    rw [h] at hroot
    generalize hroot' : Descriptor.load d' file name = x at hroot
    obtain ⟨r', hr', hr⟩ := ih
    cases hroot with
    | ok hsame =>
      exact ⟨r', .opened hnull (hhome ▸ hseen) hroot' ((hsame general).2 htemplate) (hhome ▸ hr'),
        hr⟩
  | done => exact ⟨_, .done, .ok rfl⟩
  | included htemplate _ _ ihfound ih =>
    obtain ⟨_, hfound', hfound⟩ := ihfound
    obtain ⟨r', hr', hr⟩ := ih
    cases hfound with
    | ok heq =>
      cases heq
      exact ⟨_, .included htemplate hfound' hr', hr.map fun _ _ h => congrArg _ h⟩
  | includedFails htemplate _ ih =>
    obtain ⟨_, hr', hr⟩ := ih
    cases hr with
    | error he => exact ⟨_, .includedFails htemplate hr', .error he⟩
  | project hproject hentry _ ih =>
    obtain ⟨r', hr', hr⟩ := ih
    exact ⟨_, .project hproject hentry hr', hr.map fun _ _ h => congrArg _ h⟩
  | @projectFails seen file declared general item rest e hproject hentry =>
    refine ⟨_, .projectFails hproject hentry, .error (hF _ ?_)⟩
    dsimp only [projectItem] at hentry
    split at hentry
    · cases hentry
      rintro ⟨_, _, _, ⟨⟩⟩
    · cases hentry
  | skipped htemplate hproject _ ih =>
    obtain ⟨r', hr', hr⟩ := ih
    exact ⟨r', .skipped htemplate hproject hr', hr⟩

theorem read_alike (file : HostPath) (declared name : String) :
    Alike F Eq (read d file declared name) (read d' file declared name) := by
  have hruns : Runs d [] (.template file declared name) (read d file declared name) :=
    runs_iff.2 rfl
  obtain ⟨r', hr', hr⟩ := hruns.exists_alike hhome hF hload
  rwa [runs_iff.1 hr'] at hr

end

end Template

/-! ## Solutions -/

namespace Solution

/-- A solution file is loaded from two disks with descriptors that are read alike: failures are
related by `F`, the lines of blocks by `L`, and loaded projects by `R`. -/
structure LoadsAlike (d d' : Disk) (file base : HostPath) (mappings : List PathMapping)
    (F : Failure → Failure → Prop) (L : ℕ → ℕ → Prop) (R : Loaded → Loaded → Prop) : Prop where
  home : d.home = d'.home
  other : ∀ e, ¬ e.PointsToLine → F e e
  refused : ∀ cause line line', L line line' →
    F (.tool (.descriptor file.render cause { line := some line }))
      (.tool (.descriptor file.render cause { line := some line' }))
  template : ∀ source name, Alike F Template.SameTemplate (Descriptor.load d source name)
    (Descriptor.load d' source name)
  descriptor : ∀ p source line line', descriptorFile base mappings p.name p.path = .ok source →
    L line line' → Alike F (fun a b => R ⟨a.1, a.2, line⟩ ⟨b.1, b.2, line'⟩)
      (Descriptor.read d p source) (Descriptor.read d' p source)
  project : ∀ {l l'}, R l l' → l'.project = l.project

namespace LoadsAlike

variable {d d' : Disk} {file base : HostPath} {mappings : List PathMapping}
  {F : Failure → Failure → Prop} {L : ℕ → ℕ → Prop} {R : Loaded → Loaded → Prop}
  {done done' : List Loaded} {e e' : SolutionEntry}
  (h : LoadsAlike d d' file base mappings F L R)
include h

theorem map_project_eq (hdone : List.Forall₂ R done done') :
    done'.map (·.project) = done.map (·.project) := by
  induction hdone with
  | nil => rfl
  | cons hl _ ih => rw [List.map_cons, List.map_cons, h.project hl, ih]

theorem descriptorFile (name path : String) :
    Alike F Eq (descriptorFile base mappings name path)
      (descriptorFile base mappings name path) := by
  dsimp only [Solution.descriptorFile]
  split
  · exact .error (h.other _ (by rintro ⟨_, _, _, ⟨⟩⟩))
  · exact .ok rfl

theorem projectsOf (he : e'.outline = e.outline) :
    Alike F Eq (projectsOf d base mappings e) (projectsOf d' base mappings e') := by
  obtain ⟨typeId, name, path, projectId, line, dependencies⟩ := e
  obtain ⟨typeId', name', path', projectId', line', dependencies'⟩ := e'
  simp only [SolutionEntry.outline, SolutionEntry.mk.injEq] at he
  obtain ⟨rfl, rfl, rfl, rfl, -, -⟩ := he
  rw [Solution.projectsOf, Solution.projectsOf]
  split
  · exact .ok rfl
  · split
    · refine .bind_same (h.descriptorFile _ _) fun source _ => ?_
      refine (Template.read_alike h.home h.other h.template _ _ _).bind fun items _ hitems => ?_
      cases hitems
      exact .ok rfl
    · exact .ok rfl

theorem loadProject {line line' : ℕ} (hline : L line line') (hdone : List.Forall₂ R done done')
    (p : Project) : Alike F (List.Forall₂ R)
      (loadProject d file base mappings line done p)
      (loadProject d' file base mappings line' done' p) := by
  have hany (P : Project → Bool) :
      (done'.any fun l => P l.project) = done.any fun l => P l.project := by
    have hmap := congrArg (List.any · P) (h.map_project_eq hdone)
    simpa only [List.any_map, Function.comp_def] using hmap
  rw [Solution.loadProject, Solution.loadProject, hany fun q => q.id = p.id,
    hany fun q => q.name = p.name, ← hdone.length_eq]
  split
  · exact .error (h.refused _ _ _ hline)
  split
  · exact .error (h.refused _ _ _ hline)
  refine .bind_same (h.descriptorFile _ _) fun source hsource => ?_
  refine (h.descriptor { p with index := done.length } source line line' hsource hline).bind
    fun r r' hr => ?_
  exact .ok (List.rel_append hdone (.cons hr .nil))

theorem loadEntry (hdone : List.Forall₂ R done done') (he : e.Alike L e') :
    Alike F (List.Forall₂ R)
      (loadEntry d file base mappings done e) (loadEntry d' file base mappings done' e') := by
  rw [Solution.loadEntry, Solution.loadEntry]
  refine (h.projectsOf he.outline).bind fun ps ps' hps => ?_
  cases hps
  have heq : List.Forall₂ Eq ps ps := List.forall₂_same.2 fun _ _ => rfl
  refine .foldlM_forall₂ heq hdone fun done done' p p' hdone hp => ?_
  cases hp
  exact h.loadProject he.line hdone p

/-- The blocks of a solution are loaded alike. -/
theorem entries {entries entries' : List SolutionEntry}
    (he : List.Forall₂ (SolutionEntry.Alike L) entries entries') :
    Alike F (List.Forall₂ R) (entries.foldlM (Solution.loadEntry d file base mappings) [])
      (entries'.foldlM (Solution.loadEntry d' file base mappings) []) :=
  .foldlM_forall₂ he .nil fun _ _ _ _ hdone he => h.loadEntry hdone he

end LoadsAlike

end Solution

end SolutionScript
