import SolutionScript.Proofs.FileSystem.Glob
import SolutionScript.Convert

/-!
# Failures of loading

Locating and loading a solution can fail only for what is on the disk or in the
files there (`fromFiles_locate`, `fromFiles_load`). A fault in how projects
depend on each other is found when they are ordered, and not before. The tool
words most of these failures itself; for the others, a path is too long, or one of
the files that loading reaches has what `Descriptor.Escapes` says
(`failsWith_locate`, `failsWith_load`).
-/

namespace SolutionScript

open FileSystem Fallible

/-- A failure that the disk or the files on it cause. -/
def Failure.FromFiles : Failure → Prop
  | .tool (.noSolution ..) => True
  | .tool (.ambiguousSolution ..) => True
  | .tool (.descriptor ..) => True
  | .tool (.missingProject ..) => True
  | .disk _ => True
  | .unknownEncoding _ => True
  | .wideEncoding => True
  | .noTextEncoding _ => True
  | .failingEncoding .. => True
  | _ => False

/-- The tool words the failure itself. -/
def Failure.IsTool (e : Failure) : Prop := ∃ fault, e = .tool fault

/-- The files are at fault and the tool says so, or the failure is of another kind. -/
def FaultOr (P : Failure → Prop) (e : Failure) : Prop := e.IsTool ∧ e.FromFiles ∨ P e

namespace FaultOr

variable {P Q : Failure → Prop} {e : Failure}

theorem tool {fault : ToolFault} (h : (Failure.tool fault).FromFiles) : FaultOr P (.tool fault) :=
  .inl ⟨⟨fault, rfl⟩, h⟩

theorem isTool_or (h : FaultOr P e) : e.IsTool ∨ P e := h.imp_left And.left

theorem fromFiles (h : FaultOr P e) (himp : P e → e.FromFiles) : e.FromFiles :=
  h.elim And.right himp

theorem imp (h : FaultOr P e) (himp : P e → Q e) : FaultOr Q e := h.imp_right himp

end FaultOr

variable {d : Disk} {file base folder : HostPath} {mappings : List PathMapping} {e : Failure}

/-! ## Includes -/

/-- An item of a descriptor makes a search for files fail: a path with wildcards
in it is no pattern, or a place that is searched has a path that is too long. -/
inductive Include.Refuses (d : Disk) (folder : HostPath) (item : String) : Fault → Prop
  | pattern {part : String} {fault : PatternFault} :
    part ∈ Include.partsOf item → Include.isWild part = true →
    PathPattern.parse (DescriptorPath.toHost part) = .error fault →
    Include.Refuses d folder item (.pattern fault)
  | longPath {fault : Fault} :
    Disk.LongBelow d folder fault → Include.Refuses d folder item fault

namespace Include

theorem failsWith_matching {item part : String} (hpart : part ∈ partsOf item)
    (hwild : isWild part = true) : FailsWith (Refuses d folder item) (matching d folder part) := by
  unfold matching
  split
  · rename_i fault hparse
    exact .error (.pattern hpart hwild hparse)
  · refine .bind (Disk.failsWith_glob.mono fun _ => .longPath) fun found hfound => ?_
    have hbelow : ∀ p ∈ sorted found, Below folder p := fun p hp =>
      Disk.below_of_mem_glob hfound (mem_sorted.1 hp)
    exact .bind ((Disk.failsWith_onlyFiles hbelow).mono fun _ => .longPath) fun _ _ => .ok _

theorem failsWith_expand {item : String} :
    FailsWith (fun e => ∃ fault, Refuses d folder item fault ∧ e = .disk fault)
      (expand d folder item) := by
  have hparts : FailsWith (Refuses d folder item) ((partsOf item).mapM (expandPart d folder)) := by
    refine .mapM fun part hpart => ?_
    unfold expandPart
    split
    · rename_i hwild
      exact failsWith_matching hpart hwild
    · exact .ok _
  unfold expand
  split
  · exact .ok _
  · rename_i fault hfault
    exact .error ⟨fault, hparts fault hfault, rfl⟩

end Include

/-! ## Descriptors -/

namespace Descriptor

/-- What a file makes reading it as a descriptor fail with, other than faults of
the tool. -/
inductive Escapes (d : Disk) (file : HostPath) : Failure → Prop
  /-- The path has a null character. -/
  | nullCharacter : Disk.hasNull file = true → Escapes d file (.disk .nullCharacter)
  /-- The declared encoding is none that can be used. -/
  | encoding {bytes : List UInt8} {fault : Xml.DocumentFault} :
    d.read file = .ok bytes → Xml.Document.parse bytes = .error fault →
    (∀ syntaxFault, fault ≠ .malformed syntaxFault) → Escapes d file (documentFault file fault)
  /-- An item with files makes a search fail. -/
  | item {name : String} {root item : Xml.Element} {action : BuildAction} {fault : Fault} :
    load d file name = .ok root →
    item ∈ (root.childrenNamed "ItemGroup").flatMap (·.children) →
    BuildAction.ofName? item.localName = some action →
    Include.Refuses d file.parent (item.value "Include") fault → Escapes d file (.disk fault)
  /-- The search for sources meets a path that is too long. -/
  | sources {name : String} {root : Xml.Element} {fault : Fault} :
    load d file name = .ok root → Disk.LongBelow d file.parent fault →
    Escapes d file (.disk fault)

theorem Escapes.fromFiles (h : Escapes d file e) : e.FromFiles := by
  cases h with
  | nullCharacter => trivial
  | @encoding bytes fault _ _ hnot =>
    cases fault with
    | malformed syntaxFault => exact absurd rfl (hnot syntaxFault)
    | unknownEncoding => trivial
    | wideEncoding => trivial
    | noTextEncoding => trivial
    | failingEncoding => trivial
  | item => trivial
  | sources => trivial

theorem failsWith_load {name : String} :
    FailsWith (FaultOr (Escapes d file)) (load d file name) := by
  unfold load
  split
  · rename_i fault hread
    refine .error ?_
    rcases Disk.read_eq_error hread with ⟨reason, rfl⟩ | ⟨hnull, rfl⟩
    · cases reason <;> exact .tool trivial
    · exact .inr (.nullCharacter hnull)
  · rename_i bytes hread
    split
    · rename_i fault hparse
      refine .error ?_
      cases fault with
      | malformed syntaxFault => exact .tool trivial
      | unknownEncoding name => exact .inr (.encoding hread hparse (by simp))
      | wideEncoding => exact .inr (.encoding hread hparse (by simp))
      | noTextEncoding name => exact .inr (.encoding hread hparse (by simp))
      | failingEncoding name fault => exact .inr (.encoding hread hparse (by simp))
    · exact .ok _

variable {p : Project} {root item : Xml.Element} {name : String}

theorem Attributes.failsWith_read :
    FailsWith (FaultOr (Escapes d file)) (Attributes.read p root file) := by
  unfold Attributes.read
  split
  · exact .error (.tool trivial)
  · exact .ok _

theorem Properties.failsWith_readItem {directory : String} (hload : load d file name = .ok root)
    (hitem : item ∈ (root.childrenNamed "ItemGroup").flatMap (·.children)) :
    FailsWith (FaultOr (Escapes d file)) (readItem d directory file.parent item) := by
  unfold readItem
  dsimp only
  split
  · exact .ok _
  · split
    · rename_i action haction
      refine .map _ fun e h => ?_
      obtain ⟨fault, hrefuses, rfl⟩ := Include.failsWith_expand e h
      exact .inr (.item hload hitem haction hrefuses)
    · exact .ok _

theorem Properties.failsWith_findSources {kind : Language} (hload : load d file name = .ok root) :
    FailsWith (FaultOr (Escapes d file)) (findSources d kind file.parent) := by
  unfold findSources
  split
  · rename_i fault hglob
    exact .error (.inr (.sources hload (Disk.failsWith_glob fault hglob)))
  · exact .ok _

theorem Properties.failsWith_read (hload : load d file name = .ok root) :
    FailsWith (FaultOr (Escapes d file)) (Properties.read d p root file) := by
  unfold Properties.read
  refine .bind (.mapM fun item hitem => failsWith_readItem hload hitem) fun items _ => ?_
  dsimp only
  split
  · exact .bind (failsWith_findSources hload) fun _ _ => .ok _
  · exact .ok _

/-- In whichever form a descriptor is written, reading it fails with a fault of the tool, or with
what its file lets escape. -/
theorem failsWith_read : FailsWith (FaultOr (Escapes d file)) (read d p file) := by
  unfold read
  refine .bind failsWith_load fun root hload => ?_
  split
  · exact .bind Attributes.failsWith_read fun _ _ => .ok _
  · exact .bind (Properties.failsWith_read hload) fun _ _ => .ok _
  · exact .error (.tool trivial)

end Descriptor

/-! ## Solutions -/

namespace Solution

/-- The files that are read as descriptors of the projects and templates that blocks declare. -/
inductive Reaches (d : Disk) (base : HostPath) (mappings : List PathMapping)
    (entries : List SolutionEntry) : HostPath → Prop
  | template {entry : SolutionEntry} {file : HostPath} :
    entry ∈ entries → entry.typeId = templateType →
    descriptorFile base mappings entry.name entry.path = .ok file →
    Reaches d base mappings entries file
  /-- A template that another one lists. -/
  | item {file : HostPath} {name item : String} {root : Xml.Element}
      {contents : Template.Contents} :
    Reaches d base mappings entries file → Descriptor.load d file name = .ok root →
    Template.contents? root = some contents → item ∈ contents.items →
    Reaches d base mappings entries (Template.itemFile file item)
  | project {entry : SolutionEntry} {projects : List Project} {p : Project} {file : HostPath} :
    entry ∈ entries → projectsOf d base mappings entry = .ok projects → p ∈ projects →
    descriptorFile base mappings p.name p.path = .ok file → Reaches d base mappings entries file

/-- Reading one of these files fails, other than with a fault of the tool. -/
def EntriesEscape (d : Disk) (base : HostPath) (mappings : List PathMapping)
    (entries : List SolutionEntry) (e : Failure) : Prop :=
  ∃ file, Reaches d base mappings entries file ∧ Descriptor.Escapes d file e

end Solution

variable {entries : List SolutionEntry} {entry : SolutionEntry}

mutual

theorem Template.failsWith_expand (d : Disk) (unread : List Location) (file : HostPath)
    (declared name : String) (hfile : Solution.Reaches d base mappings entries file) :
    FailsWith (FaultOr (Solution.EntriesEscape d base mappings entries))
      (expand d unread file declared name) := by
  rw [expand]
  dsimp only
  split
  · rename_i hnull
    exact .error (.inr ⟨file, hfile, .nullCharacter hnull⟩)
  · split
    · exact .error (.tool trivial)
    · have hroot : FailsWith (FaultOr (Solution.EntriesEscape d base mappings entries))
          (Descriptor.load d file name) :=
        Descriptor.failsWith_load.mono fun e h => h.imp fun hescapes => ⟨file, hfile, hescapes⟩
      refine .bind hroot fun root hload => ?_
      split
      · exact .error (.tool trivial)
      · rename_i contents hcontents
        split
        · exact failsWith_expandItems d _ file declared _ _ fun item hitem =>
            .item hfile hload hcontents hitem
        · exact .error (.tool trivial)
termination_by (unread.length, 0)
decreasing_by
  rename_i h
  exact Prod.Lex.left _ _ (length_filter_lt h)

theorem Template.failsWith_expandItems (d : Disk) (unread : List Location) (file : HostPath)
    (declared : String) (ids : Keyed String) (items : List String)
    (hitems : ∀ item ∈ items, Solution.Reaches d base mappings entries (itemFile file item)) :
    FailsWith (FaultOr (Solution.EntriesEscape d base mappings entries))
      (expandItems d unread file declared ids items) := by
  cases items with
  | nil =>
    rw [expandItems]
    exact .ok _
  | cons item rest =>
    rw [expandItems]
    have hmore := failsWith_expandItems d unread file declared ids rest fun item hitem =>
      hitems item (by simp [hitem])
    dsimp only
    split
    · refine .bind (failsWith_expand d unread _ _ _ (hitems item (by simp))) fun _ _ => ?_
      exact .bind hmore fun _ _ => .ok _
    · split
      · refine .bind (.map _ ?_) fun _ _ => .bind hmore fun _ _ => .ok _
        unfold projectItem
        dsimp only
        split
        · exact .error (.tool trivial)
        · exact .ok _
      · exact .bind (.ok _) fun _ _ => .bind hmore fun _ _ => .ok _
termination_by (unread.length, items.length + 1)

end

namespace Solution

theorem failsWith_descriptorFile {name path : String} {P : Failure → Prop} :
    FailsWith (FaultOr P) (descriptorFile base mappings name path) := by
  unfold descriptorFile
  dsimp only
  split
  · exact .error (.tool trivial)
  · exact .ok _

theorem failsWith_projectsOf (hentry : entry ∈ entries) :
    FailsWith (FaultOr (EntriesEscape d base mappings entries))
      (projectsOf d base mappings entry) := by
  unfold projectsOf
  split
  · exact .ok _
  · split
    · rename_i htype
      refine .bind failsWith_descriptorFile fun source hsource => ?_
      refine .bind ?_ fun _ _ => .ok _
      exact Template.failsWith_expand d _ source _ _ (.template hentry htype hsource)
    · exact .ok _

theorem failsWith_loadProject {line : ℕ} {done : List Loaded} {p : Project}
    (hp : ∀ source, descriptorFile base mappings p.name p.path = .ok source →
      Reaches d base mappings entries source) :
    FailsWith (FaultOr (EntriesEscape d base mappings entries))
      (loadProject d file base mappings line done p) := by
  unfold loadProject
  dsimp only
  split
  · exact .error (.tool trivial)
  · split
    · exact .error (.tool trivial)
    · refine .bind failsWith_descriptorFile fun source hsource => ?_
      refine .bind (Descriptor.failsWith_read.mono fun e h => ?_) fun _ _ => .ok _
      exact h.imp fun hescapes => ⟨source, hp source hsource, hescapes⟩

theorem failsWith_loadEntry {done : List Loaded} (hentry : entry ∈ entries) :
    FailsWith (FaultOr (EntriesEscape d base mappings entries))
      (loadEntry d file base mappings done entry) :=
  .bind (failsWith_projectsOf hentry) fun _ hprojects =>
    .foldlM fun _ _ hp => failsWith_loadProject fun _ => .project hentry hprojects hp

theorem failsWith_resolve {P : Failure → Prop} {projects : List Project}
    {dependencies : Keyed (List String)} {l : Loaded} :
    FailsWith (FaultOr P) (resolve file projects dependencies l) := by
  unfold resolve
  dsimp only
  split
  · exact .error (.tool trivial)
  · exact .ok _

/-- What a file makes loading it as a solution fail with, other than faults of the tool. -/
inductive Escapes (d : Disk) (file : HostPath) (mappings : List PathMapping) : Failure → Prop
  | unread {fault : Fault} : d.read file = .error fault → Escapes d file mappings (.disk fault)
  | entries {lines : List String} {text : SolutionText} {e : Failure} :
    readLines d file = .ok lines → SolutionText.parse lines = .ok text →
    EntriesEscape d file.parent mappings text.entries e → Escapes d file mappings e

theorem failsWith_readLines : FailsWith (FaultOr (Escapes d file mappings)) (readLines d file) := by
  unfold readLines
  split
  · exact .error (.tool trivial)
  · rename_i fault _ hread
    exact .error (.inr (.unread hread))
  · split
    · exact .ok _
    · exact .error (.tool trivial)

theorem failsWith_load : FailsWith (FaultOr (Escapes d file mappings)) (load d file mappings) := by
  unfold load
  refine .bind failsWith_readLines fun lines hlines => ?_
  split
  · exact .error (.tool trivial)
  · rename_i text htext
    have hentries : FailsWith (FaultOr (Escapes d file mappings))
        (text.entries.foldlM (loadEntry d file file.parent mappings) []) :=
      FailsWith.mono (.foldlM fun _ _ hentry => failsWith_loadEntry hentry) fun e h =>
        h.imp fun hescapes => .entries hlines htext hescapes
    exact .bind hentries fun _ _ => .bind (.mapM fun _ _ => failsWith_resolve) fun _ _ => .ok _

/-- If a solution can not be loaded, its files or the disk are the cause. -/
theorem fromFiles_load : FailsWith Failure.FromFiles (load d file mappings) :=
  failsWith_load.mono fun e h => h.fromFiles fun hescapes => by
    cases hescapes with
    | unread => trivial
    | entries _ _ hentries =>
      obtain ⟨source, -, hdescriptor⟩ := hentries
      exact hdescriptor.fromFiles

end Solution

/-! ## Locating -/

namespace Solution

/-- The path that is looked at first. -/
def placeOf (d : Disk) (path folder : Option HostPath) : HostPath :=
  match path with
  | none => folder.getD d.homePath
  | some p => (folder.getD ⟨.relative, []⟩).join p

/-- What a place makes locating fail with, other than faults of the tool: a path is too long. -/
def LocateEscapes (d : Disk) (place : HostPath) (e : Failure) : Prop :=
  ∃ fault, Disk.LongBelow d place fault ∧ e = .disk fault

theorem failsWith_filesIn : FailsWith (Disk.LongBelow d folder) (filesIn d folder) := by
  unfold filesIn
  refine .bind Disk.failsWith_glob fun found hfound => ?_
  exact .bind (Disk.failsWith_onlyFiles fun p => Disk.below_of_mem_glob hfound) fun _ _ => .ok _

theorem isFile_of_mem_filesIn {files : List HostPath} (h : filesIn d folder = .ok files)
    (hfile : file ∈ files) : d.isFile file = .ok true := by
  obtain ⟨found, -, h⟩ := bind_eq_ok.1 h
  obtain ⟨kept, hkept, h⟩ := bind_eq_ok.1 h
  cases h
  exact (mem_of_filterM_eq_ok hkept (mem_sorted.1 hfile)).2

theorem failsWith_findIn {search : Option HostPath} :
    FailsWith (FaultOr (LocateEscapes d (search.getD d.homePath))) (findIn d search) := by
  unfold findIn
  dsimp only
  split
  · rename_i fault hfault
    exact .error (.inr ⟨fault, failsWith_filesIn fault hfault, rfl⟩)
  · exact .error (.tool trivial)
  · exact .ok _
  · exact .error (.tool trivial)

theorem isFile_of_findIn {search : Option HostPath} (h : findIn d search = .ok file) :
    d.isFile file = .ok true := by
  unfold findIn at h
  dsimp only at h
  split at h
  · cases h
  · cases h
  · rename_i found hfound
    cases h
    exact isFile_of_mem_filesIn hfound (by simp)
  · cases h

theorem failsWith_locateAt {path : HostPath} :
    FailsWith (FaultOr (LocateEscapes d path)) (locateAt d path) := by
  have hlook := Disk.failsWith_look (d := d) (Below.refl path)
  unfold locateAt
  split
  · rename_i fault hfault
    exact .error (.inr ⟨fault, hlook fault (map_eq_error hfault), rfl⟩)
  · exact failsWith_findIn
  · split
    · rename_i fault hfault
      exact .error (.inr ⟨fault, hlook fault (map_eq_error hfault), rfl⟩)
    · exact .ok _
    · exact .error (.tool trivial)

theorem failsWith_locate {path search : Option HostPath} :
    FailsWith (FaultOr (LocateEscapes d (placeOf d path search))) (locate d path search) := by
  cases path with
  | none => exact failsWith_findIn
  | some p => exact failsWith_locateAt

theorem fromFiles_locate {path search : Option HostPath} :
    FailsWith Failure.FromFiles (locate d path search) :=
  failsWith_locate.mono fun e h => h.fromFiles fun hescapes => by
    obtain ⟨fault, -, rfl⟩ := hescapes
    trivial

/-- A solution that is located is a file. -/
theorem isFile_of_locate {path search : Option HostPath} (h : locate d path search = .ok file) :
    d.isFile file = .ok true := by
  unfold locate at h
  split at h
  · exact isFile_of_findIn h
  · unfold locateAt at h
    split at h
    · cases h
    · exact isFile_of_findIn h
    · split at h
      · cases h
      · rename_i hfile
        cases h
        exact hfile
      · cases h

end Solution

end SolutionScript
