import SolutionScript.Proofs.Conversion
import SolutionScript.Proofs.Xml.Document

/-!
# Failures that escape

Most failures of a conversion are faults of the tool, but not all: the files of
a solution can make it fail with what comes from below. `Escapes` says when
(`failures_escape`). A descriptor that declares an encoding which does not exist
is enough (`exists_not_isTool`).
-/

namespace SolutionScript

open FileSystem Fallible

variable {d : Disk} {r : Request} {format : String} {m : Parameters} {e : Failure}

/-- What the files make a conversion fail with, other than faults of the tool. -/
inductive Escapes (d : Disk) (r : Request) : Failure → Prop
  /-- The search for the solution meets a path that is too long. -/
  | locating {e : Failure} :
    Solution.LocateEscapes d (Solution.placeOf d r.solution r.folder) e →
    Solution.locate d r.solution r.folder = .error e → Escapes d r e
  /-- A descriptor of the solution can not be read. -/
  | reading {mappings : List PathMapping} {file : HostPath} {lines : List String}
      {text : SolutionText} {e : Failure} :
    PathMapping.ofPairs r.mappings = .ok mappings →
    Solution.locate d r.solution r.folder = .ok file → Solution.readLines d file = .ok lines →
    SolutionText.parse lines = .ok text →
    Solution.EntriesEscape d file.parent mappings text.entries e → Escapes d r e

theorem PathMapping.exists_ofPairs {pairs : List (List String)}
    (h : ∀ pair ∈ pairs, pair.length = 2) : ∃ mappings, ofPairs pairs = .ok mappings := by
  induction pairs with
  | nil => exact ⟨[], rfl⟩
  | cons pair pairs ih =>
    obtain ⟨mappings, hmappings⟩ := ih fun pair hpair => h pair (by simp [hpair])
    obtain ⟨source, target, rfl⟩ := List.length_eq_two.1 (h pair (by simp))
    exact ⟨⟨source, target⟩ :: mappings, by rw [ofPairs, hmappings]; rfl⟩

theorem isTool_emitFailure (format : String) (e : Failure) : (emitFailure format e).IsTool := by
  cases e <;> exact ⟨_, rfl⟩

/-- A solution that is located can be read, so what escapes comes from the descriptors. -/
theorem StageFails.isTool_or (hpairs : ∀ pair ∈ r.mappings, pair.length = 2)
    (h : StageFails d format m r e) : e.IsTool ∨ Escapes d r e := by
  cases h with
  | mapping hmappings =>
    obtain ⟨mappings, hok⟩ := PathMapping.exists_ofPairs hpairs
    rw [hmappings] at hok
    cases hok
  | locating hmappings hlocate =>
    exact (Solution.failsWith_locate e hlocate).isTool_or.imp_right fun hescapes =>
      .locating hescapes hlocate
  | loading hmappings hlocate hload =>
    refine (Solution.failsWith_load e hload).isTool_or.imp_right fun hescapes => ?_
    cases hescapes with
    | unread hunread =>
      obtain ⟨bytes, hread⟩ := Disk.exists_read (Solution.isFile_of_locate hlocate)
      cases hunread.symm.trans hread
    | entries hlines htext hentries => exact .reading hmappings hlocate hlines htext hentries
  | ordering hmappings hlocate hload horder =>
    have hid := (Solution.wellNumbered_of_load hload).1.ids
    rw [← Solution.map_id_mapPaths] at hid
    rcases BuildOrder.ofProjects_cases hid with ⟨p, id, herror, -⟩ | ⟨c, herror, -⟩ | ⟨o, hok, -⟩
    · cases horder.symm.trans herror
      exact .inl ⟨_, rfl⟩
    · cases horder.symm.trans herror
      exact .inl ⟨_, rfl⟩
    · cases horder.symm.trans hok
  | choosing hs hformat => exact .inl ⟨_, rfl⟩
  | writing hs hformat hwrite => exact .inl (isTool_emitFailure format _)

/-- With mappings that are pairs, loading, rendering and converting fail with a fault of the tool,
or with a failure that the files of the solution let escape. -/
theorem failures_escape (d : Disk) (format : String) (m : Parameters) (r : Request) (sink : Sink)
    (hpairs : ∀ pair ∈ r.mappings, pair.length = 2) :
    (∀ e, loadOrdered d r = .error e → e.IsTool ∨ Escapes d r e) ∧
    (∀ e, render d format m r = .error e → e.IsTool ∨ Escapes d r e) ∧
    ∀ sink' e, convertInto d format m r sink = (sink', .error e) → e.IsTool ∨ Escapes d r e := by
  refine ⟨fun e h => ?_, fun e h => ?_, fun sink' e h => ?_⟩
  · exact (loadOrdered_eq_error format m h).isTool_or hpairs
  · exact (render_eq_error.1 h).isTool_or hpairs
  · rcases convertInto_cases d format m r sink with
      ⟨e', hstage, hend⟩ | ⟨out, -, ⟨cause, sink'', -, hend⟩ | hend⟩
    · cases hend.symm.trans h
      exact hstage.isTool_or hpairs
    · cases hend.symm.trans h
      exact .inl ⟨_, rfl⟩
    · cases hend.symm.trans h

/-! ## An encoding that does not exist -/

/-- A solution of the first of two projects alone. -/
def singleLines : List String := (pairLines []).take 3

/-- A descriptor that declares an encoding which does not exist. -/
def bogusDescriptor : List String := ["<?xml version=\"1.0\" encoding=\"bogus\"?><Project/>"]

/-- A disk with both. -/
def bogusDisk : Disk where
  tree := ⟨[(["Work"], .folder), (["Work", "App.sln"], Solution.plainFile singleLines),
    (["Work", "App.csproj"], Solution.plainFile bogusDescriptor)]⟩
  home := ["Work"]

/-- The solution on it. -/
def bogusRequest : Request := { solution := some ⟨.relative, ["App.sln"]⟩ }

theorem parse_bogusDescriptor :
    Xml.Document.parse (Text.asciiBytes (Text.unlines bogusDescriptor)) =
      .error (.unknownEncoding "bogus") := by
  have hascii : ∀ c ∈ Text.unlines bogusDescriptor, c.toNat < 128 := by decide
  have hparse := Xml.Document.parse_of_decode (Text.decode_ascii hascii) (by decide)
    (by decide) (by decide)
  have hscan : Xml.scanProlog (Text.unlines bogusDescriptor) =
      .ok (.documentDeclaration " version=\"1.0\" encoding=\"bogus\"".toList,
        "<Project/>\n".toList) :=
    rfl
  have hdeclaration : Xml.readDeclaration " version=\"1.0\" encoding=\"bogus\"".toList =
      .ok { encoding := some ("bogus".toList, 6) } :=
    rfl
  have hchoice : Xml.Encoding.utf8.choose "bogus".toList = .unknown := by decide +kernel
  rw [hparse, hscan]
  dsimp only
  rw [Xml.Document.readDeclared, hdeclaration]
  simp only [hchoice, String.ofList_toList]

theorem read_bogus {p : Project} : Descriptor.read bogusDisk p ⟨.relative, ["App.csproj"]⟩ =
    .error (.unknownEncoding "bogus") := by
  have hread : bogusDisk.read ⟨.relative, ["App.csproj"]⟩ =
      .ok (Text.asciiBytes (Text.unlines bogusDescriptor)) := rfl
  simp only [Descriptor.read, Descriptor.load, hread, parse_bogusDescriptor, bind, Except.bind,
    Descriptor.documentFault]

theorem parse_singleLines : SolutionText.parse singleLines = .ok ⟨"8.00",
    [⟨"{FAE04EC0-301F-11D3-BF4B-00C04F79EFBC}", "App", "App.csproj", "{A}", 2, []⟩], []⟩ := by
  decide

/-- The solution fails as its descriptor does. -/
theorem load_singleLines {d : Disk} {e : Failure}
    (hlines : Solution.readLines d ⟨.relative, ["App.sln"]⟩ = .ok singleLines)
    (hread : ∀ p, Descriptor.read d p ⟨.relative, ["App.csproj"]⟩ = .error e) :
    Solution.load d ⟨.relative, ["App.sln"]⟩ [] = .error e := by
  have hbuildable : "{FAE04EC0-301F-11D3-BF4B-00C04F79EFBC}" ∈ Solution.buildableTypes := by decide
  have hparent : HostPath.parent ⟨.relative, ["App.sln"]⟩ = ⟨.relative, []⟩ := rfl
  have hsource : Solution.descriptorFile ⟨.relative, []⟩ [] "App" "App.csproj" =
      .ok ⟨.relative, ["App.csproj"]⟩ := by
    decide
  simp [Solution.load, hlines, parse_singleLines, List.foldlM, Solution.loadEntry,
    Solution.projectsOf, hbuildable, Solution.loadProject, hparent, hsource, hread, bind,
    Except.bind, pure, Except.pure]

theorem load_bogus : Solution.load bogusDisk ⟨.relative, ["App.sln"]⟩ [] =
    .error (.unknownEncoding "bogus") := by
  have hplain : ∀ l ∈ singleLines, l.toList.all Text.isPlain := fun l hl =>
    isPlain_pairLines (by simp) l (List.mem_of_mem_take hl)
  exact load_singleLines (Solution.readLines_plainFile rfl hplain) fun _ => read_bogus

theorem loadOrdered_bogus :
    loadOrdered bogusDisk bogusRequest = .error (.unknownEncoding "bogus") :=
  loadOrdered_of_load_eq_error rfl rfl load_bogus

/-- Not every failure is a fault of the tool. -/
theorem exists_not_isTool :
    ¬ ∀ (d : Disk) (r : Request), (∀ pair ∈ r.mappings, pair.length = 2) →
      ∀ e, loadOrdered d r = .error e → e.IsTool := by
  intro h
  obtain ⟨fault, hfault⟩ := h bogusDisk bogusRequest (by simp [bogusRequest]) _ loadOrdered_bogus
  cases hfault

theorem failures_escape_bogus :
    (∀ pair ∈ bogusRequest.mappings, pair.length = 2) ∧
    loadOrdered bogusDisk bogusRequest = .error (.unknownEncoding "bogus") ∧
    convertInto bogusDisk "nant" [] bogusRequest {} = ({}, .error (.unknownEncoding "bogus")) ∧
    Escapes bogusDisk bogusRequest (.unknownEncoding "bogus") := by
  have hpairs : ∀ pair ∈ bogusRequest.mappings, pair.length = 2 := by simp [bogusRequest]
  have hstage := loadOrdered_eq_error "nant" [] loadOrdered_bogus
  have hconvert := convertInto_of_stageFails hstage {}
  obtain ⟨-, -, hescapes⟩ := failures_escape bogusDisk "nant" [] bogusRequest {} hpairs
  rcases hescapes _ _ hconvert with ⟨fault, hfault⟩ | hescapes
  · cases hfault
  · exact ⟨hpairs, loadOrdered_bogus, hconvert, hescapes⟩

end SolutionScript
