import SolutionScript.Proofs.Solution.Rearranged
import SolutionScript.Proofs.Solution.Renumbered

/-!
# Loading solutions in another layout

The layout of a solution file makes no difference, nor does a byte order mark: the same solution is
loaded, or loading fails in the same way, with the numbers of lines being those of the same lines
in the new layout (`Solution.load_relaid`). There is one exception. A solution may name its own file
as that of a descriptor. This is refused, because the file is no document (`isMalformed_of_parse`),
but at which place of the file shows its layout (`Solution.not_load_relaid`).
-/

namespace SolutionScript

open FileSystem Fallible

/-! ## Texts in files -/

namespace Solution

variable {d : Disk} {file : HostPath} {s : String} {mark : List UInt8}

/-- A file that holds a text, with a byte order mark or without one, has the lines of the text. -/
theorem readLines_encode
    (hmark : mark = [] ∧ s.toList.head? ≠ some '\uFEFF' ∨ mark = Text.byteOrderMark)
    (hread : d.read file = .ok (mark ++ Text.encode s)) :
    readLines d file = .ok (Text.lines s) := by
  have hbytes : Text.dropByteOrderMark (mark ++ Text.encode s) = Text.encode s := by
    rcases hmark with ⟨rfl, hstart⟩ | rfl
    · exact Text.dropByteOrderMark_of_decode (Text.decode_encode s) hstart
    · rfl
  rw [readLines, hread]
  simp only [hbytes, Text.decode_encode, String.ofList_toList]

end Solution

/-! ## Failures that name no line -/

namespace Descriptor

variable {d : Disk} {file folder : HostPath} {p : Project} {root : Xml.Element} {name : String}

theorem load_pointsToNoLine : FailsWith (¬ ·.PointsToLine) (load d file name) := by
  unfold load
  split
  · rename_i fault _
    refine .error ?_
    rcases fault with ⟨reason, _, _⟩ | _ | _
    · cases reason <;> rintro ⟨_, _, _, ⟨⟩⟩
    all_goals rintro ⟨_, _, _, ⟨⟩⟩
  · split
    · rename_i fault _
      cases fault <;> exact .error (by rintro ⟨_, _, _, ⟨⟩⟩)
    · exact .ok _

theorem Attributes.read_pointsToNoLine :
    FailsWith (¬ ·.PointsToLine) (Attributes.read p root file) := by
  unfold Attributes.read
  split
  · exact .error (by rintro ⟨_, _, _, ⟨⟩⟩)
  · exact .ok _

theorem Properties.readItem_pointsToNoLine {directory : String} {item : Xml.Element} :
    FailsWith (¬ ·.PointsToLine) (readItem d directory folder item) := by
  unfold readItem
  dsimp only
  split
  · exact .ok _
  · split
    · refine .map _ fun e h => ?_
      obtain ⟨fault, -, rfl⟩ := Include.failsWith_expand e h
      rintro ⟨_, _, _, ⟨⟩⟩
    · exact .ok _

theorem Properties.read_pointsToNoLine :
    FailsWith (¬ ·.PointsToLine) (Properties.read d p root file) := by
  unfold Properties.read
  refine .bind (.mapM fun item _ => readItem_pointsToNoLine) fun items _ => ?_
  dsimp only
  split
  · refine .bind ?_ fun _ _ => .ok _
    unfold findSources
    split
    · exact .error (by rintro ⟨_, _, _, ⟨⟩⟩)
    · exact .ok _
  · exact .ok _

end Descriptor

/-! ## Solutions -/

/-- A failure to load a solution from one disk is the failure to load it from another one, where
the lines of its file have moved. -/
inductive Failure.Moves (d : Disk) (file : HostPath) (place : Location) (M : ℕ → ℕ → Prop) :
    Failure → Failure → Prop
  | line {cause : DescriptorCause} {line line' : ℕ} (number : M line line') :
    Moves d file place M (.tool (.descriptor file.render cause { line := some line }))
      (.tool (.descriptor file.render cause { line := some line' }))
  | other {e : Failure} (noLine : ¬ e.PointsToLine) : Moves d file place M e e
  /-- The file itself is read as a descriptor, and is no document. -/
  | itself {source : HostPath} {fault fault' : Xml.Fault} (located : d.locate source = .ok place) :
    Moves d file place M (Descriptor.documentFault source (.malformed fault))
      (Descriptor.documentFault source (.malformed fault'))

/-- A project is loaded in the same way, whatever the number of the line that declares it. -/
structure Solution.Loaded.Renumbered (M : ℕ → ℕ → Prop) (l l' : Solution.Loaded) : Prop where
  same : l' = { l with line := l'.line }
  line : M l.line l'.line

namespace Solution

variable {d d' : Disk} {file base : HostPath} {place : Location} {mappings : List PathMapping}
  {M : ℕ → ℕ → Prop} {lines lines' : List String} {text text' : SolutionText}

/-- Two disks hold the same but for a file, which on neither of them is a document. -/
structure OtherLayout (place : Location) (d d' : Disk) : Prop extends SameBut place d d' where
  held : ∃ bytes, d.tree.entry? place = some (.file bytes)
  held' : ∃ bytes, d'.tree.entry? place = some (.file bytes)
  malformed : IsMalformed d place
  malformed' : IsMalformed d' place

namespace OtherLayout

variable (h : OtherLayout place d d')
include h

theorem loadDescriptor (source : HostPath) (name : String) :
    Alike (Failure.Moves d file place M) Eq (Descriptor.load d source name)
      (Descriptor.load d' source name) := by
  obtain ⟨bytes, hbytes⟩ := h.held
  obtain ⟨bytes', hbytes'⟩ := h.held'
  rcases h.read_cases hbytes hbytes' source with hsame | ⟨hplace, hsource, hsource'⟩
  · have heq : Descriptor.load d' source name = Descriptor.load d source name := by
      rw [Descriptor.load, Descriptor.load, hsame]
    rw [heq]
    exact .refl_of_failsWith Descriptor.load_pointsToNoLine fun _ => .other
  · obtain ⟨fault, hfault⟩ := h.malformed bytes hbytes
    obtain ⟨fault', hfault'⟩ := h.malformed' bytes' hbytes'
    rw [Descriptor.load, Descriptor.load, hsource, hsource']
    simp only [hfault, hfault']
    exact .error (.itself hplace)

theorem readDescriptor (p : Project) (source : HostPath) :
    Alike (Failure.Moves d file place M) Eq (Descriptor.read d p source)
      (Descriptor.read d' p source) := by
  rw [Descriptor.read, Descriptor.read, ← h.readProperties_eq]
  refine (h.loadDescriptor source p.name).bind fun root _ hroot => ?_
  cases hroot
  refine .refl_of_failsWith (P := (¬ ·.PointsToLine)) ?_ fun _ => .other
  split
  · exact .bind Descriptor.Attributes.read_pointsToNoLine fun _ _ => .ok _
  · exact .bind Descriptor.Properties.read_pointsToNoLine fun _ _ => .ok _
  · exact .error (by rintro ⟨_, _, _, ⟨⟩⟩)

theorem loadsAlike (file base : HostPath) (mappings : List PathMapping) :
    LoadsAlike d d' file base mappings (Failure.Moves d file place M) M (Loaded.Renumbered M) where
  home := h.home_eq
  other _ := .other
  refused _ _ _ := .line
  template source name := (h.loadDescriptor source name).mono (fun _ _ he => he) fun root _ hroot =>
    hroot ▸ Template.SameTemplate.refl root
  descriptor p source _ _ _ hline := (h.readDescriptor p source).mono (fun _ _ he => he)
    fun _ _ hr => hr ▸ ⟨rfl, hline⟩
  project hl := by rw [hl.same]

end OtherLayout

theorem resolve_renumbered {l l' : Loaded} (hl : l.Renumbered M l') (ps : List Project)
    (dependencies : Keyed (List String)) :
    Alike (Failure.Moves d file place M) Eq (resolve file ps dependencies l)
      (resolve file ps dependencies l') := by
  rw [hl.same, resolve, resolve]
  dsimp only
  split
  · exact .error (.line hl.line)
  · exact .ok rfl

theorem held_of_readLines (hfile : d.locate file = .ok place)
    (hlines : readLines d file = .ok lines) :
    ∃ bytes, d.tree.entry? place = some (.file bytes) := by
  unfold readLines at hlines
  split at hlines
  · cases hlines
  · cases hlines
  · rename_i bytes hread
    exact ⟨bytes, Disk.collapse_of_locate hfile ▸ Disk.entry?_of_read hread⟩

/-- Two disks from which the texts of a solution are read alike are disks from which the solution
is loaded alike. -/
theorem load_renumbered (hd : SameBut place d d') (hfile : d.locate file = .ok place)
    (hlines : readLines d file = .ok lines) (hlines' : readLines d' file = .ok lines')
    (hparse : Alike (SolutionText.FaultMoves M) (SolutionText.Renumbered M)
      (SolutionText.parse lines) (SolutionText.parse lines')) :
    Alike (Failure.Moves d file place M) Eq (load d file mappings) (load d' file mappings) := by
  have hfile' : d'.locate file = .ok place := hd.locate_eq ▸ hfile
  rw [load, load, hlines, hlines']
  generalize htext : SolutionText.parse lines = r, htext' : SolutionText.parse lines' = r' at hparse
  simp only [bind, Except.bind, htext, htext']
  cases hparse with
  | @error fault fault' hfault =>
    obtain ⟨cause, line⟩ := fault
    obtain ⟨cause', line'⟩ := fault'
    obtain rfl : cause' = cause := hfault.cause
    exact .error (.line hfault.line)
  | @ok text text' h =>
    have hother : OtherLayout place d d' :=
      ⟨hd, held_of_readLines hfile hlines, held_of_readLines hfile' hlines',
        isMalformed_of_parse hfile hlines htext,
        isMalformed_of_parse hfile' hlines' htext'⟩
    have hloads : LoadsAlike d d' file file.parent mappings (Failure.Moves d file place M) M _ :=
      hother.loadsAlike file file.parent mappings
    have hentries := hloads.entries
      (h.entries.imp fun e e' he => ⟨by rw [he.same]; rfl, he.line⟩)
    refine hentries.bind fun loaded loaded' hloaded => ?_
    rw [hloads.map_project_eq hloaded, h.dependencies, h.version]
    refine (Alike.mapM_forall₂ hloaded fun l l' hl => resolve_renumbered hl _ _).bind
      fun projects projects' hprojects => ?_
    rw [List.forall₂_eq_eq_eq] at hprojects
    exact .ok (by rw [hprojects])

/-- A layout of a solution is loaded like the solution. -/
theorem load_relaid (mappings : List PathMapping) {s : String} {rows : List Text.Row}
    {mark : List UInt8} (hd : SameBut place d d') (hfile : d.locate file = .ok place)
    (hread : d.read file = .ok (Text.encode s)) (hstart : s.toList.head? ≠ some '\uFEFF')
    (hlayout : Text.IsLayout (Text.lines s) rows) (hmark : mark = [] ∨ mark = Text.byteOrderMark)
    (hread' : d'.read file = .ok (mark ++ Text.encode (String.ofList (Text.relaid rows)))) :
    Alike (Failure.Moves d file place (Text.Moves rows)) Eq (load d file mappings)
      (load d' file mappings) := by
  have hlines : readLines d file = .ok (Text.lines s) :=
    readLines_encode (.inl ⟨rfl, hstart⟩) hread
  have hstart' : (String.ofList (Text.relaid rows)).toList.head? ≠ some '\uFEFF' := by
    rw [String.toList_ofList]
    exact fun hhead => hstart (hlayout.head?_of_relaid (by decide) hhead)
  have hlines' := readLines_encode (hmark.imp_left fun hnone => ⟨hnone, hstart'⟩) hread'
  exact load_renumbered hd hfile hlines hlines' (SolutionText.parse_aligned hlayout.aligned)

/-- A layout of `chainLines`. The second blank line that is put in makes up no line, because its
line feed belongs to the carriage return after the header. -/
def chainRows : List Text.Row :=
  [⟨false, ['\t'], "", [' '], ['\r', '\n']⟩,
    ⟨true, [' '], "Microsoft Visual Studio Solution File, Format Version 8.00", [], ['\r']⟩,
    ⟨false, [], "", [], ['\n']⟩, ⟨false, ['\t'], "# Visual Studio", [], ['\r']⟩] ++
    (chainLines.drop 1).map fun line => ⟨true, ['\t'], line, [' '], ['\n']⟩

theorem isLayout_chainRows : Text.IsLayout chainLines chainRows := by
  have hline := Text.onLine_of_isPlain (@isPlain_pairLines ["{A}.0 = {C}"] (by decide))
  refine ⟨rfl, ?_, by decide, by decide, by decide, by decide⟩
  simp only [chainRows, List.forall_mem_append, List.forall_mem_cons, List.forall_mem_map]
  refine ⟨⟨by decide, ⟨by decide, hline _ (by simp [pairLines]), by decide⟩, by decide, by decide,
    by simp⟩, fun line h => ⟨by simp, hline line (List.mem_of_mem_drop h), by simp⟩⟩

/-- The disk with `Chain.sln` in that layout. -/
def relaidDisk : Disk where
  tree := ⟨[(["Work"], .folder), (["Work", "Chain.sln"],
      .file (Text.byteOrderMark ++ Text.encode (String.ofList (Text.relaid chainRows)))),
    (["Work", "Loop.sln"], plainFile loopLines), (["Work", "App.csproj"], plainFile bareDescriptor),
    (["Work", "Core.csproj"], plainFile bareDescriptor)]⟩
  home := ["Work"]

theorem load_relaid_chain :
    ∃ s, load pairDisk ⟨.relative, ["Chain.sln"]⟩ [] = .ok s ∧
      load relaidDisk ⟨.relative, ["Chain.sln"]⟩ [] = .ok s := by
  obtain ⟨a, c, hload⟩ := load_chain
  have hd : SameBut ["Work", "Chain.sln"] pairDisk relaidDisk := by
    refine ⟨rfl, fun l hl => ?_⟩
    simp only [FileTree.entry?, pairDisk, relaidDisk, List.find?_cons,
      beq_eq_false_iff_ne.2 hl.symm]
  have hplain : ∀ l ∈ chainLines, l.toList.all Text.isPlain := isPlain_pairLines (by decide)
  have hread : pairDisk.read ⟨.relative, ["Chain.sln"]⟩ =
      .ok (Text.encode (String.ofList (Text.unlines chainLines))) := by
    rw [Text.encode_unlines hplain]
    rfl
  have hlayout :
      Text.IsLayout (Text.lines (String.ofList (Text.unlines chainLines))) chainRows := by
    rw [Text.lines_unlines hplain]
    exact isLayout_chainRows
  have hstart := Text.head?_unlines_ne hplain
  have halike := load_relaid [] hd rfl hread hstart hlayout (.inr rfl) rfl
  rw [hload] at halike
  generalize load relaidDisk ⟨.relative, ["Chain.sln"]⟩ [] = r at halike ⊢
  cases halike with
  | ok heq => exact ⟨_, hload, congrArg _ heq.symm⟩

/-- A solution that names its own file as the descriptor of a project. -/
def selfLines (indent : String) : List String :=
  [indent ++ "Microsoft Visual Studio Solution File, Format Version 8.00",
    "Project(\"{FAE04EC0-301F-11D3-BF4B-00C04F79EFBC}\") = \"App\", \"App.sln\", \"{A}\"",
    "EndProject"]

/-- The layout of the solution with its first line indented. -/
def selfRows : List Text.Row :=
  ⟨true, [' '], "Microsoft Visual Studio Solution File, Format Version 8.00", [], ['\n']⟩ ::
    ((selfLines "").drop 1).map fun line => ⟨true, [], line, [], ['\n']⟩

theorem isPlain_selfLines (indent : String) (h : indent.toList.all Text.isPlain) :
    ∀ l ∈ selfLines indent, l.toList.all Text.isPlain := by
  have hpair := @isPlain_pairLines [] (by simp)
  simp only [selfLines, List.forall_mem_cons, String.toList_append, List.all_append, h,
    Bool.true_and]
  exact ⟨hpair _ (by simp [pairLines]), by decide, hpair _ (by simp [pairLines]), by simp⟩

theorem isLayout_selfRows : Text.IsLayout (selfLines "") selfRows := by
  have hline := Text.onLine_of_isPlain (isPlain_selfLines "" rfl)
  refine ⟨rfl, ?_, by decide, by decide, by decide, by decide⟩
  simp only [selfRows, List.forall_mem_cons, List.forall_mem_map]
  refine ⟨⟨by decide, hline _ (by simp [selfLines]), by decide⟩, fun line h =>
    ⟨by simp, hline line (List.mem_of_mem_drop h), by simp⟩⟩

theorem relaid_selfRows : Text.relaid selfRows = Text.unlines (selfLines " ") := by
  simp [Text.relaid, selfRows, selfLines, Text.unlines, Text.Row.chars, Text.Row.body]

/-- A disk with the solution. -/
def selfDisk (indent : String) : Disk where
  tree := ⟨[(["Work"], .folder), (["Work", "App.sln"], plainFile (selfLines indent))]⟩
  home := ["Work"]

theorem sameBut_selfDisk (indent indent' : String) :
    SameBut ["Work", "App.sln"] (selfDisk indent) (selfDisk indent') := by
  refine ⟨rfl, fun l hl => ?_⟩
  simp only [FileTree.entry?, selfDisk, List.find?_cons, beq_eq_false_iff_ne.2 hl.symm]

theorem read_selfDisk (indent : String) : (selfDisk indent).read ⟨.relative, ["App.sln"]⟩ =
    .ok (Text.asciiBytes (Text.unlines (selfLines indent))) := rfl

/-- The file of the solution is refused as a document where its heading is. -/
theorem parse_selfLines_of_refused {indent : String} {left : ℕ} {fault : Xml.Fault}
    (hplain : indent.toList.all Text.isPlain)
    (h : 1 < (Text.unlines (selfLines indent)).length ∧
      '\x00' ∉ (Text.unlines (selfLines indent)).take 2 ∧
      (Text.unlines (selfLines indent)).head? ≠ some '\uFEFF' ∧
      (Text.unlines (selfLines indent)).head? ≠ some '<' ∧
      Xml.Document.readHeading none ((Text.unlines (selfLines indent)).length + 1)
        { doctype := {} } (Text.unlines (selfLines indent)) = .error ⟨.unexpected, left⟩ ∧
      Xml.Stop.inText ⟨.unexpected, left⟩ (Text.unlines (selfLines indent)) = fault) :
    Xml.Document.parse (Text.asciiBytes (Text.unlines (selfLines indent))) =
      .error (.malformed fault) := by
  have hdecode := Text.decode_ascii (Text.lt_of_mem_unlines (isPlain_selfLines indent hplain))
  obtain ⟨hlength, hnull, hmark, hopen, hstop, rfl⟩ := h
  exact Xml.Document.parse_of_readHeading hdecode hlength hnull hmark hopen hstop

theorem parse_selfLines :
    Xml.Document.parse (Text.asciiBytes (Text.unlines (selfLines ""))) =
        .error (.malformed ⟨.unexpected, ⟨1, 0⟩⟩) ∧
      Xml.Document.parse (Text.asciiBytes (Text.unlines (selfLines " "))) =
        .error (.malformed ⟨.unexpected, ⟨1, 1⟩⟩) :=
  -- The indent is passed over before the first character is refused.
  ⟨@parse_selfLines_of_refused "" (Text.unlines (selfLines "")).length _ (by decide)
      (by decide +kernel),
    @parse_selfLines_of_refused " " (Text.unlines (selfLines "")).length _ (by decide)
      (by decide +kernel)⟩

theorem load_self {indent : String} {fault : Xml.Fault}
    (hplain : ∀ l ∈ selfLines indent, l.toList.all Text.isPlain)
    (htext : SolutionText.parse (selfLines indent) = .ok ⟨"8.00",
      [⟨"{FAE04EC0-301F-11D3-BF4B-00C04F79EFBC}", "App", "App.sln", "{A}", 2, []⟩], []⟩)
    (hdocument : Xml.Document.parse (Text.asciiBytes (Text.unlines (selfLines indent))) =
      .error (.malformed fault)) :
    load (selfDisk indent) ⟨.relative, ["App.sln"]⟩ [] =
      .error (Descriptor.documentFault ⟨.relative, ["App.sln"]⟩ (.malformed fault)) := by
  have hlines := readLines_plainFile (read_selfDisk indent) hplain
  have hbuildable : "{FAE04EC0-301F-11D3-BF4B-00C04F79EFBC}" ∈ buildableTypes := by decide
  have hparent : HostPath.parent ⟨.relative, ["App.sln"]⟩ = ⟨.relative, []⟩ := rfl
  have hsource : descriptorFile ⟨.relative, []⟩ [] "App" "App.sln" =
      .ok ⟨.relative, ["App.sln"]⟩ := by
    decide
  simp [load, hlines, htext, List.foldlM, loadEntry, projectsOf, hbuildable, loadProject, hparent,
    hsource, Descriptor.read, Descriptor.load, read_selfDisk, hdocument, bind, Except.bind, pure,
    Except.pure]

/-- Two failures differ at most in the number of a line. -/
def SameButLine (e e' : Failure) : Prop :=
  e' = e ∨ ∃ path cause place line, e = .tool (.descriptor path cause place) ∧
    e' = .tool (.descriptor path cause { place with line })

/-- A layout can show in more than the numbers of lines. -/
theorem not_load_relaid :
    ¬ ∀ (d d' : Disk) (file : HostPath) (place : Location) (mappings : List PathMapping)
        (s : String) (rows : List Text.Row), SameBut place d d' → d.locate file = .ok place →
      d.read file = .ok (Text.encode s) → s.toList.head? ≠ some '\uFEFF' →
      Text.IsLayout (Text.lines s) rows →
      d'.read file = .ok (Text.encode (String.ofList (Text.relaid rows))) →
      Alike SameButLine Eq (load d file mappings) (load d' file mappings) := by
  intro h
  have hplain := isPlain_selfLines "" rfl
  have hplain' := isPlain_selfLines " " rfl
  have hread : (selfDisk "").read ⟨.relative, ["App.sln"]⟩ =
      .ok (Text.encode (String.ofList (Text.unlines (selfLines "")))) := by
    rw [Text.encode_unlines hplain, read_selfDisk]
  have hread' : (selfDisk " ").read ⟨.relative, ["App.sln"]⟩ =
      .ok (Text.encode (String.ofList (Text.relaid selfRows))) := by
    rw [relaid_selfRows, Text.encode_unlines hplain', read_selfDisk]
  have hlayout :
      Text.IsLayout (Text.lines (String.ofList (Text.unlines (selfLines "")))) selfRows := by
    rw [Text.lines_unlines hplain]
    exact isLayout_selfRows
  have halike := h _ _ ⟨.relative, ["App.sln"]⟩ _ [] _ _ (sameBut_selfDisk "" " ") rfl hread
    (Text.head?_unlines_ne hplain) hlayout hread'
  rw [load_self hplain (by decide) parse_selfLines.1,
    load_self hplain' (by decide) parse_selfLines.2] at halike
  cases halike with
  | error he =>
    rcases he with he | ⟨path, cause, place, line, he, he'⟩
    · cases he
    · cases he
      cases he'

end Solution

end SolutionScript
