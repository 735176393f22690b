import Mathlib.Data.List.Permutation
import SolutionScript.Graph.BuildOrder
import SolutionScript.Proofs.Solution.Loading
import SolutionScript.Proofs.Text.Lines
import SolutionScript.Proofs.Xml.Compact

/-!
# Plain solution files

Solution files in ASCII whose lines end with line feeds: reading one gives its
lines back (`readLines_plainFile`). A file with one line that is the text of a
compact element is a document that has the element (`Xml.Document.parse_compactLine`).
Two solutions are on a small disk: one where of two projects one depends on the
other (`load_chain`), and one where each does (`load_loop`).
-/

namespace SolutionScript

open FileSystem

namespace Text

/-- Whether a character is in ASCII and ends no line. -/
def isPlain (c : Char) : Bool := c.toNat < 128 && !isLineEnd c

/-- The characters of lines, with a line feed at the end of each. -/
def unlines (ls : List String) : List Char := ls.flatMap fun l => l.toList ++ ['\n']

/-- The bytes of ASCII characters. -/
def asciiBytes (cs : List Char) : List UInt8 := cs.map fun c => UInt8.ofNat c.toNat

theorem lt_of_isPlain {c : Char} (h : isPlain c = true) : c.toNat < 128 := by
  simp only [isPlain, Bool.and_eq_true, decide_eq_true_eq] at h
  exact h.1

theorem not_isLineEnd_of_isPlain {c : Char} (h : isPlain c = true) : isLineEnd c = false := by
  simp only [isPlain, Bool.and_eq_true, Bool.not_eq_true'] at h
  exact h.2

/-- The bytes of ASCII characters are those of the text. -/
theorem asciiBytes_eq {cs : List Char} (h : ∀ c ∈ cs, c.toNat < 128) :
    asciiBytes cs = cs.flatMap String.utf8EncodeChar := by
  rw [asciiBytes, List.map_eq_flatMap]
  refine List.flatMap_congr fun c hc => ?_
  rw [utf8EncodeChar_eq, if_pos (Nat.le_of_lt_succ (h c hc))]

/-- ASCII characters are decoded to themselves. -/
theorem decode_ascii {cs : List Char} (h : ∀ c ∈ cs, c.toNat < 128) :
    decode (asciiBytes cs) = .ok cs := by
  rw [decode, asciiBytes_eq h, decodeFrom_flatMap]
  rfl

/-- A text in ASCII has no byte order mark. -/
theorem dropByteOrderMark_ascii {cs : List Char} (h : ∀ c ∈ cs, c.toNat < 128) :
    dropByteOrderMark (asciiBytes cs) = asciiBytes cs :=
  dropByteOrderMark_of_decode (decode_ascii h) fun hmark =>
    absurd (h _ (List.mem_of_head? hmark)) (by decide)

section

variable {ls : List String} (h : ∀ l ∈ ls, l.toList.all isPlain)
include h

theorem lt_of_mem_unlines : ∀ c ∈ unlines ls, c.toNat < 128 := by
  simp only [List.all_eq_true] at h
  intro c hc
  obtain ⟨l, hl, hc⟩ := List.mem_flatMap.1 hc
  rcases List.mem_append.1 hc with hc | hc
  · exact lt_of_isPlain (h l hl c hc)
  · rw [List.mem_singleton.1 hc]
    decide

theorem onLine_of_isPlain : ∀ l ∈ ls, OnLine l := fun l hl c hc =>
  not_isLineEnd_of_isPlain (List.all_eq_true.1 (h l hl) c hc)

/-- A text in ASCII does not start with a byte order mark. -/
theorem head?_unlines_ne : (String.ofList (unlines ls)).toList.head? ≠ some '\uFEFF' := by
  rw [String.toList_ofList]
  exact fun hmark => absurd (lt_of_mem_unlines h _ (List.mem_of_head? hmark)) (by decide)

theorem lines_unlines : lines (String.ofList (unlines ls)) = ls :=
  lines_withEnds (.inl rfl) (onLine_of_isPlain h)

theorem encode_unlines : encode (String.ofList (unlines ls)) = asciiBytes (unlines ls) := by
  rw [encode_ofList, asciiBytes_eq (lt_of_mem_unlines h)]

end

end Text

namespace Solution

/-- A file of plain lines. -/
def plainFile (ls : List String) : Entry := .file (Text.asciiBytes (Text.unlines ls))

/-- The lines of a plain file are read as they are. -/
theorem readLines_plainFile {d : Disk} {file : HostPath} {ls : List String}
    (hread : d.read file = .ok (Text.asciiBytes (Text.unlines ls)))
    (hplain : ∀ l ∈ ls, l.toList.all Text.isPlain) : readLines d file = .ok ls := by
  have hascii := Text.lt_of_mem_unlines hplain
  rw [readLines, hread]
  simp only [Text.dropByteOrderMark_ascii hascii, Text.decode_ascii hascii,
    Text.lines_unlines hplain]

end Solution

namespace Xml.Document

variable {line : String} {e : Element}

/-- A plain line is a document if an element is read from it. -/
theorem parse_line {name cs : List Char} (hplain : line.toList.all Text.isPlain)
    (hline : line.toList ++ ['\n'] = '<' :: (name ++ cs)) (hname : isPlainName name = true)
    (h : Reaches {} {} ('<' :: (name ++ cs)) ⟨[], some e⟩ ['\n']) :
    parse (Text.asciiBytes (Text.unlines [line])) = .ok e := by
  rw [← Text.encode_unlines (List.forall_mem_singleton.2 hplain), Text.unlines,
    List.flatMap_singleton, hline, parse_undeclared hname]
  exact @readAfter_of_reaches [] [] name cs _ e (List.forall_mem_nil _) hname
    (List.forall_mem_singleton.2 rfl) h

/-- The text of a compact element is a document that has the element. -/
theorem parse_compactLine (hline : line = String.ofList e.toNode.render)
    (hplain : e.toNode.render.all Text.isPlain) (h : e.toNode.isCompact = true) :
    parse (Text.asciiBytes (Text.unlines [line])) = .ok e := by
  obtain ⟨name, cs, hname, hcs, hreaches⟩ := reaches_compact h ['\n']
  rw [hline]
  exact parse_line (by rwa [String.toList_ofList]) (by rwa [String.toList_ofList]) hname hreaches

end Xml.Document

/-! ## Two projects -/

/-- A solution of two projects, with lines that say how they depend on each other. -/
def pairLines (dependencies : List String) : List String :=
  ["Microsoft Visual Studio Solution File, Format Version 8.00",
    "Project(\"{FAE04EC0-301F-11D3-BF4B-00C04F79EFBC}\") = \"App\", \"App.csproj\", \"{A}\"",
    "EndProject",
    "Project(\"{FAE04EC0-301F-11D3-BF4B-00C04F79EFBC}\") = \"Core\", \"Core.csproj\", \"{C}\"",
    "EndProject", "GlobalSection(ProjectDependencies)"] ++ dependencies

/-- One project depends on the other. -/
def chainLines : List String := pairLines ["{A}.0 = {C}"]

/-- Each project depends on the other. -/
def loopLines : List String := pairLines ["{A}.0 = {C}", "{C}.0 = {A}"]

theorem isPlain_pairLines {dependencies : List String}
    (h : ∀ l ∈ dependencies, l.toList.all Text.isPlain) :
    ∀ l ∈ pairLines dependencies, l.toList.all Text.isPlain := by
  refine List.forall_mem_append.2 ⟨?_, h⟩
  simp only [List.forall_mem_cons]
  refine ⟨?_, ?_, ?_, ?_, ?_, ?_, by simp⟩
  all_goals decide

/-- A descriptor without settings, references and files. -/
def bareDescriptor : List String := ["<VisualStudioProject><CSHARP/></VisualStudioProject>"]

/-- A disk with both solutions. -/
def pairDisk : Disk where
  tree := ⟨[(["Work"], .folder), (["Work", "Chain.sln"], Solution.plainFile chainLines),
    (["Work", "Loop.sln"], Solution.plainFile loopLines),
    (["Work", "App.csproj"], Solution.plainFile bareDescriptor),
    (["Work", "Core.csproj"], Solution.plainFile bareDescriptor)]⟩
  home := ["Work"]

/-- The first project of both solutions, as its block declares it. -/
def appProject : Project := { id := "{A}", name := "App", path := "App.csproj" }

/-- The second project. -/
def coreProject : Project := { id := "{C}", name := "Core", path := "Core.csproj", index := 1 }

open Xml in
theorem parse_bareDescriptor :
    Document.parse (Text.asciiBytes (Text.unlines bareDescriptor)) =
      .ok ⟨"VisualStudioProject", [], [.element "CSHARP" [] []]⟩ := by
  let endTag := "</".toList ++ ("VisualStudioProject".toList ++ '>' :: ['\n'])
  let language := '<' :: ("CSHARP".toList ++ '/' :: '>' :: endTag)
  have hplain : (bareDescriptor.getD 0 "").toList.all Text.isPlain := by decide
  have hline : (bareDescriptor.getD 0 "").toList ++ ['\n'] =
      '<' :: ("VisualStudioProject".toList ++ '>' :: language) := by
    decide
  have hname : isPlainName "VisualStudioProject".toList = true := by decide
  have hstart : Reaches {} {} ('<' :: ("VisualStudioProject".toList ++ '>' :: language))
      (within [] "VisualStudioProject" [] []) language :=
    reaches_startTag rfl hname attributes_nil rfl rfl (endsTag_close _) (by simp)
  have hlanguage : Reaches {} (within [] "VisualStudioProject" [] []) language
      (within [] "VisualStudioProject" [] [.element "CSHARP" [] []]) endTag :=
    reaches_startTag rfl (by decide) attributes_nil rfl rfl (endsTag_tight _)
      (by simp only [List.length_cons]; omega)
  have hend : Reaches {} (within [] "VisualStudioProject" [] [.element "CSHARP" [] []]) endTag
      ⟨[], some ⟨"VisualStudioProject", [], [.element "CSHARP" [] []]⟩⟩ ['\n'] :=
    reaches_endTag [] hname _
  exact Document.parse_line hplain hline hname (hstart.trans (hlanguage.trans hend))

/-- A descriptor without content adds nothing but the path of the built assembly. -/
theorem read_bareDescriptor {d : Disk} {p : Project} {file : HostPath} (hkind : p.kind = .csharp)
    (hread : d.read file = .ok (Text.asciiBytes (Text.unlines bareDescriptor))) :
    Descriptor.read d p file = .ok ({ p with outputPath := Descriptor.outputPathOf p }, []) := by
  have hname : Xml.Element.localName
      ⟨"VisualStudioProject", [], [.element "CSHARP" [] []]⟩ = "VisualStudioProject" := by
    decide
  have hlanguage : Descriptor.Attributes.language?
      ⟨"VisualStudioProject", [], [.element "CSHARP" [] []]⟩ =
        some (.csharp, ⟨"CSHARP", [], []⟩) := rfl
  obtain ⟨⟩ := p
  cases hkind
  rw [Descriptor.read, Descriptor.load, hread]
  simp only [parse_bareDescriptor, bind, Except.bind, pure, Except.pure, hname,
    Descriptor.Attributes.read, hlanguage]
  simp [Xml.Element.child?, Xml.Element.children, Descriptor.childrenOf]

/-- The blocks of both solutions. -/
def pairEntries : List SolutionEntry :=
  [⟨"{FAE04EC0-301F-11D3-BF4B-00C04F79EFBC}", "App", "App.csproj", "{A}", 2, []⟩,
    ⟨"{FAE04EC0-301F-11D3-BF4B-00C04F79EFBC}", "Core", "Core.csproj", "{C}", 4, []⟩]

/-- What the blocks are loaded as, with the paths of the built assemblies. -/
def pairLoaded (a c : String) : List Solution.Loaded :=
  [⟨{ appProject with outputPath := a }, [], 2⟩, ⟨{ coreProject with outputPath := c }, [], 4⟩]

/-- A disk has descriptors without content of both projects. -/
structure HasPair (d : Disk) : Prop where
  app : d.read ⟨.relative, ["App.csproj"]⟩ = .ok (Text.asciiBytes (Text.unlines bareDescriptor))
  core : d.read ⟨.relative, ["Core.csproj"]⟩ = .ok (Text.asciiBytes (Text.unlines bareDescriptor))

theorem hasPair_pairDisk : HasPair pairDisk := ⟨rfl, rfl⟩

namespace HasPair

variable {d : Disk}

theorem loadEntries (hd : HasPair d) (file : HostPath) :
    ∃ a c, pairEntries.foldlM (Solution.loadEntry d file ⟨.relative, []⟩ []) [] =
      .ok (pairLoaded a c) := by
  have hbuildable : "{FAE04EC0-301F-11D3-BF4B-00C04F79EFBC}" ∈ Solution.buildableTypes := by decide
  have happ : Solution.descriptorFile ⟨.relative, []⟩ [] "App" "App.csproj" =
      .ok ⟨.relative, ["App.csproj"]⟩ := by decide
  have hcore : Solution.descriptorFile ⟨.relative, []⟩ [] "Core" "Core.csproj" =
      .ok ⟨.relative, ["Core.csproj"]⟩ := by decide
  have hreadApp := @read_bareDescriptor d appProject ⟨.relative, ["App.csproj"]⟩ rfl hd.app
  have hreadCore := @read_bareDescriptor d coreProject ⟨.relative, ["Core.csproj"]⟩ rfl hd.core
  refine ⟨Descriptor.outputPathOf appProject, Descriptor.outputPathOf coreProject, ?_⟩
  simp only [appProject, coreProject] at hreadApp hreadCore
  simp [pairEntries, List.foldlM, Solution.loadEntry, Solution.projectsOf, hbuildable,
    Solution.loadProject, bind, Except.bind, pure, Except.pure, happ, hcore, hreadApp, hreadCore,
    appProject, coreProject, pairLoaded]

/-- Whatever dependencies the blocks have, only the dependencies are left to resolve. -/
theorem load (hd : HasPair d) {name : String} {ls : List String} {entries : List SolutionEntry}
    {dependencies : Keyed (List String)}
    (hlines : Solution.readLines d ⟨.relative, [name]⟩ = .ok ls)
    (hparse : SolutionText.parse ls = .ok ⟨"8.00", entries, dependencies⟩)
    (hentries : entries.map (fun e => { e with dependencies := [] }) = pairEntries) :
    ∃ a c, ∀ s : Solution, s.path = name → s.formatVersion = "8.00" →
      (pairLoaded a c).mapM (Solution.resolve ⟨.relative, [name]⟩
        ((pairLoaded a c).map (·.project)) dependencies) = .ok s.projects →
      Solution.load d ⟨.relative, [name]⟩ [] = .ok s := by
  obtain ⟨a, c, hloaded⟩ := hd.loadEntries ⟨.relative, [name]⟩
  refine ⟨a, c, fun s hpath hversion hps => ?_⟩
  rw [← hentries, List.foldlM_map] at hloaded
  refine Solution.load_eq_ok.2 ⟨ls, _, _, hlines, hparse, hloaded, hps, ?_, hversion⟩
  rw [hpath]
  simp [HostPath.render, HostPath.rootText, Text.join]

end HasPair

theorem load_chain : ∃ a c, Solution.load pairDisk ⟨.relative, ["Chain.sln"]⟩ [] =
    .ok ⟨"Chain.sln", "8.00", [{ appProject with outputPath := a }.addDependency "{C}",
      { coreProject with outputPath := c }]⟩ := by
  have hlines : Solution.readLines pairDisk ⟨.relative, ["Chain.sln"]⟩ = .ok chainLines :=
    Solution.readLines_plainFile rfl (isPlain_pairLines (by decide))
  have hparse : SolutionText.parse chainLines = .ok ⟨"8.00", pairEntries, [("{A}", ["{C}"])]⟩ := by
    decide
  obtain ⟨a, c, h⟩ := hasPair_pairDisk.load hlines hparse rfl
  exact ⟨a, c, h _ rfl rfl rfl⟩

theorem load_loop : ∃ a c, Solution.load pairDisk ⟨.relative, ["Loop.sln"]⟩ [] =
    .ok ⟨"Loop.sln", "8.00", [{ appProject with outputPath := a }.addDependency "{C}",
      { coreProject with outputPath := c }.addDependency "{A}"]⟩ := by
  have hlines : Solution.readLines pairDisk ⟨.relative, ["Loop.sln"]⟩ = .ok loopLines :=
    Solution.readLines_plainFile rfl (isPlain_pairLines (by decide))
  have hparse : SolutionText.parse loopLines =
      .ok ⟨"8.00", pairEntries, [("{A}", ["{C}"]), ("{C}", ["{A}"])]⟩ := by decide
  obtain ⟨a, c, h⟩ := hasPair_pairDisk.load hlines hparse rfl
  exact ⟨a, c, h _ rfl rfl rfl⟩

theorem ofProjects_chain (a c : String) :
    BuildOrder.ofProjects [{ appProject with outputPath := a }.addDependency "{C}",
        { coreProject with outputPath := c }] =
      .ok ⟨[{ coreProject with outputPath := c },
        { appProject with outputPath := a }.addDependency "{C}"]⟩ := by
  simp only [BuildOrder.ofProjects, BuildOrder.unresolved?, ← Option.not_isSome]
  cbv

theorem ofProjects_loop (a c : String) :
    BuildOrder.ofProjects [{ appProject with outputPath := a }.addDependency "{C}",
        { coreProject with outputPath := c }.addDependency "{A}"] =
      .error (.tool (.cyclicDependency ["App", "Core"])) := by
  simp only [BuildOrder.ofProjects, BuildOrder.unresolved?, ← Option.not_isSome]
  cbv

end SolutionScript
