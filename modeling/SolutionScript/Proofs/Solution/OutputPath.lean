import SolutionScript.Proofs.Solution.DescriptorPath
import SolutionScript.Proofs.Solution.Location
import SolutionScript.Proofs.Solution.PrefixRules
import SolutionScript.Proofs.Text.Over

/-!
# Where built assemblies go

The path of the built assembly is put together from the declared path of a project, and
mapped afterwards on its own. It ends up beside the mapped path where one rule fits both
and leaves the name of the project's folder (`loadOrdered_outputPath`). A rule that
takes in the separator after the folder fits the path of the project only, so the
assembly stays at the declared place (`outputPath_left_behind`).
-/

namespace SolutionScript

open DescriptorPath FileSystem Text

/-! ## Exchanging the start of a path -/

namespace PathMapping

variable {m : PathMapping} {folder path : String} {cs : List Char}

theorem turned_separators (h : ∀ c ∈ cs, isSeparator c = true) :
    ∀ c ∈ m.turned cs, isSeparator c = true := by
  simp only [turned, replaceList]
  split
  · intro c hc
    obtain ⟨b, hb, rfl⟩ := List.mem_map.1 hc
    split
    · decide
    · exact h b hb
  · exact h

/-- What comes after the start that a rule fits is kept, up to its slashes. -/
theorem toList_exchange_append (hfits : m.fits folder = true)
    (hpath : path.toList = folder.toList ++ cs) :
    (m.exchange path).toList = (m.exchange folder).toList ++ m.turned cs := by
  have hle : m.source.length ≤ folder.toList.length := (fits_iff.1 hfits).length_le
  rw [toList_exchange, toList_exchange, hpath, List.drop_append_of_le_length hle, turned_append,
    List.append_assoc]

/-- A file in a folder is in what a rule makes of the folder. -/
theorem inFolder_exchange (hfits : m.fits folder = true) (hpath : InFolder folder path)
    (hmapped : EndsInName (m.exchange folder).toList) :
    InFolder (m.exchange folder) (m.exchange path) := by
  obtain ⟨-, gap, name, hpath, hne, hgap, hname⟩ := hpath
  have hslash : '/' ∉ name := fun h => absurd (hname _ h) (by decide)
  refine ⟨hmapped, m.turned gap, name, ?_, ?_, turned_separators hgap, hname⟩
  · rw [List.append_assoc] at hpath
    rw [toList_exchange_append hfits hpath, turned_append, turned_eq hslash, List.append_assoc]
  · rwa [Ne, turned_eq_nil]

/-- Of two paths in a folder, one has a slash after the folder and the other a backslash. A rule for
the one fits the other if and only if it leaves that slash. -/
theorem fits_below_iff {below : String} (hbelow : folder.toList ++ ['\\'] <+: below.toList)
    (hslash : folder.toList ++ ['/'] <+: path.toList) (hfits : m.fits path = true) :
    m.fits below = true ↔ m.fits folder = true := by
  have hfolder : folder.toList <+: below.toList := (List.prefix_append _ _).trans hbelow
  rw [fits_iff] at hfits ⊢
  rw [fits_iff]
  refine ⟨fun hsource => ?_, fun hsource => hsource.trans hfolder⟩
  rcases Nat.lt_or_ge folder.toList.length m.source.toList.length with hlt | hle
  · have hbeyond : folder.toList ++ ['/'] <+: m.source.toList :=
      List.prefix_of_prefix_length_le hslash hfits (by simpa [Nat.add_one_le_iff] using hlt)
    obtain ⟨rest, hrest⟩ := hbeyond.trans hsource
    obtain ⟨rest', hrest'⟩ := hbelow
    simp [← hrest'] at hrest
  · exact List.prefix_of_prefix_length_le hsource hfolder hle

end PathMapping

/-! ## URLs -/

theorem eq_of_splitAtWord {word cs before after : List Char}
    (h : splitAtWord word cs = some (before, after)) : cs = before ++ word ++ after := by
  induction cs generalizing before with
  | nil =>
    rw [splitAtWord] at h
    split at h
    · rename_i hword
      cases h
      simpa using hword
    · cases h
  | cons c cs ih =>
    rw [splitAtWord] at h
    split at h
    · rename_i hword
      obtain ⟨rest, hrest⟩ := List.isPrefixOf_iff_prefix.1 hword
      cases h
      rw [List.nil_append, ← hrest, List.drop_left]
    · obtain ⟨⟨before', after'⟩, hparts, heq⟩ := Option.map_eq_some_iff.1 h
      cases heq
      rw [ih hparts]
      rfl

/-- A word splits a text before which its first character does not stand. -/
theorem splitAtWord_word {c : Char} {before : List Char} (h : c ∉ before) (word after : List Char) :
    splitAtWord (c :: word) (before ++ c :: word ++ after) = some (before, after) := by
  induction before with
  | nil =>
    have hprefix : (c :: word).isPrefixOf (c :: (word ++ after)) = true :=
      List.isPrefixOf_iff_prefix.2 ⟨after, rfl⟩
    rw [List.nil_append, List.cons_append, splitAtWord, if_pos hprefix]
    simp
  | cons b before ih =>
    rw [List.mem_cons, not_or] at h
    have hprefix : ¬ (c :: word).isPrefixOf (b :: (before ++ c :: word ++ after)) = true := by
      simp [h.1]
    rw [List.cons_append, List.cons_append, splitAtWord, if_neg hprefix, ih h.2]
    rfl

/-- A URL has a scheme of at least two letters. -/
theorem isRemote_iff {path : String} : isRemote path = true ↔
    ∃ scheme rest, path.toList = scheme ++ [':', '/', '/'] ++ rest ∧ 1 < scheme.length ∧
      ∀ c ∈ scheme, isLetter c = true := by
  constructor
  · intro h
    rw [isRemote] at h
    split at h
    · rename_i scheme rest hsplit
      rw [Bool.and_eq_true, decide_eq_true_eq, List.all_eq_true] at h
      exact ⟨scheme, rest, eq_of_splitAtWord hsplit, h⟩
    · cases h
  · rintro ⟨scheme, rest, hpath, hlen, hletters⟩
    have hcolon : ':' ∉ scheme := fun h => absurd (hletters _ h) (by decide)
    rw [isRemote, hpath, splitAtWord_word hcolon]
    simpa using ⟨hlen, hletters⟩

/-- A path is local that starts as a local one, if no slash comes after that. -/
theorem isRemote_of_start {path output : String} {start gap rest : List Char}
    (hlocal : isRemote path = false) (hpath : path.toList = start ++ gap)
    (houtput : output.toList = start ++ rest) (hrest : '/' ∉ rest) : isRemote output = false := by
  rw [Bool.eq_false_iff] at hlocal ⊢
  intro hremote
  obtain ⟨scheme, more, heq, hlen, hletters⟩ := isRemote_iff.1 hremote
  rw [houtput] at heq
  -- The mark of the URL ends with a slash, so it lies in the common start.
  obtain ⟨left, hstart⟩ : ∃ left, start = scheme ++ [':', '/', '/'] ++ left := by
    rcases List.append_eq_append_iff.1 heq with ⟨left, hmark, hrest'⟩ | ⟨left, hstart, -⟩
    · rcases List.eq_nil_or_concat left with rfl | ⟨before, last, rfl⟩
      · exact ⟨[], by simpa using hmark.symm⟩
      · have hlast := congrArg List.getLast? hmark
        obtain rfl : '/' = last := by simpa using hlast
        exact absurd (by simp [hrest']) hrest
    · exact ⟨left, hstart⟩
  exact hlocal (isRemote_iff.2 ⟨scheme, left ++ gap, by rw [hpath, hstart, List.append_assoc],
    hlen, hletters⟩)

/-! ## The path of the built assembly -/

namespace Project

variable {p : Project} {folder path : String} {mappings : List PathMapping} {m : PathMapping}

/-- The project with another path. -/
def withPath (p : Project) (path : String) : Project := { p with path := path }

theorem withPath_path (p : Project) (path : String) : (p.withPath path).path = path := rfl

theorem withPath_self (p : Project) : p.withPath p.path = p := rfl

theorem withPath_withPath (p : Project) (path path' : String) :
    (p.withPath path).withPath path' = p.withPath path' := rfl

/-- The output folder of a project is relative, and the built assembly has a plain name. -/
structure BuildsBelow (p : Project) : Prop where
  folder : Relative (ofHost (p.configuration "").outputPath).toList
  file_driveless : driveLength p.outputFile.toList = 0
  file_name : ∀ c ∈ p.outputFile.toList, isSeparator c = false

/-- What is built, seen from the folder of the project. -/
def builtBelow (p : Project) : String :=
  joinAll "" [ofHost (p.configuration "").outputPath, p.outputFile]

theorem BuildsBelow.withPath (h : p.BuildsBelow) (path : String) : (p.withPath path).BuildsBelow :=
  ⟨h.folder, h.file_driveless, h.file_name⟩

theorem BuildsBelow.file (h : p.BuildsBelow) : Relative p.outputFile.toList :=
  ⟨h.file_driveless, fun c hc => h.file_name c (List.mem_of_mem_head? hc)⟩

/-- Where a project is in a folder, what it builds goes below that. -/
theorem BuildsBelow.outputPathOf_eq (h : p.BuildsBelow) (hpath : InFolder folder path) :
    Descriptor.outputPathOf (p.withPath path) = folder ++ "\\" ++ p.builtBelow := by
  have hfolder : (p.withPath path).directory = folder := hpath.directory_eq
  rw [Descriptor.outputPathOf, hfolder]
  exact joinAll_of_endsInName hpath.1 h.folder h.file

theorem BuildsBelow.not_mem_builtBelow (h : p.BuildsBelow) : '/' ∉ p.builtBelow.toList := by
  have hfolder : ∀ c ∈ (ofHost (p.configuration "").outputPath).toList, c ≠ '/' := by
    intro c hc
    rw [ofHost, replace, String.toList_ofList] at hc
    obtain ⟨b, -, rfl⟩ := List.mem_map.1 hc
    split
    · decide
    · assumption
  have hfile : ∀ c ∈ p.outputFile.toList, c ≠ '/' := by
    rintro c hc rfl
    exact absurd (h.file_name _ hc) (by decide)
  have hbase : PartsOver (· ≠ '/') (splitDrive "".toList) := partsOver_splitDrive (by simp)
  have hjoined := ((hbase.joinParts (by decide) (partsOver_splitDrive hfolder)).joinParts
    (by decide) (partsOver_splitDrive hfile)).attachDrive (by decide)
  intro hslash
  rw [builtBelow, joinAll, String.toList_ofList] at hslash
  exact hjoined _ hslash rfl

/-- Of some rules, one is the first that fits the path of a project and the path of what it
builds, and it leaves the name of the project's folder. -/
structure Moves (p : Project) (mappings : List PathMapping) (m : PathMapping) (folder : String) :
    Prop where
  inFolder : InFolder folder p.path
  first : mappings.find? (·.fits p.path) = some m
  first_output : mappings.find? (·.fits (Descriptor.outputPathOf p)) = some m
  fits : m.fits folder = true
  mapped : EndsInName (m.exchange folder).toList

/-- What is built stays below the folder of the project. -/
theorem Moves.mapPath_outputPathOf (h : p.Moves mappings m folder) (hbuilds : p.BuildsBelow) :
    mapPath mappings (Descriptor.outputPathOf p) =
      Descriptor.outputPathOf (p.withPath (mapPath mappings p.path)) := by
  have hmoved := PathMapping.inFolder_exchange h.fits h.inFolder h.mapped
  have houtput : Descriptor.outputPathOf p = folder ++ "\\" ++ p.builtBelow :=
    hbuilds.outputPathOf_eq h.inFolder
  have hkept : m.turned ('\\' :: p.builtBelow.toList) = '\\' :: p.builtBelow.toList :=
    PathMapping.turned_eq (by simpa using hbuilds.not_mem_builtBelow)
  rw [mapPath_of_find? h.first, mapPath_of_find? h.first_output, hbuilds.outputPathOf_eq hmoved,
    houtput, ← String.toList_inj,
    @PathMapping.toList_exchange_append m folder _ ('\\' :: p.builtBelow.toList) h.fits (by simp),
    hkept]
  simp

/-- What is built is local if the project is. -/
theorem Moves.isRemote_outputPathOf (h : p.Moves mappings m folder) (hbuilds : p.BuildsBelow)
    (hlocal : isRemote (mapPath mappings p.path) = false) :
    isRemote (mapPath mappings (Descriptor.outputPathOf p)) = false := by
  have hmoved := PathMapping.inFolder_exchange h.fits h.inFolder h.mapped
  rw [h.mapPath_outputPathOf hbuilds, mapPath_of_find? h.first, hbuilds.outputPathOf_eq hmoved]
  rw [mapPath_of_find? h.first] at hlocal
  obtain ⟨-, gap, name, hpath, -⟩ := hmoved
  refine @isRemote_of_start _ _ (m.exchange folder).toList (gap ++ name)
    ('\\' :: p.builtBelow.toList) hlocal (by rw [hpath, List.append_assoc]) (by simp) ?_
  simpa using hbuilds.not_mem_builtBelow

/-- Where a slash comes after the folder of a project, a rule for the project fits what is built
if and only if it leaves that slash. -/
theorem fits_outputPathOf_iff (hbuilds : p.BuildsBelow) (hpath : InFolder folder p.path)
    (hslash : folder.toList ++ ['/'] <+: p.path.toList) (hfits : m.fits p.path = true) :
    m.fits (Descriptor.outputPathOf p) = true ↔ m.fits folder = true := by
  have houtput : Descriptor.outputPathOf p = folder ++ "\\" ++ p.builtBelow :=
    hbuilds.outputPathOf_eq hpath
  exact PathMapping.fits_below_iff ⟨p.builtBelow.toList, by simp [houtput]⟩ hslash hfits

end Project

/-! ## Loaded projects -/

/-- A descriptor is read with the path that its configurations give. -/
theorem Descriptor.read_outputPath {d : Disk} {p q : Project} {file : HostPath}
    {references : List ProjectReference} (h : read d p file = .ok (q, references)) :
    q.outputPath = outputPathOf q := by
  rw [Descriptor.read] at h
  obtain ⟨root, -, h⟩ := Fallible.bind_eq_ok.1 h
  split at h
  all_goals
    obtain ⟨⟨q', references'⟩, -, h⟩ := Fallible.bind_eq_ok.1 h
    cases h
    rfl

theorem Project.outputPathOf_addDependency (p : Project) (id : String) :
    Descriptor.outputPathOf (p.addDependency id) = Descriptor.outputPathOf p ∧
      (p.addDependency id).outputPath = p.outputPath := by
  unfold Project.addDependency
  split <;> exact ⟨rfl, rfl⟩

namespace Solution

variable {d : Disk} {base source : HostPath} {mappings : List PathMapping}
  {entries : List SolutionEntry} {declared p : Project}

theorem DescribedBy.outputPath_eq (h : DescribedBy d source declared p) :
    p.outputPath = Descriptor.outputPathOf p := by
  obtain ⟨q, references, ids, hread, rfl⟩ := h
  have hq := Descriptor.read_outputPath hread
  clear hread
  induction ids generalizing q with
  | nil => exact hq
  | cons id ids ih =>
    obtain ⟨hpath, houtput⟩ := q.outputPathOf_addDependency id
    exact ih _ (by rw [hpath, houtput, hq])

theorem DescribedBy.path (h : DescribedBy d source declared p) : p.path = declared.path := by
  obtain ⟨q, references, ids, hread, rfl⟩ := h
  exact (foldl_addDependency_keeps ids q).path.trans (Descriptor.read_describes hread).path

/-- What a project builds is put below its declared path, and mapped afterwards. -/
theorem Located.outputPath_eq (h : Located d base mappings entries declared p) :
    p.outputPath = mapPath mappings (Descriptor.outputPathOf (p.withPath declared.path)) := by
  obtain ⟨q, hq, rfl⟩ := h.described
  rw [← hq.path]
  exact congrArg (mapPath mappings) hq.outputPath_eq

end Solution

open Solution

/-- What a project builds goes where the mappings send the path below the declared folder. It
is put below the folder of the mapped path if one rule moves both, and that rule fits it only if
it leaves the slash after the declared folder. -/
theorem loadOrdered_outputPath {d : Disk} {r : Request} {os : OrderedSolution}
    (h : loadOrdered d r = .ok os) :
    ∃ mappings file lines text, PathMapping.ofPairs r.mappings = .ok mappings ∧
      locate d r.solution r.folder = .ok file ∧ readLines d file = .ok lines ∧
      SolutionText.parse lines = .ok text ∧
      ∀ p ∈ os.order.projects, ∃ declared,
        Located d file.parent mappings text.entries declared p ∧
        p.outputPath =
          mapPath mappings (Descriptor.outputPathOf (p.withPath declared.path)) ∧
        (p.BuildsBelow → ∀ m folder,
          ((p.withPath declared.path).Moves mappings m folder →
            p.outputPath = Descriptor.outputPathOf p ∧ isRemote p.outputPath = false) ∧
          (InFolder folder declared.path → folder.toList ++ ['/'] <+: declared.path.toList →
            m.fits declared.path = true →
            (m.fits (Descriptor.outputPathOf (p.withPath declared.path)) = true ↔
              m.fits folder = true))) := by
  obtain ⟨mappings, file, lines, text, hmappings, hfile, hlines, htext, hall⟩ :=
    loadOrdered_located h
  refine ⟨mappings, file, lines, text, hmappings, hfile, hlines, htext, fun p hp => ?_⟩
  obtain ⟨declared, hdeclared⟩ := hall p hp
  have houtput := hdeclared.outputPath_eq
  refine ⟨declared, hdeclared, houtput, fun hbuilds m folder => ?_⟩
  have hbuilds' := hbuilds.withPath declared.path
  refine ⟨fun hmoves => ⟨?_, ?_⟩,
    @Project.fits_outputPathOf_iff (p.withPath declared.path) folder m hbuilds'⟩
  · have hbelow := hmoves.mapPath_outputPathOf hbuilds'
    rw [Project.withPath_path, ← hdeclared.path, Project.withPath_withPath, Project.withPath_self]
      at hbelow
    exact houtput.trans hbelow
  · rw [houtput]
    refine hmoves.isRemote_outputPathOf hbuilds' ?_
    rw [Project.withPath_path, ← hdeclared.path]
    exact hdeclared.path_local

/-- The first rule moves the web project, and what it builds with it. -/
theorem loadOrdered_outputPath_web :
    ∃ os, loadOrdered webDisk webRequest = .ok os ∧ os.order.projects = [webMapped] ∧
      PathMapping.ofPairs webRequest.mappings = .ok webMappings ∧ webMapped.BuildsBelow ∧
      (webMapped.withPath webProject.path).Moves webMappings ⟨"http://localhost/", "site/"⟩
        "http://localhost/Web" ∧
      webMapped.outputPath = Descriptor.outputPathOf webMapped ∧
      isRemote webMapped.outputPath = false ∧
      webMapped.outputPath = "site/Web\\bin\\Debug\\Web.dll" := by
  obtain ⟨mappings, file, lines, text, hmappings, hfile, hlines, htext, hall⟩ :=
    loadOrdered_outputPath loadOrdered_webRequest
  obtain rfl : webMappings = mappings := Except.ok.inj (ofPairs_webRequest.symm.trans hmappings)
  obtain rfl : file = ⟨.relative, ["Web.sln"]⟩ := Except.ok.inj (hfile.symm.trans rfl)
  cases hlines.symm.trans readLines_web
  cases htext.symm.trans parse_webLines
  obtain ⟨declared, hdeclared, -, hmoves⟩ := hall webMapped (List.mem_singleton_self _)
  obtain rfl : webProject = declared :=
    hdeclared.unique webProject ⟨webEntry, by simp, .block (by decide)⟩ rfl
  have hbuilds : webMapped.BuildsBelow := by
    refine ⟨⟨?_, ?_⟩, ?_, ?_⟩
    all_goals decide
  have hfolder : InFolder "http://localhost/Web" webProject.path := by
    refine ⟨⟨by decide, by simp [isSeparator]⟩, ['/'], "Web.csproj".toList, ?_, ?_, ?_, ?_⟩
    all_goals decide
  have hexchange : PathMapping.exchange ⟨"http://localhost/", "site/"⟩ "http://localhost/Web" =
      "site/Web" := by decide
  have hmapped : EndsInName "site/Web".toList := ⟨by decide, by simp [isSeparator]⟩
  have hmoved : (webMapped.withPath webProject.path).Moves webMappings
      ⟨"http://localhost/", "site/"⟩ "http://localhost/Web" :=
    ⟨hfolder, by decide, by decide, by decide, hexchange ▸ hmapped⟩
  obtain ⟨hbelow, hlocal⟩ := (hmoves hbuilds _ _).1 hmoved
  exact ⟨_, loadOrdered_webRequest, rfl, hmappings, hbuilds, hmoved, hbelow, hlocal, rfl⟩

/-- A rule that takes in the slash after the folder of a project fits the path of the project, and
not the path of what it builds: that stays at the URL. -/
theorem outputPath_left_behind :
    ∃ os p,
      loadOrdered webDisk
        { solution := some ⟨.relative, ["Web.sln"]⟩
          mappings := [["http://localhost/Web/", "site/"]] } = .ok os ∧
      os.order.projects = [p] ∧ p.BuildsBelow ∧
      mapPath [⟨"http://localhost/Web/", "site/"⟩] webProject.path = p.path ∧
      p.path = "site/Web.csproj" ∧ isRemote webProject.path = true ∧
      p.outputPath = "http://localhost/Web\\bin\\Debug\\Web.dll" ∧
      p.outputPath ≠ Descriptor.outputPathOf p ∧ isRemote p.outputPath = true := by
  have hload := @loadOrdered_web _ ⟨.relative, ["site", "Web.csproj"]⟩ (by decide) rfl
    (by decide) [["http://localhost/Web/", "site/"]]
    { webLoaded with path := "site/Web.csproj" } rfl (by decide)
  refine ⟨_, _, hload, rfl, ⟨⟨?_, ?_⟩, ?_, ?_⟩, ?_⟩
  all_goals decide

end SolutionScript
