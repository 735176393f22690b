import SolutionScript.Proofs.Solution.Guid
import SolutionScript.Proofs.Solution.Sections
import SolutionScript.Proofs.Text.Lines

/-!
# Solutions as they are written

The lines that a list of projects is written as (`Listing.lines`): a header with
the version, a block for each project with a section for its dependencies, and a
global section for further dependencies. Reading the lines gives back what was
written (`parse_lines`).
-/

namespace SolutionScript.SolutionText

open Text

/-- A project as it is written in a solution. -/
structure Block where
  typeId : String
  name : String
  path : String
  id : String
  dependencies : List String := []
  deriving DecidableEq, Repr

/-- A dependency as it is written outside of the blocks. -/
structure GlobalDependency where
  source : String
  number : ℕ := 0
  target : String
  deriving DecidableEq, Repr

/-- What is written in a solution, after some empty lines. -/
structure Listing where
  blank : ℕ := 0
  version : String
  blocks : List Block := []
  globals : List GlobalDependency := []
  deriving DecidableEq, Repr

/-! ## Lines -/

namespace Block

/-- The line that opens the block. -/
def opening (b : Block) : String :=
  "Project(\"" ++ b.typeId ++ "\") = \"" ++ b.name ++ "\", \"" ++ b.path ++ "\", \"" ++ b.id ++ "\""

/-- The line for a dependency of a block. -/
def dependencyLine (id : String) : String := "\t\t" ++ id ++ " = " ++ id

/-- The lines for the dependencies, if there are any. -/
def sectionLines (b : Block) : List String :=
  if b.dependencies = [] then []
  else "\tProjectSection(ProjectDependencies) = postProject" ::
    (b.dependencies.map dependencyLine ++ ["\tEndProjectSection"])

/-- The lines of the block. -/
def lines (b : Block) : List String := b.opening :: (b.sectionLines ++ ["EndProject"])

/-- The project that the block declares from a line on. -/
def entry (number : ℕ) (b : Block) : SolutionEntry :=
  ⟨b.typeId, b.name, b.path, b.id, number, b.dependencies⟩

end Block

/-- The line for a dependency outside of the blocks. -/
def GlobalDependency.line (g : GlobalDependency) : String :=
  "\t\t" ++ g.source ++ "." ++ g.number.repr ++ " = " ++ g.target

namespace Listing

/-- The line with the version. -/
def headerLine (l : Listing) : String := header ++ " " ++ l.version

/-- The lines for the dependencies outside of the blocks, if there are any. -/
def sectionLines (l : Listing) : List String :=
  if l.globals = [] then []
  else "\tGlobalSection(ProjectDependencies) = postSolution" ::
    (l.globals.map GlobalDependency.line ++ ["\tEndGlobalSection"])

/-- The lines after the blocks. -/
def globalLines (l : Listing) : List String := "Global" :: (l.sectionLines ++ ["EndGlobal"])

/-- The lines of the solution. -/
def lines (l : Listing) : List String :=
  List.replicate l.blank "" ++ l.headerLine :: (l.blocks.flatMap Block.lines ++ l.globalLines)

/-- The text of the solution. -/
def text (l : Listing) : String := String.ofList (withEnds ['\r', '\n'] l.lines)

/-- The projects that blocks declare from a line on. -/
def entriesFrom (number : ℕ) : List Block → List SolutionEntry
  | [] => []
  | b :: blocks => b.entry number :: entriesFrom (number + b.lines.length) blocks

/-- The projects that the solution declares. -/
def entries (l : Listing) : List SolutionEntry := entriesFrom (l.blank + 2) l.blocks

/-- The targets that the solution has for a project. -/
def targets (l : Listing) (id : String) : List String :=
  (l.globals.filter (·.source = id)).map (·.target) ++
    (l.blocks.filter (·.id = id)).flatMap (·.dependencies)

end Listing

/-! ## What can be written -/

/-- A text that can be put between quotes on a line. -/
structure Quotable (s : String) : Prop where
  filled : Filled '"' s.toList
  onLine : OnLine s

/-- An identifier in its normal form. -/
structure NormalId (s : String) : Prop where
  form : ∃ inside, s.toList = '\x7b' :: inside ++ ['\x7d'] ∧ inside ≠ [] ∧
    (∀ c ∈ inside, Guid.isBrace c = false) ∧ upperList inside = inside

/-- A block that can be written. -/
structure Block.Writable (b : Block) : Prop where
  typeId_quotable : Quotable b.typeId
  name_quotable : Quotable b.name
  path_quotable : Quotable b.path
  id_quotable : Quotable b.id
  typeId : NormalId b.typeId
  id : NormalId b.id
  dependencies : ∀ id ∈ b.dependencies, NormalId id

/-- What can be written. -/
structure Listing.Writable (l : Listing) : Prop where
  version : Trimmed l.version.toList
  version_onLine : OnLine l.version
  blocks : ∀ b ∈ l.blocks, b.Writable
  globals : ∀ g ∈ l.globals, NormalId g.source ∧ NormalId g.target

theorem NormalId.isBraced {s : String} (h : NormalId s) : IsBraced s.toList := by
  obtain ⟨inside, hs, hne, hbraces, -⟩ := h.form
  refine ⟨inside, hs, hne, fun hmem => ?_⟩
  simpa [Guid.isBrace] using hbraces _ hmem

theorem NormalId.trimmed {s : String} (h : NormalId s) : Trimmed s.toList := by
  obtain ⟨inside, hs, -⟩ := h.form
  rw [hs]
  exact (trimmed_singleton (by decide)).append_append (trimmed_singleton (by decide)) (by simp)
    (by simp) inside

theorem NormalId.ne_nil {s : String} (h : NormalId s) : s.toList ≠ [] := by
  obtain ⟨inside, hs, -⟩ := h.form
  simp [hs]

/-- Normalising leaves a normal form alone. -/
theorem NormalId.normalize_eq {s : String} (h : NormalId s) : Guid.normalize s = s := by
  obtain ⟨inside, hs, hne, hbraces, hupper⟩ := h.form
  have hstop (cs : List Char) (hcs : ∀ c ∈ cs, Guid.isBrace c = false) :
      StopsAt Guid.isBrace cs := fun c hc => hcs c (List.mem_of_mem_head? hc)
  rw [Guid.normalize, hs, Guid.normalizeList_braced (hstop _ hbraces)
    (hstop _ (by simpa using hbraces)) (by rwa [hupper]), hupper, ← hs, String.ofList_toList]

/-! ## Forms of the lines -/

theorem lineKind_of_entryMark {line : List Char} (h : entryMark <+: line) :
    lineKind line = .entry := by
  obtain ⟨rest, rfl⟩ := h
  simp [lineKind, entryMark_eq, List.isPrefixOf]

theorem content_eq {line : String} {before cs : List Char} (hline : line.toList = before ++ cs)
    (hbefore : ∀ c ∈ before, isBlank c = true) (hcs : Trimmed cs) : content line = cs := by
  rw [content, hline]
  simpa using @trimList_eq before cs [] hbefore (by simp) hcs

theorem isSpaced_equals : IsSpaced '=' [' ', '=', ' '] := ⟨[' '], [' '], rfl, by decide, by decide⟩

theorem isSpaced_comma : IsSpaced ',' [',', ' '] := ⟨[], [' '], rfl, by decide, by decide⟩

namespace Block

variable {b : Block} {id : String}

theorem content_opening (b : Block) : content b.opening = b.opening.toList := by
  refine content_eq (List.nil_append _).symm (by simp) ?_
  obtain ⟨cs, hends⟩ : ∃ cs, b.opening.toList = ['P'] ++ cs ++ ['"'] := by
    refine ⟨"roject(\"".toList ++ b.typeId.toList ++ "\") = \"".toList ++ b.name.toList ++
      "\", \"".toList ++ b.path.toList ++ "\", \"".toList ++ b.id.toList, ?_⟩
    simp [opening]
  rw [hends]
  exact (trimmed_singleton (by decide)).append_append (trimmed_singleton (by decide)) (by simp)
    (by simp) cs

theorem Writable.opening_form (h : b.Writable) : EntryLine b.opening.toList b.typeId.toList
    b.name.toList b.path.toList b.id.toList where
  form := ⟨[' ', '=', ' '], [',', ' '], [',', ' '], [], by simp [opening, inQuotes, entryMark_eq],
    isSpaced_equals, isSpaced_comma, isSpaced_comma, by simp⟩
  typeId := h.typeId_quotable.filled
  name := h.name_quotable.filled
  path := h.path_quotable.filled
  id := h.id_quotable.filled

theorem content_dependencyLine (h : NormalId id) :
    content (dependencyLine id) = id.toList ++ [' ', '=', ' '] ++ id.toList :=
  @content_eq _ ['\t', '\t'] _ (by simp [dependencyLine]) (by decide)
    (h.trimmed.append_append h.trimmed h.ne_nil h.ne_nil _)

theorem dependencyLine_form (h : NormalId id) :
    OwnDependencyLine (content (dependencyLine id)) id :=
  ⟨id.toList, [' ', '=', ' '], id.toList, content_dependencyLine h, h.isBraced, isSpaced_equals,
    h.isBraced, by rw [String.ofList_toList, h.normalize_eq]⟩

end Block

theorem GlobalDependency.line_form {g : GlobalDependency} (hsource : NormalId g.source)
    (htarget : NormalId g.target) : GlobalDependencyLine (content g.line) g.source g.target := by
  have hcontent : content g.line = g.source.toList ++ '.' :: Nat.toDigits 10 g.number ++
      [' ', '=', ' '] ++ g.target.toList := by
    rw [List.append_assoc g.source.toList]
    exact @content_eq _ ['\t', '\t'] _ (by simp [GlobalDependency.line]) (by decide)
      (hsource.trimmed.append_append htarget.trimmed hsource.ne_nil htarget.ne_nil _)
  refine ⟨g.source.toList, Nat.toDigits 10 g.number, [' ', '=', ' '], g.target.toList, hcontent,
    hsource.isBraced, Nat.toDigits_ne_nil, fun c hc => ?_, isSpaced_equals, htarget.isBraced, ?_,
    ?_⟩
  · exact isDecimalDigit_of_isDigit (Nat.isDigit_of_mem_toDigits (by decide) (by decide) hc)
  · rw [String.ofList_toList, hsource.normalize_eq]
  · rw [String.ofList_toList, htarget.normalize_eq]

/-! ## Reading the lines -/

variable {number : ℕ} {p q : Progress}

theorem readLines_append {before : List String} (after : List String)
    (h : readLines p number before = .ok q) :
    readLines p number (before ++ after) = readLines q (number + before.length) after := by
  induction before generalizing p number with
  | nil =>
    cases h
    rfl
  | cons line before ih =>
    rw [readLines] at h
    rw [List.cons_append, readLines]
    split at h
    · rw [ih h, List.length_cons, Nat.add_assoc, Nat.add_comm 1]
    · cases h

theorem readLines_cons {line : String} (rest : List String)
    (h : Step number (content line) p q) :
    readLines p number (line :: rest) = readLines q (number + 1) rest := by
  have hread := readLine_eq_ok.2 h
  rw [content] at hread
  rw [readLines, hread]

variable {es : List SolutionEntry} {m : Keyed (List String)}

/-- The dependencies in the section of a block are added to it. -/
theorem readLines_own {ids : List String} (h : ∀ id ∈ ids, NormalId id) (e : SolutionEntry) :
    readLines ⟨es, some e, some dependencySection, m⟩ number (ids.map Block.dependencyLine) =
      .ok ⟨es, some { e with dependencies := e.dependencies ++ ids }, some dependencySection,
        m⟩ := by
  induction ids generalizing e number with
  | nil => simp [readLines]
  | cons id ids ih =>
    rw [List.forall_mem_cons] at h
    rw [List.map_cons, readLines_cons _ (.own _ e id rfl rfl (Block.dependencyLine_form h.1)),
      ih h.2]
    simp

/-- The dependencies outside of the blocks are added in order. -/
theorem readLines_global {gs : List GlobalDependency}
    (h : ∀ g ∈ gs, NormalId g.source ∧ NormalId g.target) :
    readLines ⟨es, none, some dependencySection, m⟩ number (gs.map GlobalDependency.line) =
      .ok ⟨es, none, some dependencySection,
        gs.foldl (fun m g => addDependencies m g.source [g.target]) m⟩ := by
  induction gs generalizing m number with
  | nil => rfl
  | cons g gs ih =>
    rw [List.forall_mem_cons] at h
    rw [List.map_cons,
      readLines_cons _ (.global _ g.source g.target rfl rfl
        (GlobalDependency.line_form h.1.1 h.1.2)), ih h.2]
    rfl

/-- What is written in a section is read between its two marks. -/
theorem readLines_section {first last : String} {inside : List String} {e : Option SolutionEntry}
    (hfirst : lineKind (content first) = .sectionStart dependencySection)
    (hlast : lineKind (content last) = .sectionEnd)
    (hinside : readLines ⟨es, e, some dependencySection, m⟩ (number + 1) inside = .ok q) :
    readLines ⟨es, e, none, m⟩ number (first :: (inside ++ [last])) =
      .ok { q with openSection := none } := by
  rw [readLines_cons _ (.startSection _ _ hfirst), readLines_append _ hinside,
    readLines_cons _ (.endSection q hlast)]
  rfl

theorem Block.readLines_sectionLines {b : Block} (h : ∀ id ∈ b.dependencies, NormalId id)
    (e : SolutionEntry) :
    readLines ⟨es, some e, none, m⟩ number b.sectionLines =
      .ok ⟨es, some { e with dependencies := e.dependencies ++ b.dependencies }, none, m⟩ := by
  rw [sectionLines]
  split
  · rename_i hnone
    simp [readLines, hnone]
  · have hfirst : lineKind (content "\tProjectSection(ProjectDependencies) = postProject") =
        .sectionStart dependencySection := by decide
    have hlast : lineKind (content "\tEndProjectSection") = .sectionEnd := by decide
    exact readLines_section hfirst hlast (readLines_own h e)

/-- A block that is written is read as the project that it declares. -/
theorem readLines_block {b : Block} (h : b.Writable) :
    readLines ⟨es, none, none, m⟩ number b.lines = .ok ⟨b.entry number :: es, none, none, m⟩ := by
  have hmark : entryMark <+: b.opening.toList := by
    simp [Block.opening, entryMark_eq]
  have hkind : lineKind (content b.opening) = .entry := by
    rw [Block.content_opening]
    exact lineKind_of_entryMark hmark
  have hread : readEntry number (content b.opening) =
      some { b.entry number with dependencies := [] } := by
    rw [Block.content_opening]
    refine (readEntry_eq_some hmark).2 ⟨_, _, _, _, h.opening_form, ?_⟩
    simp [entryOf, Block.entry, h.typeId.normalize_eq, h.id.normalize_eq]
  rw [Block.lines, readLines_cons _ (.startBlock _ _ hkind rfl hread),
    readLines_append _ (Block.readLines_sectionLines h.dependencies _),
    readLines_cons _ (.endBlock _ _ (by decide) rfl rfl)]
  rfl

theorem readLines_blocks {bs : List Block} (h : ∀ b ∈ bs, b.Writable) :
    readLines ⟨es, none, none, m⟩ number (bs.flatMap Block.lines) =
      .ok ⟨(Listing.entriesFrom number bs).reverse ++ es, none, none, m⟩ := by
  induction bs generalizing es number with
  | nil => rfl
  | cons b bs ih =>
    rw [List.forall_mem_cons] at h
    rw [List.flatMap_cons, readLines_append _ (readLines_block h.1), ih h.2]
    simp [Listing.entriesFrom]

theorem Listing.readLines_sectionLines {l : Listing} (h : l.Writable) :
    readLines ⟨es, none, none, m⟩ number l.sectionLines =
      .ok ⟨es, none, none,
        l.globals.foldl (fun m g => addDependencies m g.source [g.target]) m⟩ := by
  rw [sectionLines]
  split
  · rename_i hnone
    simp [readLines, hnone]
  · have hfirst : lineKind (content "\tGlobalSection(ProjectDependencies) = postSolution") =
        .sectionStart dependencySection := by decide
    have hlast : lineKind (content "\tEndGlobalSection") = .sectionEnd := by decide
    exact readLines_section hfirst hlast (readLines_global h.globals)

/-- After the blocks only dependencies are read. -/
theorem Listing.readLines_globalLines {l : Listing} (h : l.Writable) :
    readLines ⟨es, none, none, m⟩ number l.globalLines =
      .ok ⟨es, none, none,
        l.globals.foldl (fun m g => addDependencies m g.source [g.target]) m⟩ := by
  have hpass (m : Keyed (List String)) (n : ℕ) (line : String)
      (hkind : lineKind (content line) = .other) :
      Step n (content line) ⟨es, none, none, m⟩ ⟨es, none, none, m⟩ :=
    .pass _ (.inl hkind) (by simp)
  rw [globalLines, readLines_cons _ (hpass m _ "Global" (by decide)),
    readLines_append _ (readLines_sectionLines h),
    readLines_cons _ (hpass _ _ "EndGlobal" (by decide))]
  rfl

/-! ## Ends of lines -/

theorem onLine_repr (n : ℕ) : OnLine n.repr := by
  intro c hc
  rw [Nat.toList_repr] at hc
  have hdigit := toNat_of_isDigit (Nat.isDigit_of_mem_toDigits (by decide) (by decide) hc)
  simp only [isLineEnd, Bool.or_eq_false_iff, Bool.and_eq_false_iff, decide_eq_false_iff_not,
    beq_eq_false_iff_ne]
  omega

theorem Block.onLine_of_mem_lines {b : Block} (h : b.Writable)
    (hdependencies : ∀ id ∈ b.dependencies, OnLine id) {line : String} (hline : line ∈ b.lines) :
    OnLine line := by
  rw [lines, List.mem_cons, List.mem_append, List.mem_singleton] at hline
  rcases hline with rfl | hline | rfl
  · simp only [opening, onLine_append, h.typeId_quotable.onLine, h.name_quotable.onLine,
      h.path_quotable.onLine, h.id_quotable.onLine]
    decide
  · rw [sectionLines] at hline
    split at hline
    · cases hline
    · simp only [List.mem_cons, List.mem_append, List.mem_map, List.not_mem_nil, or_false] at hline
      rcases hline with rfl | ⟨id, hid, rfl⟩ | rfl
      · decide
      · simp only [dependencyLine, onLine_append, hdependencies id hid]
        decide
      · decide
  · decide

theorem Listing.onLine_of_mem_globalLines {l : Listing}
    (h : ∀ g ∈ l.globals, OnLine g.source ∧ OnLine g.target) {line : String}
    (hline : line ∈ l.globalLines) : OnLine line := by
  rw [globalLines, List.mem_cons, List.mem_append, List.mem_singleton] at hline
  rcases hline with rfl | hline | rfl
  · decide
  · rw [sectionLines] at hline
    split at hline
    · cases hline
    · simp only [List.mem_cons, List.mem_append, List.mem_map, List.not_mem_nil, or_false] at hline
      rcases hline with rfl | ⟨g, hg, rfl⟩ | rfl
      · decide
      · simp only [GlobalDependency.line, onLine_append, h g hg, onLine_repr]
        decide
      · decide
  · decide

/-! ## What is read -/

/-- No project has an empty list of targets. -/
def NoneEmpty (m : Keyed (List String)) : Prop := ∀ id, m.get? id ≠ some []

theorem get?_addDependencies (m : Keyed (List String)) (id : String) (more : List String)
    (other : String) :
    (addDependencies m id more).get? other =
      if id = other then some ((m.get? id).getD [] ++ more) else m.get? other := by
  rw [addDependencies]
  split
  · rename_i h
    rw [← h, Keyed.get?_put_self]
  · rename_i h
    rw [Keyed.get?_put_of_ne _ _ (Ne.symm h)]

theorem NoneEmpty.addDependencies (h : NoneEmpty m) (id : String) {more : List String}
    (hmore : more ≠ []) : NoneEmpty (addDependencies m id more) := by
  intro other
  rw [get?_addDependencies]
  split
  · simp [hmore]
  · exact h other

theorem NoneEmpty.get?_eq (h : NoneEmpty m) (id : String) :
    m.get? id = if (m.get? id).getD [] = [] then none else some ((m.get? id).getD []) := by
  have hid := h id
  cases hget : m.get? id with
  | none => simp
  | some targets =>
    rw [hget, Ne, Option.some.injEq] at hid
    simp [hid]

theorem getD_get?_global (gs : List GlobalDependency) (m : Keyed (List String)) (id : String) :
    ((gs.foldl (fun m g => addDependencies m g.source [g.target]) m).get? id).getD [] =
      (m.get? id).getD [] ++ (gs.filter (·.source = id)).map (·.target) := by
  induction gs generalizing m with
  | nil => simp
  | cons g gs ih =>
    rw [List.foldl_cons, ih, getD_get?_addDependencies, List.append_assoc]
    by_cases hid : g.source = id <;> simp [hid]

theorem noneEmpty_global (gs : List GlobalDependency) (h : NoneEmpty m) :
    NoneEmpty (gs.foldl (fun m g => addDependencies m g.source [g.target]) m) := by
  induction gs generalizing m with
  | nil => exact h
  | cons g gs ih => exact ih (h.addDependencies g.source (List.cons_ne_nil _ _))

theorem NoneEmpty.finish (h : NoneEmpty p.dependencies) (version : String) :
    NoneEmpty (p.finish version).dependencies := by
  rw [Progress.finish]
  generalize p.entries.reverse = entries
  generalize p.dependencies = m at h
  induction entries generalizing m with
  | nil => exact h
  | cons e entries ih =>
    refine ih _ ?_
    dsimp only
    split
    · exact h
    · rename_i hne
      exact h.addDependencies e.projectId (by simpa using hne)

namespace Listing

variable {l : Listing}

/-- The targets of the blocks that declare a project. -/
theorem flatMap_entriesFrom (bs : List Block) (number : ℕ) (id : String) :
    ((entriesFrom number bs).filter (·.projectId = id)).flatMap (·.dependencies) =
      (bs.filter (·.id = id)).flatMap (·.dependencies) := by
  induction bs generalizing number with
  | nil => rfl
  | cons b bs ih =>
    rw [entriesFrom]
    by_cases hid : b.id = id
    · simp [Block.entry, hid, ih]
    · simp [Block.entry, hid, ih]

theorem trimmed_header : Trimmed header.toList := by
  have hends : header.toList = ['M'] ++
      "icrosoft Visual Studio Solution File, Format Versio".toList ++ ['n'] := by decide
  rw [hends]
  exact (trimmed_singleton (by decide)).append_append (trimmed_singleton (by decide)) (by simp)
    (by simp) _

theorem content_headerLine (h : l.Writable) :
    ∃ version, content l.headerLine = header.toList ++ version ∧
      trimList version = l.version.toList := by
  have hline : l.headerLine.toList = header.toList ++ [' '] ++ l.version.toList := by
    simp [headerLine]
  have hne : header.toList ≠ [] := by decide
  by_cases hversion : l.version.toList = []
  · refine ⟨[], ?_, by rw [hversion]; rfl⟩
    rw [content, hline, hversion]
    simpa using @trimList_eq [] header.toList [' '] (by simp) (by decide) trimmed_header
  · refine ⟨' ' :: l.version.toList, ?_, ?_⟩
    · rw [content, hline, trimList_of_trimmed
        (trimmed_header.append_append h.version hne hversion [' '])]
      simp
    · simpa using @trimList_eq [' '] l.version.toList [] (by decide) (by simp) h.version

/-- Each block opens at the line that has the number of its project. -/
theorem forall₂_entriesFrom (before : List String) (bs : List Block) (after : List String) :
    List.Forall₂ (fun b e => e = Block.entry e.line b ∧
      (before ++ bs.flatMap Block.lines ++ after)[e.line - 1]? = some b.opening)
      bs (entriesFrom (before.length + 1) bs) := by
  induction bs generalizing before with
  | nil => exact .nil
  | cons b bs ih =>
    have hrest := ih (before ++ b.lines)
    have hnumber : (before ++ b.lines).length + 1 = before.length + 1 + b.lines.length := by
      rw [List.length_append, Nat.add_right_comm]
    have hlines : before ++ b.lines ++ bs.flatMap Block.lines ++ after =
        before ++ (b :: bs).flatMap Block.lines ++ after := by simp
    rw [hnumber, hlines] at hrest
    refine .cons ⟨rfl, ?_⟩ hrest
    simp [Block.entry, Block.lines]

/-- What has been read after the last line. -/
def read (l : Listing) : Progress where
  entries := l.entries.reverse
  dependencies := l.globals.foldl (fun m g => addDependencies m g.source [g.target]) []

theorem readLines_read (h : l.Writable) :
    readLines {} (l.blank + 2) (l.blocks.flatMap Block.lines ++ l.globalLines) = .ok l.read := by
  rw [readLines_append _ (@readLines_blocks _ [] [] _ h.blocks), readLines_globalLines h,
    List.append_nil]
  rfl

theorem parse_lines_eq (h : l.Writable) : parse l.lines = .ok (l.read.finish l.version) := by
  obtain ⟨version, hheader, hversion⟩ := content_headerLine h
  have hblank : ∀ line ∈ List.replicate l.blank "", isBlankText line = true := by
    intro line hline
    rw [List.eq_of_mem_replicate hline]
    rfl
  refine parse_eq_ok.2 ⟨_, _, _, version, l.read, rfl, hblank, hheader, ?_, rfl, ?_⟩
  · rw [List.length_replicate, readLines_read h]
  · rw [hversion, String.ofList_toList]

theorem get?_finish_read (l : Listing) (id : String) :
    (l.read.finish l.version).dependencies.get? id =
      if l.targets id = [] then none else some (l.targets id) := by
  have hnone : NoneEmpty l.read.dependencies :=
    noneEmpty_global l.globals (by simp [NoneEmpty, Keyed.get?])
  have htargets : ((l.read.finish l.version).dependencies.get? id).getD [] = l.targets id := by
    rw [getD_get?_finish, read, getD_get?_global, List.reverse_reverse, entries,
      flatMap_entriesFrom]
    rfl
  rw [(hnone.finish l.version).get?_eq, htargets]

/-- No line breaks where no identifier of a dependency does. -/
theorem onLine_of_mem_lines (h : l.Writable)
    (hblocks : ∀ b ∈ l.blocks, ∀ id ∈ b.dependencies, OnLine id)
    (hglobals : ∀ g ∈ l.globals, OnLine g.source ∧ OnLine g.target) {line : String}
    (hline : line ∈ l.lines) : OnLine line := by
  simp only [lines, List.mem_append, List.mem_cons, List.mem_flatMap, List.mem_replicate] at hline
  rcases hline with ⟨-, rfl⟩ | rfl | ⟨b, hb, hline⟩ | hline
  · decide
  · have hversion := h.version_onLine
    simp only [headerLine, onLine_append]
    exact ⟨⟨by decide, by decide⟩, hversion⟩
  · exact Block.onLine_of_mem_lines (h.blocks b hb) (hblocks b hb) hline
  · exact onLine_of_mem_globalLines hglobals hline

/-- Reading what has been written gives it back: the version, the projects with the
lines that declare them, and for each project the targets outside of the blocks and then
those of its blocks. -/
theorem parse_lines (h : l.Writable) :
    ∃ text, parse l.lines = .ok text ∧ text.version = l.version ∧
      text.entries = l.entries ∧
      List.Forall₂ (fun b e => e = Block.entry e.line b ∧ l.lines[e.line - 1]? = some b.opening)
        l.blocks l.entries ∧
      (∀ id, text.dependencies.get? id =
        if l.targets id = [] then none else some (l.targets id)) ∧
      ((∀ b ∈ l.blocks, ∀ id ∈ b.dependencies, OnLine id) →
        (∀ g ∈ l.globals, OnLine g.source ∧ OnLine g.target) → Text.lines l.text = l.lines) := by
  refine ⟨_, parse_lines_eq h, rfl, ?_, ?_, get?_finish_read l, fun hblocks hglobals => ?_⟩
  · rw [Progress.finish, read, List.reverse_reverse]
  · have hopening := forall₂_entriesFrom (List.replicate l.blank "" ++ [l.headerLine]) l.blocks
      l.globalLines
    simpa [lines, entries] using hopening
  · exact lines_withEnds (.inr rfl) fun _ => onLine_of_mem_lines h hblocks hglobals

/-- Two blocks that declare one project, with words in their names that mean something
elsewhere. -/
def sharedListing : Listing where
  blank := 1
  version := "9.00"
  blocks := [⟨"{T}", "EndProject", "App, (1)\\App.csproj", "{A}", ["{B}", "{T}"]⟩,
    ⟨"{T}", " # Project(", "App.csproj", "{A}", ["{T}"]⟩]
  globals := [⟨"{A}", 10, "{A}"⟩, ⟨"{B}", 0, "{T}"⟩]

theorem writable_sharedListing : sharedListing.Writable := by
  have hid (c : Char) (hbrace : Guid.isBrace c = false) (hupper : upperChar c = [c]) :
      NormalId (String.ofList ['\x7b', c, '\x7d']) := by
    refine ⟨[c], by simp, by simp, by simpa using hbrace, ?_⟩
    simp [upperList, hupper]
  have ha : NormalId "{A}" := hid 'A' (by decide) (by decide)
  have hb : NormalId "{B}" := hid 'B' (by decide) (by decide)
  have ht : NormalId "{T}" := hid 'T' (by decide) (by decide)
  have hquotable (s : String) (hne : s.toList ≠ []) (hquote : '"' ∉ s.toList) (hline : OnLine s) :
      Quotable s := ⟨⟨hne, hquote⟩, hline⟩
  refine ⟨⟨by decide, by decide⟩, by decide, ?_, ?_⟩
  · simp only [sharedListing, List.forall_mem_cons]
    refine ⟨⟨hquotable _ ?_ ?_ ?_, hquotable _ ?_ ?_ ?_, hquotable _ ?_ ?_ ?_, hquotable _ ?_ ?_ ?_,
      ht, ha, by simp [hb, ht]⟩, ⟨hquotable _ ?_ ?_ ?_, hquotable _ ?_ ?_ ?_, hquotable _ ?_ ?_ ?_,
      hquotable _ ?_ ?_ ?_, ht, ha, by simp [ht]⟩, by simp⟩
    all_goals decide
  · simp [sharedListing, ha, hb, ht]

/-- The targets of both blocks come after those outside of them. -/
theorem parse_lines_shared :
    ∃ text, parse sharedListing.lines = .ok text ∧ text.version = "9.00" ∧
      text.entries.map (·.line) = [3, 9] ∧
      text.dependencies.get? "{A}" = some ["{A}", "{B}", "{T}", "{T}"] ∧
      Text.lines sharedListing.text = sharedListing.lines := by
  obtain ⟨text, hparse, hversion, hentries, -, hdependencies, hlines⟩ :=
    parse_lines writable_sharedListing
  refine ⟨text, hparse, hversion, ?_, ?_, hlines (by decide) (by decide)⟩
  · rw [hentries]
    decide
  · rw [hdependencies]
    decide

end Listing

end SolutionScript.SolutionText
