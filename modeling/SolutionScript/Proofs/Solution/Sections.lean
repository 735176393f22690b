import Mathlib.Data.List.Induction
import SolutionScript.Proofs.Solution.LineForm

/-!
# Sections and blocks of solution texts

Which section and which block are open at a line is said by the last marker
before it (`openSection?`, `openBlock?`). A line in a section of dependencies is a
dependency of the open block (`DependsInBlock`), or, where none is open, of the
project that it names (`DependsGlobally`). Reading lines finds these dependencies
and no others: `Step` says what one line does, `Scanned.step` that the progress of
reading goes on to agree with the lines, and `parse_scanned` that so does the text
that is read.
-/

namespace SolutionScript.SolutionText

open Text

/-! ## Open sections and blocks -/

/-- A line without the blanks around it. -/
def content (line : String) : List Char := trimList line.toList

/-- What a line says about sections: that one is opened, by which line, or that
none is open. -/
def sectionMark? (line : String) : Option (Option (List Char)) :=
  match lineKind (content line) with
  | .sectionStart _ => some (some (content line))
  | .sectionEnd => some none
  | _ => none

/-- What a line says about blocks: that one is opened, by which line, or that none
is open. -/
def blockMark? (line : String) : Option (Option (List Char)) :=
  match lineKind (content line) with
  | .entry => some (some (content line))
  | .entryEnd => some none
  | _ => none

/-- The line that opens the section that is open after some lines. -/
def openSection? (lines : List String) : Option (List Char) :=
  (lines.reverse.findSome? sectionMark?).join

/-- The line that opens the block that is open after some lines. -/
def openBlock? (lines : List String) : Option (List Char) :=
  (lines.reverse.findSome? blockMark?).join

theorem openSection?_concat (lines : List String) (line : String) :
    openSection? (lines ++ [line]) = (sectionMark? line).getD (openSection? lines) := by
  rw [openSection?, List.reverse_append, List.reverse_singleton, List.singleton_append,
    List.findSome?_cons]
  cases sectionMark? line <;> rfl

theorem openBlock?_concat (lines : List String) (line : String) :
    openBlock? (lines ++ [line]) = (blockMark? line).getD (openBlock? lines) := by
  rw [openBlock?, List.reverse_append, List.reverse_singleton, List.singleton_append,
    List.findSome?_cons]
  cases blockMark? line <;> rfl

/-- An open section has been opened by one of the lines. -/
theorem exists_content_of_openSection? {lines : List String} {opening : List Char}
    (h : openSection? lines = some opening) : ∃ line ∈ lines, content line = opening := by
  rw [openSection?, Option.join_eq_some_iff] at h
  obtain ⟨line, hline, hmark⟩ := List.exists_of_findSome?_eq_some h
  refine ⟨line, List.mem_reverse.1 hline, ?_⟩
  unfold sectionMark? at hmark
  split at hmark
  · simpa using hmark
  · simp at hmark
  · simp at hmark

/-! ## Dependencies -/

/-- Some line has a property, in view of the lines before it. -/
def SomeLine (P : List String → String → Prop) (lines : List String) : Prop :=
  ∃ before line after, lines = before ++ line :: after ∧ P before line

theorem someLine_nil {P : List String → String → Prop} : ¬ SomeLine P [] := by
  rintro ⟨before, line, after, h, -⟩
  simp at h

theorem someLine_concat {P : List String → String → Prop} {lines : List String} {line : String} :
    SomeLine P (lines ++ [line]) ↔ SomeLine P lines ∨ P lines line := by
  constructor
  · rintro ⟨before, l, after, h, hP⟩
    rcases List.eq_nil_or_concat after with rfl | ⟨after, l', rfl⟩
    · obtain ⟨rfl, heq⟩ := List.append_inj' h rfl
      cases heq
      exact .inr hP
    · rw [List.concat_eq_append, ← List.cons_append, ← List.append_assoc] at h
      obtain ⟨rfl, -⟩ := List.append_inj' h rfl
      exact .inl ⟨before, l, after, rfl, hP⟩
  · rintro (⟨before, l, after, rfl, hP⟩ | hP)
    · exact ⟨before, l, after ++ [line], by simp, hP⟩
    · exact ⟨lines, line, [], rfl, hP⟩

/-- A line declares a project with an identifier. -/
def Declares (block : List Char) (id : String) : Prop :=
  ∃ typeId name path raw, EntryLine block typeId name path raw ∧
    id = Guid.normalize (String.ofList raw)

/-- A dependency outside of all blocks, in a section that the line `opening` opens. -/
def DependsGlobally (lines : List String) (opening : List Char) (source target : String) : Prop :=
  SomeLine (fun before line =>
    openBlock? before = none ∧ openSection? before = some opening ∧
      sectionName opening = dependencySection ∧
      GlobalDependencyLine (content line) source target) lines

/-- A dependency in a block that declares a project, in a section that the line
`opening` opens. -/
def DependsInBlock (lines : List String) (opening : List Char) (id target : String) : Prop :=
  SomeLine (fun before line =>
    (∃ block, openBlock? before = some block ∧ Declares block id) ∧
      openSection? before = some opening ∧ sectionName opening = dependencySection ∧
      OwnDependencyLine (content line) target) lines

/-! ## Kinds of lines -/

theorem entryMark_eq : entryMark = ['P', 'r', 'o', 'j', 'e', 'c', 't', '('] := rfl

theorem entryMark_of_lineKind {line : List Char} (h : lineKind line = .entry) :
    entryMark <+: line := by
  unfold lineKind at h
  split at h
  · cases h
  · split at h
    · rename_i hmark
      exact List.isPrefixOf_iff_prefix.1 hmark
    · repeat' split at h
      all_goals cases h

theorem sectionName_of_lineKind {line : List Char} {name : String}
    (h : lineKind line = .sectionStart name) : sectionName line = name := by
  unfold lineKind at h
  repeat' split at h
  all_goals cases h
  rfl

/-- A line that starts with an identifier in braces is no marker. -/
theorem lineKind_of_isBraced {id rest : List Char} (h : IsBraced id) :
    lineKind (id ++ rest) = .other := by
  obtain ⟨inside, rfl, -⟩ := h
  simp [lineKind, entryMark_eq, List.isPrefixOf]

theorem OwnDependencyLine.lineKind_eq {line : List Char} {target : String}
    (h : OwnDependencyLine line target) : lineKind line = .other := by
  obtain ⟨id, equals, again, rfl, hid, -⟩ := h
  rw [List.append_assoc]
  exact lineKind_of_isBraced hid

theorem GlobalDependencyLine.lineKind_eq {line : List Char} {source target : String}
    (h : GlobalDependencyLine line source target) : lineKind line = .other := by
  obtain ⟨id, digits, equals, id', rfl, hid, -⟩ := h
  rw [List.append_assoc, List.append_assoc]
  exact lineKind_of_isBraced hid

theorem OwnDependencyLine.target_eq {line : List Char} {target target' : String}
    (h : OwnDependencyLine line target) (h' : OwnDependencyLine line target') :
    target' = target := by
  rw [← readOwnDependency_eq_some] at h h'
  exact Option.some.inj (h'.symm.trans h)

theorem GlobalDependencyLine.eq {line : List Char} {source source' target target' : String}
    (h : GlobalDependencyLine line source target)
    (h' : GlobalDependencyLine line source' target') : source' = source ∧ target' = target := by
  rw [← readGlobalDependency_eq_some] at h h'
  exact Prod.mk.inj (Option.some.inj (h'.symm.trans h))

/-- The dependencies of a project after more have been added to one. -/
theorem getD_get?_addDependencies (m : Keyed (List String)) (id : String) (more : List String)
    (other : String) :
    ((addDependencies m id more).get? other).getD [] =
      (m.get? other).getD [] ++ if id = other then more else [] := by
  rw [addDependencies]
  split
  · rename_i h
    rw [h, Keyed.get?_put_self]
    rfl
  · rename_i h
    rw [Keyed.get?_put_of_ne _ _ (Ne.symm h), List.append_nil]

/-! ## Steps -/

variable {number : ℕ} {lines : List String} {p q : Progress}

/-- What reading a line does, one case for each kind of line. -/
inductive Step (number : ℕ) (line : List Char) : Progress → Progress → Prop
  | skip (p : Progress) (kind : lineKind line = .skipped) : Step number line p p
  | startBlock (p : Progress) (e : SolutionEntry) (kind : lineKind line = .entry)
      (outside : p.current = none) (read : readEntry number line = some e) :
      Step number line p { p with current := some e }
  | endBlock (p : Progress) (e : SolutionEntry) (kind : lineKind line = .entryEnd)
      (inside : p.current = some e) (closed : p.openSection = none) :
      Step number line p { p with entries := e :: p.entries, current := none }
  | startSection (p : Progress) (name : String) (kind : lineKind line = .sectionStart name) :
      Step number line p { p with openSection := some name }
  | endSection (p : Progress) (kind : lineKind line = .sectionEnd) :
      Step number line p { p with openSection := none }
  | pass (p : Progress)
      (kind : lineKind line = .other ∨ lineKind line = .entryEnd ∧ p.current = none)
      (elsewhere : p.openSection ≠ some dependencySection) : Step number line p p
  | own (p : Progress) (e : SolutionEntry) (target : String)
      (opened : p.openSection = some dependencySection) (inside : p.current = some e)
      (read : OwnDependencyLine line target) :
      Step number line p
        { p with current := some { e with dependencies := e.dependencies ++ [target] } }
  | global (p : Progress) (source target : String)
      (opened : p.openSection = some dependencySection) (outside : p.current = none)
      (read : GlobalDependencyLine line source target) :
      Step number line p { p with dependencies := addDependencies p.dependencies source [target] }

/-- A line that may be a dependency is one if the open section holds them. -/
theorem step_of_readDependency {line : List Char}
    (hkind : lineKind line = .other ∨ lineKind line = .entryEnd ∧ p.current = none)
    (h : readDependency p line = .ok q) : Step number line p q := by
  unfold readDependency at h
  split at h
  · rename_i helse
    cases h
    exact .pass p hkind helse
  · rename_i hopened
    rw [not_not] at hopened
    split at h
    · rename_i e hinside
      split at h
      · rename_i target hread
        cases h
        exact .own p e target hopened hinside (readOwnDependency_eq_some.1 hread)
      · cases h
    · rename_i houtside
      split at h
      · rename_i source target hread
        cases h
        exact .global p source target hopened houtside (readGlobalDependency_eq_some.1 hread)
      · cases h

/-- Reading a line that succeeds is one of the steps. -/
theorem step_of_readLine {line : List Char} (h : readLine p number line = .ok q) :
    Step number line p q := by
  unfold readLine at h
  split at h
  · rename_i hkind
    cases h
    exact .skip p hkind
  · rename_i hkind houtside
    split at h
    · rename_i e hread
      cases h
      exact .startBlock p e hkind houtside hread
    · cases h
  · rename_i e hkind hinside
    split at h
    · cases h
    · rename_i hclosed
      cases h
      exact .endBlock p e hkind hinside (by simpa using hclosed)
  · cases h
  · rename_i name hkind
    cases h
    exact .startSection p name hkind
  · rename_i hkind
    cases h
    exact .endSection p hkind
  · rename_i hkind houtside
    exact step_of_readDependency (.inr ⟨hkind, houtside⟩) h
  · rename_i hkind
    exact step_of_readDependency (.inl hkind) h

/-- Reading a line succeeds if and only if it is one of the steps. -/
theorem readLine_eq_ok {line : List Char} :
    readLine p number line = .ok q ↔ Step number line p q := by
  refine ⟨step_of_readLine, fun h => ?_⟩
  cases h with
  | skip kind => simp [readLine, kind]
  | startBlock e kind outside read => simp [readLine, kind, outside, read]
  | endBlock e kind inside closed => simp [readLine, kind, inside, closed]
  | startSection name kind => simp [readLine, kind]
  | endSection kind => simp [readLine, kind]
  | pass kind elsewhere =>
    rcases kind with kind | ⟨kind, outside⟩
    · simp [readLine, kind, readDependency, elsewhere]
    · simp [readLine, kind, outside, readDependency, elsewhere]
  | own e target opened inside read =>
    simp [readLine, read.lineKind_eq, readDependency, opened, inside,
      readOwnDependency_eq_some.2 read]
  | global source target opened outside read =>
    simp [readLine, read.lineKind_eq, readDependency, opened, outside,
      readGlobalDependency_eq_some.2 read]

/-! ## Progress that agrees with the lines -/

/-- A block that has been opened is the one of an opening line. -/
def BlockAgrees : Option (List Char) → Option SolutionEntry → Prop
  | none, none => True
  | some block, some e => ∀ id, Declares block id ↔ e.projectId = id
  | _, _ => False

/-- What has been read is what the lines say. -/
structure Scanned (lines : List String) (p : Progress) : Prop where
  openSection : p.openSection = (openSection? lines).map sectionName
  block : BlockAgrees (openBlock? lines) p.current
  globally : ∀ source target, target ∈ (p.dependencies.get? source).getD [] ↔
    ∃ opening, DependsGlobally lines opening source target
  inBlock : ∀ id target,
    (∃ e ∈ p.current.toList ++ p.entries, e.projectId = id ∧ target ∈ e.dependencies) ↔
      ∃ opening, DependsInBlock lines opening id target

theorem scanned_nil : Scanned [] {} where
  openSection := rfl
  block := trivial
  globally source target := by simp [Keyed.get?, DependsGlobally, someLine_nil]
  inBlock id target := by simp [DependsInBlock, someLine_nil]

/-- A line with an entry declares its project only. -/
theorem declares_of_readEntry {block : List Char} {e : SolutionEntry}
    (hkind : lineKind block = .entry) (hread : readEntry number block = some e) (id : String) :
    Declares block id ↔ e.projectId = id := by
  have hmark := entryMark_of_lineKind hkind
  constructor
  · rintro ⟨typeId, name, path, raw, hline, rfl⟩
    have hread' := (@readEntry_eq_some block number _ hmark).2 ⟨typeId, name, path, raw, hline, rfl⟩
    rw [Option.some.inj (hread.symm.trans hread')]
    rfl
  · rintro rfl
    obtain ⟨typeId, name, path, raw, hline, rfl⟩ := (readEntry_eq_some hmark).1 hread
    exact ⟨typeId, name, path, raw, hline, rfl⟩

section

variable {line : String}

theorem dependsGlobally_concat {opening : List Char} {source target : String} :
    DependsGlobally (lines ++ [line]) opening source target ↔
      DependsGlobally lines opening source target ∨
        openBlock? lines = none ∧ openSection? lines = some opening ∧
          sectionName opening = dependencySection ∧
          GlobalDependencyLine (content line) source target :=
  someLine_concat

theorem dependsInBlock_concat {opening : List Char} {id target : String} :
    DependsInBlock (lines ++ [line]) opening id target ↔
      DependsInBlock lines opening id target ∨
        (∃ block, openBlock? lines = some block ∧ Declares block id) ∧
          openSection? lines = some opening ∧ sectionName opening = dependencySection ∧
          OwnDependencyLine (content line) target :=
  someLine_concat

/-- A line that is no dependency adds none. -/
theorem Scanned.of_no_dependency (h : Scanned lines p) {q : Progress}
    (hsection : q.openSection = (openSection? (lines ++ [line])).map sectionName)
    (hblock : BlockAgrees (openBlock? (lines ++ [line])) q.current)
    (hglobally : q.dependencies = p.dependencies)
    (hinBlock : ∀ id target,
      (∃ e ∈ q.current.toList ++ q.entries, e.projectId = id ∧ target ∈ e.dependencies) ↔
        ∃ e ∈ p.current.toList ++ p.entries, e.projectId = id ∧ target ∈ e.dependencies)
    (hline : lineKind (content line) ≠ .other ∨
      p.openSection ≠ some dependencySection) : Scanned (lines ++ [line]) q := by
  have hname (opening) (hopening : openSection? lines = some opening)
      (hname : sectionName opening = dependencySection) :
      p.openSection = some dependencySection := by
    rw [h.openSection, hopening, Option.map_some, hname]
  refine ⟨hsection, hblock, fun source target => ?_, fun id target => ?_⟩
  · rw [hglobally, h.globally]
    refine exists_congr fun opening => ?_
    rw [dependsGlobally_concat, or_iff_left]
    rintro ⟨-, hopening, hdep, hread⟩
    rcases hline with hkind | helse
    · exact hkind hread.lineKind_eq
    · exact helse (hname _ hopening hdep)
  · rw [hinBlock, h.inBlock]
    refine exists_congr fun opening => ?_
    rw [dependsInBlock_concat, or_iff_left]
    rintro ⟨-, hopening, hdep, hread⟩
    rcases hline with hkind | helse
    · exact hkind hread.lineKind_eq
    · exact helse (hname _ hopening hdep)

theorem BlockAgrees.eq_none {block : Option (List Char)} (h : BlockAgrees block none) :
    block = none := by
  cases block with
  | none => rfl
  | some block => exact h.elim

/-- The dependencies in the open block are those of its project. -/
theorem BlockAgrees.exists_iff {block : Option (List Char)} {e : SolutionEntry}
    (h : BlockAgrees block (some e)) (id : String) :
    (∃ b, block = some b ∧ Declares b id) ↔ e.projectId = id := by
  cases block with
  | none => exact h.elim
  | some b => simpa using h id

/-- What has been read goes on to be what the lines say. -/
theorem Scanned.step (h : Scanned lines p) (hstep : Step number (content line) p q) :
    Scanned (lines ++ [line]) q := by
  have hsection := openSection?_concat lines line
  have hblock := openBlock?_concat lines line
  cases hstep with
  | skip kind =>
    simp only [sectionMark?, blockMark?, kind, Option.getD_none] at hsection hblock
    exact h.of_no_dependency (hsection ▸ h.openSection) (hblock ▸ h.block) rfl
      (fun _ _ => Iff.rfl) (.inl (by simp [kind]))
  | startBlock e kind outside read =>
    simp only [sectionMark?, blockMark?, kind, Option.getD_none, Option.getD_some]
      at hsection hblock
    have hnone : e.dependencies = [] := by
      obtain ⟨typeId, name, path, raw, -, rfl⟩ :=
        (readEntry_eq_some (entryMark_of_lineKind kind)).1 read
      rfl
    refine h.of_no_dependency (hsection ▸ h.openSection) ?_ rfl (fun _ _ => ?_)
      (.inl (by simp [kind]))
    · rw [hblock]
      exact declares_of_readEntry kind read
    · simp [outside, hnone]
  | endBlock e kind inside closed =>
    simp only [sectionMark?, blockMark?, kind, Option.getD_none, Option.getD_some]
      at hsection hblock
    refine h.of_no_dependency (hsection ▸ h.openSection) ?_ rfl (fun _ _ => ?_)
      (.inl (by simp [kind]))
    · rw [hblock]
      trivial
    · simp [inside]
  | startSection name kind =>
    simp only [sectionMark?, blockMark?, kind, Option.getD_none, Option.getD_some]
      at hsection hblock
    refine h.of_no_dependency ?_ (hblock ▸ h.block) rfl (fun _ _ => Iff.rfl)
      (.inl (by simp [kind]))
    rw [hsection, Option.map_some, sectionName_of_lineKind kind]
  | endSection kind =>
    simp only [sectionMark?, blockMark?, kind, Option.getD_none, Option.getD_some]
      at hsection hblock
    exact h.of_no_dependency (by rw [hsection]; rfl) (hblock ▸ h.block) rfl
      (fun _ _ => Iff.rfl) (.inl (by simp [kind]))
  | pass kind elsewhere =>
    have hsame : openSection? (lines ++ [line]) = openSection? lines := by
      rcases kind with kind | ⟨kind, -⟩ <;> simp [hsection, sectionMark?, kind]
    have hagrees : BlockAgrees (openBlock? (lines ++ [line])) p.current := by
      rcases kind with kind | ⟨kind, houtside⟩
      · simpa [hblock, blockMark?, kind] using h.block
      · simp [hblock, blockMark?, kind, houtside, BlockAgrees]
    exact h.of_no_dependency (hsame ▸ h.openSection) hagrees rfl (fun _ _ => Iff.rfl)
      (.inr elsewhere)
  | own e target opened inside read =>
    simp only [sectionMark?, blockMark?, read.lineKind_eq, Option.getD_none] at hsection hblock
    have hagrees := h.block
    rw [inside] at hagrees
    obtain ⟨opening, hopening, hname⟩ := Option.map_eq_some_iff.1 (h.openSection ▸ opened)
    refine ⟨hsection ▸ h.openSection, ?_, fun source target' => ?_, fun id target' => ?_⟩
    · rw [hblock]
      cases hopen : openBlock? lines with
      | none => exact (hopen ▸ hagrees).elim
      | some block => exact fun id => (hopen ▸ hagrees) id
    · have hinside : openBlock? lines ≠ none := fun hnone => (hnone ▸ hagrees).elim
      simp [h.globally, dependsGlobally_concat, hinside]
    · have hold := h.inBlock id target'
      have hnew : OwnDependencyLine (content line) target' ↔ target' = target :=
        ⟨read.target_eq, fun heq => heq ▸ read⟩
      rw [inside] at hold
      simp only [dependsInBlock_concat, exists_or, ← hold, hagrees.exists_iff, hopening, hnew,
        Option.some.injEq]
      constructor
      · rintro ⟨e', he', rfl, htarget⟩
        rcases List.mem_cons.1 he' with rfl | he'
        · rcases List.mem_append.1 htarget with htarget | htarget
          · exact .inl ⟨e, by simp, rfl, htarget⟩
          · exact .inr ⟨opening, rfl, rfl, hname, by simpa using htarget⟩
        · exact .inl ⟨e', List.mem_cons_of_mem _ he', rfl, htarget⟩
      · rintro (⟨e', he', rfl, htarget⟩ | ⟨-, rfl, -, -, rfl⟩)
        · rcases List.mem_cons.1 he' with rfl | he'
          · exact ⟨_, List.mem_cons_self, rfl, List.mem_append_left _ htarget⟩
          · exact ⟨e', List.mem_cons_of_mem _ he', rfl, htarget⟩
        · exact ⟨_, List.mem_cons_self, rfl, by simp⟩
  | global source target opened outside read =>
    simp only [sectionMark?, blockMark?, read.lineKind_eq, Option.getD_none] at hsection hblock
    have hagrees := h.block
    rw [outside] at hagrees
    obtain ⟨opening, hopening, hname⟩ := Option.map_eq_some_iff.1 (h.openSection ▸ opened)
    refine ⟨hsection ▸ h.openSection, hblock ▸ h.block, fun source' target' => ?_,
      fun id target' => ?_⟩
    · have hnew : GlobalDependencyLine (content line) source' target' ↔
          source = source' ∧ target' = target :=
        ⟨fun h' => (read.eq h').imp_left Eq.symm, by rintro ⟨rfl, rfl⟩; exact read⟩
      rw [getD_get?_addDependencies, List.mem_append, h.globally]
      simp only [dependsGlobally_concat, exists_or, hagrees.eq_none, hopening, hnew,
        Option.some.injEq]
      refine or_congr_right ⟨fun hmem => ?_, ?_⟩
      · split at hmem
        · rename_i hsource
          exact ⟨opening, trivial, rfl, hname, hsource, by simpa using hmem⟩
        · simp at hmem
      · rintro ⟨-, -, -, -, rfl, rfl⟩
        simp
    · simp only [dependsInBlock_concat, hagrees.eq_none, exists_or]
      rw [h.inBlock]
      simp

end

/-! ## Texts -/

theorem Scanned.readLines {rest : List String} (h : Scanned lines p)
    (hread : readLines p number rest = .ok q) : Scanned (lines ++ rest) q := by
  induction rest generalizing lines p number with
  | nil =>
    cases hread
    rwa [List.append_nil]
  | cons line rest ih =>
    rw [SolutionText.readLines] at hread
    split at hread
    · rename_i p' hline
      rw [← List.singleton_append, ← List.append_assoc]
      exact ih (h.step (readLine_eq_ok.1 hline)) hread
    · cases hread

theorem content_of_isBlankText {line : String} (h : isBlankText line = true) :
    content line = [] := by
  have hdrop : line.toList.dropWhile isBlank = [] := by
    rw [List.dropWhile_eq_nil_iff]
    exact List.all_eq_true.1 h
  rw [content, trimList, stripList, hdrop]
  rfl

/-- Nothing has been read before the first line. -/
theorem scanned_blank {blank : List String} (h : ∀ line ∈ blank, isBlankText line = true) :
    Scanned blank {} := by
  induction blank using List.reverseRec with
  | nil => exact scanned_nil
  | append_singleton blank line ih =>
    have hline := content_of_isBlankText (h line (by simp))
    have hskip : Step 0 (content line) {} {} := .skip _ (by rw [hline]; rfl)
    exact (ih fun line hline => h line (by simp [hline])).step hskip

theorem lineKind_header (rest : List Char) : lineKind (header.toList ++ rest) = .other := by
  simp [lineKind, entryMark_eq, header, List.isPrefixOf]

section

variable {blank rest : List String} {first : String} {version : List Char}

theorem isBlankText_header (hfirst : content first = header.toList ++ version) :
    isBlankText first = false := by
  by_contra hne
  rw [Bool.not_eq_false] at hne
  rw [content_of_isBlankText hne] at hfirst
  simp [header] at hfirst

/-- A text with a header is what its lines after the header make it. -/
theorem parse_of_header (hblank : ∀ line ∈ blank, isBlankText line = true)
    (hfirst : content first = header.toList ++ version) :
    parse (blank ++ first :: rest) =
      match SolutionText.readLines {} (blank.length + 2) rest with
      | .error fault => .error fault
      | .ok p =>
        match p.current with
        | some entry => .error (.missingEnd entry.name, entry.line)
        | none => .ok (p.finish (String.ofList (trimList version))) := by
  have htake : (blank ++ first :: rest).takeWhile isBlankText = blank := by
    rw [List.takeWhile_append_of_pos hblank, List.takeWhile_cons, isBlankText_header hfirst]
    simp
  have htrim : trim first = String.ofList (header.toList ++ version) := by
    rw [trim, ← hfirst, content]
  have hstarts : startsWith header (trim first) = true := by
    rw [htrim, startsWith, String.toList_ofList, List.isPrefixOf_iff_prefix]
    exact List.prefix_append _ _
  have hversion : trim (dropChars header.length (trim first)) =
      String.ofList (trimList version) := by
    rw [htrim, dropChars, String.toList_ofList, ← String.length_toList, List.drop_left, trim,
      String.toList_ofList]
  rw [parse, htake, List.drop_left]
  dsimp only
  rw [hstarts, hversion]
  rfl

theorem exists_header_of_parse {text : SolutionText} (h : parse lines = .ok text) :
    ∃ blank first rest version, lines = blank ++ first :: rest ∧
      (∀ line ∈ blank, isBlankText line = true) ∧ content first = header.toList ++ version := by
  have hlines : lines.takeWhile isBlankText ++ lines.dropWhile isBlankText = lines :=
    List.takeWhile_append_dropWhile
  have hblank : ∀ line ∈ lines.takeWhile isBlankText, isBlankText line = true := fun _ =>
    List.mem_takeWhile_imp
  generalize lines.dropWhile isBlankText = left at hlines
  unfold parse at h
  generalize lines.takeWhile isBlankText = blank at h hlines hblank
  subst hlines
  dsimp only at h
  rw [List.drop_left] at h
  cases left with
  | nil => cases h
  | cons first rest =>
    dsimp only at h
    split at h
    · contradiction
    · rename_i hheader
      obtain ⟨version, hversion⟩ : header.toList <+: content first := by
        simpa [startsWith, trim, content] using hheader
      exact ⟨blank, first, rest, version, rfl, hblank, hversion.symm⟩

/-- What it takes to read a text: blank lines, a line with the version, and lines
that leave no block open. -/
theorem parse_eq_ok {text : SolutionText} :
    parse lines = .ok text ↔
      ∃ blank first rest version p, lines = blank ++ first :: rest ∧
        (∀ line ∈ blank, isBlankText line = true) ∧ content first = header.toList ++ version ∧
        SolutionText.readLines {} (blank.length + 2) rest = .ok p ∧ p.current = none ∧
        text = p.finish (String.ofList (trimList version)) := by
  constructor
  · intro h
    obtain ⟨blank, first, rest, version, rfl, hblank, hfirst⟩ := exists_header_of_parse h
    rw [parse_of_header hblank hfirst] at h
    split at h
    · cases h
    · rename_i p hread
      split at h
      · cases h
      · rename_i hclosed
        exact ⟨blank, first, rest, version, p, rfl, hblank, hfirst, hread, hclosed,
          (Except.ok.inj h).symm⟩
  · rintro ⟨blank, first, rest, version, p, rfl, hblank, hfirst, hread, hclosed, rfl⟩
    rw [parse_of_header hblank hfirst, hread]
    dsimp only
    rw [hclosed]

end

/-- A project has the targets of the global sections, and then those of its blocks. -/
theorem getD_get?_finish (p : Progress) (version id : String) :
    ((p.finish version).dependencies.get? id).getD [] =
      (p.dependencies.get? id).getD [] ++
        (p.entries.reverse.filter (·.projectId = id)).flatMap (·.dependencies) := by
  rw [Progress.finish]
  generalize p.entries.reverse = entries
  generalize p.dependencies = m
  induction entries generalizing m with
  | nil => simp
  | cons e entries ih =>
    rw [List.foldl_cons, ih]
    have hstep : (((if e.dependencies.isEmpty then m
        else addDependencies m e.projectId e.dependencies).get? id).getD [] : List String) =
          (m.get? id).getD [] ++ if e.projectId = id then e.dependencies else [] := by
      split
      · rename_i hempty
        rw [List.isEmpty_iff.1 hempty]
        simp
      · exact getD_get?_addDependencies ..
    rw [hstep, List.append_assoc]
    by_cases hid : e.projectId = id <;> simp [hid]

/-- The targets that a text has for a project are those that its lines say. -/
theorem parse_dependencies {text : SolutionText} (h : parse lines = .ok text)
    (id target : String) :
    target ∈ (text.dependencies.get? id).getD [] ↔
      (∃ opening, DependsGlobally lines opening id target) ∨
        ∃ opening, DependsInBlock lines opening id target := by
  obtain ⟨blank, first, rest, version, p, rfl, hblank, hfirst, hread, hclosed, rfl⟩ :=
    parse_eq_ok.1 h
  have hpass : Step 0 (content first) {} {} :=
    .pass _ (.inl (by rw [hfirst]; exact lineKind_header version)) (by simp)
  have hheader : Scanned (blank ++ [first]) {} := (scanned_blank hblank).step hpass
  have hscanned : Scanned (blank ++ first :: rest) p := by
    simpa using hheader.readLines hread
  rw [← hscanned.globally, ← hscanned.inBlock, getD_get?_finish, List.mem_append, hclosed]
  simp [and_assoc]

end SolutionScript.SolutionText
