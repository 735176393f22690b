import Mathlib.Logic.Relation
import SolutionScript.Proofs.Solution.Listing
import SolutionScript.Proofs.TwoRuns

/-!
# Where dependencies stand

A line that says that one project depends on another (`StatesAt`) may stand in a block that declares
the one, or outside of all blocks. Moving such lines from place to place (`Move`), also from the one
kind of place to the other, and opening and closing sections for them changes nothing of what
a text says (`Rearranged.parse_agree`): the lines leave nothing behind but the dependencies
(`Idle`), and these do not show where they come from.
-/

namespace SolutionScript

/-- A block without the number of its line and without dependencies. -/
def SolutionEntry.outline (e : SolutionEntry) : SolutionEntry :=
  { e with line := 0, dependencies := [] }

/-- What a text says apart from dependencies, and without the numbers of lines. -/
def SolutionText.outline (t : SolutionText) : SolutionText :=
  { t with entries := t.entries.map .outline, dependencies := [] }

/-- Two texts say the same, each dependency any number of times and in any order. -/
structure SolutionText.Same (t t' : SolutionText) : Prop where
  outline : t'.outline = t.outline
  dependencies : ∀ id target, target ∈ (t'.dependencies.get? id).getD [] ↔
    target ∈ (t.dependencies.get? id).getD []

namespace SolutionText

open Text Fallible Relation

variable {number : ℕ} {lines lines' before after inserted : List String} {line : String}
  {source target source' target' : String} {p p' q : Progress}

theorem Same.refl (t : SolutionText) : t.Same t := ⟨rfl, fun _ _ => Iff.rfl⟩

theorem Same.trans {t t' t'' : SolutionText} (h : t.Same t') (h' : t'.Same t'') : t.Same t'' :=
  ⟨h'.outline.trans h.outline,
    fun id target => (h'.dependencies id target).trans (h.dependencies id target)⟩

theorem Same.version {t t' : SolutionText} (h : t.Same t') : t'.version = t.version :=
  congrArg (·.version) h.outline

theorem Same.entries {t t' : SolutionText} (h : t.Same t') :
    List.Forall₂ (fun e e' : SolutionEntry => e'.outline = e.outline) t.entries t'.entries := by
  have hmap : t.entries.map SolutionEntry.outline = t'.entries.map .outline :=
    (congrArg (·.entries) h.outline).symm
  rw [← List.forall₂_eq_eq_eq, List.forall₂_map_left_iff, List.forall₂_map_right_iff] at hmap
  exact hmap.imp fun _ _ he => he.symm

/-! ## Places for dependencies -/

/-- A line, in view of those before it, says that one project depends on another: in a block that
declares the one, or outside of all blocks by naming both. -/
inductive StatesAt (before : List String) (line : String) (source target : String) : Prop
  | own {block opening : List Char} (inside : openBlock? before = some block)
      (declares : Declares block source) (opened : openSection? before = some opening)
      (name : sectionName opening = dependencySection)
      (form : OwnDependencyLine (content line) target)
  | global {opening : List Char} (outside : openBlock? before = none)
      (opened : openSection? before = some opening)
      (name : sectionName opening = dependencySection)
      (form : GlobalDependencyLine (content line) source target)

/-- Some line of a text says that one project depends on another. -/
def States (lines : List String) (source target : String) : Prop :=
  SomeLine (fun before line => StatesAt before line source target) lines

theorem statesAt_iff : StatesAt before line source target ↔
    (∃ opening, openBlock? before = none ∧ openSection? before = some opening ∧
        sectionName opening = dependencySection ∧
        GlobalDependencyLine (content line) source target) ∨
      ∃ opening, (∃ block, openBlock? before = some block ∧ Declares block source) ∧
        openSection? before = some opening ∧ sectionName opening = dependencySection ∧
        OwnDependencyLine (content line) target := by
  constructor
  · rintro (⟨inside, declares, opened, name, form⟩ | ⟨outside, opened, name, form⟩)
    · exact .inr ⟨_, ⟨_, inside, declares⟩, opened, name, form⟩
    · exact .inl ⟨_, outside, opened, name, form⟩
  · rintro (⟨_, outside, opened, name, form⟩ | ⟨_, ⟨_, inside, declares⟩, opened, name, form⟩)
    · exact .global outside opened name form
    · exact .own inside declares opened name form

/-- What lines say is where they depend globally or in a block. -/
theorem states_iff : States lines source target ↔
    (∃ opening, DependsGlobally lines opening source target) ∨
      ∃ opening, DependsInBlock lines opening source target := by
  constructor
  · rintro ⟨before, line, after, heq, h⟩
    rcases statesAt_iff.1 h with ⟨opening, h⟩ | ⟨opening, h⟩
    · exact .inl ⟨opening, before, line, after, heq, h⟩
    · exact .inr ⟨opening, before, line, after, heq, h⟩
  · rintro (⟨opening, before, line, after, heq, h⟩ | ⟨opening, before, line, after, heq, h⟩)
    · exact ⟨before, line, after, heq, statesAt_iff.2 (.inl ⟨opening, h⟩)⟩
    · exact ⟨before, line, after, heq, statesAt_iff.2 (.inr ⟨opening, h⟩)⟩

theorem StatesAt.lineKind_eq (h : StatesAt before line source target) :
    lineKind (content line) = .other := by
  cases h with
  | own _ _ _ _ form => exact form.lineKind_eq
  | global _ _ _ form => exact form.lineKind_eq

/-- A line that declares a project declares no other one. -/
theorem Declares.unique {block : List Char} {id id' : String} (h : Declares block id)
    (h' : Declares block id') : id' = id := by
  obtain ⟨typeId, name, path, raw, hline, rfl⟩ := h
  have hmark : entryMark <+: block := by
    obtain ⟨equals, comma, comma', blanks, hform, -⟩ := hline.form
    rw [hform]
    simp only [List.append_assoc]
    exact List.prefix_append entryMark _
  obtain ⟨typeId', name', path', raw', hline', rfl⟩ := h'
  have hread := (@readEntry_eq_some block 0 (entryOf 0 typeId name path raw) hmark).2
    ⟨typeId, name, path, raw, hline, rfl⟩
  have hread' := (@readEntry_eq_some block 0 (entryOf 0 typeId' name' path' raw') hmark).2
    ⟨typeId', name', path', raw', hline', rfl⟩
  have heq := Option.some.inj (hread'.symm.trans hread)
  simp only [entryOf, SolutionEntry.mk.injEq] at heq
  exact heq.2.2.2.1

/-- A line says one thing only. -/
theorem StatesAt.unique (h : StatesAt before line source target)
    (h' : StatesAt before line source' target') : source' = source ∧ target' = target := by
  cases h with
  | own inside declares _ _ form =>
    cases h' with
    | own inside' declares' _ _ form' =>
      obtain rfl := Option.some.inj (inside.symm.trans inside')
      exact ⟨declares.unique declares', form.target_eq form'⟩
    | global outside' => exact absurd (outside'.symm.trans inside) (by simp)
  | global outside _ _ form =>
    cases h' with
    | own inside' => exact absurd (outside.symm.trans inside') (by simp)
    | global _ _ _ form' => exact form.eq form'

/-- What a line says depends on the open block and the open section. -/
theorem StatesAt.congr (hblock : openBlock? before = openBlock? after)
    (hsection : openSection? before = openSection? after) :
    StatesAt before line source target ↔ StatesAt after line source target := by
  rw [statesAt_iff, statesAt_iff, hblock, hsection]

/-- A dependency does not stand before the header. -/
theorem StatesAt.exists_not_blank (h : StatesAt before line source target) :
    ∃ line ∈ before, isBlankText line = false := by
  by_contra hblank
  have hscanned : Scanned before {} := scanned_blank fun line hline => by
    by_contra hne
    exact hblank ⟨line, hline, by simpa using hne⟩
  have hnone : openSection? before = none := Option.map_eq_none_iff.1 hscanned.openSection.symm
  cases h with
  | own _ _ opened => exact absurd (hnone.symm.trans opened) (by simp)
  | global _ opened => exact absurd (hnone.symm.trans opened) (by simp)

/-! ## Reading apart from dependencies -/

/-- What has been read apart from dependencies, and without the numbers of lines. -/
def Progress.outline (p : Progress) : Progress :=
  { p with
    entries := p.entries.map .outline, current := p.current.map .outline, dependencies := [] }

theorem Progress.outline_eq_iff : p'.outline = p.outline ↔
    p'.entries.map SolutionEntry.outline = p.entries.map .outline ∧
      p'.current.map SolutionEntry.outline = p.current.map .outline ∧
      p'.openSection = p.openSection := by
  simp [Progress.outline]

/-- Numbers of lines are only noted. -/
theorem readEntry_renumber {line : List Char} {e : SolutionEntry} (hkind : lineKind line = .entry)
    (h : readEntry number line = some e) (number' : ℕ) :
    readEntry number' line = some { e with line := number' } := by
  have hmark := entryMark_of_lineKind hkind
  obtain ⟨typeId, name, path, id, hline, rfl⟩ := (readEntry_eq_some hmark).1 h
  exact (readEntry_eq_some hmark).2 ⟨typeId, name, path, id, hline, rfl⟩

/-- A step leads on from whatever is the same apart from dependencies. -/
theorem Step.of_outline {line : List Char} (h : Step number line p q)
    (hp : p'.outline = p.outline) (number' : ℕ) :
    ∃ q', Step number' line p' q' ∧ q'.outline = q.outline := by
  obtain ⟨hentries, hcurrent, hsection⟩ := Progress.outline_eq_iff.1 hp
  cases h with
  | skip kind => exact ⟨p', .skip p' kind, hp⟩
  | startBlock e kind outside read =>
    rw [outside, Option.map_none, Option.map_eq_none_iff] at hcurrent
    exact ⟨_, .startBlock p' _ kind hcurrent (readEntry_renumber kind read number'),
      Progress.outline_eq_iff.2 ⟨hentries, rfl, hsection⟩⟩
  | endBlock e kind inside closed =>
    rw [inside, Option.map_some, Option.map_eq_some_iff] at hcurrent
    obtain ⟨e', he', heq⟩ := hcurrent
    refine ⟨_, .endBlock p' e' kind he' (hsection.trans closed),
      Progress.outline_eq_iff.2 ⟨?_, rfl, hsection⟩⟩
    rw [List.map_cons, List.map_cons, heq, hentries]
  | startSection name kind =>
    exact ⟨_, .startSection p' name kind, Progress.outline_eq_iff.2 ⟨hentries, hcurrent, rfl⟩⟩
  | endSection kind =>
    exact ⟨_, .endSection p' kind, Progress.outline_eq_iff.2 ⟨hentries, hcurrent, rfl⟩⟩
  | pass kind elsewhere =>
    refine ⟨p', .pass p' (kind.imp_right fun ⟨hkind, outside⟩ => ⟨hkind, ?_⟩)
      (hsection ▸ elsewhere), hp⟩
    rwa [outside, Option.map_none, Option.map_eq_none_iff] at hcurrent
  | own e target opened inside read =>
    rw [inside, Option.map_some, Option.map_eq_some_iff] at hcurrent
    obtain ⟨e', he', heq⟩ := hcurrent
    exact ⟨_, .own p' e' target (hsection.trans opened) he' read,
      Progress.outline_eq_iff.2 ⟨hentries, congrArg some heq, hsection⟩⟩
  | global source target opened outside read =>
    have houtside := hcurrent
    rw [outside, Option.map_none, Option.map_eq_none_iff] at houtside
    exact ⟨_, .global p' source target (hsection.trans opened) houtside read,
      Progress.outline_eq_iff.2 ⟨hentries, hcurrent, hsection⟩⟩

theorem readLines_cons_eq_ok :
    readLines p number (line :: after) = .ok q ↔
      ∃ r, Step number (content line) p r ∧ readLines r (number + 1) after = .ok q := by
  constructor
  · intro h
    rw [readLines] at h
    split at h
    · rename_i r hline
      exact ⟨r, readLine_eq_ok.1 hline, h⟩
    · cases h
  · rintro ⟨r, hline, h⟩
    rw [readLines_cons _ hline, h]

theorem readLines_append_eq_ok :
    readLines p number (before ++ after) = .ok q ↔
      ∃ r, readLines p number before = .ok r ∧
        readLines r (number + before.length) after = .ok q := by
  refine ⟨fun h => ?_, fun ⟨r, hbefore, hafter⟩ => (readLines_append after hbefore).trans hafter⟩
  induction before generalizing p number with
  | nil => exact ⟨p, rfl, h⟩
  | cons line before ih =>
    obtain ⟨r, hline, h⟩ := readLines_cons_eq_ok.1 h
    obtain ⟨r', hbefore, hafter⟩ := ih h
    refine ⟨r', readLines_cons_eq_ok.2 ⟨r, hline, hbefore⟩, ?_⟩
    rwa [List.length_cons, Nat.add_comm before.length, ← Nat.add_assoc]

/-- So does a run. -/
theorem readLines_of_outline (h : readLines p number lines = .ok q) (hp : p'.outline = p.outline)
    (number' : ℕ) : ∃ q', readLines p' number' lines = .ok q' ∧ q'.outline = q.outline := by
  induction lines generalizing p p' number number' with
  | nil =>
    cases h
    exact ⟨p', rfl, hp⟩
  | cons line lines ih =>
    obtain ⟨r, hline, h⟩ := readLines_cons_eq_ok.1 h
    obtain ⟨r', hline', hr⟩ := hline.of_outline hp number'
    obtain ⟨q', hq', hq⟩ := ih h hr (number' + 1)
    exact ⟨q', readLines_cons_eq_ok.2 ⟨r', hline', hq'⟩, hq⟩

/-! ## Headers -/

/-- The first line that is not blank names the version of the format. -/
def HasHeader (lines : List String) (version : List Char) : Prop :=
  ∃ blank first rest, lines = blank ++ first :: rest ∧
    (∀ line ∈ blank, isBlankText line = true) ∧ content first = header.toList ++ version

theorem readLines_blank {blank : List String} (h : ∀ line ∈ blank, isBlankText line = true) :
    readLines p number blank = .ok p := by
  induction blank generalizing number with
  | nil => rfl
  | cons line blank ih =>
    rw [List.forall_mem_cons] at h
    refine readLines_cons_eq_ok.2 ⟨p, .skip p ?_, ih h.2⟩
    rw [content_of_isBlankText h.1]
    rfl

/-- Reading passes over blank lines and the header. -/
theorem readLines_header {blank rest : List String} {first : String} {version : List Char}
    (hblank : ∀ line ∈ blank, isBlankText line = true)
    (hfirst : content first = header.toList ++ version) :
    readLines {} 1 (blank ++ first :: rest) = readLines {} (blank.length + 2) rest := by
  have hpass : Step (1 + blank.length) (content first) {} {} :=
    .pass _ (.inl (by rw [hfirst]; exact lineKind_header version)) (by simp)
  rw [readLines_append _ (readLines_blank hblank), readLines_cons _ hpass, Nat.add_comm 1]

/-- A text has a header, and all of its lines can be read one after the other. -/
theorem parse_eq_ok_iff {text : SolutionText} :
    parse lines = .ok text ↔ ∃ version p, HasHeader lines version ∧
      readLines {} 1 lines = .ok p ∧ p.current = none ∧
      text = p.finish (String.ofList (trimList version)) := by
  rw [parse_eq_ok]
  constructor
  · rintro ⟨blank, first, rest, version, p, rfl, hblank, hfirst, hread, hclosed, rfl⟩
    exact ⟨version, p, ⟨blank, first, rest, rfl, hblank, hfirst⟩,
      (readLines_header hblank hfirst).trans hread, hclosed, rfl⟩
  · rintro ⟨version, p, ⟨blank, first, rest, rfl, hblank, hfirst⟩, hread, hclosed, rfl⟩
    exact ⟨blank, first, rest, version, p, rfl, hblank, hfirst,
      (readLines_header hblank hfirst).symm.trans hread, hclosed, rfl⟩

/-- A header does not depend on the lines after it. -/
theorem hasHeader_append {version : List Char} (h : ∃ line ∈ before, isBlankText line = false) :
    HasHeader (before ++ after) version ↔ HasHeader before version := by
  constructor
  · rintro ⟨blank, first, rest, heq, hblank, hfirst⟩
    obtain ⟨line, hline, hnot⟩ := h
    rcases List.append_eq_append_iff.1 heq with ⟨more, rfl, -⟩ | ⟨more, rfl, hmore⟩
    · rw [hblank line (List.mem_append_left _ hline)] at hnot
      cases hnot
    · cases more with
      | nil =>
        rw [List.append_nil] at hline
        rw [hblank line hline] at hnot
        cases hnot
      | cons first' more =>
        obtain ⟨rfl, -⟩ := List.cons.inj hmore
        exact ⟨blank, _, more, rfl, hblank, hfirst⟩
  · rintro ⟨blank, first, rest, rfl, hblank, hfirst⟩
    exact ⟨blank, first, rest ++ after, by simp, hblank, hfirst⟩

/-! ## Lines that leave nothing behind -/

/-- After some lines, further ones can be read that leave the same block and the same section open,
and nothing behind but dependencies. -/
structure Idle (before inserted : List String) : Prop where
  block : openBlock? (before ++ inserted) = openBlock? before
  openSection : openSection? (before ++ inserted) = openSection? before
  read : ∀ p number, Scanned before p →
    ∃ q, readLines p number inserted = .ok q ∧ q.outline = p.outline

theorem openSection?_append_congr (h : openSection? before = openSection? inserted)
    (after : List String) : openSection? (before ++ after) = openSection? (inserted ++ after) := by
  induction after using List.reverseRec with
  | nil => simpa using h
  | append_singleton after line ih =>
    rw [← List.append_assoc, ← List.append_assoc, openSection?_concat, openSection?_concat, ih]

theorem openBlock?_append_congr (h : openBlock? before = openBlock? inserted)
    (after : List String) : openBlock? (before ++ after) = openBlock? (inserted ++ after) := by
  induction after using List.reverseRec with
  | nil => simpa using h
  | append_singleton after line ih =>
    rw [← List.append_assoc, ← List.append_assoc, openBlock?_concat, openBlock?_concat, ih]

/-- What a text says is what it says without the idle lines, and what they say. -/
theorem Idle.states_iff (h : Idle before inserted) {P : Prop}
    (hP : States (before ++ inserted) source target ↔ States before source target ∨ P)
    (after : List String) :
    States (before ++ (inserted ++ after)) source target ↔
      States (before ++ after) source target ∨ P := by
  induction after using List.reverseRec with
  | nil => simpa using hP
  | append_singleton after line ih =>
    have hplace : StatesAt (before ++ (inserted ++ after)) line source target ↔
        StatesAt (before ++ after) line source target := by
      rw [← List.append_assoc]
      exact StatesAt.congr (openBlock?_append_congr h.block after)
        (openSection?_append_congr h.openSection after)
    have hinserted : before ++ (inserted ++ (after ++ [line])) =
        before ++ (inserted ++ after) ++ [line] := by
      simp
    rw [hinserted, States, someLine_concat, ← States, ih, hplace, or_right_comm,
      ← List.append_assoc, States, States, someLine_concat]

/-- Apart from dependencies, a text is read in the same way without the idle lines. -/
theorem Idle.parse_agree (h : Idle before inserted)
    (hbefore : ∃ line ∈ before, isBlankText line = false) (after : List String) :
    Agree (fun t t' => t'.outline = t.outline) (parse (before ++ after))
      (parse (before ++ (inserted ++ after))) := by
  have hscanned {r : Progress} (hr : readLines {} 1 before = .ok r) : Scanned before r := by
    simpa using scanned_nil.readLines hr
  have hfinish {p p' : Progress} (hp : p'.outline = p.outline) (version : String) :
      (p'.finish version).outline = (p.finish version).outline := by
    obtain ⟨hentries, -, -⟩ := Progress.outline_eq_iff.1 hp
    simp [SolutionText.outline, Progress.finish, hentries]
  have hclosed {p p' : Progress} (hp : p'.outline = p.outline) (h : p.current = none) :
      p'.current = none := by
    obtain ⟨-, hcurrent, -⟩ := Progress.outline_eq_iff.1 hp
    rwa [h, Option.map_none, Option.map_eq_none_iff] at hcurrent
  refine .of_ok (fun t ht => ?_) fun t ht => ?_
  · obtain ⟨version, p, hheader, hread, hnone, rfl⟩ := parse_eq_ok_iff.1 ht
    obtain ⟨r, hr, hafter⟩ := readLines_append_eq_ok.1 hread
    obtain ⟨r', hinserted, hr'⟩ := h.read r (1 + before.length) (hscanned hr)
    obtain ⟨p', hp', hp⟩ := readLines_of_outline hafter hr' (1 + before.length + inserted.length)
    refine ⟨_, parse_eq_ok_iff.2 ⟨version, p', ?_, ?_, hclosed hp hnone, rfl⟩, hfinish hp _⟩
    · exact (hasHeader_append hbefore).2 ((hasHeader_append hbefore).1 hheader)
    · exact readLines_append_eq_ok.2 ⟨r, hr, readLines_append_eq_ok.2 ⟨r', hinserted, hp'⟩⟩
  · obtain ⟨version, p, hheader, hread, hnone, rfl⟩ := parse_eq_ok_iff.1 ht
    obtain ⟨r, hr, hrest⟩ := readLines_append_eq_ok.1 hread
    obtain ⟨r', hinserted, hafter⟩ := readLines_append_eq_ok.1 hrest
    obtain ⟨r'', hinserted', hr'⟩ := h.read r (1 + before.length) (hscanned hr)
    obtain rfl := Except.ok.inj (hinserted.symm.trans hinserted')
    obtain ⟨p', hp', hp⟩ := readLines_of_outline hafter hr'.symm (1 + before.length)
    refine ⟨_, parse_eq_ok_iff.2 ⟨version, p', ?_, ?_, hclosed hp hnone, rfl⟩⟩
    · exact (hasHeader_append hbefore).2 ((hasHeader_append hbefore).1 hheader)
    · exact readLines_append_eq_ok.2 ⟨r, hr, hp'⟩

/-- A line with a dependency is idle. -/
theorem StatesAt.idle (h : StatesAt before line source target) : Idle before [line] := by
  have hkind := h.lineKind_eq
  refine ⟨?_, ?_, fun p number hscanned => ?_⟩
  · rw [openBlock?_concat, blockMark?, hkind]
    rfl
  · rw [openSection?_concat, sectionMark?, hkind]
    rfl
  have hread {q : Progress} (hstep : Step number (content line) p q) :
      readLines p number [line] = .ok q := readLines_cons _ hstep
  have hopened {opening : List Char} (hopening : openSection? before = some opening)
      (hname : sectionName opening = dependencySection) :
      p.openSection = some dependencySection := by
    rw [hscanned.openSection, hopening, Option.map_some, hname]
  have hagrees := hscanned.block
  cases h with
  | own inside declares opened name form =>
    rw [inside] at hagrees
    cases hcurrent : p.current with
    | none => exact (hcurrent ▸ hagrees).elim
    | some e =>
      exact ⟨_, hread (.own p e target (hopened opened name) hcurrent form),
        Progress.outline_eq_iff.2 ⟨rfl, by rw [hcurrent]; rfl, rfl⟩⟩
  | global outside opened name form =>
    rw [outside] at hagrees
    cases hcurrent : p.current with
    | none =>
      exact ⟨_, hread (.global p source target (hopened opened name) hcurrent form),
        Progress.outline_eq_iff.2 ⟨rfl, rfl, rfl⟩⟩
    | some e => exact (hcurrent ▸ hagrees).elim

/-- After some lines, further ones say nothing: an empty section of dependencies where no section is
open, or a line that is passed over. -/
inductive Padding (before : List String) : List String → Prop
  | brackets {start stop : String}
      (startKind : lineKind (content start) = .sectionStart dependencySection)
      (stopKind : lineKind (content stop) = .sectionEnd) (closed : openSection? before = none) :
    Padding before [start, stop]
  | skipped {line : String} (kind : lineKind (content line) = .skipped) : Padding before [line]
  | passed {line : String} (kind : lineKind (content line) = .other)
      (elsewhere : (openSection? before).map sectionName ≠ some dependencySection) :
    Padding before [line]

theorem concat_pair (start stop : String) :
    before ++ [start, stop] = before ++ [start] ++ [stop] := by
  rw [List.append_assoc, List.singleton_append]

theorem Padding.idle (h : Padding before inserted) : Idle before inserted := by
  cases h with
  | brackets startKind stopKind closed =>
    refine ⟨?_, ?_, fun p number hscanned => ?_⟩
    · rw [concat_pair, openBlock?_concat, openBlock?_concat, blockMark?, blockMark?, startKind,
        stopKind]
      rfl
    · rw [concat_pair, openSection?_concat, sectionMark?, stopKind, closed]
      rfl
    · have hsection : p.openSection = none := by rw [hscanned.openSection, closed]; rfl
      exact ⟨_, (readLines_cons _ (.startSection p _ startKind)).trans
        (readLines_cons _ (.endSection _ stopKind)),
        Progress.outline_eq_iff.2 ⟨rfl, rfl, hsection.symm⟩⟩
  | skipped kind =>
    refine ⟨?_, ?_, fun p number _ => ⟨p, readLines_cons _ (.skip p kind), rfl⟩⟩
    · rw [openBlock?_concat, blockMark?, kind]
      rfl
    · rw [openSection?_concat, sectionMark?, kind]
      rfl
  | passed kind elsewhere =>
    refine ⟨?_, ?_, fun p number hscanned => ⟨p, readLines_cons _ (.pass p (.inl kind) ?_), rfl⟩⟩
    · rw [openBlock?_concat, blockMark?, kind]
      rfl
    · rw [openSection?_concat, sectionMark?, kind]
      rfl
    · rwa [hscanned.openSection]

theorem Padding.states_iff (h : Padding before inserted) :
    States (before ++ inserted) source target ↔ States before source target := by
  have hkind {before : List String} {line : String} (hkind : lineKind (content line) ≠ .other) :
      ¬ StatesAt before line source target := fun hstates => hkind hstates.lineKind_eq
  cases h with
  | brackets startKind stopKind =>
    rw [concat_pair, States, someLine_concat, someLine_concat,
      or_iff_left (hkind (by simp [stopKind])), or_iff_left (hkind (by simp [startKind])), States]
  | skipped kind => rw [States, someLine_concat, or_iff_left (hkind (by simp [kind])), States]
  | passed kind elsewhere =>
    rw [States, someLine_concat, or_iff_left, States]
    rintro (⟨-, -, opened, name, -⟩ | ⟨-, opened, name, -⟩)
    · exact elsewhere (by rw [opened, Option.map_some, name])
    · exact elsewhere (by rw [opened, Option.map_some, name])

/-! ## Moves -/

/-- A text with a further line, anywhere, that says that one project depends on another. -/
inductive Adds (source target : String) : List String → List String → Prop
  | intro {before after : List String} {line : String}
      (states : StatesAt before line source target) :
    Adds source target (before ++ after) (before ++ line :: after)

/-- A text with further lines, anywhere after the header, that say nothing. -/
inductive AddsPadding : List String → List String → Prop
  | intro {before after inserted : List String} (padding : Padding before inserted)
      (begun : ∃ line ∈ before, isBlankText line = false) :
    AddsPadding (before ++ after) (before ++ (inserted ++ after))

/-- Taking away a line that says that one project depends on another, and putting one that says the
same in another place: in a block that declares the one, or outside of all blocks. Lines that say
nothing come and go, so that sections are opened for such lines, and closed when they are empty. -/
inductive Move : List String → List String → Prop
  | line {common lines lines' : List String} {source target : String}
      (taken : Adds source target common lines) (put : Adds source target common lines') :
    Move lines lines'
  | pad {lines lines' : List String} (added : AddsPadding lines lines') : Move lines lines'
  | strip {lines lines' : List String} (added : AddsPadding lines' lines) : Move lines lines'

/-- Any number of moves, one after the other. -/
abbrev Rearranged : List String → List String → Prop := ReflTransGen Move

theorem Adds.states_iff (h : Adds source target lines lines') :
    States lines' source' target' ↔
      States lines source' target' ∨ (source' = source ∧ target' = target) := by
  obtain ⟨states⟩ := h
  refine states.idle.states_iff (someLine_concat.trans (or_congr_right ⟨states.unique, ?_⟩)) _
  rintro ⟨rfl, rfl⟩
  exact states

theorem Adds.parse_agree (h : Adds source target lines lines') :
    Agree (fun t t' => t'.outline = t.outline) (parse lines) (parse lines') := by
  obtain ⟨states⟩ := h
  exact states.idle.parse_agree states.exists_not_blank _

theorem AddsPadding.states_iff (h : AddsPadding lines lines') :
    States lines' source target ↔ States lines source target := by
  obtain @⟨before, after, inserted, padding, -⟩ := h
  have hinserted : States (before ++ inserted) source target ↔
      States before source target ∨ False := by
    rw [or_false, padding.states_iff]
  exact (padding.idle.states_iff hinserted _).trans (iff_of_eq (or_false _))

theorem AddsPadding.parse_agree (h : AddsPadding lines lines') :
    Agree (fun t t' => t'.outline = t.outline) (parse lines) (parse lines') := by
  obtain ⟨padding, begun⟩ := h
  exact padding.idle.parse_agree begun _

/-- Texts that are read as the same blocks say the same if they say the same dependencies. -/
theorem same_of_outline {t t' : SolutionText} (ht : parse lines = .ok t)
    (ht' : parse lines' = .ok t') (houtline : t'.outline = t.outline)
    (hstates : ∀ source target, States lines' source target ↔ States lines source target) :
    t.Same t' :=
  ⟨houtline, fun id target => by
    rw [parse_dependencies ht', parse_dependencies ht, ← states_iff, ← states_iff, hstates]⟩

theorem Move.states_iff (h : Move lines lines') :
    States lines' source target ↔ States lines source target := by
  cases h with
  | line taken put => rw [taken.states_iff, put.states_iff]
  | pad added => exact added.states_iff
  | strip added => exact added.states_iff.symm

theorem Move.outline_agree (h : Move lines lines') :
    Agree (fun t t' => t'.outline = t.outline) (parse lines) (parse lines') := by
  cases h with
  | line taken put =>
    refine (taken.parse_agree.symm.trans put.parse_agree).mono (fun _ _ h => h) ?_
    rintro t t' ⟨t'', h, h'⟩
    exact h'.trans h.symm
  | pad added => exact added.parse_agree
  | strip added => exact added.parse_agree.symm.mono (fun _ _ h => h) fun _ _ h => h.symm

/-- A move changes nothing of what a text says. -/
theorem Move.parse_agree (h : Move lines lines') :
    Agree SolutionText.Same (parse lines) (parse lines') := by
  refine .of_ok (fun t ht => ?_) fun t' ht' => ?_
  · obtain ⟨t', ht', houtline⟩ := h.outline_agree.exists_ok ht
    exact ⟨t', ht', same_of_outline ht ht' houtline fun _ _ => h.states_iff⟩
  · obtain ⟨t, ht, -⟩ := h.outline_agree.symm.exists_ok ht'
    exact ⟨t, ht⟩

/-- Wherever the dependencies of a text are moved to, it goes on to say the same. -/
theorem Rearranged.parse_agree (h : Rearranged lines lines') :
    Agree SolutionText.Same (parse lines) (parse lines') := by
  induction h with
  | refl => exact (Agree.refl _).mono (fun _ _ h => h) fun t _ h => h ▸ .refl t
  | tail _ hmove ih =>
    refine (ih.trans hmove.parse_agree).mono (fun _ _ h => h) ?_
    rintro t t' ⟨t'', h, h'⟩
    exact h.trans h'

end SolutionText

end SolutionScript
