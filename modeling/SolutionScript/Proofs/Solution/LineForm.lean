import SolutionScript.Proofs.Text.Span
import SolutionScript.Solution.SolutionText

/-!
# The forms of lines

What the lines of a solution look like that declare a project or a dependency,
said without the functions that read them: `EntryLine`, `OwnDependencyLine` and
`GlobalDependencyLine`. A line is read if and only if it has the form
(`readEntry_eq_some`, `readOwnDependency_eq_some`, `readGlobalDependency_eq_some`).
-/

namespace SolutionScript.SolutionText

open Text

/-! ## Forms -/

/-- A text that is not empty and does not have a character. -/
structure Filled (close : Char) (cs : List Char) : Prop where
  ne_nil : cs ≠ []
  not_mem : close ∉ cs

/-- An identifier in braces. -/
def IsBraced (cs : List Char) : Prop :=
  ∃ inside, cs = '\x7b' :: inside ++ ['\x7d'] ∧ Filled '\x7d' inside

/-- A character with blanks around it. -/
def IsSpaced (mark : Char) (cs : List Char) : Prop :=
  ∃ before after, cs = before ++ mark :: after ∧ (∀ c ∈ before, isBlank c = true) ∧
    ∀ c ∈ after, isBlank c = true

/-- A text between quotes. -/
def inQuotes (cs : List Char) : List Char := '"' :: cs ++ ['"']

/-- A line that declares a project: four texts between quotes. -/
structure EntryLine (line typeId name path id : List Char) : Prop where
  form : ∃ equals comma comma' blanks,
    line = entryMark ++ inQuotes typeId ++ ')' :: equals ++ inQuotes name ++ comma ++
        inQuotes path ++ comma' ++ inQuotes id ++ blanks ∧
      IsSpaced '=' equals ∧ IsSpaced ',' comma ∧ IsSpaced ',' comma' ∧
      ∀ c ∈ blanks, isBlank c = true
  typeId : Filled '"' typeId
  name : Filled '"' name
  path : Filled '"' path
  id : Filled '"' id

/-- A dependency in the section of a block: an identifier, twice. -/
def OwnDependencyLine (line : List Char) (target : String) : Prop :=
  ∃ id equals again, line = id ++ equals ++ again ∧ IsBraced id ∧ IsSpaced '=' equals ∧
    IsBraced again ∧ target = Guid.normalize (String.ofList id)

/-- A dependency in a global section: the identifier of a project with a number,
and the identifier of what it depends on. -/
def GlobalDependencyLine (line : List Char) (source target : String) : Prop :=
  ∃ id digits equals id', line = id ++ '.' :: digits ++ equals ++ id' ∧ IsBraced id ∧
    digits ≠ [] ∧ (∀ c ∈ digits, isDecimalDigit c = true) ∧ IsSpaced '=' equals ∧
    IsBraced id' ∧ source = Guid.normalize (String.ofList id) ∧
    target = Guid.normalize (String.ofList id')

/-! ## Parts of lines -/

variable {cs inside rest : List Char} {close mark : Char}

theorem upTo_eq_some :
    upTo close cs = some (inside, rest) ↔ cs = inside ++ close :: rest ∧ Filled close inside := by
  constructor
  · intro h
    have hcs : cs.takeWhile (· != close) ++ cs.dropWhile (· != close) = cs :=
      List.takeWhile_append_dropWhile
    have hmem : ∀ c ∈ cs.takeWhile (· != close), (c != close) = true := fun _ =>
      List.mem_takeWhile_imp
    have hstop := stopsAt_dropWhile (· != close) cs
    unfold upTo at h
    generalize cs.takeWhile (· != close) = run at h hcs hmem
    generalize cs.dropWhile (· != close) = left at h hcs hstop
    split at h
    · cases h
    · cases h
    · rename_i inside' c rest' hne
      cases h
      rw [stopsAt_cons, bne_eq_false_iff_eq] at hstop
      subst hstop
      exact ⟨hcs.symm, hne, fun hin => by simpa using hmem _ hin⟩
  · rintro ⟨rfl, hne, hnot⟩
    have hrun : ∀ c ∈ inside, (c != close) = true := fun c hc => by
      rw [bne_iff_ne]
      rintro rfl
      exact hnot hc
    have hstop : StopsAt (· != close) (close :: rest) := by simp
    rw [upTo, takeWhile_run hrun hstop, dropWhile_run hrun hstop]
    cases inside with
    | nil => exact absurd rfl hne
    | cons c inside => rfl

theorem quotedPart_eq_some :
    quotedPart cs = some (inside, rest) ↔ cs = inQuotes inside ++ rest ∧ Filled '"' inside := by
  constructor
  · intro h
    unfold quotedPart at h
    split at h
    · obtain ⟨rfl, hfilled⟩ := upTo_eq_some.1 h
      exact ⟨by simp [inQuotes], hfilled⟩
    · cases h
  · rintro ⟨rfl, hfilled⟩
    rw [inQuotes, List.append_assoc]
    exact upTo_eq_some.2 ⟨rfl, hfilled⟩

theorem bracedPart_eq_some {id : List Char} :
    bracedPart cs = some (id, rest) ↔ cs = id ++ rest ∧ IsBraced id := by
  constructor
  · intro h
    unfold bracedPart at h
    split at h
    · obtain ⟨⟨inside, left⟩, hupTo, heq⟩ := Option.map_eq_some_iff.1 h
      obtain ⟨rfl, hfilled⟩ := upTo_eq_some.1 hupTo
      cases heq
      exact ⟨by simp, inside, rfl, hfilled⟩
    · cases h
  · rintro ⟨rfl, inside, rfl, hfilled⟩
    have hupTo : upTo '\x7d' (inside ++ '\x7d' :: rest) = some (inside, rest) :=
      upTo_eq_some.2 ⟨rfl, hfilled⟩
    simp [bracedPart, hupTo]

theorem afterMark_eq_some (hmark : isBlank mark = false) :
    afterMark mark cs = some rest ↔
      ∃ spaced, cs = spaced ++ rest ∧ IsSpaced mark spaced ∧ StopsAt isBlank rest := by
  constructor
  · intro h
    have hcs : cs.takeWhile isBlank ++ cs.dropWhile isBlank = cs :=
      List.takeWhile_append_dropWhile
    unfold afterMark at h
    generalize hleft : cs.dropWhile isBlank = left at h hcs
    split at h
    · rename_i c left
      split at h
      · rename_i hc
        cases h
        subst hc
        refine ⟨cs.takeWhile isBlank ++ c :: left.takeWhile isBlank, ?_,
          ⟨_, _, rfl, fun _ => List.mem_takeWhile_imp, fun _ => List.mem_takeWhile_imp⟩,
          stopsAt_dropWhile _ _⟩
        rw [List.append_assoc, List.cons_append, List.takeWhile_append_dropWhile, hcs]
      · cases h
    · cases h
  · rintro ⟨spaced, rfl, ⟨before, after, rfl, hbefore, hafter⟩, hstop⟩
    have hdrop : (before ++ mark :: after ++ rest).dropWhile isBlank = mark :: (after ++ rest) := by
      rw [List.append_assoc]
      exact dropWhile_run hbefore (stopsAt_cons.2 hmark)
    rw [afterMark, hdrop]
    simp only [if_true]
    rw [dropWhile_run hafter hstop]

theorem afterParen_eq_some : afterParen cs = some rest ↔ cs = ')' :: rest := by
  unfold afterParen
  split <;> simp_all

theorem afterNumber_eq_some :
    afterNumber cs = some rest ↔
      ∃ digits, cs = '.' :: (digits ++ rest) ∧ digits ≠ [] ∧
        (∀ c ∈ digits, isDecimalDigit c = true) ∧ StopsAt isDecimalDigit rest := by
  constructor
  · intro h
    unfold afterNumber at h
    split at h
    · rename_i digits
      split at h
      · cases h
      · rename_i hne
        cases h
        exact ⟨digits.takeWhile isDecimalDigit, by rw [List.takeWhile_append_dropWhile],
          by simpa only [List.isEmpty_iff] using hne, fun _ => List.mem_takeWhile_imp,
          stopsAt_dropWhile _ _⟩
    · cases h
  · rintro ⟨digits, rfl, hne, hdigits, hstop⟩
    rw [afterNumber, takeWhile_run hdigits hstop, dropWhile_run hdigits hstop]
    simpa using hne

/-- A mark with blanks around it does not start with a digit. -/
theorem IsSpaced.stopsAt_digit {equals : List Char} (h : IsSpaced '=' equals) (rest : List Char) :
    StopsAt isDecimalDigit (equals ++ rest) := by
  obtain ⟨before, after, rfl, hbefore, -⟩ := h
  cases before with
  | nil => exact stopsAt_cons.2 (by decide)
  | cons c before => exact stopsAt_cons.2 (isDecimalDigit_of_isBlank (hbefore c (by simp)))

theorem IsBraced.stopsAt_blank {id : List Char} (h : IsBraced id) (rest : List Char) :
    StopsAt isBlank (id ++ rest) := by
  obtain ⟨inside, rfl, -⟩ := h
  exact stopsAt_cons.2 (by decide)

theorem stopsAt_blank_inQuotes (cs rest : List Char) : StopsAt isBlank (inQuotes cs ++ rest) :=
  stopsAt_cons.2 (by decide)

/-! ## Lines -/

variable {line : List Char}

theorem readOwnDependency_eq_some {target : String} :
    readOwnDependency line = some target ↔ OwnDependencyLine line target := by
  constructor
  · intro h
    simp only [readOwnDependency, Option.bind_eq_bind, Option.bind_eq_some_iff, Prod.exists] at h
    obtain ⟨id, rest, hfirst, rest', hmark, again, last, hsecond, h⟩ := h
    obtain ⟨rfl, hid⟩ := bracedPart_eq_some.1 hfirst
    obtain ⟨equals, rfl, hequals, -⟩ := (afterMark_eq_some (by decide)).1 hmark
    obtain ⟨rfl, hagain⟩ := bracedPart_eq_some.1 hsecond
    split at h
    · rename_i hlast
      obtain rfl : last = [] := by simpa using hlast
      cases h
      exact ⟨id, equals, again, by simp, hid, hequals, hagain, by simp [Guid.normalize]⟩
    · cases h
  · rintro ⟨id, equals, again, rfl, hid, hequals, hagain, rfl⟩
    have hfirst : bracedPart (id ++ (equals ++ again)) = some (id, equals ++ again) :=
      bracedPart_eq_some.2 ⟨rfl, hid⟩
    have hmark : afterMark '=' (equals ++ again) = some again :=
      (afterMark_eq_some (by decide)).2
        ⟨equals, rfl, hequals, by simpa using hagain.stopsAt_blank []⟩
    have hsecond : bracedPart again = some (again, []) := bracedPart_eq_some.2 ⟨by simp, hagain⟩
    simp [readOwnDependency, hfirst, hmark, hsecond, Guid.normalize]

theorem readGlobalDependency_eq_some {source target : String} :
    readGlobalDependency line = some (source, target) ↔
      GlobalDependencyLine line source target := by
  constructor
  · intro h
    simp only [readGlobalDependency, Option.bind_eq_bind, Option.bind_eq_some_iff,
      Prod.exists] at h
    obtain ⟨id, rest, hfirst, rest', hnumber, rest'', hmark, id', last, hsecond, h⟩ := h
    obtain ⟨rfl, hid⟩ := bracedPart_eq_some.1 hfirst
    obtain ⟨digits, rfl, hne, hdigits, -⟩ := afterNumber_eq_some.1 hnumber
    obtain ⟨equals, rfl, hequals, -⟩ := (afterMark_eq_some (by decide)).1 hmark
    obtain ⟨rfl, hid'⟩ := bracedPart_eq_some.1 hsecond
    split at h
    · rename_i hlast
      obtain rfl : last = [] := by simpa using hlast
      cases h
      exact ⟨id, digits, equals, id', by simp, hid, hne, hdigits, hequals, hid',
        by simp [Guid.normalize], by simp [Guid.normalize]⟩
    · cases h
  · rintro ⟨id, digits, equals, id', rfl, hid, hne, hdigits, hequals, hid', rfl, rfl⟩
    have hfirst : bracedPart (id ++ '.' :: (digits ++ (equals ++ id'))) =
        some (id, '.' :: (digits ++ (equals ++ id'))) :=
      bracedPart_eq_some.2 ⟨rfl, hid⟩
    have hnumber : afterNumber ('.' :: (digits ++ (equals ++ id'))) = some (equals ++ id') :=
      afterNumber_eq_some.2 ⟨digits, rfl, hne, hdigits, hequals.stopsAt_digit id'⟩
    have hmark : afterMark '=' (equals ++ id') = some id' :=
      (afterMark_eq_some (by decide)).2
        ⟨equals, rfl, hequals, by simpa using hid'.stopsAt_blank []⟩
    have hsecond : bracedPart id' = some (id', []) := bracedPart_eq_some.2 ⟨by simp, hid'⟩
    simp [readGlobalDependency, hfirst, hnumber, hmark, hsecond, Guid.normalize]

/-- The project that a line of the form declares. -/
def entryOf (number : Nat) (typeId name path id : List Char) : SolutionEntry where
  typeId := Guid.normalize (String.ofList typeId)
  name := String.ofList name
  path := String.ofList path
  projectId := Guid.normalize (String.ofList id)
  line := number

theorem readEntry_eq_some {number : ℕ} {e : SolutionEntry} (hline : entryMark <+: line) :
    readEntry number line = some e ↔
      ∃ typeId name path id, EntryLine line typeId name path id ∧
        e = entryOf number typeId name path id := by
  obtain ⟨line, rfl⟩ := hline
  constructor
  · intro h
    simp only [readEntry, List.drop_left, Option.bind_eq_bind, Option.bind_eq_some_iff,
      Prod.exists] at h
    obtain ⟨typeId, rest, h₁, rest₁, hparen, rest₂, h₂, name, rest₃, h₃, rest₄, h₄, path, rest₅,
      h₅, rest₆, h₆, id, blanks, h₇, h⟩ := h
    obtain ⟨rfl, htype⟩ := quotedPart_eq_some.1 h₁
    obtain rfl := afterParen_eq_some.1 hparen
    obtain ⟨equals, rfl, hequals, -⟩ := (afterMark_eq_some (by decide)).1 h₂
    obtain ⟨rfl, hname⟩ := quotedPart_eq_some.1 h₃
    obtain ⟨comma, rfl, hcomma, -⟩ := (afterMark_eq_some (by decide)).1 h₄
    obtain ⟨rfl, hpath⟩ := quotedPart_eq_some.1 h₅
    obtain ⟨comma', rfl, hcomma', -⟩ := (afterMark_eq_some (by decide)).1 h₆
    obtain ⟨rfl, hid⟩ := quotedPart_eq_some.1 h₇
    split at h
    · rename_i hblanks
      cases h
      refine ⟨typeId, name, path, id, ⟨⟨equals, comma, comma', blanks, by simp, hequals, hcomma,
        hcomma', by simpa using hblanks⟩, htype, hname, hpath, hid⟩, ?_⟩
      simp [entryOf, Guid.normalize]
    · cases h
  · rintro ⟨typeId, name, path, id, ⟨⟨equals, comma, comma', blanks, hline, hequals, hcomma,
      hcomma', hblanks⟩, htype, hname, hpath, hid⟩, rfl⟩
    have hquoted (inside rest) (h : Filled '"' inside) :
        quotedPart (inQuotes inside ++ rest) = some (inside, rest) :=
      quotedPart_eq_some.2 ⟨rfl, h⟩
    have hspaced (mark) (hmark : isBlank mark = false) (spaced inside rest)
        (h : IsSpaced mark spaced) :
        afterMark mark (spaced ++ (inQuotes inside ++ rest)) = some (inQuotes inside ++ rest) :=
      (afterMark_eq_some hmark).2 ⟨spaced, rfl, h, stopsAt_blank_inQuotes inside rest⟩
    simp only [List.append_assoc, List.append_cancel_left_eq] at hline
    subst hline
    simpa [readEntry, afterParen, hquoted _ _ htype, hquoted _ _ hname, hquoted _ _ hpath,
      hquoted _ _ hid, hspaced '=' (by decide) _ _ _ hequals,
      hspaced ',' (by decide) _ _ _ hcomma, hspaced ',' (by decide) _ _ _ hcomma', entryOf,
      Guid.normalize] using hblanks

end SolutionScript.SolutionText
