import SolutionScript.Proofs.Solution.Location
import SolutionScript.Proofs.Solution.Respelled

/-!
# Places of descriptor paths

Where a descriptor path leads on the host. Both kinds of separators do the same there, and a path
below a folder leads to the same place as the path seen from the place of the folder
(`place_append`). What a file lists is seen from the folder of the file (`Seen`), so the place of
that folder is the parent of the place of the file (`Seen.parent_place`).
-/

namespace SolutionScript

open Text

namespace HostPath

variable {base p : HostPath}

theorem join_of_absolute (h : p.isAbsolute = true) (base : HostPath) : base.join p = p :=
  if_pos h

theorem join_of_relative (h : p.isAbsolute = false) (base : HostPath) :
    base.join p = { base with names := base.names ++ p.names } :=
  if_neg (by simp [h])

/-- Going on from a path that is seen from another one is going on from there. -/
theorem join_assoc (base p q : HostPath) : (base.join p).join q = base.join (p.join q) := by
  cases hq : q.isAbsolute with
  | true => rw [join_of_absolute hq, join_of_absolute hq, join_of_absolute hq]
  | false =>
    rw [join_of_relative hq, join_of_relative hq]
    cases hp : p.isAbsolute with
    | true => rw [join_of_absolute hp, @join_of_absolute ⟨p.root, p.names ++ q.names⟩ hp]
    | false =>
      rw [join_of_relative hp, @join_of_relative ⟨p.root, p.names ++ q.names⟩ hp, List.append_assoc]

theorem parent_join (h : p.names ≠ []) (base : HostPath) :
    (base.join p).parent = base.join p.parent := by
  cases hp : p.isAbsolute with
  | true => rw [join_of_absolute hp, @join_of_absolute p.parent hp]
  | false =>
    rw [join_of_relative hp, @join_of_relative p.parent hp, parent, parent,
      List.dropLast_append_of_ne_nil h]

end HostPath

namespace DescriptorPath

variable {cs before after gap folder name path start : List Char} {c : Char}

/-! ## Names and roots -/

/-- The names on the host that a descriptor path goes through. -/
def hostNames (cs : List Char) : List String :=
  ((splitList '/' (replaceList '\\' '/' cs)).map String.ofList).filter fun name =>
    name != "" && name != "."

/-- The place on the host that a descriptor path leads to. -/
def place (cs : List Char) : HostPath :=
  ⟨HostPath.rootOf (replaceList '\\' '/' cs), hostNames cs⟩

theorem parse_toHost (s : String) : HostPath.parse (toHost s) = place s.toList := by
  simp only [HostPath.parse, place, hostNames, toHost, replace, splitAt, String.toList_ofList]

/-- Both kinds of separators do the same on the host. -/
theorem place_ofHost (s : String) : place (ofHost s).toList = place s.toList := by
  have hturned : replaceList '\\' '/' (ofHost s).toList = replaceList '\\' '/' s.toList := by
    rw [ofHost, replace, String.toList_ofList, replaceList_back]
  rw [place, place, hostNames, hostNames, hturned]

theorem hostNames_append (before after : List Char) (h : isSeparator c = true) :
    hostNames (before ++ c :: after) = hostNames before ++ hostNames after := by
  have hturned : replaceList '\\' '/' (before ++ c :: after) =
      replaceList '\\' '/' before ++ '/' :: replaceList '\\' '/' after := by
    rw [isSeparator, Bool.or_eq_true, beq_iff_eq, beq_iff_eq] at h
    rw [replaceList_append]
    rcases h with rfl | rfl <;> rfl
  rw [hostNames, hturned, splitList_append, List.map_append, List.filter_append]
  rfl

theorem StartsSegment.hostNames_append (h : StartsSegment before) (after : List Char) :
    hostNames (before ++ after) = hostNames before ++ hostNames after := by
  rcases List.eq_nil_or_concat' before with rfl | ⟨before, c, rfl⟩
  · rfl
  · have hc : isSeparator c = true := h c (by simp)
    rw [List.append_assoc, List.singleton_append, DescriptorPath.hostNames_append before after hc,
      DescriptorPath.hostNames_append before [] hc]
    exact congrArg (· ++ _) (List.append_nil _).symm

theorem hostNames_of_separators (h : ∀ c ∈ gap, isSeparator c = true) : hostNames gap = [] := by
  induction gap with
  | nil => rfl
  | cons c gap ih =>
    rw [List.forall_mem_cons] at h
    exact (hostNames_append [] gap h.1).trans (ih h.2)

/-- The separators that a path starts with decide about its root. -/
theorem rootOf_congr (h : before.takeWhile isSeparator = after.takeWhile isSeparator) :
    HostPath.rootOf (replaceList '\\' '/' before) =
      HostPath.rootOf (replaceList '\\' '/' after) := by
  have hlength (cs : List Char) : ((replaceList '\\' '/' cs).takeWhile (· == '/')).length =
      (cs.takeWhile isSeparator).length := by
    have hchar : ((· == '/') ∘ fun c : Char => if c = '\\' then '/' else c) = isSeparator := by
      funext c
      by_cases hc : c = '\\' <;> simp [isSeparator, hc]
    rw [replaceList, List.takeWhile_map, List.length_map, hchar]
  rw [HostPath.rootOf, HostPath.rootOf, hlength, hlength, h]

/-- The place of a path below a folder is that of the path, seen from the place of the folder. -/
theorem place_append (hbefore : StartsSegment before) (hafter : StopsAt isSeparator after) :
    place (before ++ after) = (place before).join (place after) := by
  have hrelative : (place after).isAbsolute = false := by
    have hroot := @rootOf_congr after [] hafter.takeWhile_eq
    rw [HostPath.isAbsolute, place, hroot]
    rfl
  have hroot : (before ++ after).takeWhile isSeparator = before.takeWhile isSeparator := by
    rw [List.takeWhile_append, hafter.takeWhile_eq, List.append_nil]
    split
    · rename_i hall
      exact (List.takeWhile_prefix _).eq_of_length hall |>.symm
    · rfl
  rw [HostPath.join_of_relative hrelative, place, rootOf_congr hroot, hbefore.hostNames_append]
  rfl

/-! ## Files in folders -/

/-- The name of a file: no separators, and not the name of the folder itself. -/
structure IsName (name : List Char) : Prop where
  separators : ∀ c ∈ name, isSeparator c = false
  ne_nil : name ≠ []
  ne_dot : name ≠ ['.']

theorem IsName.stopsAt (h : IsName name) : StopsAt isSeparator name := fun c hc =>
  h.separators c (List.mem_of_mem_head? hc)

theorem IsName.hostNames_eq (h : IsName name) : hostNames name = [String.ofList name] := by
  have hback : '\\' ∉ name := fun hmem => absurd (h.separators _ hmem) (by decide)
  have hslash : '/' ∉ name := fun hmem => absurd (h.separators _ hmem) (by decide)
  have hne : String.ofList name ≠ "" := fun heq => h.ne_nil (String.ofList_eq_empty_iff.1 heq)
  have hdot : String.ofList name ≠ "." := fun heq =>
    h.ne_dot (by rw [← String.toList_ofList (l := name), heq]; rfl)
  rw [hostNames, replaceList_of_not_mem _ hback, splitList_of_not_mem hslash]
  simp [hne, hdot]

theorem names_place_ne_nil (hbefore : StartsSegment before) (h : IsName name) :
    (place (before ++ name)).names ≠ [] := by
  rw [place, hbefore.hostNames_append, h.hostNames_eq]
  simp

theorem parent_place (hbefore : StartsSegment before) (h : IsName name) :
    (place (before ++ name)).parent = place before := by
  have hrelative : (place name).isAbsolute = false := by
    rw [HostPath.isAbsolute, place, @rootOf_congr name [] h.stopsAt.takeWhile_eq]
    rfl
  rw [place_append hbefore h.stopsAt, HostPath.join_of_relative hrelative, HostPath.parent]
  simp only [place, h.hostNames_eq, List.dropLast_concat]

/-- What a file lists is seen from the folder of the file: it comes after a start that is nothing
if the file is only a name, and the folder and a backslash if the file is in one. -/
inductive Seen : (path start name : List Char) → Prop where
  | alone {name : List Char} (relative : Relative name) (isName : IsName name) : Seen name [] name
  | inFolder {folder gap name : List Char} (ends : EndsInName folder) (ne_nil : gap ≠ [])
    (separators : ∀ c ∈ gap, isSeparator c = true) (isName : IsName name) :
    Seen (folder ++ gap ++ name) (folder ++ ['\\']) name

theorem Seen.isName (h : Seen path start name) : IsName name := by
  cases h <;> assumption

theorem Seen.startsSegment (h : Seen path start name) : StartsSegment start := by
  cases h with
  | alone => exact startsSegment_nil
  | inFolder => exact startsSegment_concat _ rfl

theorem startsSegment_separators (hne : gap ≠ []) (hgap : ∀ c ∈ gap, isSeparator c = true)
    (cs : List Char) : StartsSegment (cs ++ gap) := by
  intro c hc
  rw [List.getLast?_append_of_ne_nil _ hne] at hc
  exact hgap c (List.mem_of_getLast? hc)

theorem EndsInName.ne_nil (h : EndsInName folder) : folder ≠ [] := by
  rintro rfl
  exact absurd h.below (lt_irrefl _)

/-- It makes no difference to the place of a folder how many separators come after it. -/
theorem EndsInName.place_separators (h : EndsInName folder) (hne : gap ≠ [])
    (hgap : ∀ c ∈ gap, isSeparator c = true) :
    place (folder ++ gap) = place (folder ++ ['\\']) := by
  have hroot (cs : List Char) :
      (folder ++ cs).takeWhile isSeparator = folder.takeWhile isSeparator := by
    rw [List.takeWhile_append, if_neg]
    intro hall
    have hfolder := (List.takeWhile_prefix isSeparator).eq_of_length hall
    have hmem : folder.getLast h.ne_nil ∈ folder.takeWhile isSeparator := by
      rw [hfolder]
      exact List.getLast_mem h.ne_nil
    have hlast := List.mem_takeWhile_imp hmem
    rw [h.last _ (List.getLast?_eq_some_getLast h.ne_nil)] at hlast
    cases hlast
  obtain ⟨c, gap, rfl⟩ := List.exists_cons_of_ne_nil hne
  rw [List.forall_mem_cons] at hgap
  rw [place, place, rootOf_congr ((hroot (c :: gap)).trans (hroot ['\\']).symm),
    hostNames_append folder gap hgap.1, hostNames_append folder [] rfl,
    hostNames_of_separators hgap.2]
  rfl

/-- The last name of a path. -/
def lastName (cs : List Char) : List Char := (cs.reverse.takeWhile (!isSeparator ·)).reverse

/-- A relative path whose last name is that of a file is that of a file, alone or in a folder. -/
theorem exists_seen (h : Relative path) (hname : IsName (lastName path)) :
    ∃ start, Seen path start (lastName path) := by
  obtain ⟨before, hpath, hbefore⟩ := exists_run_at_end (!isSeparator ·) path
  obtain ⟨folder, hfolder, hlast⟩ := exists_run_at_end isSeparator before
  have hgap : ∀ c ∈ (before.reverse.takeWhile isSeparator).reverse, isSeparator c = true :=
    fun c hc => List.mem_takeWhile_imp (List.mem_reverse.1 hc)
  rw [← lastName] at hpath
  generalize (before.reverse.takeWhile isSeparator).reverse = gap at hfolder hgap
  generalize lastName path = name at hpath hname
  subst hfolder hpath
  by_cases hnil : gap = []
  · subst hnil
    rw [List.append_nil] at h hbefore ⊢
    have hfolder : folder = [] := by
      by_contra hne
      have hc := List.getLast?_eq_some_getLast hne
      simpa [hlast _ hc] using hbefore _ hc
    subst hfolder
    exact ⟨[], .alone h hname⟩
  · have hne : folder ≠ [] := by
      rintro rfl
      obtain ⟨c, gap, rfl⟩ := List.exists_cons_of_ne_nil hnil
      have hc := h.rootless c rfl
      rw [hgap c List.mem_cons_self] at hc
      cases hc
    have hdrive := (h.of_prefix (List.append_assoc folder gap name ▸
      List.prefix_append folder (gap ++ name))).driveless
    exact ⟨_, .inFolder ⟨hdrive ▸ List.length_pos_of_ne_nil hne, hlast⟩ hnil hgap hname⟩

/-- What a file lists is seen from the parent of its place. -/
theorem Seen.parent_place (h : Seen path start name) : (place path).parent = place start := by
  cases h with
  | alone _ hname => exact DescriptorPath.parent_place startsSegment_nil hname
  | @inFolder folder gap _ hfolder hne hgap hname =>
    rw [DescriptorPath.parent_place (startsSegment_separators hne hgap folder) hname,
      hfolder.place_separators hne hgap]

theorem Seen.names_ne_nil (h : Seen path start name) : (place path).names ≠ [] := by
  cases h with
  | alone _ hname => exact names_place_ne_nil startsSegment_nil hname
  | @inFolder folder gap _ _ hne hgap hname =>
    exact names_place_ne_nil (startsSegment_separators hne hgap folder) hname

end DescriptorPath

open DescriptorPath in
theorem Solution.fileAt_eq (base : HostPath) (path : String) :
    fileAt base path = base.join (place path.toList) := by
  rw [fileAt, parse_toHost]

end SolutionScript
