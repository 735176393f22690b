import SolutionScript.Proofs.FileSystem.Matching
import SolutionScript.Proofs.Text.Split
import SolutionScript.Solution.Include

/-!
# What items include

What an item includes is what the paths between its semicolons stand for (`StandsFor`), one after
the other (`expand_append`). A path without wildcards stands for itself (`expand_plain`); one with
wildcards stands for the files that fit it, all of them and each of them once, in ascending order
(`lists_of_matching`).
-/

namespace SolutionScript.Include

open FileSystem Fallible

variable {d : Disk} {folder : HostPath} {part : String}

/-! ## Paths between semicolons -/

theorem partsOf_append (a b : String) : partsOf (a ++ ";" ++ b) = partsOf a ++ partsOf b := by
  rw [partsOf, partsOf, partsOf, Text.splitAt_append (by decide), List.map_append,
    List.filter_append]

/-- What two lists of paths include is what the one includes, and then the other. -/
theorem expand_append (d : Disk) (folder : HostPath) (a b : String) :
    expand d folder (a ++ ";" ++ b) = (do
      let found ← expand d folder a
      let more ← expand d folder b
      pure (found ++ more)) := by
  rw [expand, expand, expand, partsOf_append, List.mapM_append]
  cases (partsOf a).mapM (expandPart d folder) with
  | error fault => rfl
  | ok found =>
    cases (partsOf b).mapM (expandPart d folder) with
    | error fault => rfl
    | ok more => exact congrArg Except.ok List.flatten_append

theorem ofHost_eq_empty {s : String} : DescriptorPath.ofHost s = "" ↔ s = "" := by
  rw [DescriptorPath.ofHost, Text.replace, String.ofList_eq_empty_iff, Text.replaceList,
    List.map_eq_nil_iff, String.toList_eq_nil_iff]

theorem partsOf_of_not_mem (h : ';' ∉ part.toList) (hne : Text.trim part ≠ "") :
    partsOf part = [DescriptorPath.ofHost (Text.trim part)] := by
  have hkept : DescriptorPath.ofHost (Text.trim part) ≠ "" := fun heq =>
    hne (ofHost_eq_empty.1 heq)
  simp [partsOf, Text.splitAt_of_not_mem h, hkept]

/-! ## Wildcards -/

theorem isWild_replace {old new : Char} (hold : isWild (String.ofList [old]) = false)
    (hnew : isWild (String.ofList [new]) = false) (s : String) :
    isWild (Text.replace old new s) = isWild s := by
  have hchar (c : Char) :
      ((fun c => c == '*' || c == '?') ∘ fun c => if c = old then new else c) c =
        (c == '*' || c == '?') := by
    by_cases hc : c = old
    · subst hc
      simpa [isWild] using hnew.trans hold.symm
    · simp [hc]
  rw [isWild, isWild, Text.replace, String.toList_ofList, Text.replaceList, List.any_map]
  exact congrArg (s.toList.any ·) (funext hchar)

theorem isWild_ofHost (s : String) : isWild (DescriptorPath.ofHost s) = isWild s :=
  isWild_replace (by decide) (by decide) s

theorem isWild_toHost (s : String) : isWild (DescriptorPath.toHost s) = isWild s :=
  isWild_replace (by decide) (by decide) s

theorem toHost_ofHost (s : String) :
    DescriptorPath.toHost (DescriptorPath.ofHost s) = DescriptorPath.toHost s := by
  simp only [DescriptorPath.toHost, DescriptorPath.ofHost, Text.replace, String.toList_ofList,
    Text.replaceList_back]

theorem mem_joinList {sep : List Char} {parts : List (List Char)} {c : Char}
    (h : c ∈ Text.joinList sep parts) : c ∈ sep ∨ ∃ part ∈ parts, c ∈ part := by
  induction parts with
  | nil => cases h
  | cons part parts ih =>
    cases parts with
    | nil => exact .inr ⟨part, by simp, h⟩
    | cons next parts =>
      rw [Text.joinList, List.append_assoc, List.mem_append, List.mem_append] at h
      rcases h with h | h | h
      · exact .inr ⟨part, by simp, h⟩
      · exact .inl h
      · rcases ih h with h | ⟨part, hpart, hc⟩
        · exact .inl h
        · exact .inr ⟨part, List.mem_cons_of_mem _ hpart, hc⟩

/-- A path with wildcards has a name. -/
theorem names_parse_ne_nil {s : String} (h : isWild s = true) : (HostPath.parse s).names ≠ [] := by
  obtain ⟨c, hc, hwild⟩ := List.any_eq_true.1 h
  rw [← Text.joinList_splitList '/' s.toList] at hc
  have hslash : c ∉ ['/'] := fun hmem => by
    rw [List.mem_singleton.1 hmem] at hwild
    exact absurd hwild (by decide)
  obtain ⟨name, hname, hc⟩ := (mem_joinList hc).resolve_left hslash
  refine List.ne_nil_of_mem (List.mem_filter.2 ⟨List.mem_map.2 ⟨name, hname, rfl⟩, ?_⟩)
  have hempty : String.ofList name ≠ "" := fun heq => by
    rw [String.ofList_eq_empty_iff.1 heq] at hc
    cases hc
  have hdot : String.ofList name ≠ "." := fun heq => by
    rw [← String.toList_ofList (l := name), heq] at hc
    rw [List.mem_singleton.1 hc] at hwild
    exact absurd hwild (by decide)
  simp [hempty, hdot]

/-- Reading a pattern, with the checks that come first. -/
theorem parse_eq (s : String) : PathPattern.parse s =
    if s.isEmpty then .error .empty
    else if (HostPath.parse s).isAbsolute then .error .absolute
    else (HostPath.parse s).names.mapM PathPattern.stepOf >>= fun steps =>
      .ok (if s.toList.getLast? = some '/' then steps ++ [.here] else steps) := by
  unfold PathPattern.parse
  by_cases hempty : s.isEmpty = true
  · rw [if_pos hempty, if_pos hempty]
    rfl
  · rw [if_neg hempty, if_neg hempty]
    by_cases habsolute : (HostPath.parse s).isAbsolute = true
    · rw [if_pos habsolute]
      exact (if_pos habsolute).symm
    · rw [if_neg habsolute]
      exact (if_neg habsolute).symm

/-- A pattern with wildcards has a step. -/
theorem pattern_ne_nil {s : String} {pattern : PathPattern} (h : isWild s = true)
    (hparse : PathPattern.parse s = .ok pattern) : pattern ≠ [] := by
  rw [parse_eq, ite_error_eq_ok, ite_error_eq_ok] at hparse
  obtain ⟨steps, hsteps, hparse⟩ := bind_eq_ok.1 hparse.2.2
  have hne : steps ≠ [] := fun hnil => by
    rw [hnil, mapM_eq_ok, List.forall₂_nil_right_iff] at hsteps
    exact names_parse_ne_nil h hsteps
  cases hparse
  split
  · exact List.append_ne_nil_of_left_ne_nil hne _
  · exact hne

/-- Some names stand for the files below a folder that fit a pattern: for all of them, each of them
once, in ascending order. -/
structure Lists (d : Disk) (folder : HostPath) (pattern : PathPattern)
    (paths : List (List String)) : Prop where
  ascending : paths.Pairwise (· < ·)
  mem_iff : ∀ names, names ∈ paths ↔ pattern.FitsFile names ∧
    d.isFile { folder with names := folder.names ++ names } = .ok true

/-- A path with wildcards stands for the files that fit it. -/
theorem lists_of_matching (hd : d.tree.WellFormed) (hwild : isWild part = true)
    {found : List String} (h : matching d folder part = .ok found) :
    ∃ pattern paths, PathPattern.parse (DescriptorPath.toHost part) = .ok pattern ∧
      Lists d folder pattern paths ∧ found = paths.map descriptorPath := by
  unfold matching at h
  split at h
  · cases h
  · rename_i pattern hpattern
    obtain ⟨places, hplaces, h⟩ := bind_eq_ok.1 h
    obtain ⟨files, hfiles, h⟩ := bind_eq_ok.1 h
    cases h
    obtain ⟨hsub, hmem⟩ := filterM_eq_ok hfiles
    have hne : pattern ≠ [] := pattern_ne_nil (by rwa [isWild_toHost]) hpattern
    have hbelow : ∀ p ∈ places, Below folder p := fun p => Disk.below_of_mem_glob hplaces
    have hbelow' : ∀ p ∈ files, Below folder p := fun p hp =>
      hbelow p (mem_sorted.1 ((hmem p).1 hp).1)
    refine ⟨pattern, files.map (below folder), hpattern, ⟨?_, fun names => ?_⟩, ?_⟩
    · rw [List.pairwise_map]
      exact (pairwise_sorted_below hbelow (Disk.nodup_glob hd hplaces)).sublist hsub
    · rw [mem_map_below hbelow', hmem, mem_sorted]
      exact and_congr_left (Disk.mem_glob_iff hd hne hplaces)
    · rw [List.map_map]
      rfl

/-! ## What each path stands for -/

/-- What a path between semicolons stands for: nothing if it is blank, itself in descriptor form if
it has no wildcards, and else the files that fit it. -/
inductive StandsFor (d : Disk) (folder : HostPath) (part : String) : List String → Prop where
  | blank (h : Text.trim part = "") : StandsFor d folder part []
  | plain (ne : Text.trim part ≠ "") (h : isWild (Text.trim part) = false) :
    StandsFor d folder part [DescriptorPath.ofHost (Text.trim part)]
  | wild {pattern : PathPattern} {paths : List (List String)} (h : isWild (Text.trim part) = true)
    (parsed : PathPattern.parse (DescriptorPath.toHost (Text.trim part)) = .ok pattern)
    (lists : Lists d folder pattern paths) : StandsFor d folder part (paths.map descriptorPath)

theorem standsFor_of_expandPart (hd : d.tree.WellFormed) (hne : Text.trim part ≠ "")
    {found : List String}
    (h : expandPart d folder (DescriptorPath.ofHost (Text.trim part)) = .ok found) :
    StandsFor d folder part found := by
  rw [expandPart, isWild_ofHost] at h
  by_cases hwild : isWild (Text.trim part) = true
  · rw [if_pos hwild] at h
    obtain ⟨pattern, paths, hparse, hlists, rfl⟩ :=
      lists_of_matching hd (by rwa [isWild_ofHost]) h
    rw [toHost_ofHost] at hparse
    exact .wild hwild hparse hlists
  · rw [if_neg hwild] at h
    cases h
    exact .plain hne (Bool.eq_false_of_not_eq_true hwild)

/-- The induction is on the paths between semicolons, of which the blank ones are left out. -/
theorem standsFor_of_mapM (hd : d.tree.WellFormed) {parts : List String}
    {found : List (List String)}
    (h : ((parts.map fun part => DescriptorPath.ofHost (Text.trim part)).filter (· != "")).mapM
      (expandPart d folder) = .ok found) :
    ∃ groups, List.Forall₂ (StandsFor d folder) parts groups ∧ found.flatten = groups.flatten := by
  induction parts generalizing found with
  | nil =>
    cases h
    exact ⟨[], .nil, rfl⟩
  | cons part parts ih =>
    rw [List.map_cons, List.filter_cons] at h
    by_cases hblank : Text.trim part = ""
    · rw [if_neg (by simp [ofHost_eq_empty, hblank])] at h
      obtain ⟨groups, hgroups, hfound⟩ := ih h
      exact ⟨[] :: groups, .cons (.blank hblank) hgroups, hfound⟩
    · rw [if_pos (by simp [ofHost_eq_empty, hblank]), List.mapM_cons] at h
      obtain ⟨group, hgroup, h⟩ := bind_eq_ok.1 h
      obtain ⟨more, hmore, h⟩ := bind_eq_ok.1 h
      cases h
      obtain ⟨groups, hgroups, hflat⟩ := ih hmore
      exact ⟨group :: groups, .cons (standsFor_of_expandPart hd hblank hgroup) hgroups, by
        rw [List.flatten_cons, List.flatten_cons, hflat]⟩

/-- A path without wildcards stands for itself, whether there is such a file or not. -/
theorem expand_plain (d : Disk) (folder : HostPath) (h : ';' ∉ part.toList)
    (hne : Text.trim part ≠ "") (hplain : isWild (Text.trim part) = false) :
    expand d folder part = .ok [DescriptorPath.ofHost (Text.trim part)] := by
  have hpart : expandPart d folder (DescriptorPath.ofHost (Text.trim part)) =
      .ok [DescriptorPath.ofHost (Text.trim part)] := by
    rw [expandPart, isWild_ofHost, hplain]
    rfl
  rw [expand, partsOf_of_not_mem h hne, List.mapM_cons, hpart]
  rfl

/-- What an item includes is what its paths stand for, one after the other: two lists of paths
include what the one includes and then the other, and a path without wildcards never fails. -/
theorem expand_account (hd : d.tree.WellFormed) (folder : HostPath) :
    (∀ a b, expand d folder (a ++ ";" ++ b) = (do
      let found ← expand d folder a
      let more ← expand d folder b
      pure (found ++ more))) ∧
    (∀ part, ';' ∉ part.toList → Text.trim part ≠ "" → isWild (Text.trim part) = false →
      expand d folder part = .ok [DescriptorPath.ofHost (Text.trim part)]) ∧
    ∀ item found, expand d folder item = .ok found →
      ∃ groups, List.Forall₂ (StandsFor d folder) (Text.splitAt ';' item) groups ∧
        found = groups.flatten := by
  refine ⟨expand_append d folder, fun part => expand_plain d folder, fun item found h => ?_⟩
  unfold expand at h
  split at h
  · rename_i found' hfound
    cases h
    exact standsFor_of_mapM hd hfound
  · cases h

/-- A source file beside a folder with a folder in it that has the name of a source file. -/
def sourceDisk : Disk where
  tree := ⟨[(["src"], .folder), (["src", "Old.cs"], .folder), (["A.cs"], .file [])]⟩
  home := []

theorem expand_account_sourceDisk : sourceDisk.tree.WellFormed ∧
    expand sourceDisk ⟨.relative, []⟩ " src/*.cs;gone/C.cs;;*.cs" =
      .ok ["gone\\C.cs", "A.cs"] ∧
    ∃ groups, List.Forall₂ (StandsFor sourceDisk ⟨.relative, []⟩)
      [" src/*.cs", "gone/C.cs", "", "*.cs"] groups ∧
      ["gone\\C.cs", "A.cs"] = groups.flatten := by
  have hfound : expand sourceDisk ⟨.relative, []⟩ " src/*.cs;gone/C.cs;;*.cs" =
      .ok ["gone\\C.cs", "A.cs"] := by decide +kernel
  have hd : sourceDisk.tree.WellFormed := by decide
  exact ⟨hd, hfound, (expand_account hd ⟨.relative, []⟩).2.2 _ _ hfound⟩

end SolutionScript.Include
