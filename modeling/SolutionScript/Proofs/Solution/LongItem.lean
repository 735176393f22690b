import SolutionScript.Proofs.FileSystem.Refusal
import SolutionScript.Proofs.Solution.Includes
import SolutionScript.Proofs.Solution.Place

/-!
# Names that are too long, in every folder

An item may ask for a fixed name in each folder of a folder (`parse_inEach`). If no folder can have
the name, the search fails in the folder that is listed first, and the failure names that folder
(`expand_inEach`).
-/

namespace SolutionScript.Include

open FileSystem DescriptorPath Fallible

/-- A name that stands in an item as it is. -/
structure IsFixed (name : String) : Prop where
  isName : IsName name.toList
  notWild : PathPattern.isWild name = false
  semicolon : ';' ∉ name.toList
  trimmed : Text.Trimmed name.toList

/-- An item that asks for a name in each folder. -/
def inEach (name : String) : String := "*\\" ++ name

variable {name : String}

theorem toList_inEach (name : String) : (inEach name).toList = ['*'] ++ '\\' :: name.toList :=
  String.toList_append

theorem IsFixed.stepOf_eq (h : IsFixed name) : PathPattern.stepOf name = .ok (.named name) := by
  have hstar : '*' ∉ name.toList := fun hmem => by
    have hwild := List.any_eq_false.1 h.notWild '*' hmem
    exact absurd rfl hwild
  have hne : name ≠ "**" := by
    rintro rfl
    exact absurd (by decide) hstar
  have hstars : PathPattern.hasTwoStars name = false := by
    rw [PathPattern.hasTwoStars, Text.splitAtWord_of_not_mem hstar]
    rfl
  simp [PathPattern.stepOf, hne, hstars, h.notWild]

/-- In each folder, the name is looked for. -/
theorem parse_inEach (h : IsFixed name) : PathPattern.parse (toHost (inEach name)) =
    .ok [.like (NamePattern.parse ['*']), .named name] := by
  have hplace : HostPath.parse (toHost (inEach name)) = ⟨.relative, ["*", name]⟩ := by
    rw [parse_toHost, toList_inEach, place, hostNames_append _ _ (by decide), h.isName.hostNames_eq,
      String.ofList_toList, @rootOf_congr _ [] (by rfl)]
    rfl
  have hlist : (toHost (inEach name)).toList = ['*', '/'] ++ name.toList := by
    have hback : '\\' ∉ name.toList := fun hmem =>
      absurd (h.isName.separators _ hmem) (by decide)
    rw [toHost, Text.replace, String.toList_ofList, toList_inEach, Text.replaceList_append]
    exact congrArg ('*' :: '/' :: ·) (Text.replaceList_of_not_mem _ hback)
  have hempty : ¬ (toHost (inEach name)).isEmpty = true := by
    rw [String.isEmpty_iff, ← String.toList_eq_nil_iff, hlist]
    exact List.cons_ne_nil _ _
  have hlast : (toHost (inEach name)).toList.getLast? ≠ some '/' := by
    rw [hlist, List.getLast?_append_of_ne_nil _ h.isName.ne_nil]
    intro hslash
    exact absurd (h.isName.separators _ (List.mem_of_getLast? hslash)) (by decide)
  have hsteps : ["*", name].mapM PathPattern.stepOf =
      .ok [.like (NamePattern.parse ['*']), .named name] := by
    rw [List.mapM_cons, List.mapM_cons, h.stepOf_eq]
    rfl
  rw [parse_eq, if_neg hempty, hplace, if_neg (by simp [HostPath.isAbsolute]), hsteps]
  exact congrArg Except.ok (if_neg hlast)

theorem partsOf_inEach (h : IsFixed name) : partsOf (inEach name) = [ofHost (inEach name)] := by
  have hsemicolon : ';' ∉ (inEach name).toList := by simp [toList_inEach, h.semicolon]
  have htrimmed : Text.Trimmed (inEach name).toList := by
    have hstar : Text.Trimmed ['*'] := Text.trimmed_singleton (by decide)
    rw [toList_inEach, List.append_cons]
    exact hstar.append_append h.trimmed (List.cons_ne_nil _ _) h.isName.ne_nil _
  have htrim : Text.trim (inEach name) = inEach name := by
    rw [Text.trim, Text.trimList_of_trimmed htrimmed, String.ofList_toList]
  have hne : inEach name ≠ "" := by
    rw [Ne, ← String.toList_eq_nil_iff, toList_inEach]
    exact List.cons_ne_nil _ _
  rw [partsOf_of_not_mem hsemicolon (by rwa [htrim]), htrim]

/-! ## A name that no folder can have -/

theorem isFixed_longName : IsFixed longName := by
  have hletter (c : Char) (hc : c ∈ longName.toList) : c = 'a' := by
    rw [toList_longName] at hc
    exact List.eq_of_mem_replicate hc
  refine ⟨⟨?_, ?_, ?_⟩, ?_, not_mem_longName (by decide), ⟨?_, ?_⟩⟩
  · intro c hc
    rw [hletter c hc]
    decide
  · exact fun hnil => longName_ne_empty (String.toList_eq_nil_iff.1 hnil)
  · intro hdot
    exact absurd (hletter '.' (by rw [hdot]; exact List.mem_cons_self)) (by decide)
  · rw [PathPattern.isWild, List.any_eq_false]
    intro c hc
    rw [hletter c hc]
    decide
  · intro c hc
    rw [hletter c (List.mem_of_mem_head? hc)]
    decide
  · intro c hc
    rw [hletter c (List.mem_reverse.1 (List.mem_of_mem_head? hc))]
    decide

/-- The folders in a folder, in the order in which the disk lists them. -/
def foldersIn (d : Disk) (l : Location) : List String :=
  (d.tree.names l).filter fun name =>
    d.tree.isFolder (l ++ [name]) && (NamePattern.parse ['*']).fits name.toList

variable {d : Disk} {folder : HostPath} {l : Location} {first : String} {rest : List String}

/-- The search for a name that no folder can have fails in the folder that is listed first. -/
theorem expand_inEach (hfolder : d.HasFolder folder) (hl : d.locate folder = .ok l)
    (hfolders : foldersIn d l = first :: rest) (hfirst : d.HasFolder (folder.child first)) :
    expand d folder (inEach longName) =
      .error (.disk (.system .nameTooLong ((folder.child first).child longName).render none)) := by
  have hnamed : d.select [.named longName] (folder.child first) =
      .error (.system .nameTooLong ((folder.child first).child longName).render none) := by
    rw [Disk.select, List.isEmpty_nil, if_pos rfl, Disk.isPresent,
      Disk.look_of_refuses (refuses_child_longName hfirst)]
    rfl
  have hlike : d.select [.like (NamePattern.parse ['*']), .named longName] folder =
      .error (.system .nameTooLong ((folder.child first).child longName).render none) := by
    rw [foldersIn] at hfolders
    rw [Disk.select, Disk.folderAt_eq_some.2 hl]
    simp only [List.isEmpty_cons, Bool.false_or, bind, Except.bind, hfolders]
    rw [List.mapM_cons, hnamed]
    rfl
  have hpart : expandPart d folder (ofHost (inEach longName)) =
      .error (.system .nameTooLong ((folder.child first).child longName).render none) := by
    have hwild : isWild (ofHost (inEach longName)) = true := by
      rw [isWild_ofHost, isWild, toList_inEach]
      rfl
    rw [expandPart, if_pos hwild, matching, toHost_ofHost, parse_inEach isFixed_longName]
    simp only [Disk.glob, Disk.isFolder_iff.2 hfolder, if_pos, hlike, bind, Except.bind]
  rw [expand, partsOf_inEach isFixed_longName, List.mapM_cons, hpart]
  rfl

end SolutionScript.Include
