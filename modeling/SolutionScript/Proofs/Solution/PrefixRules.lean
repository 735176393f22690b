import Mathlib.Data.String.Basic
import SolutionScript.Proofs.Text.Split
import SolutionScript.Solution.Mapping

/-!
# Rules for prefixes

What a table of rules makes of a path. The first rule that fits exchanges the start of the path and
keeps the rest, up to its slashes (`toList_exchange`); a rule that comes after one with a shorter
start is never used (`mapPath_insert`). So rules are tried in order, whatever the length of their
starts is (`mapPath_rules`).
-/

namespace SolutionScript

open Text

namespace PathMapping

variable {m r : PathMapping} {path : String} {cs : List Char}

theorem fits_iff : m.fits path = true ↔ m.source.toList <+: path.toList := by
  rw [fits, startsWith, List.isPrefixOf_iff_prefix]

/-- A rule fits where one with a longer start does. -/
theorem fits_of_prefix (h : m.source.toList <+: r.source.toList) (hr : r.fits path = true) :
    m.fits path = true :=
  fits_iff.2 (h.trans (fits_iff.1 hr))

theorem usesBackslash_iff :
    m.usesBackslash = true ↔ '\\' ∈ m.target.toList ∧ '/' ∉ m.target.toList := by
  simp [usesBackslash]

/-! ## What is not exchanged -/

/-- What a rule makes of characters that it does not exchange. -/
def turned (m : PathMapping) (cs : List Char) : List Char :=
  if m.usesBackslash then replaceList '/' '\\' cs else cs

theorem toList_exchange (m : PathMapping) (path : String) :
    (m.exchange path).toList = m.target.toList ++ m.turned (path.toList.drop m.source.length) := by
  simp only [exchange, turned, String.toList_append]
  split <;> simp [replace, dropChars]

theorem turned_append (m : PathMapping) (cs rest : List Char) :
    m.turned (cs ++ rest) = m.turned cs ++ m.turned rest := by
  simp only [turned]
  split
  · exact replaceList_append _ _ cs rest
  · rfl

/-- Only slashes are turned. -/
theorem turned_eq (h : '/' ∉ cs) : m.turned cs = cs := by
  rw [turned]
  split
  · exact replaceList_of_not_mem _ h
  · rfl

theorem turned_eq_nil : m.turned cs = [] ↔ cs = [] := by
  simp only [turned, replaceList]
  split
  · exact List.map_eq_nil_iff
  · rfl

theorem length_turned (m : PathMapping) (cs : List Char) : (m.turned cs).length = cs.length := by
  simp only [turned, replaceList]
  split
  · exact List.length_map _
  · rfl

/-- A character is turned if it is a slash and the rule uses backslashes. -/
theorem getElem?_turned (m : PathMapping) (cs : List Char) (i : ℕ) :
    (m.turned cs)[i]? =
      cs[i]?.map fun c => if c = '/' ∧ m.usesBackslash = true then '\\' else c := by
  simp only [turned, replaceList]
  split
  · rename_i huses
    simp [huses]
  · rename_i huses
    simp [huses]

/-- No slash is left where slashes are turned. -/
theorem slash_not_mem_turned (h : m.usesBackslash = true) : '/' ∉ m.turned cs := by
  rw [turned, if_pos h, replaceList, List.mem_map]
  rintro ⟨c, -, hc⟩
  split at hc
  · exact absurd hc (by decide)
  · exact absurd hc ‹_›

/-- A rule that fits keeps what comes after the start. -/
theorem exists_of_fits (h : m.fits path = true) :
    ∃ rest, path = m.source ++ rest ∧
      m.exchange path = m.target ++ String.ofList (m.turned rest.toList) := by
  obtain ⟨rest, hrest⟩ := fits_iff.1 h
  refine ⟨String.ofList rest, ?_, ?_⟩
  · rw [← String.toList_inj, String.toList_append, String.toList_ofList, hrest]
  · have hdrop : path.toList.drop m.source.length = rest := by
      rw [← hrest, ← String.length_toList, List.drop_left]
    rw [← String.toList_inj, toList_exchange, hdrop, String.toList_append, String.toList_ofList,
      String.toList_ofList]

end PathMapping

/-! ## Tables of rules -/

section

variable {xs after : List PathMapping} {m r : PathMapping} {path : String}

theorem mapPath_of_find? (h : xs.find? (·.fits path) = some m) :
    mapPath xs path = m.exchange path := by
  rw [mapPath, h]

theorem any_fits_iff :
    xs.any (·.fits path) = true ↔ ∃ m ∈ xs, m.source.toList <+: path.toList := by
  simp only [List.any_eq_true, PathMapping.fits_iff]

/-- A rule that does not fit makes no difference. -/
theorem mapPath_cons_of_not_fits (h : ¬ r.fits path = true) :
    mapPath (r :: after) path = mapPath after path := by
  simp only [mapPath, List.find?_cons, h]

/-- A rule makes no difference after one that fits wherever it does. -/
theorem mapPath_insert (h : ∃ m ∈ xs, m.source.toList <+: r.source.toList)
    (before after : List PathMapping) (path : String) :
    mapPath (xs ++ before ++ r :: after) path = mapPath (xs ++ before ++ after) path := by
  by_cases hr : r.fits path = true
  · obtain ⟨m, hm, hprefix⟩ := h
    have hany : xs.any (·.fits path) = true :=
      any_fits_iff.2 ⟨m, hm, PathMapping.fits_iff.1 (PathMapping.fits_of_prefix hprefix hr)⟩
    rw [List.append_assoc, List.append_assoc, mapPath_append, if_pos hany, mapPath_append,
      if_pos hany]
  · rw [mapPath_append (xs ++ before), mapPath_append (xs ++ before), mapPath_cons_of_not_fits hr]

/-- Where a rule fits, one is the first that does. -/
theorem exists_first_rule (h : ∃ m ∈ xs, m.source.toList <+: path.toList) :
    ∃ earlier m later, xs = earlier ++ m :: later ∧ m.fits path = true ∧
      (∀ x ∈ earlier, ¬ x.source.toList <+: path.toList) ∧ mapPath xs path = m.exchange path := by
  have hsome : (xs.find? (·.fits path)).isSome := by
    rw [List.find?_isSome, ← List.any_eq_true]
    exact any_fits_iff.2 h
  obtain ⟨m, hm⟩ := Option.isSome_iff_exists.1 hsome
  obtain ⟨hfits, earlier, later, hsplit, hearlier⟩ := List.find?_eq_some_iff_append.1 hm
  refine ⟨earlier, m, later, hsplit, hfits, fun x hx hprefix => ?_, mapPath_of_find? hm⟩
  simpa [PathMapping.fits_iff.2 hprefix] using hearlier x hx

end

/-- Rules are tried in order. Those of a first table come before those of a second one; a rule whose
start begins with that of an earlier rule makes no difference; and the first rule that fits
exchanges its start and keeps the rest, where slashes become backslashes if the new start has
backslashes only. -/
theorem mapPath_rules (xs ys : List PathMapping) (r : PathMapping) (path : String) :
    (mapPath (xs ++ ys) path =
      if ∃ m ∈ xs, m.source.toList <+: path.toList then mapPath xs path else mapPath ys path) ∧
    ((∃ m ∈ xs, m.source.toList <+: r.source.toList) → ∀ before after, ys = before ++ after →
      mapPath (xs ++ before ++ r :: after) path = mapPath (xs ++ ys) path) ∧
    ((∃ m ∈ xs, m.source.toList <+: path.toList) →
      ∃ earlier m later rest mapped, xs = earlier ++ m :: later ∧
        (∀ x ∈ earlier, ¬ x.source.toList <+: path.toList) ∧ path = m.source ++ rest ∧
        mapPath xs path = m.target ++ mapped ∧ mapped.length = rest.length ∧
        (∀ i : ℕ, mapped.toList[i]? = rest.toList[i]?.map fun c =>
          if c = '/' ∧ '\\' ∈ m.target.toList ∧ '/' ∉ m.target.toList then '\\' else c) ∧
        ('\\' ∈ m.target.toList ∧ '/' ∉ m.target.toList → '/' ∉ (mapPath xs path).toList)) := by
  refine ⟨?_, fun h before after hys => ?_, fun h => ?_⟩
  · rw [mapPath_append]
    simp only [any_fits_iff]
  · rw [mapPath_insert h, hys, List.append_assoc]
  · obtain ⟨earlier, m, later, hsplit, hfits, hearlier, hmapped⟩ := exists_first_rule h
    obtain ⟨rest, hpath, hexchange⟩ := PathMapping.exists_of_fits hfits
    rw [hexchange] at hmapped
    refine ⟨earlier, m, later, rest, _, hsplit, hearlier, hpath, hmapped, ?_, fun i => ?_, ?_⟩
    · rw [← String.length_toList, String.toList_ofList, PathMapping.length_turned,
        String.length_toList]
    · rw [String.toList_ofList, PathMapping.getElem?_turned]
      simp only [PathMapping.usesBackslash_iff]
    · intro htarget hslash
      rw [hmapped, String.toList_append, String.toList_ofList, List.mem_append] at hslash
      exact hslash.elim htarget.2
        (PathMapping.slash_not_mem_turned (PathMapping.usesBackslash_iff.2 htarget))

/-- A rule for one application after one for the whole host, and a rule for every path at the
end. -/
theorem mapPath_rules_host :
    (∃ m ∈ [PathMapping.mk "http://localhost/" "C:\\wwwroot\\"],
      m.source.toList <+: "http://localhost/App/".toList) ∧
    mapPath [⟨"http://localhost/", "C:\\wwwroot\\"⟩, ⟨"http://localhost/App/", "/srv/"⟩, ⟨"", "/"⟩]
      "http://localhost/App/App.csproj" = "C:\\wwwroot\\App\\App.csproj" ∧
    '/' ∉ (mapPath [⟨"http://localhost/", "C:\\wwwroot\\"⟩]
      "http://localhost/App/App.csproj").toList := by
  obtain ⟨happend, hinsert, hfirst⟩ := mapPath_rules [⟨"http://localhost/", "C:\\wwwroot\\"⟩]
    [⟨"", "/"⟩] ⟨"http://localhost/App/", "/srv/"⟩ "http://localhost/App/App.csproj"
  have hshadowed : ∃ m ∈ [PathMapping.mk "http://localhost/" "C:\\wwwroot\\"],
    m.source.toList <+: "http://localhost/App/".toList := by decide
  have hfits : ∃ m ∈ [PathMapping.mk "http://localhost/" "C:\\wwwroot\\"],
    m.source.toList <+: "http://localhost/App/App.csproj".toList := by decide
  refine ⟨hshadowed, ?_, ?_⟩
  · have htable := hinsert hshadowed [] [⟨"", "/"⟩] rfl
    rw [happend, if_pos hfits] at htable
    exact htable.trans (by decide)
  · obtain ⟨earlier, m, later, rest, mapped, hsplit, -, -, -, -, -, hnone⟩ := hfirst hfits
    refine hnone ?_
    have hm : m ∈ [PathMapping.mk "http://localhost/" "C:\\wwwroot\\"] := by
      rw [hsplit]
      simp
    rw [List.mem_singleton.1 hm]
    decide

end SolutionScript
