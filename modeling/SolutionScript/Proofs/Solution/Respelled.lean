import Mathlib.Logic.Relation
import SolutionScript.Proofs.Solution.DescriptorPath
import SolutionScript.Proofs.Text.Recase
import SolutionScript.Solution.Load

/-!
# Other spellings of a path

A relative path can be spelled in other ways (`Respells`): with other separators, with its ASCII
letters in other case, or with segments that lead nowhere. A relative path is normal once its
names are gone through one by one (`normal_of_relative`), so segments that lead nowhere leave its
normal form alone; the case of its letters shows there, but not in the form that paths are
compared in (`comparable_of_respelled`). Both hold as well for the path that is seen from
a folder (`comparable_joined`).
-/

namespace SolutionScript

namespace DescriptorPath

open Text

variable {cs cs' before : List Char}

/-! ## Spellings -/

/-- Where a segment of a path starts: at the start of the path, or after a separator. -/
def StartsSegment (before : List Char) : Prop := ∀ c ∈ before.getLast?, isSeparator c = true

theorem startsSegment_nil : StartsSegment [] := fun _ h => by cases h

theorem startsSegment_concat (before : List Char) {c : Char} (h : isSeparator c = true) :
    StartsSegment (before ++ [c]) := by
  intro last hlast
  rw [List.getLast?_concat] at hlast
  exact Option.some.inj hlast ▸ h

/-- The name of a folder: no separators or colons, and not one of the names made of dots. -/
structure IsOrdinary (name : List Char) : Prop where
  ne_nil : name ≠ []
  ne_dot : name ≠ ['.']
  ne_dots : name ≠ ['.', '.']
  chars : ∀ c ∈ name, isSeparator c = false ∧ c ≠ ':'

/-- One change to the spelling of a path. -/
inductive Respells : List Char → List Char → Prop
  | separator (before after : List Char) {c c' : Char} (hc : isSeparator c = true)
      (hc' : isSeparator c' = true) : Respells (before ++ c :: after) (before ++ c' :: after)
  | letter (before after : List Char) {c c' : Char} (h : c.toLower = c'.toLower) :
      Respells (before ++ c :: after) (before ++ c' :: after)
  | dot {before : List Char} (after : List Char) (hbefore : StartsSegment before) {c : Char}
      (hc : isSeparator c = true) : Respells (before ++ after) (before ++ '.' :: c :: after)
  | pair {before name : List Char} (after : List Char) (hbefore : StartsSegment before)
      (hname : IsOrdinary name) {c c' : Char} (hc : isSeparator c = true)
      (hc' : isSeparator c' = true) :
      Respells (before ++ after) (before ++ (name ++ c :: '.' :: '.' :: c' :: after))

/-- Changes to the spelling of a path, one after the other. -/
def Respelled : List Char → List Char → Prop := Relation.ReflTransGen Respells

theorem StartsSegment.append {first : List Char} (hfirst : StartsSegment first)
    (h : StartsSegment before) : StartsSegment (first ++ before) := by
  intro c hc
  rw [List.getLast?_append] at hc
  cases hlast : before.getLast? with
  | none =>
    rw [hlast] at hc
    exact hfirst c hc
  | some last =>
    rw [hlast] at hc
    exact h c (hlast ▸ hc)

/-- Below a folder, a path is respelled as it is on its own. -/
theorem Respells.append_left {first : List Char} (hfirst : StartsSegment first)
    (h : Respells cs cs') : Respells (first ++ cs) (first ++ cs') := by
  cases h with
  | separator before after hc hc' =>
    simpa only [List.append_assoc] using Respells.separator (first ++ before) after hc hc'
  | letter before after h =>
    simpa only [List.append_assoc] using Respells.letter (first ++ before) after h
  | dot after hbefore hc =>
    simpa only [List.append_assoc] using Respells.dot after (hfirst.append hbefore) hc
  | pair after hbefore hname hc hc' =>
    simpa only [List.append_assoc] using Respells.pair after (hfirst.append hbefore) hname hc hc'

theorem Respelled.ne_nil (h : Respelled cs cs') (hcs : cs ≠ []) : cs' ≠ [] := by
  rcases Relation.ReflTransGen.cases_tail h with rfl | ⟨_, -, hstep⟩
  · exact hcs
  · cases hstep <;> simp

/-! ## Relative paths -/

theorem relative_iff : Relative cs ↔ StopsAt isSeparator cs ∧ cs[1]? ≠ some ':' := by
  match cs with
  | [] => exact iff_of_true ⟨rfl, by simp [StopsAt]⟩ ⟨by simp [StopsAt], by simp⟩
  | [a] => exact ⟨fun h => ⟨h.rootless, by simp⟩, fun h => ⟨rfl, h.1⟩⟩
  | a :: b :: more =>
    constructor
    · intro h
      have ha := stopsAt_cons.1 h.rootless
      have hdrive := h.driveless
      refine ⟨h.rootless, fun hcolon => ?_⟩
      obtain rfl : b = ':' := by simpa using hcolon
      simp [driveLength, ha] at hdrive
    · rintro ⟨hstart, hcolon⟩
      have ha := stopsAt_cons.1 hstart
      have hb : b ≠ ':' := fun h => hcolon (by simp [h])
      exact ⟨by simp [driveLength, ha, hb], hstart⟩

theorem ne_colon {c : Char} (h : isSeparator c = true) : c ≠ ':' := by
  rintro rfl
  exact absurd h (by decide)

theorem isSeparator_toLower (c : Char) : isSeparator c.toLower = isSeparator c := by
  simp only [isSeparator, Bool.beq_eq_decide_eq, toLower_eq_iff (m := '\\') (by decide),
    toLower_eq_iff (m := '/') (by decide)]

theorem relative_cons_cons {a b : Char} :
    Relative (a :: b :: cs) ↔ isSeparator a = false ∧ b ≠ ':' := by
  simp [relative_iff]

theorem relative_singleton {a : Char} : Relative [a] ↔ isSeparator a = false := by
  simp [relative_iff]

/-- Another character in a path makes no difference to whether it is relative, if it is as much a
separator or a colon. -/
theorem relative_exchange (before after : List Char) {c c' : Char}
    (hseparator : isSeparator c' = isSeparator c) (hcolon : c' = ':' ↔ c = ':') :
    Relative (before ++ c' :: after) ↔ Relative (before ++ c :: after) := by
  match before, after with
  | [], [] => simp [relative_singleton, hseparator]
  | [], b :: after => simp [relative_cons_cons, hseparator]
  | [a], after => simp [relative_cons_cons, hcolon]
  | a :: b :: before, after => simp [relative_cons_cons]

/-- Where a segment starts in a relative path, it is the first one or comes after two characters. -/
theorem StartsSegment.nil_or_cons_cons {after : List Char} (h : StartsSegment before)
    (hrelative : Relative (before ++ after)) :
    before = [] ∨ ∃ a b more, before = a :: b :: more := by
  match before with
  | [] => exact .inl rfl
  | [a] =>
    have ha := stopsAt_cons.1 hrelative.rootless
    rw [h a rfl] at ha
    cases ha
  | a :: b :: more => exact .inr ⟨a, b, more, rfl⟩

theorem Respells.relative (h : Respells cs cs') (hcs : Relative cs) : Relative cs' := by
  cases h with
  | separator before after hc hc' =>
    exact (relative_exchange before after (hc'.trans hc.symm)
      (iff_of_false (ne_colon hc') (ne_colon hc))).2 hcs
  | letter before after h =>
    rename_i c c'
    refine (relative_exchange before after ?_ ?_).2 hcs
    · rw [← isSeparator_toLower, ← h, isSeparator_toLower]
    · rw [← toLower_eq_iff (m := ':') (by decide), ← h, toLower_eq_iff (by decide)]
  | dot after hbefore hc =>
    rcases hbefore.nil_or_cons_cons hcs with rfl | ⟨a, b, more, rfl⟩
    · exact relative_cons_cons.2 ⟨by decide, ne_colon hc⟩
    · exact relative_cons_cons.2 (relative_cons_cons.1 hcs)
  | @pair before name after hbefore hname c c' hc hc' =>
    rcases hbefore.nil_or_cons_cons hcs with rfl | ⟨a, b, more, rfl⟩
    · match name, hname.ne_nil, hname.chars with
      | [x], _, hchars => exact relative_cons_cons.2 ⟨(hchars x (by simp)).1, ne_colon hc⟩
      | x :: y :: name, _, hchars =>
        exact relative_cons_cons.2 ⟨(hchars x (by simp)).1, (hchars y (by simp)).2⟩
    · exact relative_cons_cons.2 (relative_cons_cons.1 hcs)

/-! ## Normal forms -/

/-- The names that are left of a relative path, last first. -/
def names (cs : List Char) : List (List Char) :=
  (splitList '\\' (replaceList '/' '\\' cs)).foldl (pushName false) []

theorem replaceList_separator {c : Char} (h : isSeparator c = true) (after : List Char) :
    replaceList '/' '\\' (c :: after) = '\\' :: replaceList '/' '\\' after := by
  rw [isSeparator, Bool.or_eq_true, beq_iff_eq, beq_iff_eq] at h
  rcases h with rfl | rfl <;> rfl

/-- The names are gone through one by one. -/
theorem names_append {c : Char} (before after : List Char) (h : isSeparator c = true) :
    names (before ++ c :: after) =
      (splitList '\\' (replaceList '/' '\\' after)).foldl (pushName false) (names before) := by
  rw [names, names, replaceList_append, replaceList_separator h, splitList_append,
    List.foldl_append]

theorem names_of_startsSegment (h : StartsSegment before) (after : List Char) :
    names (before ++ after) =
      (splitList '\\' (replaceList '/' '\\' after)).foldl (pushName false) (names before) := by
  rcases List.eq_nil_or_concat' before with rfl | ⟨before, c, rfl⟩
  · rfl
  · have hc : isSeparator c = true := h c (by simp)
    rw [List.append_assoc, List.singleton_append, names_append before after hc,
      names_append before [] hc]
    rfl

theorem names_dot (h : StartsSegment before) {c : Char} (hc : isSeparator c = true)
    (after : List Char) : names (before ++ '.' :: c :: after) = names (before ++ after) := by
  have hdot : names (before ++ ['.']) = names before := names_of_startsSegment h ['.']
  rw [names_of_startsSegment h after, ← hdot, ← names_append _ after hc, List.append_assoc]
  rfl

theorem names_ordinary (h : StartsSegment before) {name : List Char} (hname : IsOrdinary name) :
    names (before ++ name) = name :: names before := by
  have hslash : '/' ∉ name := fun hmem => absurd (hname.chars _ hmem).1 (by decide)
  have hback : '\\' ∉ name := fun hmem => absurd (hname.chars _ hmem).1 (by decide)
  rw [names_of_startsSegment h, replaceList_of_not_mem _ hslash, splitList_of_not_mem hback]
  simp [pushName, hname.ne_nil, hname.ne_dot, hname.ne_dots]

/-- A name and the dots after it lead back. -/
theorem names_pair (h : StartsSegment before) {name : List Char} (hname : IsOrdinary name)
    {c c' : Char} (hc : isSeparator c = true) (hc' : isSeparator c' = true) (after : List Char) :
    names (before ++ (name ++ c :: '.' :: '.' :: c' :: after)) = names (before ++ after) := by
  have hpair : names (before ++ name ++ c :: ['.', '.']) = names before := by
    have hdots : splitList '\\' (replaceList '/' '\\' ['.', '.']) = [['.', '.']] := by decide
    rw [names_append _ _ hc, hdots, names_ordinary h hname]
    simp [pushName, hname.ne_dots]
  rw [names_of_startsSegment h after, ← hpair, ← names_append _ after hc']
  simp

theorem relative_replaceList (h : Relative cs) : Relative (replaceList '/' '\\' cs) := by
  have hseparator (c : Char) : isSeparator (if c = '/' then '\\' else c) = isSeparator c := by
    split
    · rename_i hc
      rw [hc]
      rfl
    · rfl
  match cs with
  | [] => exact h
  | [a] => exact relative_singleton.2 ((hseparator a).trans (relative_singleton.1 h))
  | a :: b :: more =>
    have h := relative_cons_cons.1 h
    refine relative_cons_cons.2 ⟨(hseparator a).trans h.1, ?_⟩
    dsimp only
    split
    · decide
    · exact h.2

/-- The normal form of a relative path is made of the names that are left of it. -/
theorem normal_of_relative (h : Relative cs) : normal (String.ofList cs) =
    String.ofList (if (names cs).isEmpty then ['.'] else joinList ['\\'] (names cs).reverse) := by
  have hrelative := relative_replaceList h
  have hstart : StopsAt (· == '\\') (replaceList '/' '\\' cs) := fun c hc => by
    have hc := hrelative.rootless c hc
    rw [isSeparator, Bool.or_eq_false_iff] at hc
    exact hc.1
  have hhead : (replaceList '/' '\\' cs).head? ≠ some '\\' := fun hhead => by
    have hback := hstart _ hhead
    cases hback
  rw [normal, String.toList_ofList, splitDrive_relative hrelative]
  simp only [hhead, if_false, hstart.dropWhile_eq]
  rfl

/-! ## The case of letters -/

theorem map_toLower_eq_iff {marks : List Char}
    (h : ∀ m ∈ marks, m ∈ ['\\', '/', ':', '.', 'Σ']) {cs : List Char} :
    cs.map Char.toLower = marks ↔ cs = marks := by
  induction marks generalizing cs with
  | nil => exact List.map_eq_nil_iff
  | cons m marks ih =>
    rw [List.forall_mem_cons] at h
    cases cs with
    | nil => simp
    | cons c cs =>
      rw [List.map_cons, List.cons.injEq, List.cons.injEq, toLower_eq_iff h.1, ih h.2]

theorem pushName_toLower (rooted : Bool) (done : List (List Char)) (name : List Char) :
    pushName rooted (done.map (List.map Char.toLower)) (name.map Char.toLower) =
      (pushName rooted done name).map (List.map Char.toLower) := by
  have hdot (name : List Char) : name.map Char.toLower = ['.'] ↔ name = ['.'] :=
    map_toLower_eq_iff (by decide)
  have hdots (name : List Char) : name.map Char.toLower = ['.', '.'] ↔ name = ['.', '.'] :=
    map_toLower_eq_iff (by decide)
  cases done with
  | nil =>
    simp only [pushName, List.map_nil, List.map_eq_nil_iff, hdot, hdots]
    split
    · rfl
    · split
      · cases rooted <;> rfl
      · rfl
  | cons last rest =>
    simp only [pushName, List.map_cons, List.map_eq_nil_iff, hdot, hdots]
    split
    · rfl
    · split
      · split <;> rfl
      · rfl

theorem foldl_pushName_toLower (rooted : Bool) (done names : List (List Char)) :
    (names.map (List.map Char.toLower)).foldl (pushName rooted)
        (done.map (List.map Char.toLower)) =
      (names.foldl (pushName rooted) done).map (List.map Char.toLower) := by
  induction names generalizing done with
  | nil => rfl
  | cons name names ih => rw [List.map_cons, List.foldl_cons, List.foldl_cons, pushName_toLower, ih]

theorem takeWhile_toLower (cs : List Char) :
    (cs.map Char.toLower).takeWhile (!isSeparator ·) =
      (cs.takeWhile (!isSeparator ·)).map Char.toLower := by
  rw [List.takeWhile_map]
  simp only [Function.comp_def, isSeparator_toLower]

theorem shareLength_toLower (start : ℕ) (cs : List Char) :
    shareLength start (cs.map Char.toLower) = shareLength start cs := by
  simp only [shareLength, ← List.map_drop, takeWhile_toLower, List.length_map]

theorem driveLength_toLower (cs : List Char) :
    driveLength (cs.map Char.toLower) = driveLength cs := by
  match cs with
  | [] => rfl
  | [a] => rfl
  | a :: b :: more =>
    have hshare (start : ℕ) := shareLength_toLower start (a :: b :: more)
    have hmark : upperList (replaceList '/' '\\' (((a :: b :: more).map Char.toLower).take 8)) =
        upperList (replaceList '/' '\\' ((a :: b :: more).take 8)) := by
      rw [← List.map_take, replaceList_toLower, upperList_toLower]
    rw [List.map_cons, List.map_cons] at hshare hmark
    simp only [driveLength, List.map_cons, isSeparator_toLower,
      toLower_eq_iff (m := ':') (by decide), hshare, hmark]

theorem splitDrive_toLower (cs : List Char) : splitDrive (cs.map Char.toLower) =
    ((splitDrive cs).1.map Char.toLower, (splitDrive cs).2.map Char.toLower) := by
  rw [splitDrive, splitDrive, driveLength_toLower, List.map_take, List.map_drop]

theorem option_toLower_eq_iff {o : Option Char} {m : Char}
    (h : m ∈ ['\\', '/', ':', '.', 'Σ']) : o.map Char.toLower = some m ↔ o = some m := by
  cases o with
  | none => simp
  | some c => simp [toLower_eq_iff h]

/-- Making letters small and making a path normal can be done in either order. -/
theorem normal_toLower (cs : List Char) : normal (String.ofList (cs.map Char.toLower)) =
    String.ofList ((normal (String.ofList cs)).toList.map Char.toLower) := by
  have hback (o : Option Char) : o.map Char.toLower = some '\\' ↔ o = some '\\' :=
    option_toLower_eq_iff (by decide)
  have hdrop (path : List Char) : (path.map Char.toLower).dropWhile (· == '\\') =
      (path.dropWhile (· == '\\')).map Char.toLower := by
    rw [List.dropWhile_map]
    simp only [Function.comp_def, Bool.beq_eq_decide_eq, toLower_eq_iff (m := '\\') (by decide)]
  simp only [normal, String.toList_ofList, replaceList_toLower, splitDrive_toLower]
  generalize (splitDrive (replaceList '/' '\\' cs)).1 = drive
  generalize (splitDrive (replaceList '/' '\\' cs)).2 = path
  have hstart : (if (path.map Char.toLower).head? = some '\\' then
      drive.map Char.toLower ++ ['\\'] else drive.map Char.toLower) =
        (if path.head? = some '\\' then drive ++ ['\\'] else drive).map Char.toLower := by
    rw [List.head?_map]
    simp only [hback]
    split
    · rw [List.map_append]
      rfl
    · rfl
  rw [hstart]
  generalize (if path.head? = some '\\' then drive ++ ['\\'] else drive) = start
  have hnames := foldl_pushName_toLower (decide (start.getLast? = some '\\')) []
    (splitList '\\' (path.dropWhile (· == '\\')))
  rw [← splitList_map (fun c => toLower_eq_iff (by decide) c), ← hdrop, List.map_nil] at hnames
  have hlast : ((start.map Char.toLower).getLast? = some '\\') = (start.getLast? = some '\\') := by
    rw [List.getLast?_map, hback]
  simp only [hlast, hnames, List.isEmpty_map]
  split
  · rfl
  · rw [← List.map_reverse, joinList_map rfl, List.map_append]

/-- The form that paths are compared in does not show the case of letters. -/
theorem comparable_toLower (cs : List Char) :
    Solution.comparable (String.ofList (cs.map Char.toLower)) =
      Solution.comparable (String.ofList cs) := by
  rw [Solution.comparable, Solution.comparable, normal_toLower, folded, folded, lower, lower,
    replace, replace, String.toList_ofList, String.toList_ofList, String.toList_ofList,
    replaceList_toLower, lowerList_toLower]

/-! ## Paths seen from a folder -/

/-- One change to the spelling of a relative path leaves alone what it is compared by. -/
theorem comparable_of_respells (h : Respells cs cs') (hcs : Relative cs) :
    Solution.comparable (normal (String.ofList cs')) =
      Solution.comparable (normal (String.ofList cs)) := by
  have hnames (hsame : names cs' = names cs) :
      normal (String.ofList cs') = normal (String.ofList cs) := by
    rw [normal_of_relative (h.relative hcs), normal_of_relative hcs, hsame]
  cases h with
  | separator before after hc hc' =>
    exact congrArg _ (hnames (by rw [names_append _ _ hc, names_append _ _ hc']))
  | letter before after h =>
    rename_i c c'
    have hsmall : (before ++ c' :: after).map Char.toLower =
        (before ++ c :: after).map Char.toLower := by
      simp [h]
    rw [← String.ofList_toList (s := normal (String.ofList (before ++ c' :: after))),
      ← comparable_toLower, ← normal_toLower, hsmall, normal_toLower, comparable_toLower,
      String.ofList_toList]
  | dot after hbefore hc => exact congrArg _ (hnames (names_dot hbefore hc after))
  | pair after hbefore hname hc hc' =>
    exact congrArg _ (hnames (names_pair hbefore hname hc hc' after))

/-- The induction carries that the path stays relative. -/
theorem comparable_of_respelled (h : Respelled cs cs') (hcs : Relative cs) :
    Relative cs' ∧ Solution.comparable (normal (String.ofList cs')) =
      Solution.comparable (normal (String.ofList cs)) := by
  induction h with
  | refl => exact ⟨hcs, rfl⟩
  | tail _ hstep ih => exact ⟨hstep.relative ih.1, (comparable_of_respells hstep ih.1).trans ih.2⟩

theorem Respelled.append_left {first : List Char} (hfirst : StartsSegment first)
    (h : Respelled cs cs') : Respelled (first ++ cs) (first ++ cs') :=
  Relation.ReflTransGen.lift (p := Respells) (first ++ ·) (fun _ _ h => h.append_left hfirst) _ _ h

theorem startsSegment_closed (cs : List Char) : StartsSegment (closed cs) := by
  intro c hc
  rw [closed] at hc
  split at hc
  · rename_i last hlast
    split at hc
    · rename_i hsep
      rw [hlast] at hc
      exact Option.some.inj hc ▸ hsep
    · exact startsSegment_concat cs rfl c hc
  · cases hc

theorem relative_closed_append {folder : List Char} (hfolder : Relative folder)
    (hcs : Relative cs) : Relative (closed folder ++ cs) := by
  match folder with
  | [] => exact hcs
  | [a] =>
    have ha := relative_singleton.1 hfolder
    rw [closed_of_last rfl ha]
    exact relative_cons_cons.2 ⟨ha, by decide⟩
  | a :: b :: more =>
    obtain ⟨rest, hrest⟩ : ∃ rest, closed (a :: b :: more) = a :: b :: rest := by
      rw [closed]
      split
      · split
        · exact ⟨more, rfl⟩
        · exact ⟨more ++ ['\\'], rfl⟩
      · rename_i hlast
        simp at hlast
    rw [hrest]
    exact relative_cons_cons.2 (relative_cons_cons.1 hfolder)

/-- A relative path is seen from a relative folder as what goes on below it. -/
theorem join_relative {folder path : String} (hfolder : Relative folder.toList)
    (hpath : Relative path.toList) :
    join folder path = String.ofList (closed folder.toList ++ path.toList) := by
  have hattach (path : List Char) : attachDrive ([], path) = path := by
    cases path <;> rfl
  rw [join, joinAll, List.foldl_cons, List.foldl_nil, splitDrive_relative hfolder,
    joinParts_relative hpath, hattach]

/-- Two paths that differ in their separators have the same normal form. -/
theorem normal_congr (h : replaceList '/' '\\' cs' = replaceList '/' '\\' cs) :
    normal (String.ofList cs') = normal (String.ofList cs) := by
  rw [normal, normal, String.toList_ofList, String.toList_ofList, h]

theorem replaceList_replaceList (cs : List Char) :
    replaceList '/' '\\' (replaceList '/' '\\' cs) = replaceList '/' '\\' cs := by
  rw [replaceList, replaceList, List.map_map]
  refine List.map_congr_left fun c _ => ?_
  by_cases hc : c = '/' <;> simp [hc]

theorem normal_join {folder path : String} (hfolder : Relative folder.toList)
    (hpath : Relative path.toList) : normal (join folder (ofHost path)) =
      normal (String.ofList (closed folder.toList ++ path.toList)) := by
  have hhost : (ofHost path).toList = replaceList '/' '\\' path.toList := by
    rw [ofHost, replace, String.toList_ofList]
  rw [join_relative hfolder (hhost ▸ relative_replaceList hpath), hhost]
  refine normal_congr ?_
  rw [replaceList_append, replaceList_append, replaceList_replaceList]

/-- However a relative path is spelled, it is the same for comparisons, seen from a folder. -/
theorem comparable_joined {folder path path' : String} (hfolder : Relative folder.toList)
    (hpath : Relative path.toList) (h : Respelled path.toList path'.toList) :
    Solution.comparable (normal (join folder (ofHost path'))) =
      Solution.comparable (normal (join folder (ofHost path))) := by
  have hpath' := (comparable_of_respelled h hpath).1
  rw [normal_join hfolder hpath, normal_join hfolder hpath']
  exact (comparable_of_respelled (h.append_left (startsSegment_closed folder.toList))
    (relative_closed_append hfolder hpath)).2

theorem Relative.of_prefix (h : Relative cs) (hstart : before <+: cs) : Relative before := by
  obtain ⟨more, rfl⟩ := hstart
  match before with
  | [] => exact ⟨rfl, by simp [StopsAt]⟩
  | [a] => exact relative_singleton.2 (stopsAt_cons.1 h.rootless)
  | a :: b :: before => exact relative_cons_cons.2 (relative_cons_cons.1 h)

theorem relative_directory {path : String} (h : Relative path.toList) :
    Relative (directory path).toList := by
  have hbare (head : List Char) : (head.reverse.dropWhile isSeparator).reverse <+: head := by
    rw [← List.reverse_suffix, List.reverse_reverse]
    exact List.dropWhile_suffix _
  refine h.of_prefix ?_
  rw [directory, split, splitDrive_relative h]
  simp only [List.nil_append, String.toList_ofList]
  split
  · exact List.take_prefix _ _
  · exact (hbare _).trans (List.take_prefix _ _)

theorem mem_pushName {rooted : Bool} {done : List (List Char)} {name name' : List Char}
    (h : name' ∈ pushName rooted done name) : name' ∈ done ∨ name' = name ∧ name ≠ [] := by
  by_cases hnil : name = []
  · exact .inl (by simpa [pushName, hnil] using h)
  · have hmem : name' ∈ name :: done := by
      unfold pushName at h
      grind
    rcases List.mem_cons.1 hmem with heq | hmem
    · exact .inr ⟨heq, hnil⟩
    · exact .inl hmem

/-- A normal form is never empty. -/
theorem normal_ne_empty (s : String) : normal s ≠ "" := by
  have hnames (rooted : Bool) (parts : List (List Char)) :
      ∀ name ∈ parts.foldl (pushName rooted) [], name ≠ [] :=
    List.foldlRecOn (motive := fun done => ∀ name ∈ done, name ≠ []) parts (pushName rooted)
      (fun _ h => absurd h List.not_mem_nil) fun done h name _ name' hname' =>
        (mem_pushName hname').elim (h name') fun heq => heq.1 ▸ heq.2
  intro h
  have hempty := congrArg String.toList h
  simp only [normal, String.toList_ofList] at hempty
  generalize (if (splitDrive (replaceList '/' '\\' s.toList)).2.head? = some '\\' then
    (splitDrive (replaceList '/' '\\' s.toList)).1 ++ ['\\']
    else (splitDrive (replaceList '/' '\\' s.toList)).1) = start at hempty
  have hne := hnames (decide (start.getLast? = some '\\'))
    (splitList '\\' ((splitDrive (replaceList '/' '\\' s.toList)).2.dropWhile (· == '\\')))
  generalize List.foldl _ _ _ = names at hempty hne
  split at hempty
  · cases hempty
  · rename_i hfull
    obtain ⟨rfl, hbody⟩ := List.append_eq_nil_iff.1 hempty
    cases hreverse : names.reverse with
    | nil => simp [List.reverse_eq_nil_iff.1 hreverse] at hfull
    | cons part parts =>
      have hpart : part ≠ [] := hne part (List.mem_reverse.1 (hreverse ▸ List.mem_cons_self))
      rw [hreverse] at hbody
      cases parts with
      | nil => exact hpart hbody
      | cons next parts => simp [joinList, hpart] at hbody

end DescriptorPath

end SolutionScript
