import SolutionScript.Proofs.Cli.Interleaved
import SolutionScript.Proofs.Delivery
import SolutionScript.Proofs.Escapes
import SolutionScript.Proofs.FileSystem.Refusal

/-!
# Reports of refusals

On the way to a script the system refuses a path that is too long and nothing else
(`StageFails.meetsLongPath`). The command line reports this in the words that it has for an output
file that can not be written, and in no other case does it use them without having rendered the
script for a file that is named (`run_cannotWrite`).
-/

namespace SolutionScript

open FileSystem Fallible

variable {d d' : Disk} {file : HostPath} {r : Request} {format : String} {m : Parameters}
  {e : Failure} {reason : Reason}

/-- A failure is a refusal of the system. -/
inductive Failure.IsRefusal : Failure → Reason → Prop
  | system (reason : Reason) (path : String) (target : Option String) :
    IsRefusal (.disk (.system reason path target)) reason
  | device (reason : Reason) : IsRefusal (.disk (.device reason)) reason

theorem Failure.IsRefusal.unique {other : Reason} (h : e.IsRefusal reason)
    (hother : e.IsRefusal other) : reason = other := by
  cases h <;> cases hother <;> rfl

/-! ## On the way to a script -/

/-- A path is too long, or a name in it, and a failure says so. -/
def MeetsLongPath (d : Disk) (e : Failure) : Prop :=
  ∃ p : HostPath, d.locate p = .error .nameTooLong ∧
    e = .disk (.system .nameTooLong p.render none)

theorem MeetsLongPath.of_longBelow {folder : HostPath} {fault : Fault}
    (h : d.LongBelow folder fault) : MeetsLongPath d (.disk fault) := by
  obtain ⟨-, hlocate⟩ := h
  exact ⟨_, hlocate, rfl⟩

theorem MeetsLongPath.isRefusal (h : MeetsLongPath d e) : e.IsRefusal .nameTooLong := by
  obtain ⟨p, -, rfl⟩ := h
  exact .system _ _ _

theorem Descriptor.Escapes.meetsLongPath (h : Descriptor.Escapes d file e)
    (hrefusal : e.IsRefusal reason) : MeetsLongPath d e := by
  cases h with
  | nullCharacter => cases hrefusal
  | @encoding bytes fault =>
    -- what is wrong in a document is not for the system to refuse
    cases fault <;> cases hrefusal
  | item _ _ _ hrefuses =>
    cases hrefuses with
    | pattern => cases hrefusal
    | longPath hlong => exact .of_longBelow hlong
  | sources _ hlong => exact .of_longBelow hlong

theorem PathMapping.length_of_ofPairs {pairs : List (List String)} {mappings : List PathMapping}
    (h : ofPairs pairs = .ok mappings) : ∀ pair ∈ pairs, pair.length = 2 := by
  fun_induction ofPairs pairs generalizing mappings with
  | case1 => nofun
  | case2 source target rest ih =>
    obtain ⟨more, hmore, -⟩ := map_eq_ok.1 h
    exact List.forall_mem_cons.2 ⟨rfl, ih hmore⟩
  | case3 => cases h

/-- The only refusal on the way to a script is that of a path that is too long. -/
theorem StageFails.meetsLongPath (h : StageFails d format m r e) (hrefusal : e.IsRefusal reason) :
    MeetsLongPath d e := by
  cases hmappings : PathMapping.ofPairs r.mappings with
  | error items =>
    have hrender := render_eq_error.2 h
    rw [render_eq_error.2 (.mapping hmappings)] at hrender
    cases hrender
    cases hrefusal
  | ok mappings =>
    rcases h.isTool_or (PathMapping.length_of_ofPairs hmappings) with ⟨fault, rfl⟩ | hescapes
    · cases hrefusal
    · cases hescapes with
      | locating hlocating =>
        obtain ⟨fault, hlong, rfl⟩ := hlocating
        exact .of_longBelow hlong
      | reading _ _ _ _ hentries =>
        obtain ⟨file, -, hescapes⟩ := hentries
        exact hescapes.meetsLongPath hrefusal

/-! ## On the way to a file -/

theorem not_isTool_of_fillText {l : Location} {points : List Nat}
    (h : d.fillText l points = .error e) : ¬ e.IsTool := by
  rintro ⟨fault, rfl⟩
  unfold Disk.fillText at h
  split at h
  · split at h <;> cases h
  · cases h

/-- Writing a file does not fail with a fault of the tool. -/
theorem not_isTool_of_writeText {target : HostPath} {points : List Nat}
    (h : d.writeText target points = (d', .error e)) : ¬ e.IsTool := by
  unfold Disk.writeText at h
  dsimp only at h
  split at h
  · cases h
    nofun
  · split at h
    · rename_i failure hfill
      split at h <;> cases h
      · nofun
      · exact not_isTool_of_fillText hfill
    · split at h <;> cases h
      nofun

namespace Cli

variable {a : Arguments} {f : Format} {words : List String} {output : Value} {text message : String}
  {p : Printed}

/-! ## Reports -/

theorem errorLine_inj {s t : String} : errorLine s = errorLine t ↔ s = t := by
  simp [errorLine, ← String.toList_inj, String.toList_append]

theorem failed_of_isRefusal (h : e.IsRefusal reason) (output : Value) (text : String) :
    failed output text e = .printed {
      code := 1
      out := text
      err := errorLine ("cannot write " ++ shownOutput output ++ ": " ++ reason.text) } := by
  cases h <;> rfl

theorem isTool_or_isRefusal_of_failed (h : failed output text e = .printed p) :
    e.IsTool ∨ ∃ reason, e.IsRefusal reason := by
  unfold failed at h
  split at h
  · exact .inl ⟨_, rfl⟩
  · exact .inr ⟨_, .system _ _ _⟩
  · exact .inr ⟨_, .device _⟩
  · cases h

/-! ## Ends that report something else -/

theorem head?_errorLine (message : String) : (errorLine message).toList.head? = some 's' := by
  simp [errorLine, programName, String.toList_append]

theorem ne_errorLine (h : text.toList.head? ≠ some 's') (message : String) :
    text ≠ errorLine message := by
  rintro rfl
  exact h (head?_errorLine message)

theorem head?_textOfLines {line : String} {c : Char} (h : line.toList.head? = some c)
    (lines : List String) : (textOfLines (line :: lines)).toList.head? = some c := by
  cases lines with
  | nil => simp [textOfLines, Text.join, String.toList_append, h]
  | cons next lines =>
    simp [textOfLines, Text.join, String.intercalate_cons_cons, String.toList_append, h]

theorem summary_ne_errorLine (message : String) : summary ≠ errorLine message := by
  have hline : ("usage: " ++ programName ++
      " -<format> [-sln solution] [-map uri-prefix file-prefix]* [-out file] [name=value]*"
      ).toList.head? = some 'u' := by
    decide
  have hhead : summary.toList.head? = some 'u' := head?_textOfLines hline _
  exact ne_errorLine (by rw [hhead]; decide) message

theorem usage_append_ne_errorLine (text message : String) : usage ++ text ≠ errorLine message := by
  have hhead : usage.toList.head? = some 'u' := head?_textOfLines (by decide) _
  apply ne_errorLine
  rw [String.toList_append, List.head?_append, hhead, Option.some_or]
  decide

theorem empty_ne_errorLine (message : String) : "" ≠ errorLine message :=
  ne_errorLine (by decide) message

/-! ## Runs that convert -/

/-- A command line asks for a conversion in a format, with parameters, that can be tried. -/
structure Converts (words : List String) (a : Arguments) (f : Format) (m : Parameters)
    (r : Request) : Prop where
  parsed : parse words = .ok a
  serve : a.serve = false
  format : a.format = some f
  parameters : readParameters a.parameters = .ok m
  required : f.require m = .ok ()
  request : a.request? = some r

theorem Converts.run_eq (h : Converts words a f m r) (d : Disk) :
    run d words = deliver d a r f m := by
  have hwords : words ≠ [] := by
    rintro rfl
    have hnone : a = {} := Except.ok.inj h.parsed.symm
    have hformat := h.format
    rw [hnone] at hformat
    cases hformat
  rw [run_eq_runArguments hwords h.parsed,
    runArguments_eq_deliver h.serve h.format h.parameters h.required h.request]

theorem require_eq_error {fault : ToolFault} (h : f.require m = .error fault) :
    ∃ names, fault = .missingParameter f.name names := by
  unfold Format.require at h
  split at h <;> cases h
  exact ⟨_, rfl⟩

theorem converts_or_missing_of_parse (hparse : parse words = .ok a)
    (hrun : runArguments d a = (d', .printed p)) (herr : p.err = errorLine message) :
    (∃ f m r, Converts words a f m r) ∨
      ∃ format names, message = (ToolFault.missingParameter format names).text := by
  -- words that are not understood are reported after the lines that show how to call the program
  unfold runArguments at hrun
  split at hrun
  · cases hrun
  rename_i hserve
  split at hrun
  · cases hrun
    exact absurd herr (usage_append_ne_errorLine _ message)
  rename_i f hformat
  split at hrun
  · cases hrun
    exact absurd herr (usage_append_ne_errorLine _ message)
  rename_i m hread
  unfold runConversion at hrun
  split at hrun
  · rename_i fault hrequire
    obtain ⟨names, rfl⟩ := require_eq_error hrequire
    cases hrun
    exact .inr ⟨_, _, (errorLine_inj.1 herr).symm⟩
  · cases hrun
  · rename_i r hrequire hrequest
    exact .inl ⟨f, m, r, hparse, by simpa using hserve, hformat, hread, hrequire, hrequest⟩

/-- A run that ends with one line for an error has tried a conversion, or lacks parameters. -/
theorem converts_or_missing (hrun : run d words = (d', .printed p))
    (herr : p.err = errorLine message) :
    (∃ a f m r, Converts words a f m r) ∨
      ∃ format names, message = (ToolFault.missingParameter format names).text := by
  unfold run at hrun
  split at hrun
  · cases hrun
    exact absurd herr (summary_ne_errorLine message)
  · split at hrun
    · cases hrun
      exact absurd herr (empty_ne_errorLine message)
    · cases hrun
      exact absurd herr (usage_append_ne_errorLine _ message)
    · rename_i a hparse
      exact (converts_or_missing_of_parse hparse hrun herr).imp_left fun hconverts => ⟨a, hconverts⟩

theorem missingParameter_ne (format : String) (names : List String) (rest : String) :
    (ToolFault.missingParameter format names).text ≠ "cannot write " ++ rest := by
  intro h
  have hformat : (ToolFault.missingParameter format names).text.toList.head? = some 'f' := by
    show ("format '" ++ format ++ "' requires parameter(s): " ++
      Text.join ", " names).toList.head? = some 'f'
    simp [String.toList_append]
  have hwrite : ("cannot write " ++ rest).toList.head? = some 'c' := by
    simp [String.toList_append]
  rw [h, hwrite] at hformat
  cases hformat

theorem target?_eq_some {path : HostPath} (h : a.target? = some path) :
    ∃ target, a.output = .text target ∧ target ≠ "" ∧ path = HostPath.parse target := by
  unfold Arguments.target? at h
  split at h
  · rename_i target htext
    split at h
    · cases h
    · rename_i hne
      cases h
      exact ⟨target, htext, hne, rfl⟩
  · cases h

theorem target?_of_text {target : String} (h : a.output = .text target) (hne : target ≠ "") :
    a.target? = some (HostPath.parse target) := by
  simp [Arguments.target?, h, hne]

theorem deliver_of_error (h : render d f.name m r = .error e) :
    deliver d a r f m = (d, failed a.output "" e) := by
  unfold deliver
  split
  · simp only [deliverTo, h]
  · simp only [convertInto, h]
    rfl

/-- Once a script is rendered, only writing it to a file that is named can fail. -/
theorem deliver_of_ok {rendered : Rendered} (hrender : render d f.name m r = .ok rendered)
    (hdeliver : deliver d a r f m = (d', .printed p)) :
    p.err = "" ∨ ∃ target e, a.output = .text target ∧ target ≠ "" ∧
      d.writeText (HostPath.parse target) (Text.codePoints rendered.script) = (d', .error e) ∧
      failed a.output "" e = .printed p := by
  unfold deliver at hdeliver
  split at hdeliver
  · rename_i path hpath
    obtain ⟨target, houtput, hne, rfl⟩ := target?_eq_some hpath
    simp only [deliverTo, hrender] at hdeliver
    split at hdeliver
    · cases hdeliver
      exact .inl rfl
    · rename_i hwrite
      obtain ⟨rfl, hfailed⟩ := Prod.mk.inj hdeliver
      exact .inr ⟨target, _, houtput, hne, hwrite, hfailed⟩
  · rw [convertInto_buffer hrender] at hdeliver
    cases hdeliver
    exact .inl rfl

/-! ## Outputs that can not be written -/

/-- Why a conversion reports that something can not be written, with what it says after that. -/
inductive Reports (d : Disk) (a : Arguments) (f : Format) (m : Parameters) (r : Request) :
    String → Prop
  /-- There is a script, and a file for it that the system refuses to write. -/
  | output {target : String} {rendered : Rendered} {d' : Disk} {e : Failure} {reason : Reason} :
    a.output = .text target → target ≠ "" → render d f.name m r = .ok rendered →
    d.writeText (HostPath.parse target) (Text.codePoints rendered.script) = (d', .error e) →
    e.IsRefusal reason → Reports d a f m r (target ++ ": " ++ reason.text)
  /-- There is no script, because of a path that is too long. -/
  | longPath {e : Failure} : render d f.name m r = .error e → MeetsLongPath d e →
    Reports d a f m r (shownOutput a.output ++ ": " ++ Reason.nameTooLong.text)
  /-- There is no script, and the tool says so in words that start in the same way. -/
  | fault {fault : ToolFault} {rest : String} : render d f.name m r = .error (.tool fault) →
    fault.text = "cannot write " ++ rest → Reports d a f m r rest

/-- The report of a failure that starts as the report of a refusal. -/
theorem failed_reports (h : failed output text e = .printed p)
    (herr : p.err = errorLine ("cannot write " ++ message)) :
    (∃ fault, e = .tool fault ∧ fault.text = "cannot write " ++ message) ∨
      ∃ reason, e.IsRefusal reason ∧ message = shownOutput output ++ ": " ++ reason.text := by
  rcases isTool_or_isRefusal_of_failed h with ⟨fault, rfl⟩ | ⟨reason, hrefusal⟩
  · cases h
    exact .inl ⟨fault, rfl, errorLine_inj.1 herr⟩
  · rw [failed_of_isRefusal hrefusal] at h
    cases h
    refine .inr ⟨reason, hrefusal, ?_⟩
    have hsame := errorLine_inj.1 herr
    simpa [← String.toList_inj, String.toList_append] using hsame.symm

theorem reports_of_run {rest : String} (hrun : run d words = (d', .printed p))
    (herr : p.err = errorLine ("cannot write " ++ rest)) :
    ∃ a f m r, Converts words a f m r ∧ Reports d a f m r rest := by
  rcases converts_or_missing hrun herr with ⟨a, f, m, r, hconverts⟩ | ⟨format, names, hmissing⟩
  · refine ⟨a, f, m, r, hconverts, ?_⟩
    rw [hconverts.run_eq] at hrun
    cases hrender : render d f.name m r with
    | error e =>
      rw [deliver_of_error hrender] at hrun
      rcases failed_reports (Prod.mk.inj hrun).2 herr with
        ⟨fault, rfl, htext⟩ | ⟨reason, hrefusal, rfl⟩
      · exact .fault hrender htext
      · have hlong := (render_eq_error.1 hrender).meetsLongPath hrefusal
        obtain rfl := hrefusal.unique hlong.isRefusal
        exact .longPath hrender hlong
    | ok rendered =>
      rcases deliver_of_ok hrender hrun with hnone | ⟨target, e, houtput, hne, hwrite, hfailed⟩
      · rw [hnone] at herr
        exact absurd herr (empty_ne_errorLine _)
      · rcases failed_reports hfailed herr with ⟨fault, rfl, -⟩ | ⟨reason, hrefusal, rfl⟩
        · exact absurd ⟨fault, rfl⟩ (not_isTool_of_writeText hwrite)
        · rw [houtput]
          exact .output houtput hne hrender hwrite hrefusal
  · exact absurd hmissing.symm (missingParameter_ne format names rest)

theorem run_of_longPath (h : Converts words a f m r) (hrender : render d f.name m r = .error e)
    (hlong : MeetsLongPath d e) :
    run d words = (d, .printed {
      code := 1
      err := errorLine ("cannot write " ++ shownOutput a.output ++ ": " ++
        Reason.nameTooLong.text) }) := by
  rw [h.run_eq, deliver_of_error hrender, failed_of_isRefusal hlong.isRefusal]

theorem run_of_reports {rest : String} (h : Converts words a f m r)
    (hreports : Reports d a f m r rest) :
    ∃ d' p, run d words = (d', .printed p) ∧ p.err = errorLine ("cannot write " ++ rest) := by
  cases hreports with
  | @output target rendered d' e reason houtput hne hrender hwrite hrefusal =>
    have hdeliver : deliver d a r f m = (d', failed a.output "" e) := by
      rw [deliver, target?_of_text houtput hne]
      simp only [deliverTo, hrender, hwrite]
    rw [h.run_eq, hdeliver, failed_of_isRefusal hrefusal, houtput]
    exact ⟨_, _, rfl, by simp only [shownOutput, String.append_assoc]⟩
  | longPath hrender hlong =>
    rw [run_of_longPath h hrender hlong]
    exact ⟨_, _, rfl, by simp only [String.append_assoc]⟩
  | fault hrender htext =>
    rw [h.run_eq, deliver_of_error hrender]
    exact ⟨_, _, rfl, congrArg errorLine htext⟩

/-- A run reports that an output can not be written in three cases: its script is rendered, and can
not be written to the file that is named; or a path on the way to the script is too long, whether a
file is named or not; or a fault happens to start with the same words. -/
theorem run_cannotWrite (d : Disk) (words : List String) (rest : String) :
    (∃ d' p, run d words = (d', .printed p) ∧ p.err = errorLine ("cannot write " ++ rest)) ↔
      ∃ a f m r, Converts words a f m r ∧ Reports d a f m r rest := by
  constructor
  · rintro ⟨d', p, hrun, herr⟩
    exact reports_of_run hrun herr
  · rintro ⟨a, f, m, r, hconverts, hreports⟩
    exact run_of_reports hconverts hreports

/-! ## A folder that is not there, and a name that is too long -/

/-- The options that ask for a makefile of a solution. -/
def makefileGroups (solution : String) (output : Option String) : List Choice :=
  [.format .nmake, .solution solution] ++ (output.map .output).toList

theorem converts_makefile {solution : String} {output : Option String} (hsolution : IsBare solution)
    (houtput : ∀ path ∈ output, IsBare path) :
    Converts (commandLine ((makefileGroups solution output).map .choice ++
        ["build.basedir=bin"].map .word))
      (askedFor (makefileGroups solution output) ["build.basedir=bin"]) .nmake
      [("build.basedir", .text "bin")] { solution := some (HostPath.parse solution) } := by
  have hvalues : ∀ c ∈ makefileGroups solution output, ∀ v ∈ c.values, IsBare v := by
    cases output with
    | none => simpa [makefileGroups, Choice.values] using hsolution
    | some path => simpa [makefileGroups, Choice.values, hsolution] using houtput
  have hformats : (makefileGroups solution output).filterMap Choice.format? = [.nmake] := by
    cases output <;> rfl
  have hsolutions : (makefileGroups solution output).filterMap Choice.solution? = [solution] := by
    cases output <;> rfl
  have hmappings : (makefileGroups solution output).filterMap Choice.mapping? = [] := by
    cases output <;> rfl
  have hread : readParameters ["build.basedir=bin"] = .ok [("build.basedir", .text "bin")] := by
    decide
  exact {
    parsed := parse_interleaved (interleaves_wordsLast _ _) hvalues (by decide)
      (by rw [hformats]; exact Nat.le_refl 1)
    serve := rfl
    format := by rw [askedFor, hformats]; rfl
    parameters := hread
    required := by decide
    request := by rw [askedFor, hsolutions, hmappings]; rfl }

theorem locate_of_refuses {name : String} (h : d.Refuses ⟨.relative, [name]⟩) :
    Solution.locate d (some ⟨.relative, [name]⟩) none =
      .error (.disk (.system .nameTooLong name none)) := by
  have hfolder := Disk.isFolder_eq_error.2 ⟨h, rfl⟩
  rw [HostPath.render_name] at hfolder
  show Solution.locateAt d ⟨.relative, [name]⟩ = _
  rw [Solution.locateAt, hfolder]

theorem render_longName :
    render pairDisk Format.nmake.name m { solution := some (HostPath.parse longName) } =
      .error (.disk (.system .nameTooLong longName none)) := by
  rw [parse_longName]
  exact render_eq_error.2 (.locating rfl (locate_of_refuses (refuses_longName rfl)))

/-- Where a makefile for the solution of the disk can not be written. -/
theorem run_cannotWrite_output :
    ∃ d' p, run pairDisk ["-nmake", "-sln", "Chain.sln", "-out", "gone/Chain.mak",
        "build.basedir=bin"] = (d', .printed p) ∧
      p.err = "slingshot: error: cannot write gone/Chain.mak: No such file or directory\n" := by
  have hconverts := @converts_makefile "Chain.sln" (some "gone/Chain.mak") (by decide) (by decide)
  have hsolution : HostPath.parse "Chain.sln" = ⟨.relative, ["Chain.sln"]⟩ := by decide
  rw [hsolution] at hconverts
  obtain ⟨out, hrender, -⟩ := render_chain [("build.basedir", .text "bin")]
  have hnull : Disk.hasNull (pairDisk.temporaryFile (HostPath.parse "gone/Chain.mak")) = false := by
    decide
  have hlocate : pairDisk.locate (pairDisk.temporaryFile (HostPath.parse "gone/Chain.mak")) =
      .error .noSuchFile := by
    decide
  have hwrite : ∃ path, pairDisk.writeText (HostPath.parse "gone/Chain.mak")
      (Text.codePoints out.script) =
        (pairDisk, .error (.disk (.system .noSuchFile path none))) := by
    simp only [Disk.writeText, Disk.createFile, hnull, hlocate]
    exact ⟨_, rfl⟩
  obtain ⟨path, hwrite⟩ := hwrite
  exact (run_cannotWrite pairDisk _ "gone/Chain.mak: No such file or directory").2
    ⟨_, _, _, _, hconverts, .output rfl (by decide) hrender hwrite (.system _ _ _)⟩

/-- What can not be written is nothing that has been asked for: the solution can not be looked
for. -/
theorem run_longSolution :
    (∃ a, parse ["-nmake", "-sln", longName, "build.basedir=bin"] = .ok a ∧ a.output = .missing) ∧
    render pairDisk Format.nmake.name [("build.basedir", .text "bin")]
        { solution := some (HostPath.parse longName) } =
      .error (.disk (.system .nameTooLong longName none)) ∧
    run pairDisk ["-nmake", "-sln", longName, "build.basedir=bin"] =
      (pairDisk, .printed {
        code := 1, err := "slingshot: error: cannot write None: File name too long\n" }) := by
  have hbare : IsBare longName := by
    rw [IsBare, toList_longName]
    decide
  have hconverts := @converts_makefile longName none hbare nofun
  have hlong : MeetsLongPath pairDisk (.disk (.system .nameTooLong longName none)) := by
    refine ⟨⟨.relative, [longName]⟩, (refuses_longName rfl).2, ?_⟩
    rw [HostPath.render_name]
  exact ⟨⟨_, hconverts.parsed, rfl⟩, render_longName,
    run_of_longPath hconverts render_longName hlong⟩

end Cli

end SolutionScript
