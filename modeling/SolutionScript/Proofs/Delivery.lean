import SolutionScript.Proofs.FileSystem.Replace
import SolutionScript.Proofs.FrontEnds
import SolutionScript.Proofs.Script.NAnt
import SolutionScript.Proofs.Text.Encode

/-!
# Delivery of scripts

A run that names a file for the script either puts the whole script there and leaves
everything else alone, or it spares what is on the disk, that file included
(`run_ends`, `runConversion_cases`). No script is empty (`render_ne_empty`), so a
command line that succeeds and prints nothing has written its script to the file.
-/

namespace SolutionScript

open FileSystem FileSystem.Disk

/-! ## Scripts are not empty -/

theorem ne_empty_of_mem {s : String} {c : Char} (h : c ∈ s.toList) : s ≠ "" := by
  rintro rfl
  cases h

theorem NAnt.script_ne_empty {o : BuildOrder} {m : Parameters} {solutionName text : String}
    (h : NAnt.script o m solutionName = .ok text) : text ≠ "" := by
  obtain ⟨-, tree, -, rfl⟩ := NAnt.script_eq_ok.1 h
  apply ne_empty_of_mem (c := '\n')
  simp [NAnt.documentText, String.toList_append]

theorem NMake.script_ne_empty {o : BuildOrder} {m : Parameters} {solutionName text : String}
    (h : NMake.script o m solutionName = .ok text) : text ≠ "" := by
  obtain ⟨-, rfl⟩ := NMake.script_eq_ok.1 h
  apply ne_empty_of_mem (c := '\n')
  simp [NMake.preamble, Text.withEnds]

variable {d : Disk} {format : String} {m : Parameters} {r : Request} {out : Rendered}

theorem render_ne_empty (h : render d format m r = .ok out) : out.script ≠ "" := by
  obtain ⟨s, f, -, -, hscript, -⟩ := render_eq_ok.1 h
  cases f with
  | nant => exact NAnt.script_ne_empty hscript
  | nmake => exact NMake.script_ne_empty hscript

/-- A script is written to a file as a whole, or the disk is spared. -/
theorem writeText_script (hd : d.HomeStands) (target : HostPath) (script : String) :
    (∃ d' failure, d.writeText target (Text.codePoints script) = (d', .error failure) ∧
      Spares d d' target) ∨
    ∃ d', d.writeText target (Text.codePoints script) = (d', .ok ()) ∧
      Replaces d d' target (Text.encode script) := by
  rcases writeText_cases hd target (Text.codePoints script) with
    hfails | ⟨d', bytes, hwrite, hbytes, hreplaces⟩
  · exact .inl hfails
  · rw [Text.encodePoints_codePoints] at hbytes
    cases hbytes
    exact .inr ⟨d', hwrite, hreplaces⟩

/-! ## The command line -/

namespace Cli

/-- A run ends as one that has written its script to a file. -/
def Outcome.IsSilent (o : Outcome) : Prop := ∃ err, o = .printed { code := 0, err }

theorem not_isSilent_failed (output : Value) (text : String) (failure : Failure) :
    ¬ (failed output text failure).IsSilent := by
  rintro ⟨err, h⟩
  cases code_failed h

theorem not_isSilent_refuse (fault : UsageFault) : ¬ (refuse fault).IsSilent := by
  rintro ⟨err, h⟩
  cases h

theorem not_isSilent_printed {text : String} (h : text ≠ "") (code : Nat) :
    ¬ (Outcome.printed { code, out := text }).IsSilent := by
  rintro ⟨err, hprinted⟩
  cases hprinted
  exact h rfl

theorem help_ne_empty : help ≠ "" := by
  apply ne_empty_of_mem (c := '\n')
  simp [help, textOfLines, String.toList_append]

/-- How a run ends that may write a script to a file. Either the script is rendered and stands in
the file, and the run ends with nothing to say; or it ends in another way or hands over to the
server, and spares the file and all others. -/
inductive Ends (d : Disk) (target? : Option HostPath) (renders : Rendered → Prop) :
    Disk × Outcome → Prop
  | written {d' : Disk} {target : HostPath} {out : Rendered} : target? = some target → renders out →
    Replaces d d' target (Text.encode out.script) →
    Ends d target? renders (d', .printed { code := 0 })
  | spared {d' : Disk} {outcome : Outcome} : ¬ outcome.IsSilent →
    (∀ target, target? = some target → Spares d d' target) → (target? = none → d' = d) →
    Ends d target? renders (d', outcome)

namespace Ends

variable {target? : Option HostPath} {renders renders' : Rendered → Prop}

/-- A run that leaves the disk as it was. -/
theorem same {outcome : Outcome} (h : ¬ outcome.IsSilent) : Ends d target? renders (d, outcome) :=
  .spared h (fun target _ => .refl d target) fun _ => rfl

theorem mono {run : Disk × Outcome} (h : Ends d target? renders run)
    (himp : ∀ out, renders out → renders' out) : Ends d target? renders' run := by
  cases h with
  | written htarget hrenders hreplaces => exact .written htarget (himp _ hrenders) hreplaces
  | spared hsilent hspares hsame => exact .spared hsilent hspares hsame

end Ends

theorem deliverTo_of_writeText {target : HostPath} {a : Arguments} {f : Format} {d' : Disk}
    (hrender : render d f.name m r = .ok out)
    (hwrite : d.writeText target (Text.codePoints out.script) = (d', .ok ())) :
    deliverTo d target a r f m = (d', .printed { code := 0 }) := by
  simp only [deliverTo, hrender, hwrite]

theorem deliverTo_ends (hd : d.HomeStands) (target : HostPath) (a : Arguments) (r : Request)
    (f : Format) (m : Parameters) :
    Ends d (some target) (fun out => render d f.name m r = .ok out)
      (deliverTo d target a r f m) := by
  cases hrender : render d f.name m r with
  | error e =>
    simp only [deliverTo, hrender]
    exact .same (not_isSilent_failed _ _ _)
  | ok out =>
    rcases writeText_script hd target out.script with
      ⟨d', e, hwrite, hspares⟩ | ⟨d', hwrite, hreplaces⟩
    · simp only [deliverTo, hrender, hwrite]
      refine .spared (not_isSilent_failed _ _ _) (fun t ht => ?_) nofun
      cases ht
      exact hspares
    · rw [deliverTo_of_writeText hrender hwrite]
      exact .written rfl rfl hreplaces

/-- A script that is printed is not empty. -/
theorem deliver_ends (hd : d.HomeStands) (a : Arguments) (r : Request) (f : Format)
    (m : Parameters) :
    Ends d a.target? (fun out => render d f.name m r = .ok out) (deliver d a r f m) := by
  unfold deliver
  cases a.target? with
  | some target => exact deliverTo_ends hd target a r f m
  | none =>
    cases hrender : render d f.name m r with
    | error e =>
      simp only [convertInto_of_stageFails (render_eq_error.1 hrender)]
      exact .same (not_isSilent_failed _ _ _)
    | ok out =>
      simp only [convertInto_buffer hrender, Sink.content_append_empty]
      exact .same (not_isSilent_printed (render_ne_empty hrender) 0)

/-- The script that arguments ask for. -/
def Arguments.Renders (d : Disk) (a : Arguments) (out : Rendered) : Prop :=
  ∃ f m r, a.format = some f ∧ readParameters a.parameters = .ok m ∧ a.request? = some r ∧
    render d f.name m r = .ok out

theorem runArguments_ends (hd : d.HomeStands) (a : Arguments) :
    Ends d a.target? (a.Renders d) (runArguments d a) := by
  unfold runArguments
  split
  · refine .same ?_
    rintro ⟨err, h⟩
    cases h
  · split
    · exact .same (not_isSilent_refuse _)
    · rename_i f hformat
      split
      · exact .same (not_isSilent_refuse _)
      · rename_i m hm
        unfold runConversion
        split
        · exact .same (not_isSilent_failed _ _ _)
        · refine .same ?_
          rintro ⟨err, h⟩
          cases h
        · rename_i r _ hr
          exact (deliver_ends hd a r f m).mono fun out hrender =>
            ⟨f, m, r, hformat, hm, hr, hrender⟩

/-- The file that a command line names for its script. -/
def outputFile? (words : List String) : Option HostPath := (parse words).toOption.bind (·.target?)

/-- The script that a command line asks for. -/
def AsksFor (d : Disk) (words : List String) (out : Rendered) : Prop :=
  ∃ a, parse words = .ok a ∧ a.Renders d out

theorem run_ends (hd : d.HomeStands) (words : List String) :
    Ends d (outputFile? words) (AsksFor d words) (run d words) := by
  unfold run
  split
  · refine .same ?_
    rintro ⟨err, h⟩
    cases h
  · split
    · exact .same (not_isSilent_printed help_ne_empty 0)
    · exact .same (not_isSilent_refuse _)
    · rename_i a hparse
      have hfile : outputFile? words = a.target? := by
        rw [outputFile?, hparse]
        rfl
      rw [hfile]
      exact (runArguments_ends hd a).mono fun out hrenders => ⟨a, hparse, hrenders⟩

end Cli

/-! ## The tools -/

theorem checkedScript_eq_ok {c : Server.ConversionRequest} {order : BuildOrder} {script : String}
    (h : Server.checkedScript d c = .ok (order, script)) :
    render d c.format c.parameters c.request = .ok ⟨script, order⟩ := by
  unfold Server.checkedScript at h
  split at h
  · cases h
  · rw [convert_buffer] at h
    cases hrender : render d c.format c.parameters c.request with
    | error e =>
      rw [hrender] at h
      cases h
    | ok out =>
      simp only [hrender, Except.map, bind, Except.bind, pure, Except.pure,
        Sink.content_append_empty, Except.ok.injEq, Prod.mk.injEq] at h
      obtain ⟨rfl, rfl⟩ := h
      rfl

theorem runConversion_of_writeText {c : Server.ConversionRequest} {target : HostPath}
    {order : BuildOrder} {script : String} {d' : Disk} (houtput : c.output ≠ "")
    (htarget : Server.resolvePath (HostPath.parse c.output) c.request.folder = target)
    (hchecked : Server.checkedScript d c = .ok (order, script))
    (hwrite : d.writeText target (Text.codePoints script) = (d', .ok ())) :
    Server.runConversion d c = (d', .ok ⟨c.format, order.names, .file target⟩) := by
  simp only [Server.runConversion, hchecked, houtput, if_false, htarget, hwrite]

/-- A tool that is asked for a script in a file puts it there, or spares what is on the disk. -/
theorem runConversion_cases (hd : d.HomeStands) {c : Server.ConversionRequest}
    (houtput : c.output ≠ "") :
    (∃ d' e, Server.runConversion d c = (d', .error e) ∧
      Spares d d' (Server.resolvePath (HostPath.parse c.output) c.request.folder)) ∨
    ∃ d' out, render d c.format c.parameters c.request = .ok out ∧
      Server.runConversion d c = (d', .ok ⟨c.format, out.order.names,
        .file (Server.resolvePath (HostPath.parse c.output) c.request.folder)⟩) ∧
      Replaces d d' (Server.resolvePath (HostPath.parse c.output) c.request.folder)
        (Text.encode out.script) := by
  cases hchecked : Server.checkedScript d c with
  | error e => exact .inl ⟨d, e, by simp only [Server.runConversion, hchecked], .refl d _⟩
  | ok found =>
    obtain ⟨order, script⟩ := found
    have hrender := checkedScript_eq_ok hchecked
    rcases writeText_script hd
        (Server.resolvePath (HostPath.parse c.output) c.request.folder) script with
      ⟨d', e, hwrite, hspares⟩ | ⟨d', hwrite, hreplaces⟩
    · refine .inl ⟨d', e, ?_, hspares⟩
      simp only [Server.runConversion, hchecked, houtput, if_false, hwrite]
    · exact .inr ⟨d', ⟨script, order⟩, hrender,
        runConversion_of_writeText houtput rfl hchecked hwrite, hreplaces⟩

/-- The parts that ask for a makefile of a solution. -/
def makefileParts (solution : String) : List Cli.Part :=
  [.choice (.format .nmake), .choice (.solution solution), .choice (.output "Chain.mak"),
    .word "build.basedir=bin"]

/-- Where it is written. -/
def chainTarget : HostPath := ⟨.relative, ["Chain.mak"]⟩

/-- The temporary file for it. -/
def chainTemporary : HostPath := ⟨.single, ["Work", ".Chain.mak.aaaaaaaa.tmp"]⟩

/-- Renaming only needs the folder, and no folder in place of the target. -/
theorem renameFile_chainTarget {t : FileTree} (hfolder : t.entry? ["Work"] = some .folder)
    (htarget : t.entry? ["Work", "Chain.mak"] = none) :
    renameFile { pairDisk with tree := t } chainTemporary chainTemporary.names chainTarget =
      .ok { pairDisk with tree := t.move chainTemporary.names ["Work", "Chain.mak"] } := by
  have hparent : Disk.locate { pairDisk with tree := t } chainTarget.parent = .ok ["Work"] := rfl
  have hpath : ¬ Text.byteLength chainTarget.render > pathLimit := by decide
  have hname : ¬ Text.byteLength chainTarget.name > nameLimit := by decide
  have hends : (chainTarget.names.isEmpty || chainTarget.name = "..") = false := by decide
  have hnoFolder : t.isFolder (["Work"] ++ [chainTarget.name]) = false := by
    show t.isFolder ["Work", "Chain.mak"] = false
    rw [FileTree.isFolder, htarget]
  have hplace : renameTarget { pairDisk with tree := t } chainTarget =
      .ok ["Work", "Chain.mak"] := by
    simp only [renameTarget, hparent, hpath, hfolder, hends, hname, hnoFolder, if_false,
      Bool.false_eq_true]
    rfl
  have hnull : hasNull chainTarget = false := by decide
  simp only [renameFile, hnull, hplace]
  rfl

theorem writeText_chainTarget (script : String) :
    ∃ d', pairDisk.writeText chainTarget (Text.codePoints script) = (d', .ok ()) := by
  have hrefusal : ∀ step, pairDisk.refusal? step = none := fun _ => rfl
  have htemporary : pairDisk.temporaryFile chainTarget = chainTemporary := by decide
  have hnull : hasNull chainTemporary = false := by decide
  have hlocate : pairDisk.locate chainTemporary = .ok chainTemporary.names := by decide
  have habsent : pairDisk.tree.entry? chainTemporary.names = none := by decide
  have hcreate : pairDisk.createFile chainTemporary =
      .ok ({ pairDisk with tree := pairDisk.tree.set chainTemporary.names (.file []) },
        chainTemporary.names) := by
    simp only [createFile, hnull, hlocate, hrefusal, habsent]
    rfl
  have hsame : ∀ bytes l, l ≠ chainTemporary.names →
      FileTree.entry? ((pairDisk.tree.set chainTemporary.names (.file [])).set chainTemporary.names
        (.file bytes)) l = pairDisk.tree.entry? l := by
    intro bytes l hl
    rw [FileTree.entry?_set_of_ne _ _ hl, FileTree.entry?_set_of_ne _ _ hl]
  have hfolder := (hsame (Text.encode script) ["Work"] (by decide)).trans
    (by decide : _ = some Entry.folder)
  have htarget := (hsame (Text.encode script) ["Work", "Chain.mak"] (by decide)).trans
    (by decide : _ = none)
  simp only [writeText, htemporary, hcreate, fillText, Text.encodePoints_codePoints, fillFile,
    hrefusal, renameFile_chainTarget hfolder htarget]
  exact ⟨_, rfl⟩

theorem homeStands_pairDisk : pairDisk.HomeStands := by decide

/-- What they ask for. -/
def makefileArguments (solution : String) : Cli.Arguments where
  format := some .nmake
  solution := .text solution
  output := .text "Chain.mak"
  parameters := ["build.basedir=bin"]

theorem parse_makefileParts {solution : String} (h : Cli.IsBare solution) :
    Cli.parse (Cli.commandLine (makefileParts solution)) = .ok (makefileArguments solution) := by
  have hbare : ∀ p ∈ makefileParts solution, p.IsBare := by
    refine List.forall_mem_cons.2 ⟨by decide, List.forall_mem_cons.2 ⟨?_, by decide⟩⟩
    exact List.forall_mem_singleton.2 h
  have hformat : ∀ c ∈ Cli.choices (makefileParts solution), ∀ g ∈ c.format?, g = .nmake := by
    simp [makefileParts, Cli.choices, Cli.Part.choice?, Cli.Choice.format?]
  have hchosen : Cli.Arguments.chooseAll {} (Cli.choices (makefileParts solution)) =
      { format := some .nmake, solution := Cli.Value.ofWord solution
        output := Cli.Value.ofWord "Chain.mak" } := rfl
  rw [Cli.parse_commandLine hbare hformat, hchosen, Cli.ofWord_bare h, Cli.ofWord_bare (by decide)]
  rfl

theorem target?_makefileArguments (solution : String) :
    (makefileArguments solution).target? = some chainTarget := by
  have hpath : HostPath.parse "Chain.mak" = chainTarget := by decide
  simp [makefileArguments, Cli.Arguments.target?, hpath]

theorem outputFile?_makefileParts {solution : String} (h : Cli.IsBare solution) :
    Cli.outputFile? (Cli.commandLine (makefileParts solution)) = some chainTarget := by
  rw [Cli.outputFile?, parse_makefileParts h]
  exact target?_makefileArguments solution

theorem run_makefileParts :
    ∃ d', Cli.run pairDisk (Cli.commandLine (makefileParts "Chain.sln")) =
      (d', .printed { code := 0 }) := by
  have hread : Cli.readParameters (makefileArguments "Chain.sln").parameters =
      .ok [("build.basedir", .text "bin")] := by decide
  have hrequire : Format.nmake.require [("build.basedir", .text "bin")] = .ok () := by decide
  have hrequest : (makefileArguments "Chain.sln").request? = some chainRequest := by
    have hpath : HostPath.parse "Chain.sln" = ⟨.relative, ["Chain.sln"]⟩ := by decide
    simp only [makefileArguments, Cli.Arguments.request?, hpath]
    rfl
  obtain ⟨out, hrender, -⟩ := render_chain [("build.basedir", .text "bin")]
  obtain ⟨d', hwrite⟩ := writeText_chainTarget out.script
  have hwords : Cli.commandLine (makefileParts "Chain.sln") ≠ [] := List.cons_ne_nil _ _
  refine ⟨d', ?_⟩
  rw [Cli.run_eq_runArguments hwords (parse_makefileParts (by decide)),
    Cli.runArguments_eq_deliver rfl rfl hread hrequire hrequest, Cli.deliver,
    target?_makefileArguments]
  exact Cli.deliverTo_of_writeText hrender hwrite

end SolutionScript
