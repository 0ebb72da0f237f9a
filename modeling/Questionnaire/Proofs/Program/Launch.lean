import Questionnaire.Proofs.Program.Export

/-! # Launches of the program

The program is launched in a directory again and again (`Launch.after`). A launch that fails changes
no file, and a submission is made only of answers that are reported to be valid. An export
changes one file, the one that it is named after, and unless it is forced that is a new one, except
in one case: an export to a path that leaves a missing directory by two dots replaces a file that
stands where the path leads (`Launch.files_of_run`, `Launch.exists_replaced_file`). -/

namespace Questionnaire

open Directory

namespace Program

variable {files : FileSystem (StateM Directory)} {world : World} {document : String}
  {output : List Output} {directory : Directory}

/-! ### Submissions -/

/-! Answers in files that cannot be loaded are neither validated nor submitted. -/

theorem outcome_validate_of_not_loaded (hfiles : files.Lawful) {answers : Option String}
    {error : ProgramError}
    (h : valueIn (loadSession files document answers) directory = .error error) :
    outcome (validate files document answers) output directory =
      ((.error error, output), directory) :=
  (looks_loadSession hfiles document answers).outcome_bind_of_error h output

theorem outcome_submit_of_not_loaded (hfiles : files.Lawful) {answers : String}
    {error : ProgramError}
    (h : valueIn (loadSession files document (some answers)) directory = .error error)
    (format : SubmitFormat) (out : Option String) :
    outcome (submit files world document answers format out) output directory =
      ((.error error, output), directory) :=
  (looks_loadSession hfiles document _).outcome_bind_of_error h output

theorem outcome_validate_of_valid (hfiles : files.Lawful) {answers : Option String}
    {session : Session} (h : valueIn (loadSession files document answers) directory = .ok session)
    (hvalid : session.validate.isValid = true) :
    outcome (validate files document answers) output directory =
      ((.ok (), output ++ [.standard "Validation result: valid"]), directory) := by
  have hlines : reportLines session.validate = [] := by rw [reportLines, if_pos hvalid]
  rw [validate, (looks_loadSession hfiles document answers).outcome_bind_of_ok h]
  simp only [hvalid, hlines, if_true, Bool.not_true, Bool.false_eq_true, if_false]
  rfl

theorem outcome_validate_of_invalid (hfiles : files.Lawful) {answers : Option String}
    {session : Session} (h : valueIn (loadSession files document answers) directory = .ok session)
    (hinvalid : session.validate.isValid = false) :
    outcome (validate files document answers) output directory =
      ((.error .invalidAnswers, output ++ .standard "Validation result: invalid" ::
        (reportLines session.validate).map .standard), directory) := by
  have hprint : outcome (print "Validation result: invalid") output directory =
    ((.ok (), output ++ [.standard "Validation result: invalid"]), directory) := rfl
  rw [validate, (looks_loadSession hfiles document answers).outcome_bind_of_ok h]
  simp only [hinvalid, Bool.not_false, if_true, Bool.false_eq_true, if_false]
  show outcome (print "Validation result: invalid" >>= _) output directory = _
  rw [outcome_bind_of_ok hprint, outcome_bind_of_ok (outcome_forM_print _ _ _),
    List.append_assoc, List.singleton_append]
  rfl

/-- What is reported of invalid answers is reported instead of a submission of them. -/
theorem outcome_submit_of_invalid (hfiles : files.Lawful) {answers : String} {session : Session}
    (h : valueIn (loadSession files document (some answers)) directory = .ok session)
    (hinvalid : session.validate.isValid = false) (format : SubmitFormat) (out : Option String) :
    outcome (submit files world document answers format out) output directory =
      ((.error .invalidAnswers, output ++ .diagnostic "Submission rejected:" ::
        (reportLines session.validate).map .standard), directory) := by
  have hmodify : outcome (modify (· ++ [.diagnostic "Submission rejected:"])) output directory =
    ((.ok (), output ++ [.diagnostic "Submission rejected:"]), directory) := rfl
  rw [submit, (looks_loadSession hfiles document _).outcome_bind_of_ok h]
  simp only [hinvalid, Bool.not_false, if_true]
  rw [outcome_bind_of_ok hmodify, outcome_bind_of_ok (outcome_forM_print _ _ _),
    List.append_assoc, List.singleton_append]
  exact (looks_throw _).outcome_bind_of_error rfl _

end Program

/-! ### Launches -/

/-- A launch of the program: the machine that gives access to files, what else the program depends
on, and its arguments. -/
structure Launch where
  files : FileSystem (StateM Directory)
  world : World
  arguments : List String

namespace Launch

/-- How the program ends. -/
inductive Ending where
  /-- The arguments are answered with the usage of the program. -/
  | refused
  | done (output : List Output)
  | failed (output : List Output) (error : ProgramError)

/-- How the program ends in a directory, and the directory then. -/
def run (launch : Launch) (directory : Directory) : Ending × Directory :=
  match Invocation.ofArguments? launch.arguments with
  | none => (.refused, directory)
  | some invocation =>
    match (Program.run launch.files launch.world invocation).run directory with
    | ((output, none), next) => (.done output, next)
    | ((output, some error), next) => (.failed output error, next)

/-- The directory after some launches. -/
def after (start : Directory) (launches : List Launch) : Directory :=
  launches.foldl (fun directory launch => (launch.run directory).2) start

variable {launch : Launch} {invocation : Invocation} {directory next : Directory}
  {output : List Output}

theorem run_of_outcome_ok (h : Invocation.ofArguments? launch.arguments = some invocation)
    (hok : Program.outcome (Program.carryOut launch.files launch.world invocation) [] directory =
      ((.ok (), output), next)) : launch.run directory = (.done output, next) := by
  rw [Program.outcome] at hok
  simp only [run, h, Program.run, StateT.run_bind, hok]
  rfl

theorem run_of_outcome_error (h : Invocation.ofArguments? launch.arguments = some invocation)
    {error : ProgramError}
    (herror : Program.outcome (Program.carryOut launch.files launch.world invocation) [] directory =
      ((.error error, output), next)) : launch.run directory = (.failed output error, next) := by
  rw [Program.outcome] at herror
  simp only [run, h, Program.run, StateT.run_bind, herror]
  rfl

theorem run_snd (h : Invocation.ofArguments? launch.arguments = some invocation) :
    (launch.run directory).2 =
      (Program.outcome (Program.carryOut launch.files launch.world invocation) [] directory).2 := by
  rcases hout : Program.outcome (Program.carryOut launch.files launch.world invocation) []
    directory with ⟨⟨error | value, written⟩, later⟩
  · rw [run_of_outcome_error h hout]
  · rw [run_of_outcome_ok h hout]

/-- How a launch ends is seen from what it carries out. -/
theorem outcome_of_run_eq_done (h : Invocation.ofArguments? launch.arguments = some invocation)
    (hdone : launch.run directory = (.done output, next)) :
    Program.outcome (Program.carryOut launch.files launch.world invocation) [] directory =
      ((.ok (), output), next) := by
  rcases hout : Program.outcome (Program.carryOut launch.files launch.world invocation) []
    directory with ⟨⟨error | value, written⟩, later⟩
  · rw [run_of_outcome_error h hout] at hdone
    cases hdone
  · rw [run_of_outcome_ok h hout] at hdone
    cases hdone
    rfl

/-- A launch that does not succeed changes no file. -/
theorem sameFiles_of_run (hfiles : launch.files.Lawful)
    (h : ∀ output, (launch.run directory).1 ≠ .done output) :
    directory.SameFiles (launch.run directory).2 := by
  cases hread : Invocation.ofArguments? launch.arguments with
  | none =>
      rw [run, hread]
      exact .refl directory
  | some invocation =>
      have hguarded := Program.guarded_carryOut hfiles launch.world invocation
      rcases hout : Program.outcome (Program.carryOut launch.files launch.world invocation) []
        directory with ⟨⟨error | value, written⟩, later⟩
      · rw [run_of_outcome_error hread hout]
        exact hguarded.sameFiles hout
      · rw [run_of_outcome_ok hread hout] at h
        exact absurd rfl (h written)

theorem rooted_run (hfiles : launch.files.Lawful) (h : directory.Rooted) :
    (launch.run directory).2.Rooted := by
  cases hread : Invocation.ofArguments? launch.arguments with
  | none => rwa [run, hread]
  | some invocation =>
      rw [run_snd hread]
      exact (Program.guarded_carryOut hfiles launch.world invocation).rooted [] directory h

theorem rooted_after {start : Directory} (h : start.Rooted) {launches : List Launch}
    (hfiles : ∀ launch ∈ launches, launch.files.Lawful) : (after start launches).Rooted := by
  induction launches generalizing start with
  | nil => exact h
  | cons launch rest ih =>
      obtain ⟨hlaunch, hrest⟩ := List.forall_mem_cons.1 hfiles
      exact ih (rooted_run hlaunch h) hrest

/-- **Launches.** In a directory in which the program has been launched any number of times, a
launch that fails changes no file. An export that is not forced, if it succeeds, adds the page of
the document under the name of its source and changes no other file; where a file stood before,
the path of the directory leaves a missing directory. Answers are submitted only if they are
reported to be valid, and else nothing changes and only what is wrong with them is written. -/
theorem files_of_run {start : Directory} (hstart : start.Rooted) {launches : List Launch}
    (hlaunches : ∀ launch ∈ launches, launch.files.Lawful) (hfiles : launch.files.Lawful)
    (hdirectory : after start launches = directory) :
    ((∀ output, (launch.run directory).1 ≠ .done output) →
      directory.SameFiles (launch.run directory).2) ∧
    (∀ document out config fidelity title output next,
      Invocation.ofArguments? launch.arguments =
          some (.exportForm document out config fidelity title false) →
        launch.run directory = (.done output, next) →
        ∃ imported root, ∃ options : ExportOptions,
          Program.valueIn (Program.importFile launch.files document) directory = .ok imported ∧
          Program.outputRoot launch.world out = .ok root ∧
          (∀ place, next.file? place = if place = Program.exportPlace root imported then
            some (.text (imported.pageHtml options)) else directory.file? place) ∧
          (directory.file? (Program.exportPlace root imported) ≠ none →
            directory.LeavesMissing [] (names root))) ∧
    (∀ document answers format out,
      Invocation.ofArguments? launch.arguments = some (.submit document answers format out) →
      ∀ check : Launch, check.files = launch.files →
        Invocation.ofArguments? check.arguments = some (.validate document (some answers)) →
        check.run directory = (.done [.standard "Validation result: valid"], directory) ∨
        (∃ error, check.run directory = (.failed [] error, directory) ∧
          launch.run directory = (.failed [] error, directory)) ∨
        ∃ lines, check.run directory =
            (.failed (.standard "Validation result: invalid" :: lines) .invalidAnswers,
              directory) ∧
          launch.run directory =
            (.failed (.diagnostic "Submission rejected:" :: lines) .invalidAnswers,
              directory)) := by
  subst hdirectory
  refine ⟨sameFiles_of_run hfiles, ?_, ?_⟩
  · intro document out config fidelity title output next harguments hdone
    obtain ⟨imported, root, options, himport, hroot, hplace, hfree⟩ :=
      Program.file?_of_exportForm hfiles (rooted_after hstart hlaunches)
        (outcome_of_run_eq_done harguments hdone)
    exact ⟨imported, root, options, himport, hroot, hplace, hfree rfl⟩
  · intro document answers format out harguments check hsame hcheck
    cases hload : Program.valueIn (Program.loadSession launch.files document (some answers))
      (after start launches) with
    | error error =>
        refine .inr (.inl ⟨error, run_of_outcome_error hcheck ?_,
          run_of_outcome_error harguments ?_⟩)
        · rw [hsame]
          exact Program.outcome_validate_of_not_loaded hfiles hload
        · exact Program.outcome_submit_of_not_loaded hfiles hload format out
    | ok session =>
        cases hvalid : session.validate.isValid with
        | true =>
            refine .inl (run_of_outcome_ok hcheck ?_)
            rw [hsame]
            exact Program.outcome_validate_of_valid hfiles hload hvalid
        | false =>
            refine .inr (.inr ⟨(Program.reportLines session.validate).map .standard,
              run_of_outcome_error hcheck ?_, run_of_outcome_error harguments ?_⟩)
            · rw [hsame]
              exact Program.outcome_validate_of_invalid hfiles hload hvalid
            · exact Program.outcome_submit_of_invalid hfiles hload hvalid format out

/-! ### A file that is replaced -/

/-- The text of a document with one page. -/
def claimText : Json :=
  .object [("sourceName", .string "claim.pdf"), ("pages", .array [.object []])]

/-- The document that the text is imported as. -/
def claimForm : Document := ⟨"claim.pdf", [⟨"", 1, []⟩]⟩

/-- A directory with the text of a document and an older export of it. -/
def claimDirectory : Directory :=
  (Directory.empty.put ["claim.json"] (.file (.text claimText.compact))).put ["claim-form.html"]
    (.file (.text "old"))

/-- The directory after an export in place of the older one. -/
def claimReplaced : Directory :=
  (claimDirectory.put ["new"] .directory).put ["claim-form.html"]
    (.file (.text (claimForm.pageHtml .standard)))

/-- The export of the document into the directory with a path. -/
def exportClaim (out : String) : Launch :=
  ⟨fileSystem, ⟨"", none, ""⟩, ["export", "--document", "claim.json", "--out", out]⟩

theorem rooted_claimDirectory : claimDirectory.Rooted :=
  (rooted_empty.put (by decide) rfl (by rintro ⟨⟩)).put (by decide) rfl (by rintro ⟨⟩)

theorem importFile_claim :
    Program.valueIn (Program.importFile fileSystem "claim.json") claimDirectory =
      .ok claimForm := by
  have hends : "claim.json".endsWith "/" = false := by decide +kernel
  have hread : claimDirectory.contentAt "claim.json" = .ok (.text claimText.compact) := by
    rw [contentAt]
    simp only [hends]
    rfl
  have hlegible : claimText.Legible 3 := by simp [claimText]
  exact Program.valueIn_importFile (by decide) hread (by decide +kernel) hlegible (by decide) rfl

/-- The page that the document is exported as. -/
def claimPage : StaticExport :=
  ⟨exportFileName claimForm.sourceName, claimForm.pageHtml .standard⟩

theorem outcome_exportClaim {out : String}
    (hroot : Program.outputRoot ⟨"", none, ""⟩ (some out) = .ok out) :
    Program.outcome (Program.carryOut fileSystem ⟨"", none, ""⟩
        (.exportForm "claim.json" (some out) none none none false)) [] claimDirectory =
      Program.outcome (Program.writeExport fileSystem out false claimPage >>= fun target =>
        Program.print ("Static form written to " ++ target)) [] claimDirectory :=
  @Program.outcome_exportForm fileSystem ⟨"", none, ""⟩ "claim.json" out (some out) none none none
    false claimForm .standard claimPage [] claimDirectory lawful_fileSystem importFile_claim rfl
    (if_pos rfl) hroot

/-- An export into the directory itself is refused. -/
theorem run_exportClaim_dot : ∃ output error,
    (exportClaim ".").run claimDirectory = (.failed output error, claimDirectory) := by
  have harguments : Invocation.ofArguments? (exportClaim ".").arguments =
      some (.exportForm "claim.json" (some ".") none none none false) := by decide +kernel
  have hthere : claimDirectory.isThere (Path.join "." claimPage.fileName) = true := by
    decide +kernel
  have hrefused := @Program.outcome_writeExport_of_isThere fileSystem "." claimPage [] _
    lawful_fileSystem hthere
  exact ⟨_, _, run_of_outcome_error harguments
    ((outcome_exportClaim rfl).trans (Program.outcome_bind_of_error hrefused))⟩

theorem ofArguments?_exportClaim_missing :
    Invocation.ofArguments? (exportClaim "new/..").arguments =
      some (.exportForm "claim.json" (some "new/..") none none none false) := by
  decide +kernel

/-- An export by way of a missing directory is not. -/
theorem run_exportClaim_missing : ∃ output,
    (exportClaim "new/..").run claimDirectory = (.done output, claimReplaced) := by
  have htarget : Path.join "new/.." claimPage.fileName = "new/../claim-form.html" := by
    decide +kernel
  have hends : "new/../claim-form.html".endsWith "/" = false := by decide +kernel
  have hthere : claimDirectory.isThere (Path.join "new/.." claimPage.fileName) = false := by
    decide +kernel
  have hmade : claimDirectory.makeDirectories "new/.." =
    (.ok (), claimDirectory.put ["new"] .directory) := rfl
  have hwritten : (claimDirectory.put ["new"] .directory).writeFile
      (Path.join "new/.." claimPage.fileName) claimPage.html = .ok claimReplaced := by
    rw [htarget, writeFile]
    simp only [hends]
    rfl
  have hwrite := @Program.outcome_writeExport "new/.." false claimPage [] _ _ _ hthere hmade
    hwritten
  exact ⟨_, run_of_outcome_ok ofArguments?_exportClaim_missing
    ((outcome_exportClaim rfl).trans (Program.outcome_bind_of_ok hwrite))⟩

theorem files_of_run_claim :
    claimDirectory.Rooted ∧ fileSystem.Lawful ∧
      after claimDirectory [exportClaim "."] = claimDirectory ∧
      ∃ output next, (exportClaim "new/..").run claimDirectory = (.done output, next) ∧
        (∃ options, next.file? ["claim-form.html"] = some (.text (claimForm.pageHtml options))) ∧
        next.file? ["claim.json"] = claimDirectory.file? ["claim.json"] ∧
        claimDirectory.LeavesMissing [] (names "new/..") := by
  obtain ⟨refusal, error, hrefused⟩ := run_exportClaim_dot
  obtain ⟨output, hdone⟩ := run_exportClaim_missing
  have hafter : after claimDirectory [exportClaim "."] = claimDirectory := by
    rw [after, List.foldl_cons, hrefused, List.foldl_nil]
  have hplace : Program.exportPlace "new/.." claimForm = ["claim-form.html"] := by decide
  obtain ⟨-, hexports, -⟩ := @files_of_run (exportClaim "new/..") claimDirectory claimDirectory
    rooted_claimDirectory [exportClaim "."]
    (List.forall_mem_singleton.2 lawful_fileSystem) lawful_fileSystem hafter
  obtain ⟨imported, root, options, himport, hroot, hfiles, hmissing⟩ :=
    hexports _ _ _ _ _ _ _ ofArguments?_exportClaim_missing hdone
  obtain rfl := Except.ok.inj (importFile_claim.symm.trans himport)
  obtain rfl : "new/.." = root := Except.ok.inj hroot
  rw [hplace] at hfiles hmissing
  refine ⟨rooted_claimDirectory, lawful_fileSystem, hafter, output, _, hdone,
    ⟨options, by rw [hfiles, if_pos rfl]⟩, by rw [hfiles, if_neg (by decide)], hmissing ?_⟩
  exact Option.some_ne_none (FileContent.text "old")

theorem pageHtml_ne_old (document : Document) (options : ExportOptions) :
    document.pageHtml options ≠ "old" := by
  obtain ⟨rest, hpage⟩ : ∃ rest : String, document.pageHtml options =
      "<!DOCTYPE html>" ++ rest := by
    simp only [Document.pageHtml, joinLines, pageHead, List.map_cons, String.join_cons,
      String.append_assoc]
    exact ⟨_, rfl⟩
  intro h
  have hhead := congrArg (·.toList.head?) (hpage.symm.trans h)
  simp at hhead

/-- So an export that is not forced does not always leave the files as they are that exist. -/
theorem exists_replaced_file : ∃ (launch : Launch) (start next : Directory) (output : List Output)
    (place : List String), start.Rooted ∧ launch.files.Lawful ∧
      Invocation.ofArguments? launch.arguments =
        some (.exportForm "claim.json" (some "new/..") none none none false) ∧
      launch.run start = (.done output, next) ∧
      start.file? place = some (.text "old") ∧ next.file? place ≠ start.file? place := by
  obtain ⟨output, hdone⟩ := run_exportClaim_missing
  refine ⟨_, _, _, output, ["claim-form.html"], rooted_claimDirectory, lawful_fileSystem,
    ofArguments?_exportClaim_missing, hdone, rfl, fun hsame => ?_⟩
  have hpage : claimReplaced.file? ["claim-form.html"] =
    some (.text (claimForm.pageHtml .standard)) := rfl
  rw [hpage] at hsame
  exact pageHtml_ne_old _ _ (FileContent.text.inj (Option.some.inj hsame))

end Launch

end Questionnaire
