import Questionnaire.Proofs.Export.FileName
import Questionnaire.Proofs.Json.Reading
import Questionnaire.Proofs.Program.Step

/-! # Exports into a directory

An export that succeeds puts the page of a document at one place (`Program.exportPlace`) and changes
no other file. Before it makes the directory it checks that the name is free, but a path that leaves
a missing directory by two dots leads nowhere until then, so that an export that is not forced may
still replace a file (`Program.file?_of_exportForm`). In any case the page lies right in the
directory that the path leads to (`Program.putsInto_of_exportForm`), whatever the source of the
document is called. -/

namespace Questionnaire.Program

open Directory

variable {files : FileSystem (StateM Directory)} {world : World} {document root target : String}
  {out config title : Option String} {fidelity : Option InstanceFidelity} {force : Bool}
  {imported : Document} {options : ExportOptions} {page : StaticExport}
  {output written : List Output} {directory made next : Directory}

/-! ### Writing a page -/

/-- An export that succeeds makes its directory and writes the page into it. -/
theorem outcome_writeExport_eq_ok (hfiles : files.Lawful)
    (h : outcome (writeExport files root force page) output directory =
      ((.ok target, written), next)) :
    (force = false → directory.isThere (Path.join root page.fileName) = false) ∧
      ∃ made, directory.makeDirectories root = (.ok (), made) ∧
        made.writeFile (Path.join root page.fileName) page.html = .ok next := by
  obtain ⟨taken, _, _, hlook, hchecked⟩ := outcome_bind_eq_ok h
  obtain ⟨hthere, rfl⟩ := outcome_lift_eq_ok hlook
  rw [hfiles.isThere] at hthere
  cases hthere
  simp only at hchecked
  split at hchecked
  · obtain ⟨_, _, _, hthrow, -⟩ := outcome_bind_eq_ok hchecked
    cases hthrow
  · rename_i hfree
    obtain ⟨_, _, _, hmaking, hmade⟩ := outcome_bind_eq_ok hchecked
    obtain ⟨hmake, rfl⟩ := outcome_lift_eq_ok hmaking
    obtain ⟨_, _, _, hdone, hwriting⟩ := outcome_bind_eq_ok hmade
    obtain ⟨rfl, rfl, rfl⟩ := outcome_orFail_eq_ok hdone
    obtain ⟨_, _, _, hput, hwrote⟩ := outcome_bind_eq_ok hwriting
    obtain ⟨hwrite, rfl⟩ := outcome_lift_eq_ok hput
    obtain ⟨_, _, _, hlast, hend⟩ := outcome_bind_eq_ok hwrote
    obtain ⟨rfl, rfl, rfl⟩ := outcome_orFail_eq_ok hlast
    cases hend
    exact ⟨fun hforce => by simpa [hforce] using hfree, _, hfiles.made hmake, hfiles.written hwrite⟩

theorem outcome_writeExport_of_isThere (hfiles : files.Lawful)
    (hthere : directory.isThere (Path.join root page.fileName) = true) :
    outcome (writeExport files root false page) output directory =
      ((.error (.alreadyExists (Path.join root page.fileName)), output), directory) := by
  have hlook : valueIn (liftM (files.isThere (Path.join root page.fileName))) directory =
      .ok true := by
    rw [valueIn, outcome_lift, hfiles.isThere, hthere]
  exact ((looks_isThere hfiles _).outcome_bind_of_ok hlook output).trans rfl

/-- An export into a directory in memory succeeds if nothing is in its way. -/
theorem outcome_writeExport (hthere : directory.isThere (Path.join root page.fileName) = false)
    (hmade : directory.makeDirectories root = (.ok (), made))
    (hwritten : made.writeFile (Path.join root page.fileName) page.html = .ok next) :
    outcome (writeExport fileSystem root force page) output directory =
      ((.ok (Path.join root page.fileName), output), next) := by
  have hlook : valueIn (liftM (fileSystem.isThere (Path.join root page.fileName))) directory =
      .ok false := by
    rw [valueIn, outcome_lift, lawful_fileSystem.isThere, hthere]
  have hmake : outcome (liftM (fileSystem.makeDirectories root)) output directory =
      ((.ok (.ok ()), output), made) := by
    have hrun : (fileSystem.makeDirectories root).run directory =
      directory.makeDirectories root := rfl
    rw [outcome_lift, hrun, hmade]
  have hwrite : outcome (liftM (fileSystem.write (Path.join root page.fileName) page.html)) output
      made = ((.ok (.ok ()), output), next) := by
    rw [outcome_lift, run_write_of_ok hwritten]
  rw [writeExport, (looks_isThere lawful_fileSystem _).outcome_bind_of_ok hlook]
  simp only [Bool.false_and, Bool.false_eq_true, if_false]
  rw [outcome_bind_of_ok hmake, outcome_bind_of_ok (a := ()) rfl, outcome_bind_of_ok hwrite]
  rfl

/-! ### Exporting a document -/

/-- A text is imported from its file. -/
theorem valueIn_importFile {path : String} {text : Json} {levels : Nat}
    (hpath : isJsonPath path = true)
    (hread : directory.contentAt path = .ok (.text text.compact))
    (hsize : ¬ importLimit < (FileContent.text text.compact).size)
    (hlegible : text.Legible levels) (hlevels : levels < Json.nestingLimit)
    (himport : Document.importSource ⟨.ofJson text, false⟩
      (.ofList ((Path.fileName? path).getD [])) = .ok imported) :
    valueIn (importFile fileSystem path) directory = .ok imported := by
  have hcontent : valueIn (liftM (fileSystem.read path)) directory =
      .ok (.ok (.text text.compact)) := by
    show Except.ok (directory.contentAt path) = _
    rw [hread]
  have hsource : (FileContent.text text.compact).source = ⟨.ofJson text, false⟩ :=
    Json.readText_compact hlegible hlevels
  rw [valueIn, importFile]
  simp only [hpath, Bool.not_true, Bool.false_eq_true, if_false]
  rw [(looks_read lawful_fileSystem _).outcome_bind_of_ok hcontent,
    (looks_orFail _ _).outcome_bind_of_ok (a := .text text.compact) rfl]
  simp only [if_neg hsize, hsource, himport]
  rfl

/-- The place that a document is exported to, given the path of a directory. -/
def exportPlace (root : String) (document : Document) : List String :=
  destination [] (names root) ++ [exportFileName document.sourceName]

theorem exportPage_eq_ok {document : Document} {options : ExportOptions} {page : StaticExport}
    (h : document.exportPage options = .ok page) :
    page = ⟨exportFileName document.sourceName, document.pageHtml options⟩ := by
  rw [Document.exportPage] at h
  split at h
  · exact (Except.ok.inj h).symm
  · cases h

/-- An export that succeeds writes the page of a document. -/
theorem outcome_exportForm_eq_ok (hfiles : files.Lawful)
    (h : outcome (exportForm files world document out config fidelity title force) output
      directory = ((.ok (), written), next)) :
    ∃ imported root target between, ∃ options : ExportOptions,
      valueIn (importFile files document) directory = .ok imported ∧
      outputRoot world out = .ok root ∧
      outcome (writeExport files root force
        ⟨exportFileName imported.sourceName, imported.pageHtml options⟩) output directory =
          ((.ok target, between), next) := by
  rw [exportForm_eq] at h
  obtain ⟨imported, _, _, hlook, hdocument⟩ := outcome_bind_eq_ok h
  obtain ⟨himport, rfl, rfl⟩ := (looks_importFile hfiles document).eq_of_outcome hlook
  obtain ⟨options, _, _, hgiven, hoptions⟩ := outcome_bind_eq_ok hdocument
  obtain ⟨-, rfl, rfl⟩ := (looks_givenOptions hfiles config).eq_of_outcome hgiven
  obtain ⟨page, _, _, hexport, hpage⟩ := outcome_bind_eq_ok hoptions
  obtain ⟨hexported, rfl, rfl⟩ := outcome_orFail_eq_ok hexport
  obtain ⟨root, _, _, hout, hroot⟩ := outcome_bind_eq_ok hpage
  obtain ⟨houtput, rfl, rfl⟩ := outcome_orFail_eq_ok hout
  obtain ⟨target, between, _, hwrite, hprint⟩ := outcome_bind_eq_ok hroot
  cases hprint
  obtain rfl := exportPage_eq_ok hexported
  exact ⟨imported, root, target, between, _, himport, houtput, hwrite⟩

/-- What an export comes to is seen from the writing of its page. -/
theorem outcome_exportForm (hfiles : files.Lawful)
    (himport : valueIn (importFile files document) directory = .ok imported)
    (hgiven : valueIn (givenOptions files config) directory = .ok options)
    (hpage : imported.exportPage ⟨fidelity.getD options.fidelity, title <|> options.title⟩ =
      .ok page)
    (hroot : outputRoot world out = .ok root) :
    outcome (exportForm files world document out config fidelity title force) output directory =
      outcome (writeExport files root force page >>= fun target =>
        print ("Static form written to " ++ target)) output directory := by
  rw [exportForm_eq, (looks_importFile hfiles document).outcome_bind_of_ok himport,
    (looks_givenOptions hfiles config).outcome_bind_of_ok hgiven, hpage, hroot]
  rfl

/-- **Exports.** An export that succeeds puts the page of the document at its place and changes no
other file. Unless it is forced, the place is free or the path of the directory leaves a missing
directory. -/
theorem file?_of_exportForm (hfiles : files.Lawful) (hrooted : directory.Rooted)
    (h : outcome (exportForm files world document out config fidelity title force) output
      directory = ((.ok (), written), next)) :
    ∃ imported root, ∃ options : ExportOptions,
      valueIn (importFile files document) directory = .ok imported ∧
      outputRoot world out = .ok root ∧
      (∀ other, next.file? other = if other = exportPlace root imported then
        some (.text (imported.pageHtml options)) else directory.file? other) ∧
      (force = false → directory.file? (exportPlace root imported) ≠ none →
        directory.LeavesMissing [] (names root)) := by
  obtain ⟨imported, root, target, between, options, himport, hroot, hwrite⟩ :=
    outcome_exportForm_eq_ok hfiles h
  obtain ⟨hthere, made, hmade, hwritten⟩ := outcome_writeExport_eq_ok hfiles hwrite
  have hplain := plainName_exportFileName imported.sourceName
  refine ⟨imported, root, options, himport, hroot, fun other => ?_, fun hforce hfound => ?_⟩
  · obtain ⟨-, hfree, rfl⟩ := writeFile_eq_ok hwritten
    rw [names_join hplain, destination_concat _ _ hplain.ne_dots, ← exportPlace]
    rw [file?_put (by simp [exportPlace]), sameFiles_of_makeDirectories hmade other]
  · -- the name was looked for before the directory was made
    refine hrooted.leavesMissing_of_find? hplain (congrArg Prod.fst hmade) (hthere hforce) ?_
    intro hnone
    exact hfound (by rw [file?, exportPlace, hnone])

/-! ### Where an export goes -/

/-- An export that succeeds puts a file right into its directory. -/
theorem putsInto_of_exportForm (hfiles : files.Lawful)
    (himport : valueIn (importFile files document) directory = .ok imported)
    (hroot : outputRoot world out = .ok root)
    (h : outcome (exportForm files world document out config fidelity title force) output
      directory = ((.ok (), written), next)) :
    directory.PutsInto next root (exportFileName imported.sourceName) := by
  obtain ⟨found, place, target, between, options, hfound, hplace, hwrite⟩ :=
    outcome_exportForm_eq_ok hfiles h
  obtain rfl : imported = found := Except.ok.inj (himport.symm.trans hfound)
  obtain rfl : root = place := Except.ok.inj (hroot.symm.trans hplace)
  obtain ⟨-, made, hmade, hwritten⟩ := outcome_writeExport_eq_ok hfiles hwrite
  have hput := putsInto_of_writeFile (plainName_exportFileName _) hwritten
  exact (sameFiles_of_makeDirectories hmade).putsInto hput

/-- **Names of exported files.** Whatever the source of a document is called, the name of its export
is a stem of letters, digits, underscores and hyphens of ASCII, which is not empty and has no
hyphen at its ends, and then a fixed ending. So it holds no separator of paths, is no dot or two
dots and is not hidden, and an export that succeeds puts one file of this name right into the
directory that it is given and changes no other file. -/
theorem exportFileName_safe (sourceName : String) :
    (∃ stem, FileStem stem ∧ (exportFileName sourceName).toList = stem ++ "-form.html".toList) ∧
      '/' ∉ (exportFileName sourceName).toList ∧ '\\' ∉ (exportFileName sourceName).toList ∧
      exportFileName sourceName ≠ "." ∧ exportFileName sourceName ≠ ".." ∧
      (exportFileName sourceName).toList.head? ≠ some '.' ∧
      ∀ (files : FileSystem (StateM Directory)) (world : World) (document root : String)
        (out config title : Option String) (fidelity : Option InstanceFidelity) (force : Bool)
        (imported : Document) (output written : List Output) (directory next : Directory),
        files.Lawful → valueIn (importFile files document) directory = .ok imported →
        imported.sourceName = sourceName → outputRoot world out = .ok root →
        outcome (exportForm files world document out config fidelity title force) output
          directory = ((.ok (), written), next) →
        directory.PutsInto next root (exportFileName sourceName) := by
  have hplain := plainName_exportFileName sourceName
  obtain ⟨stem, hstem, hname⟩ := exists_fileStem sourceName
  refine ⟨⟨stem, hstem, hname⟩, hplain.no_slash, ?_, hplain.ne_dot, hplain.ne_dots,
    head?_exportFileName sourceName, ?_⟩
  · rw [hname]
    exact hstem.notMem (by decide) (by decide)
  · intro files world document root out config title fidelity force imported output written
      directory next hfiles himport hsource hroot h
    rw [← hsource]
    exact putsInto_of_exportForm hfiles himport hroot h

/-- The text of a document whose source has a name that leads elsewhere and is hidden. -/
def stashText : Json :=
  .object [("sourceName", .string "/etc/../-.-tax return..pdf"), ("pages", .array [.object []])]

/-- The document that the text is imported as. -/
def stashForm : Document := ⟨"/etc/../-.-tax return..pdf", [⟨"", 1, []⟩]⟩

/-- A directory with the text of the document. -/
def stashDirectory : Directory :=
  Directory.empty.put ["stash.json"] (.file (.text stashText.compact))

theorem exportFileName_safe_stash :
    exportFileName "/etc/../-.-tax return..pdf" = "tax-return-form.html" ∧
      ∃ written next, outcome (exportForm fileSystem ⟨"", none, ""⟩ "stash.json" (some "out") none
          none none false) [] stashDirectory = ((.ok (), written), next) ∧
        stashDirectory.PutsInto next "out" "tax-return-form.html" := by
  have hname : exportFileName "/etc/../-.-tax return..pdf" = "tax-return-form.html" := by
    decide +kernel
  have hends : "stash.json".endsWith "/" = false := by decide +kernel
  have hread : stashDirectory.contentAt "stash.json" = .ok (.text stashText.compact) := by
    rw [contentAt]
    simp only [hends]
    rfl
  have hlegible : stashText.Legible 3 := by simp [stashText]
  have himport := @valueIn_importFile stashForm stashDirectory _ _ _ (by decide) hread
    (by decide +kernel) hlegible (by decide) rfl
  have hsource : stashForm.sourceName = "/etc/../-.-tax return..pdf" := rfl
  have hroot : outputRoot ⟨"", none, ""⟩ (some "out") = .ok "out" := rfl
  have hpage : stashForm.exportPage .standard =
      .ok ⟨"tax-return-form.html", stashForm.pageHtml .standard⟩ := by
    rw [← hname]
    rfl
  have hout : "out/tax-return-form.html".endsWith "/" = false := by decide +kernel
  have hthere : stashDirectory.isThere (Path.join "out" "tax-return-form.html") = false := by
    decide +kernel
  have hmade : stashDirectory.makeDirectories "out" =
    (.ok (), stashDirectory.put ["out"] .directory) := rfl
  obtain ⟨next, hwritten⟩ : ∃ next, (stashDirectory.put ["out"] .directory).writeFile
      (Path.join "out" "tax-return-form.html") (stashForm.pageHtml .standard) = .ok next := by
    have hjoin : Path.join "out" "tax-return-form.html" = "out/tax-return-form.html" := by
      decide +kernel
    rw [hjoin, writeFile]
    simp only [hout]
    exact ⟨_, rfl⟩
  have hwrite := @outcome_writeExport "out" false
    ⟨"tax-return-form.html", stashForm.pageHtml .standard⟩ [] _ _ _ hthere hmade hwritten
  have hrun := (@outcome_exportForm fileSystem ⟨"", none, ""⟩ "stash.json" "out" (some "out") none
    none none false stashForm .standard _ [] stashDirectory lawful_fileSystem himport rfl hpage
    hroot).trans (outcome_bind_of_ok hwrite)
  obtain ⟨-, -, -, -, -, -, hputs⟩ := exportFileName_safe "/etc/../-.-tax return..pdf"
  have hplaced := hputs _ _ _ _ _ _ _ _ _ _ _ _ _ _ lawful_fileSystem himport hsource hroot hrun
  rw [hname] at hplaced
  exact ⟨hname, _, _, hrun, hplaced⟩

end Questionnaire.Program
