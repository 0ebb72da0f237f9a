import Questionnaire.Program.Run
import Questionnaire.Proofs.Files.Directory

/-! # Steps of the program on a directory

What a step of the program makes of a directory (`Program.outcome`), on a machine that may refuse
any operation but changes no file when it does (`FileSystem.Lawful`). Most steps of the program only
look at the files (`Program.Looks`), and the one that writes comes last: what precedes it keeps the
files (`Program.KeepsFiles`) and what follows cannot fail (`Program.Finishes`). So a command that
fails changes no file (`Program.guarded_carryOut`). -/

namespace Questionnaire

open Directory

/-- Whether a machine gives access to a directory in such a way that what it refuses changes no
file. It may refuse what would be possible, and leave a part of the directories when it refuses to
make the others. -/
structure FileSystem.Lawful (files : FileSystem (StateM Directory)) : Prop where
  read : ∀ path directory, ((files.read path).run directory).2 = directory
  isThere : ∀ path directory,
    (files.isThere path).run directory = (directory.isThere path, directory)
  made : ∀ {path directory next},
    (files.makeDirectories path).run directory = (.ok (), next) →
      directory.makeDirectories path = (.ok (), next)
  unmade : ∀ {path directory error next},
    (files.makeDirectories path).run directory = (.error error, next) →
      directory.SameFiles next ∧ (directory.Rooted → next.Rooted)
  written : ∀ {path content directory next},
    (files.write path content).run directory = (.ok (), next) →
      directory.writeFile path content = .ok next
  unwritten : ∀ {path content directory error next},
    (files.write path content).run directory = (.error error, next) → next = directory

/-- A directory in memory refuses only what is impossible. -/
theorem Directory.lawful_fileSystem : Directory.fileSystem.Lawful where
  read _ _ := rfl
  isThere _ _ := rfl
  made h := h
  unmade {path directory error next} h := by
    obtain rfl : (directory.makeDirectories path).2 = next := congrArg Prod.snd h
    exact ⟨sameFiles_makeBelow _ _ _, fun hrooted => hrooted.makeBelow (find?_nil _) _⟩
  written {path content directory next} h := by
    cases hwrite : directory.writeFile path content with
    | ok after =>
        rw [run_write_of_ok hwrite] at h
        rw [(Prod.mk.inj h).2]
    | error problem =>
        rw [run_write_of_error hwrite] at h
        cases h
  unwritten {path content directory error next} h := by
    cases hwrite : directory.writeFile path content with
    | ok after =>
        rw [run_write_of_ok hwrite] at h
        cases h
    | error problem =>
        rw [run_write_of_error hwrite] at h
        exact (Prod.mk.inj h).2.symm

namespace Program

variable {α β : Type} {step : Step (StateM Directory) α} {next : α → Step (StateM Directory) β}
  {output written : List Output} {directory later : Directory}

/-! ### Outcomes -/

/-- What a step gives, the output after it, and the directory after it. -/
def outcome (step : Step (StateM Directory) α) (output : List Output) (directory : Directory) :
    (Except ProgramError α × List Output) × Directory :=
  (step.run.run output).run directory

theorem outcome_bind_of_ok {a : α} (h : outcome step output directory = ((.ok a, written), later)) :
    outcome (step >>= next) output directory = outcome (next a) written later := by
  rw [outcome] at h
  simp only [outcome, ExceptT.run_bind, StateT.run_bind, h]
  rfl

theorem outcome_bind_of_error {error : ProgramError}
    (h : outcome step output directory = ((.error error, written), later)) :
    outcome (step >>= next) output directory = ((.error error, written), later) := by
  rw [outcome] at h
  simp only [outcome, ExceptT.run_bind, StateT.run_bind, h]
  rfl

/-- A step that gives a value goes on from a value of its first part. -/
theorem outcome_bind_eq_ok {b : β}
    (h : outcome (step >>= next) output directory = ((.ok b, written), later)) :
    ∃ a between middle, outcome step output directory = ((.ok a, between), middle) ∧
      outcome (next a) between middle = ((.ok b, written), later) := by
  rcases hstep : outcome step output directory with ⟨⟨error | a, between⟩, middle⟩
  · rw [outcome_bind_of_error hstep] at h
    cases h
  · rw [outcome_bind_of_ok hstep] at h
    exact ⟨a, between, middle, rfl, h⟩

theorem outcome_orFail_eq_ok {ε : Type} {error : ε → ProgramError} {result : Except ε α} {a : α}
    (h : outcome (orFail error result) output directory = ((.ok a, written), later)) :
    result = .ok a ∧ output = written ∧ directory = later := by
  cases result with
  | error e => cases h
  | ok value =>
      cases h
      exact ⟨rfl, rfl, rfl⟩

/-- An operation of a machine on files. -/
theorem outcome_lift (action : StateM Directory α) (output : List Output) (directory : Directory) :
    outcome (liftM action) output directory =
      ((.ok (action.run directory).1, output), (action.run directory).2) := rfl

theorem outcome_lift_eq_ok {action : StateM Directory α} {a : α}
    (h : outcome (liftM action) output directory = ((.ok a, written), later)) :
    action.run directory = (a, later) ∧ output = written := by
  rw [outcome_lift] at h
  obtain ⟨hvalue, rfl⟩ := Prod.mk.inj h
  cases hvalue
  exact ⟨rfl, rfl⟩

theorem outcome_forM_print (lines : List String) (output : List Output) (directory : Directory) :
    outcome (lines.forM print) output directory =
      ((.ok (), output ++ lines.map .standard), directory) := by
  induction lines generalizing output with
  | nil => rw [List.map_nil, List.append_nil]; rfl
  | cons line rest ih =>
      have hprint : outcome (print line) output directory =
        ((.ok (), output ++ [.standard line]), directory) := rfl
      have hforM : (line :: rest).forM (print (m := StateM Directory)) =
          (print line >>= fun _ => rest.forM print) := rfl
      rw [hforM, outcome_bind_of_ok hprint, ih, List.map_cons, List.append_assoc,
        List.singleton_append]

/-! ### Looking -/

/-- What a step gives if nothing has been written before. -/
def valueIn (step : Step (StateM Directory) α) (directory : Directory) : Except ProgramError α :=
  (outcome step [] directory).1.1

/-- Whether a step only looks at a directory: it writes nothing and leaves the directory as it
is. -/
def Looks (step : Step (StateM Directory) α) : Prop :=
  ∀ output directory, outcome step output directory = ((valueIn step directory, output), directory)

theorem looks_pure (a : α) : Looks (pure a) := fun _ _ => rfl

theorem looks_throw (error : ProgramError) : Looks (α := α) (throw error) := fun _ _ => rfl

theorem looks_orFail {ε : Type} (error : ε → ProgramError) (result : Except ε α) :
    Looks (orFail error result) := by
  cases result with
  | ok a => exact looks_pure a
  | error e => exact looks_throw (error e)

theorem Looks.outcome_bind_of_ok (hstep : Looks step) {a : α} (h : valueIn step directory = .ok a)
    (output : List Output) :
    outcome (step >>= next) output directory = outcome (next a) output directory :=
  Program.outcome_bind_of_ok (by rw [hstep, h])

theorem Looks.outcome_bind_of_error (hstep : Looks step) {error : ProgramError}
    (h : valueIn step directory = .error error) (output : List Output) :
    outcome (step >>= next) output directory = ((.error error, output), directory) :=
  Program.outcome_bind_of_error (by rw [hstep, h])

theorem Looks.bind (hstep : Looks step) (hnext : ∀ a, Looks (next a)) : Looks (step >>= next) := by
  intro output directory
  cases h : valueIn step directory with
  | error error => rw [valueIn, hstep.outcome_bind_of_error h, hstep.outcome_bind_of_error h]
  | ok a => rw [valueIn, hstep.outcome_bind_of_ok h, hstep.outcome_bind_of_ok h, hnext a, valueIn]

/-- A check that may end the program and what comes after it. -/
theorem looks_check {condition : Prop} [Decidable condition] {error : ProgramError}
    {next : Unit → Step (StateM Directory) α} (hnext : ∀ u, Looks (next u)) :
    Looks (if condition then throw error >>= next else next ()) := by
  split
  · exact (looks_throw error).bind hnext
  · exact hnext ()

/-- What a step that only looks makes of a directory is seen from the value that it gives. -/
theorem Looks.eq_of_outcome (hstep : Looks step) {result : Except ProgramError α}
    (h : outcome step output directory = ((result, written), later)) :
    valueIn step directory = result ∧ output = written ∧ directory = later := by
  rw [hstep] at h
  cases h
  exact ⟨rfl, rfl, rfl⟩

/-! ### Keeping files -/

/-- Whether a step keeps a directory rooted. -/
def KeepsRooted (step : Step (StateM Directory) α) : Prop :=
  ∀ output directory, directory.Rooted → (outcome step output directory).2.Rooted

/-- Whether a step changes no file, whatever comes of it. -/
structure KeepsFiles (step : Step (StateM Directory) α) : Prop where
  sameFiles : ∀ output (directory : Directory),
    directory.SameFiles (outcome step output directory).2
  rooted : KeepsRooted step

/-- Whether a step changes no file if it fails. -/
structure Guarded (step : Step (StateM Directory) α) : Prop where
  sameFiles : ∀ {output} {directory : Directory} {error written later},
    outcome step output directory = ((.error error, written), later) → directory.SameFiles later
  rooted : KeepsRooted step

/-- Whether a step gives a value and leaves the directory as it is. -/
def Finishes (step : Step (StateM Directory) α) : Prop :=
  ∀ output directory, ∃ a written, outcome step output directory = ((.ok a, written), directory)

theorem KeepsRooted.bind (hstep : KeepsRooted step) (hnext : ∀ a, KeepsRooted (next a)) :
    KeepsRooted (step >>= next) := by
  intro output directory hrooted
  have hmiddle := hstep output directory hrooted
  rcases hfirst : outcome step output directory with ⟨⟨problem | a, between⟩, middle⟩
  · rw [hfirst] at hmiddle
    rwa [outcome_bind_of_error hfirst]
  · rw [hfirst] at hmiddle
    rw [outcome_bind_of_ok hfirst]
    exact hnext a between middle hmiddle

theorem KeepsFiles.guarded (h : KeepsFiles step) : Guarded step where
  sameFiles {output directory error written later} hstep := by
    have hsame := h.sameFiles output directory
    rwa [hstep] at hsame
  rooted := h.rooted

theorem Looks.keepsFiles (h : Looks step) : KeepsFiles step where
  sameFiles output directory := by rw [h]; exact .refl _
  rooted output directory hrooted := by rwa [h]

theorem Finishes.keepsFiles (h : Finishes step) : KeepsFiles step where
  sameFiles output directory := by
    obtain ⟨a, written, hstep⟩ := h output directory
    rw [hstep]
    exact .refl _
  rooted output directory hrooted := by
    obtain ⟨a, written, hstep⟩ := h output directory
    rwa [hstep]

theorem Looks.guarded (h : Looks step) : Guarded step := h.keepsFiles.guarded

theorem Finishes.guarded (h : Finishes step) : Guarded step := h.keepsFiles.guarded

/-- What comes before a step that is guarded need only keep the files. -/
theorem KeepsFiles.bind_guarded (hstep : KeepsFiles step) (hnext : ∀ a, Guarded (next a)) :
    Guarded (step >>= next) where
  sameFiles {output directory error written later} h := by
    have hsame := hstep.sameFiles output directory
    rcases hfirst : outcome step output directory with ⟨⟨problem | a, between⟩, middle⟩
    · rw [outcome_bind_of_error hfirst] at h
      rw [hfirst] at hsame
      cases h
      exact hsame
    · rw [outcome_bind_of_ok hfirst] at h
      rw [hfirst] at hsame
      exact hsame.trans ((hnext a).sameFiles h)
  rooted := hstep.rooted.bind fun a => (hnext a).rooted

theorem Looks.bind_guarded (hstep : Looks step) (hnext : ∀ a, Guarded (next a)) :
    Guarded (step >>= next) :=
  hstep.keepsFiles.bind_guarded hnext

theorem Finishes.bind_guarded (hstep : Finishes step) (hnext : ∀ a, Guarded (next a)) :
    Guarded (step >>= next) :=
  hstep.keepsFiles.bind_guarded hnext

/-- What comes after a step that is guarded must not fail. -/
theorem Guarded.bind_finishes (hstep : Guarded step) (hnext : ∀ a, Finishes (next a)) :
    Guarded (step >>= next) where
  sameFiles {output directory error written later} h := by
    rcases hfirst : outcome step output directory with ⟨⟨problem | a, between⟩, middle⟩
    · rw [outcome_bind_of_error hfirst] at h
      cases h
      exact hstep.sameFiles hfirst
    · obtain ⟨b, after, hsecond⟩ := hnext a between middle
      rw [outcome_bind_of_ok hfirst, hsecond] at h
      cases h
  rooted := hstep.rooted.bind fun a => (hnext a).keepsFiles.rooted

theorem finishes_pure (a : α) : Finishes (pure a) := fun _ _ => ⟨_, _, rfl⟩

theorem finishes_modify (change : List Output → List Output) :
    Finishes (modify change : Step (StateM Directory) Unit) := fun _ _ => ⟨_, _, rfl⟩

theorem finishes_print (text : String) : Finishes (print text) := fun _ _ => ⟨_, _, rfl⟩

theorem finishes_forM_print (lines : List String) : Finishes (lines.forM print) :=
  fun _ _ => ⟨_, _, outcome_forM_print lines _ _⟩

/-! ### Operations on files -/

variable {files : FileSystem (StateM Directory)}

theorem looks_lift {action : StateM Directory α}
    (h : ∀ directory, (action.run directory).2 = directory) : Looks (liftM action) := by
  intro output directory
  rw [valueIn, outcome_lift, outcome_lift, h]

theorem looks_read (hfiles : files.Lawful) (path : String) : Looks (liftM (files.read path)) :=
  looks_lift (hfiles.read path)

theorem looks_isThere (hfiles : files.Lawful) (path : String) :
    Looks (liftM (files.isThere path)) :=
  looks_lift fun directory => congrArg Prod.snd (hfiles.isThere path directory)

theorem keepsFiles_makeDirectories (hfiles : files.Lawful) (path : String) :
    KeepsFiles (liftM (files.makeDirectories path)) := by
  have hmade : ∀ directory : Directory,
      directory.SameFiles ((files.makeDirectories path).run directory).2 ∧
        (directory.Rooted → ((files.makeDirectories path).run directory).2.Rooted) := by
    intro directory
    rcases h : (files.makeDirectories path).run directory with ⟨error | _, next⟩
    · exact hfiles.unmade h
    · obtain rfl : (directory.makeDirectories path).2 = next := congrArg Prod.snd (hfiles.made h)
      exact ⟨sameFiles_makeBelow _ _ _, fun hrooted => hrooted.makeBelow (find?_nil _) _⟩
  exact ⟨fun _ directory => (hmade directory).1, fun _ directory => (hmade directory).2⟩

/-- A file is written last of all: afterwards the step cannot fail. -/
theorem guarded_write (hfiles : files.Lawful) {path text : String}
    {next : Except FileError Unit → Step (StateM Directory) α} (hok : Finishes (next (.ok ())))
    (herror : ∀ error, Guarded (next (.error error))) :
    Guarded (liftM (files.write path text) >>= next) where
  sameFiles {output directory error written later} h := by
    rcases hwrite : (files.write path text).run directory with ⟨problem | _, after⟩
    · rw [Program.outcome_bind_of_ok (outcome_lift _ _ _), hwrite] at h
      obtain rfl := hfiles.unwritten hwrite
      exact (herror problem).sameFiles h
    · -- once the file is written nothing may fail
      obtain ⟨a, added, hnext⟩ := hok output after
      rw [Program.outcome_bind_of_ok (outcome_lift _ _ _), hwrite, hnext] at h
      cases h
  rooted := by
    refine KeepsRooted.bind ?_ fun result => ?_
    · intro output directory hrooted
      rw [outcome_lift]
      rcases hwrite : (files.write path text).run directory with ⟨problem | _, after⟩
      · rwa [hfiles.unwritten hwrite]
      · exact hrooted.writeFile (hfiles.written hwrite)
    · cases result with
      | ok _ => exact hok.keepsFiles.rooted
      | error error => exact (herror error).rooted

/-! ### Reading -/

theorem looks_importFile (hfiles : files.Lawful) (path : String) :
    Looks (importFile files path) := by
  rw [importFile]
  refine looks_check fun _ => (looks_read hfiles path).bind fun read => ?_
  exact (looks_orFail _ read).bind fun content => looks_check fun _ => looks_orFail _ _

theorem looks_readJson (hfiles : files.Lawful) (decode : Decoder α) (path : String) :
    Looks (readJson files decode path) :=
  (looks_read hfiles path).bind fun _ => (looks_orFail _ _).bind fun _ => looks_orFail _ _

theorem looks_loadSession (hfiles : files.Lawful) (document : String) (answers : Option String) :
    Looks (loadSession files document answers) := by
  refine (looks_importFile hfiles document).bind fun document => ?_
  cases answers with
  | none => exact (looks_pure _).bind fun _ => looks_orFail _ _
  | some path => exact (looks_readJson hfiles _ path).bind fun _ => looks_orFail _ _

/-- The options that an export starts from: those in a file, if one is given. -/
def givenOptions (files : FileSystem (StateM Directory)) :
    Option String → Step (StateM Directory) ExportOptions
  | some path => readJson files ExportOptions.decode path
  | none => pure .standard

theorem looks_givenOptions (hfiles : files.Lawful) (config : Option String) :
    Looks (givenOptions files config) := by
  cases config with
  | none => exact looks_pure _
  | some path => exact looks_readJson hfiles _ path

/-! ### Commands -/

theorem guarded_writeExport (hfiles : files.Lawful) (root : String) (force : Bool)
    (page : StaticExport) : Guarded (writeExport files root force page) := by
  have hrest : Guarded (do
      let made ← files.makeDirectories root
      orFail (fun _ => .unwritable root) made
      let written ← files.write (Path.join root page.fileName) page.html
      orFail (fun _ => .unwritable (Path.join root page.fileName)) written
      return Path.join root page.fileName) := by
    refine (keepsFiles_makeDirectories hfiles root).bind_guarded fun made => ?_
    refine (looks_orFail _ made).bind_guarded fun _ => ?_
    exact guarded_write hfiles (finishes_pure _) fun error =>
      ((looks_throw _).bind fun _ => looks_pure _).guarded
  refine (looks_isThere hfiles _).bind_guarded fun taken => ?_
  simp only
  split
  · exact (looks_throw _).bind_guarded fun _ => hrest
  · exact hrest

theorem guarded_writeInto (hfiles : files.Lawful) (path text : String) :
    Guarded (writeInto files path text) := by
  have hwrite : Guarded (do
      let written ← files.write path text
      orFail (fun _ => .unwritable path) written) :=
    guarded_write hfiles (finishes_pure _) fun _ => (looks_throw _).guarded
  rw [writeInto]
  simp only
  split
  · exact (keepsFiles_makeDirectories hfiles _).bind_guarded fun made =>
      (looks_orFail _ made).bind_guarded fun _ => hwrite
  · exact hwrite

/-- The document and the options are read before anything is written. -/
theorem exportForm_eq (files : FileSystem (StateM Directory)) (world : World) (document : String)
    (out config : Option String) (fidelity : Option InstanceFidelity) (title : Option String)
    (force : Bool) :
    exportForm files world document out config fidelity title force = (do
      let document ← importFile files document
      let options ← givenOptions files config
      let page ← orFail .exporting
        (document.exportPage ⟨fidelity.getD options.fidelity, title <|> options.title⟩)
      let root ← orFail id (outputRoot world out)
      let target ← writeExport files root force page
      print ("Static form written to " ++ target)) := by
  cases config with
  | none => rfl
  | some path => rfl

/-- Whatever the program is asked to do, it changes no file if it fails. -/
theorem guarded_carryOut (hfiles : files.Lawful) (world : World) (invocation : Invocation) :
    Guarded (carryOut files world invocation) := by
  cases invocation with
  | inspect document =>
      exact (looks_importFile hfiles document).bind_guarded fun _ =>
        (finishes_forM_print _).guarded
  | schema out =>
      cases out with
      | none => exact (finishes_print _).guarded
      | some path =>
          exact guarded_write hfiles (finishes_print _) fun error =>
            (looks_throw _).bind_guarded fun _ => (finishes_print _).guarded
  | exportForm document out config fidelity title force =>
      show Guarded (exportForm files world document out config fidelity title force)
      rw [exportForm_eq]
      refine (looks_importFile hfiles document).bind_guarded fun document => ?_
      refine (looks_givenOptions hfiles config).bind_guarded fun options => ?_
      refine (looks_orFail _ _).bind_guarded fun page => ?_
      refine (looks_orFail _ _).bind_guarded fun root => ?_
      exact (guarded_writeExport hfiles root force page).bind_finishes fun _ => finishes_print _
  | validate document answers =>
      refine (looks_loadSession hfiles document answers).bind_guarded fun session => ?_
      refine (finishes_print _).bind_guarded fun _ => ?_
      refine (finishes_forM_print _).bind_guarded fun _ => ?_
      split
      · exact (looks_throw _).guarded
      · exact (looks_pure _).guarded
  | submit document answers format out =>
      have hrest : ∀ text : String, Guarded (match out with
          | some path => writeInto files path (text ++ "\n")
          | none => print text) := by
        intro text
        cases out with
        | none => exact (finishes_print _).guarded
        | some path => exact guarded_writeInto hfiles path _
      refine (looks_loadSession hfiles document _).bind_guarded fun session => ?_
      simp only
      split
      · refine (finishes_modify _).bind_guarded fun _ => ?_
        refine (finishes_forM_print _).bind_guarded fun _ => ?_
        exact (looks_throw _).bind_guarded fun _ => hrest _
      · exact hrest _
  | preview document answers =>
      refine (looks_loadSession hfiles document answers).bind_guarded fun session => ?_
      generalize Shell.transcript session world.now world.input = written
      refine (finishes_forM_print written.1).bind_guarded fun _ => ?_
      cases written.2 with
      | none => exact (looks_pure _).guarded
      | some overflow => exact (looks_throw _).guarded

end Program

end Questionnaire
