import Questionnaire.Files.Directory
import Questionnaire.Proofs.Table
import Questionnaire.Proofs.Text.Blank

/-! # What becomes of the files in a directory

Making directories changes no file (`Directory.sameFiles_makeBelow`), and writing a file under a
plain name puts it right into its directory and changes no other
(`Directory.putsInto_of_writeFile`). A name that leads nowhere else can be told from the path alone
(`Directory.destination`), which is where a path leads to if it leads anywhere. But before the
directories on its way are made it need not: where the path leaves a missing directory by `..`, the
place at its end may be taken although nothing stands at the path
(`Directory.leavesMissing_of_find?`). -/

namespace Questionnaire

namespace Directory

/-! ### Names -/

/-- Whether a text is the name of one file. -/
structure PlainName (name : String) : Prop where
  ne_empty : name ≠ ""
  ne_dot : name ≠ "."
  ne_dots : name ≠ ".."
  no_slash : '/' ∉ name.toList

/-- Whether a piece of a path between slashes leads nowhere. -/
def isIdle (piece : List Char) : Bool := piece.isEmpty || piece == ['.']

theorem names_eq (path : String) :
    names path = ((Text.splitAt (· == '/') path.toList).filter (!isIdle ·)).map .ofList := by
  have hidle : ∀ pieces : List (List Char),
      (pieces.filter fun piece => !piece.isEmpty && piece != ['.']).filter (· != ['.']) =
        pieces.filter (!isIdle ·) := by
    intro pieces
    rw [List.filter_filter]
    refine List.filter_congr fun piece _ => ?_
    simp [isIdle, bne]
  rw [names, Path.components]
  split
  · rename_i rest hsplit
    rw [hsplit, List.filter_cons_of_neg (by simp), hidle,
      List.filter_cons_of_neg (by simp [isIdle])]
  · rw [hidle]

/-- The names of a path and then the name of a file in its directory. -/
theorem names_join {root name : String} (hname : PlainName name) :
    names (Path.join root name) = names root ++ [name] := by
  have hpiece : Text.splitAt (· == '/') name.toList = [name.toList] := by
    refine Text.splitAt_eq_singleton fun c hc => ?_
    simpa using fun hslash : c = '/' => hname.no_slash (hslash ▸ hc)
  have hbusy : isIdle name.toList = false := by
    have hempty : name.toList ≠ [] := fun h => hname.ne_empty (String.toList_inj.1 h)
    have hdot : name.toList ≠ ['.'] := fun h => hname.ne_dot (String.toList_inj.1 h)
    simp [isIdle, hempty, hdot]
  have hlast : ((Text.splitAt (· == '/') name.toList).filter (!isIdle ·)).map String.ofList =
      [name] := by
    simp [hpiece, hbusy]
  have hjoin : names (root ++ "/" ++ name) = names root ++ [name] := by
    rw [names_eq, names_eq, String.toList_append, String.toList_append, List.append_assoc]
    show ((Text.splitAt _ (root.toList ++ '/' :: name.toList)).filter _).map _ = _
    rw [Text.splitAt_append_cons (by rfl), List.filter_append, List.map_append, hlast]
  rw [Path.join]
  split
  · rename_i hends
    obtain ⟨front, hfront⟩ : ['/'] <:+ root.toList := by
      rw [String.endsWith_eq_endsWith_toSlice, String.Slice.endsWith_string_iff] at hends
      simpa using hends
    rw [names_eq, names_eq, String.toList_append, ← hfront, List.append_assoc]
    show ((Text.splitAt _ (front ++ '/' :: name.toList)).filter _).map _ = _
    rw [Text.splitAt_append_cons (by rfl), Text.splitAt_append_cons (by rfl), List.filter_append,
      List.map_append, hlast]
    simp [Text.splitAt, isIdle]
  · exact hjoin

/-! ### Places -/

variable {directory : Directory} {place other names : List String} {name : String}

/-- The place that names lead to from a place. -/
def destination (place names : List String) : List String := names.foldl enter place

theorem destination_concat (place names : List String) (hname : name ≠ "..") :
    destination place (names ++ [name]) = destination place names ++ [name] := by
  rw [destination, List.foldl_append, List.foldl_cons, List.foldl_nil, enter, if_neg hname,
    destination]

/-- Names that can be followed lead to their destination. -/
theorem eq_destination_of_follow {found : List String}
    (h : directory.follow place names = .ok found) : found = destination place names := by
  induction names generalizing place with
  | nil => exact (Except.ok.inj h).symm
  | cons name rest ih =>
      rw [follow] at h
      split at h
      · exact ih h
      · cases h
      · cases h

theorem follow_concat {found : List String} (h : directory.follow place names = .ok found) :
    directory.follow place (names ++ [name]) = directory.follow found [name] := by
  induction names generalizing place with
  | nil => rw [Except.ok.inj h, List.nil_append]
  | cons first rest ih =>
      rw [follow] at h
      rw [List.cons_append, follow]
      split at h
      · exact ih h
      · cases h
      · cases h

/-- Names that can be followed lead through directories up to the last one. -/
theorem follow_of_concat {found : List String}
    (h : directory.follow place (names ++ [name]) = .ok found) :
    directory.follow place names = .ok (destination place names) ∧
      directory.find? (destination place names) = some .directory := by
  induction names generalizing place with
  | nil =>
      rw [List.nil_append, follow] at h
      split at h
      · rename_i hdirectory
        exact ⟨rfl, hdirectory⟩
      · cases h
      · cases h
  | cons first rest ih =>
      rw [List.cons_append, follow] at h
      split at h
      · rename_i hdirectory
        rw [follow, hdirectory]
        exact ih h
      · cases h
      · cases h

@[simp] theorem find?_nil (directory : Directory) : directory.find? [] = some .directory := rfl

theorem find?_put (hplace : place ≠ []) (entry : FileEntry) (other : List String) :
    (directory.put place entry).find? other =
      if other = place then some entry else directory.find? other := by
  cases other with
  | nil => simp [Ne.symm hplace]
  | cons head tail => simp [find?, put, Table.get?_insert]

/-- Whether everything in a directory stands in a directory. -/
def Rooted (directory : Directory) : Prop :=
  ∀ place, directory.find? place ≠ none → directory.find? place.dropLast = some .directory

theorem rooted_empty : Directory.empty.Rooted := by
  intro place hplace
  cases place with
  | nil => rfl
  | cons head tail => exact (hplace rfl).elim

/-- A directory takes a new file or directory. -/
theorem Rooted.put (h : directory.Rooted) (hplace : place ≠ [])
    (hparent : directory.find? place.dropLast = some .directory) {entry : FileEntry}
    (hentry : directory.find? place = some .directory → entry = .directory) :
    (directory.put place entry).Rooted := by
  intro other hother
  rw [find?_put hplace] at hother ⊢
  by_cases hsame : other = place
  · subst hsame
    have hshorter : other.dropLast ≠ other := fun heq => by
      have hlength := congrArg List.length heq
      have hpos := List.length_pos_iff.2 hplace
      rw [List.length_dropLast] at hlength
      omega
    rw [if_neg hshorter, hparent]
  · rw [if_neg hsame] at hother
    have hdirectory := h other hother
    split
    · rename_i hlast
      rw [hentry (hlast ▸ hdirectory)]
    · exact hdirectory

/-- Names lead from within a rooted directory to a place in a directory. -/
theorem Rooted.find?_dropLast_of_follow (h : directory.Rooted)
    (hplace : directory.find? place.dropLast = some .directory) {found : List String}
    (hfound : directory.follow place names = .ok found) :
    directory.find? found.dropLast = some .directory := by
  induction names generalizing place with
  | nil => rwa [← Except.ok.inj hfound]
  | cons name rest ih =>
      rw [follow] at hfound
      split at hfound
      · rename_i hdirectory
        refine ih ?_ hfound
        rw [enter]
        split
        · have hparent := h place (by simp [hdirectory])
          exact h _ (by simp [hparent])
        · rwa [List.dropLast_concat]
      · cases hfound
      · cases hfound

/-! ### Files -/

/-- The file at a place. -/
def file? (directory : Directory) (place : List String) : Option FileContent :=
  match directory.find? place with
  | some (.file content) => some content
  | _ => none

/-- Whether two directories hold the same files. -/
def SameFiles (directory next : Directory) : Prop :=
  ∀ place, next.file? place = directory.file? place

theorem SameFiles.refl (directory : Directory) : directory.SameFiles directory := fun _ => rfl

theorem SameFiles.trans {middle next : Directory} (h : directory.SameFiles middle)
    (hnext : middle.SameFiles next) : directory.SameFiles next :=
  fun place => (hnext place).trans (h place)

theorem file?_put (hplace : place ≠ []) (content : FileContent) (other : List String) :
    (directory.put place (.file content)).file? other =
      if other = place then some content else directory.file? other := by
  rw [file?, find?_put hplace]
  by_cases hsame : other = place
  · simp [hsame]
  · simp [hsame, file?]

/-- Directories that are made stand where nothing stood. -/
theorem find?_makeBelow (directory : Directory) (place names other : List String) :
    (directory.makeBelow place names).2.find? other = directory.find? other ∨
      directory.find? other = none ∧
        (directory.makeBelow place names).2.find? other = some .directory := by
  induction names generalizing directory place with
  | nil => exact .inl rfl
  | cons name rest ih =>
      rw [makeBelow]
      split
      · exact ih directory _
      · exact .inl rfl
      · rename_i hmissing
        have hnext : enter place name ≠ [] := fun h => by simp [h] at hmissing
        have hput : (directory.put (enter place name) .directory).find? other =
            if other = enter place name then some .directory else directory.find? other :=
          find?_put hnext .directory other
        by_cases hsame : other = enter place name
        · subst hsame
          rw [if_pos rfl] at hput
          rcases ih (directory.put (enter place name) .directory) (enter place name) with h | h
          · exact .inr ⟨hmissing, h.trans hput⟩
          · cases hput.symm.trans h.1
        · rw [if_neg hsame] at hput
          rw [← hput]
          exact ih (directory.put (enter place name) .directory) (enter place name)

theorem sameFiles_makeBelow (directory : Directory) (place names : List String) :
    directory.SameFiles (directory.makeBelow place names).2 := by
  intro other
  rcases directory.find?_makeBelow place names other with h | ⟨hmissing, hmade⟩
  · rw [file?, h, file?]
  · rw [file?, hmade, file?, hmissing]

theorem sameFiles_of_makeDirectories {path : String} {result : Except FileError Unit}
    {made : Directory} (h : directory.makeDirectories path = (result, made)) :
    directory.SameFiles made := by
  have hsame := sameFiles_makeBelow directory [] (names path)
  rwa [← makeDirectories, h] at hsame

theorem Rooted.makeBelow (h : directory.Rooted)
    (hplace : directory.find? place = some .directory) (names : List String) :
    (directory.makeBelow place names).2.Rooted := by
  induction names generalizing directory place with
  | nil => exact h
  | cons name rest ih =>
      rw [Directory.makeBelow]
      split
      · rename_i hnext
        exact ih h hnext
      · exact h
      · rename_i hmissing
        have hnext : enter place name ≠ [] := fun heq => by simp [heq] at hmissing
        -- two dots lead to a directory, and so the missing one lies in the place itself
        have hparent : directory.find? (enter place name).dropLast = some .directory := by
          have hplain : name ≠ ".." := by
            rintro rfl
            rw [enter, if_pos rfl, h place (by simp [hplace])] at hmissing
            cases hmissing
          rwa [enter, if_neg hplain, List.dropLast_concat]
        refine ih (h.put hnext hparent fun _ => rfl) ?_
        rw [find?_put hnext, if_pos rfl]

/-- Writing puts a text where the path leads, unless a directory stands there. -/
theorem writeFile_eq_ok {path content : String} {next : Directory}
    (h : directory.writeFile path content = .ok next) :
    directory.follow [] (Directory.names path) = .ok (destination [] (Directory.names path)) ∧
      directory.find? (destination [] (Directory.names path)) ≠ some .directory ∧
      next = directory.put (destination [] (Directory.names path)) (.file (.text content)) := by
  rw [writeFile] at h
  cases hfollow : directory.follow [] (Directory.names path) with
  | error error => rw [hfollow] at h; cases h
  | ok found =>
      rw [hfollow] at h
      obtain rfl := eq_destination_of_follow hfollow
      refine ⟨rfl, ?_⟩
      cases hfind : directory.find? (destination [] (Directory.names path)) with
      | none =>
          simp only [hfind, bind, Except.bind, pure, Except.pure] at h
          split at h
          · cases h
          · exact ⟨by simp, (Except.ok.inj h).symm⟩
      | some entry =>
          cases entry with
          | directory => simp [hfind, bind, Except.bind] at h
          | file former =>
              simp only [hfind, bind, Except.bind, pure, Except.pure] at h
              split at h
              · cases h
              · exact ⟨by simp, (Except.ok.inj h).symm⟩

theorem run_write_of_ok {path content : String} {next : Directory}
    (h : directory.writeFile path content = .ok next) :
    (fileSystem.write path content).run directory = (.ok (), next) := by
  simp only [fileSystem, modifyGet, MonadStateOf.modifyGet, StateT.run, StateT.modifyGet, h]
  rfl

theorem run_write_of_error {path content : String} {error : FileError}
    (h : directory.writeFile path content = .error error) :
    (fileSystem.write path content).run directory = (.error error, directory) := by
  simp only [fileSystem, modifyGet, MonadStateOf.modifyGet, StateT.run, StateT.modifyGet, h]
  rfl

theorem Rooted.writeFile (hrooted : directory.Rooted) {path content : String} {next : Directory}
    (h : directory.writeFile path content = .ok next) : next.Rooted := by
  obtain ⟨hfollow, hfree, rfl⟩ := writeFile_eq_ok h
  refine hrooted.put (fun hroot => hfree (by rw [hroot, find?_nil])) ?_ (absurd · hfree)
  exact hrooted.find?_dropLast_of_follow (find?_nil _) hfollow

/-- A file is on no way on which names can be followed. -/
theorem follow_put (hplace : place ≠ []) (hfree : directory.find? place ≠ some .directory)
    (content : FileContent) {start found : List String}
    (h : directory.follow start names = .ok found) :
    (directory.put place (.file content)).follow start names = .ok found := by
  induction names generalizing start with
  | nil => exact h
  | cons first rest ih =>
      rw [follow] at h
      split at h
      · rename_i hdirectory
        have hother : start ≠ place := by
          rintro rfl
          exact hfree hdirectory
        rw [follow, find?_put hplace, if_neg hother, hdirectory]
        exact ih h
      · cases h
      · cases h

/-- A change puts a file under a name right into the directory that a path leads to, and changes no
other file. -/
structure PutsInto (directory next : Directory) (root name : String) : Prop where
  leads : next.follow [] (Directory.names root) = .ok (destination [] (Directory.names root))
  isDirectory : next.find? (destination [] (Directory.names root)) = some .directory
  isFile : (next.file? (destination [] (Directory.names root) ++ [name])).isSome = true
  others : ∀ place, next.file? place ≠ directory.file? place →
    place = destination [] (Directory.names root) ++ [name]

/-- A file that is written under a plain name lies right in the directory. -/
theorem putsInto_of_writeFile {root content : String} {next : Directory} (hname : PlainName name)
    (h : directory.writeFile (Path.join root name) content = .ok next) :
    directory.PutsInto next root name := by
  obtain ⟨hfollow, hfree, rfl⟩ := writeFile_eq_ok h
  rw [names_join hname] at hfollow hfree ⊢
  rw [destination_concat _ _ hname.ne_dots] at hfree ⊢
  obtain ⟨hleads, hdirectory⟩ := follow_of_concat hfollow
  have hplace : destination [] (Directory.names root) ++ [name] ≠ [] := by simp
  have hshorter : destination [] (Directory.names root) ≠
      destination [] (Directory.names root) ++ [name] := by simp
  refine ⟨follow_put hplace hfree _ hleads, ?_, ?_, fun other hother => ?_⟩
  · rw [find?_put hplace, if_neg hshorter, hdirectory]
  · rw [file?_put hplace, if_pos rfl]
    rfl
  · by_contra hne
    rw [file?_put hplace, if_neg hne] at hother
    exact hother rfl

theorem SameFiles.putsInto {middle next : Directory} {root : String}
    (h : directory.SameFiles middle) (hnext : middle.PutsInto next root name) :
    directory.PutsInto next root name where
  leads := hnext.leads
  isDirectory := hnext.isDirectory
  isFile := hnext.isFile
  others place hplace := hnext.others place (by rwa [h place])

/-! ### Leaving a missing directory -/

/-- Whether names leave, by two dots, a place where nothing stands. -/
def LeavesMissing (directory : Directory) (place names : List String) : Prop :=
  ∃ front back, names = front ++ ".." :: back ∧
    directory.find? (destination place front) = none

theorem LeavesMissing.cons (h : directory.LeavesMissing (enter place name) names) :
    directory.LeavesMissing place (name :: names) := by
  obtain ⟨front, back, rfl, hmissing⟩ := h
  exact ⟨name :: front, back, rfl, hmissing⟩

/-- Names that lead from a missing place to something leave a missing place. -/
theorem Rooted.leavesMissing_of_missing (hrooted : directory.Rooted)
    (hmissing : directory.find? place = none)
    (hfound : directory.find? (destination place names ++ [name]) ≠ none) :
    directory.LeavesMissing place names := by
  induction names generalizing place with
  | nil =>
      have hplace := hrooted _ hfound
      rw [List.dropLast_concat, destination, List.foldl_nil, hmissing] at hplace
      cases hplace
  | cons first rest ih =>
      by_cases hdots : first = ".."
      · subst hdots
        exact ⟨[], rest, rfl, hmissing⟩
      · refine LeavesMissing.cons (ih ?_ hfound)
        by_contra hnext
        rw [enter, if_neg hdots] at hnext
        have hplace := hrooted _ hnext
        rw [List.dropLast_concat, hmissing] at hplace
        cases hplace

/-- Where directories can be made for all names and something stands at their end, the names can be
followed at once, or they leave a missing place. -/
theorem Rooted.follow_or_leavesMissing (hrooted : directory.Rooted)
    (hplace : directory.find? place = some .directory)
    (hmade : (directory.makeBelow place names).1 = .ok ())
    (hfound : directory.find? (destination place names ++ [name]) ≠ none) :
    directory.follow place names = .ok (destination place names) ∨
      directory.LeavesMissing place names := by
  induction names generalizing place with
  | nil => exact .inl rfl
  | cons first rest ih =>
      rw [Directory.makeBelow] at hmade
      rw [follow, hplace]
      split at hmade
      · rename_i hnext
        exact (ih hnext hmade hfound).imp_right LeavesMissing.cons
      · cases hmade
      · -- from here on nothing is there before it is made
        rename_i hmissing
        exact .inr (hrooted.leavesMissing_of_missing hmissing hfound).cons

/-- If directories can be made for a path and nothing stands at a name in its directory, then either
the place is free, or the path leaves a missing directory. -/
theorem Rooted.leavesMissing_of_find? (hrooted : directory.Rooted) {root : String}
    (hname : PlainName name) (hmade : (directory.makeDirectories root).1 = .ok ())
    (hthere : directory.isThere (Path.join root name) = false)
    (hfound : directory.find? (destination [] (Directory.names root) ++ [name]) ≠ none) :
    directory.LeavesMissing [] (Directory.names root) := by
  refine (hrooted.follow_or_leavesMissing (find?_nil _) hmade hfound).resolve_left fun hfollow => ?_
  have hplace := hrooted _ hfound
  rw [List.dropLast_concat] at hplace
  rw [isThere, names_join hname, follow_concat hfollow, follow, hplace] at hthere
  simp only [enter, if_neg hname.ne_dots, follow] at hthere
  exact hfound (Option.isNone_iff_eq_none.1 (by simpa using hthere))

end Directory

end Questionnaire
