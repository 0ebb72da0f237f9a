import Questionnaire.Proofs.Text.Blank
import Questionnaire.Shell

/-! # Lines of the shell

A line is a step of the shell: something is written and the lines that follow go on from the session
it leaves (`Shell.Step`). The line that answers a question holds two words and a value with blanks
around them, and is read as the same command whatever these blanks are (`Spacing.ofLine?_line`). -/

namespace Questionnaire

/-! ### Steps -/

namespace Shell

variable {now : String} {session next : Session} {line : List Char} {written : List String}

/-- A line turns a session into the next one and has some lines written, whether it is the last line
or more are typed; the program goes on. -/
structure Step (now : String) (session : Session) (line : List Char) (written : List String)
    (next : Session) : Prop where
  last : replies now session (Text.splitAt (· == '\n') line) = (written, none)
  followed : ∀ rest, replies now session (Text.splitAt (· == '\n') (line ++ '\n' :: rest)) =
    (replies now next (Text.splitAt (· == '\n') rest)).map (written ++ ·) id

/-- A command that does not stop the program writes its lines before those of the commands that
follow it. -/
theorem replies_cons {command : Command} (hline : Command.ofLine? line = some command)
    (hquit : command ≠ .quit) (hrun : command.run session now = .ok (next, written))
    (rest : List (List Char)) :
    replies now session (line :: rest) = (replies now next rest).map (written ++ ·) id := by
  rw [replies, hline]
  split
  · rename_i hnone
    cases hnone
  · rename_i hsome
    exact absurd (Option.some.inj hsome) hquit
  · rename_i hsome
    rw [← Option.some.inj hsome, hrun]
    rfl

/-- A line does what its command does. -/
theorem Step.of_command {command : Command} (hbreak : '\n' ∉ line)
    (hline : Command.ofLine? line = some command) (hquit : command ≠ .quit)
    (hrun : command.run session now = .ok (next, written)) :
    Step now session line written next := by
  have hpiece : ∀ c ∈ line, (c == '\n') = false := fun c hc =>
    beq_eq_false_iff_ne.2 fun h => hbreak (h ▸ hc)
  constructor
  · rw [Text.splitAt_eq_singleton hpiece, replies_cons hline hquit hrun, replies, Prod.map_apply,
      List.append_nil, id]
  · intro rest
    rw [Text.splitAt_append_cons (by rfl), Text.splitAt_eq_singleton hpiece,
      List.singleton_append, replies_cons hline hquit hrun]

end Shell

/-! ### The line that answers a question -/

namespace Command

variable {word blanks text : List Char}

/-- The first word of a line names the command, and the blanks around the arguments do not count. -/
theorem ofLine?_append (hword : Text.Solid word) (hne : word ≠ []) (hblanks : Text.Blanks blanks)
    (hblanksne : blanks ≠ []) (htext : Text.Trimmed text) {before after : List Char}
    (hbefore : Text.Blanks before) (hafter : Text.Blanks after) :
    ofLine? (before ++ ((word ++ (blanks ++ text)) ++ after)) =
      some (ofWords (.ofList word) text) := by
  have hline := (hword.trimmed hne).append htext blanks
  obtain ⟨rest, hcut, hrest⟩ := hword.exists_cutAtBlank hblanks hblanksne htext
  rw [ofLine?, hline.trim_append hbefore hafter]
  split
  · rename_i hnil
    exact absurd hnil hline.ne_nil
  · rw [hcut]
    simp only [hrest]

theorem ofSetArguments_append (hword : Text.Solid word) (hblanks : Text.Blanks blanks)
    (hblanksne : blanks ≠ []) (htext : Text.Trimmed text) :
    ofSetArguments (word ++ (blanks ++ text)) = .set (.ofList word) (.ofList text) := by
  obtain ⟨rest, hcut, hrest⟩ := hword.exists_cutAtBlank hblanks hblanksne htext
  rw [ofSetArguments, hcut]
  simp only [hrest]

end Command

/-- The blanks of a line that answers a question: around it, and behind its first two words. -/
structure Spacing where
  before : List Char
  first : List Char
  second : List Char
  after : List Char
  blanks : Text.Blanks (before ++ (first ++ (second ++ after)))
  unbroken : '\n' ∉ before ++ (first ++ (second ++ after))
  first_ne_nil : first ≠ []
  second_ne_nil : second ≠ []

namespace Spacing

variable {key value : List Char}

/-- One blank behind each of the two words, and none around the line. -/
def single : Spacing := ⟨[], [' '], [' '], [], by decide, by decide, by decide, by decide⟩

/-- The line that answers the question with the key. -/
def line (spacing : Spacing) (key value : List Char) : List Char :=
  spacing.before ++
    ((['s', 'e', 't'] ++ (spacing.first ++ (key ++ (spacing.second ++ value)))) ++ spacing.after)

/-- The line has no break if the key and the value have none. -/
theorem break_notMem_line (spacing : Spacing) (hkey : '\n' ∉ key) (hvalue : '\n' ∉ value) :
    '\n' ∉ spacing.line key value := by
  have hspacing := spacing.unbroken
  simp only [List.mem_append, not_or] at hspacing
  obtain ⟨hbefore, hfirst, hsecond, hafter⟩ := hspacing
  simp only [line, List.mem_append, not_or]
  exact ⟨hbefore, ⟨by decide, hfirst, hkey, hsecond, hvalue⟩, hafter⟩

/-- Whatever the blanks are, the line is read as the command to answer the question. -/
theorem ofLine?_line (spacing : Spacing) (hkey : Text.Solid key) (hne : key ≠ [])
    (hvalue : Text.Trimmed value) :
    Command.ofLine? (spacing.line key value) = some (.set (.ofList key) (.ofList value)) := by
  have hspacing := spacing.blanks
  simp only [Text.blanks_append_iff] at hspacing
  obtain ⟨hbefore, hfirst, hsecond, hafter⟩ := hspacing
  have harguments := (hkey.trimmed hne).append hvalue spacing.second
  rw [line, Command.ofLine?_append (by decide) (by decide) hfirst spacing.first_ne_nil harguments
    hbefore hafter]
  show some (Command.ofSetArguments _) = _
  rw [Command.ofSetArguments_append hkey hsecond spacing.second_ne_nil hvalue]

/-- The line does what the command to answer the question does. -/
theorem step (spacing : Spacing) (hkey : Text.Solid key) (hne : key ≠ [])
    (hvalue : Text.Trimmed value) (hunbroken : '\n' ∉ value) {now : String}
    {session next : Session} {written : List String}
    (hrun : (Command.set (.ofList key) (.ofList value)).run session now = .ok (next, written)) :
    Shell.Step now session (spacing.line key value) written next := by
  have hbreak : '\n' ∉ key := fun hmem => absurd (hkey _ hmem) (by decide)
  exact .of_command (spacing.break_notMem_line hbreak hunbroken)
    (spacing.ofLine?_line hkey hne hvalue) nofun hrun

/-- Blanks at the ends of the value are blanks of the line. -/
theorem exists_line_trim (spacing : Spacing) (hunbroken : '\n' ∉ value) :
    ∃ other : Spacing, ∀ key, spacing.line key value = other.line key (Text.trim value) := by
  obtain ⟨front, back, hfront, hback, hvalue⟩ := Text.exists_trim value
  have hblanks := spacing.blanks
  have hbreak := spacing.unbroken
  rw [← hvalue] at hunbroken
  simp only [Text.blanks_append_iff] at hblanks
  simp only [List.mem_append, not_or] at hbreak hunbroken
  obtain ⟨hbefore, hfirst, hsecond, hafter⟩ := hblanks
  obtain ⟨hnobefore, hnofirst, hnosecond, hnoafter⟩ := hbreak
  refine ⟨⟨spacing.before, spacing.first, spacing.second ++ front, back ++ spacing.after, ?_, ?_,
    spacing.first_ne_nil, fun h => spacing.second_ne_nil (List.append_eq_nil_iff.1 h).1⟩,
      fun key => ?_⟩
  · simp only [Text.blanks_append_iff]
    exact ⟨hbefore, hfirst, ⟨hsecond, hfront⟩, hback, hafter⟩
  · simp only [List.mem_append, not_or]
    exact ⟨hnobefore, hnofirst, ⟨hnosecond, hunbroken.1⟩, hunbroken.2.2, hnoafter⟩
  · conv_lhs => rw [← hvalue]
    simp only [line, List.append_assoc]

end Spacing

end Questionnaire
