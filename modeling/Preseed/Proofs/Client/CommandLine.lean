import Preseed.Client.Link
import Preseed.Proofs.Shell.Quoting
import Preseed.Proofs.Text.Split

/-! # The commands of a script's shell line

A shell reads the line that fetches and runs a script as commands between semicolons. The one that fetches
has the URL of the link as its last word, whatever stands in it; the others are told by the phase alone. -/

namespace Preseed

namespace Shell

def plainParts (text : String) : List Part :=
  text.toList.map (.literal · false)

def quotedParts (text : String) : List Part :=
  text.toList.map (.literal · true)

/-- A word without quotes in which each character stands for itself. -/
def plain (text : String) : Token :=
  .word (plainParts text)

/-- What is replaced by the value of a parameter or the output of a command. -/
def expansion (text : String) : Part :=
  .expansion text.toList false

def semicolon : Token := .operator [';']

/-- The commands of a line, between its semicolons. -/
def commands (tokens : List Token) : List (List Token) :=
  Split.pieces semicolon tokens

end Shell

namespace ScriptLink

open Shell

/-- What the shell does before it fetches the script of a phase. -/
def commandsBefore (phase : Phase) : List (List Token) :=
  [[plain "if", .word [.pattern '['], plain "-f", plain "/var/lib/preseed/log", plain "-a", plain "-d",
      plain "/target", plain "]"],
    [plain "then", plain "echo", .word (quotedParts "Preseed environment detected")],
    [plain ("DEST=/target/tmp/" ++ fileName phase)],
    [.word (plainParts "SH=" ++ quotedParts "chroot /target /bin/sh")],
    [plain "else", plain "echo", .word (quotedParts "Non-Preseed environment detected")],
    [plain ("DEST=/tmp/" ++ fileName phase)],
    [.word (plainParts "SH=" ++ quotedParts "/bin/sh")],
    [plain "fi"],
    [.word (plainParts "arch=" ++ [expansion "\x60uname -m\x60"])]]

/-- The command that fetches what the last word names. -/
def fetchCommand (parts : List Part) : List Token :=
  [plain "wget", plain "-q", plain "-O", .word [expansion "$DEST"], .word parts]

/-- What the shell does with the script. -/
def commandsAfter (phase : Phase) : List (List Token) :=
  [[.word [expansion "$SH"], plain ("/tmp/" ++ fileName phase)]]

/-- All commands of the line. -/
def lineCommands (phase : Phase) (parts : List Part) : List (List Token) :=
  commandsBefore phase ++ fetchCommand parts :: commandsAfter phase

theorem run_lineStart (phase : Phase) :
    (State.between []).run (lineStart phase).toList =
      State.between ([semicolon].intercalate (commandsBefore phase ++ [(fetchCommand []).dropLast])) := by
  -- The characters are made explicit first: to decode a text takes longer than to read it.
  unfold lineStart
  simp only [String.toList_append, ↓String.reduceToList]
  cases phase
  · decide +kernel
  · decide +kernel

theorem finish_run_lineEnd (phase : Phase) :
    ((State.between []).run (lineEnd phase).toList).finish =
      some (semicolon :: [semicolon].intercalate (commandsAfter phase)) := by
  cases phase
  · decide +kernel
  · decide +kernel

theorem tokens?_commandLine (link : ScriptLink) (phase : Phase) (client : Client)
    (plugin : Option String) :
    tokens? (link.commandLine phase client plugin) =
      some ([semicolon].intercalate
        (lineCommands phase (wordOf (link.url phase client plugin).toString.toList))) := by
  have hend : EndsWord (lineEnd phase).toList := by
    intro c hc
    cases phase <;> exact .inr (Option.some.inj hc).symm
  rw [tokens?, commandLine, String.toList_append, String.toList_append, List.append_assoc,
    State.run_append, run_lineStart, finish_run_quote hend, State.between_eq_behind,
    State.run_behind, State.finish_behind, finish_run_lineEnd, Option.map_some]
  cases phase <;> rfl

/-- The commands are what the tokens between semicolons are. -/
theorem commands_lineCommands (phase : Phase) (parts : List Part) :
    commands ([semicolon].intercalate (lineCommands phase parts)) = lineCommands phase parts := by
  refine Split.pieces_intercalate (by simp [lineCommands]) ?_
  have hfetch : semicolon ∉ fetchCommand parts := by
    simp [fetchCommand, semicolon, plain]
  have hrest : ∀ command ∈ commandsBefore phase ++ commandsAfter phase, semicolon ∉ command := by
    cases phase <;> decide +kernel
  intro command hcommand
  rw [lineCommands, List.mem_append, List.mem_cons] at hcommand
  rcases hcommand with h | rfl | h
  · exact hrest command (List.mem_append_left _ h)
  · exact hfetch
  · exact hrest command (List.mem_append_right _ h)

/-- Between two tokens and before a blank, a semicolon or the end, a quoted text is read as one word, none of
whose parts is a pattern or an expansion, and the word is the text; a safe value needs no quotes. In the
line that fetches and runs a script the words of the command that fetches are therefore these five, of which
the last is the URL; the rest of the line is told by the phase. -/
theorem quote_is_word :
    (∀ (text : String) (before : List Token) (rest : List Char), EndsWord rest →
      ∃ parts, text? parts = some text.toList ∧
        (State.between before).run (quote text).toList = ⟨before, some parts, .bare⟩ ∧
        ((State.between before).run ((quote text).toList ++ rest)).finish =
          ((State.between (before ++ [.word parts])).run rest).finish) ∧
    (∀ text, text ≠ "" → isSafe text = true → quote text = text) ∧
    ∀ phase, ∃ (front back : String) (first last : List (List Token)),
      (∀ command ∈ first ++ last, command.head? ≠ some (plain "wget")) ∧
      ∀ (base : Url) (client : Client) (plugin : Option String),
        let link := ofUrl base
        let u := (link.url phase client plugin).toString
        let line := link.commandLine phase client plugin
        line = front ++ quote u ++ back ∧
          ∃ tokens parts, tokens? line = some tokens ∧ text? parts = some u.toList ∧
            commands tokens = first ++
              [plain "wget", plain "-q", plain "-O", .word [.expansion "$DEST".toList false],
                .word parts] :: last := by
  refine ⟨fun text before rest hrest => ?_, fun text => quote_of_isSafe, fun phase => ?_⟩
  · refine ⟨wordOf text.toList, text?_map_literal _ _, ?_, finish_run_quote hrest before text⟩
    rw [quote, String.toList_ofList, run_quoteChars]
  · refine ⟨lineStart phase, lineEnd phase, commandsBefore phase, commandsAfter phase, ?_, ?_⟩
    · cases phase <;> decide +kernel
    · intro base client plugin link u line
      exact ⟨rfl, _, wordOf u.toList, tokens?_commandLine link phase client plugin,
        text?_map_literal _ _, commands_lineCommands phase _⟩

/-- A text that would run a command of its own, and a name that no shell touches. -/
theorem quote_is_word_of_injection :
    let text := "'; reboot # *$(id)\\\n"
    let rest := "; $SH /tmp/x".toList
    EndsWord rest ∧ "n7" ≠ "" ∧ isSafe "n7" = true ∧ quote "n7" = "n7" ∧
      ∃ parts, text? parts = some text.toList ∧
        ((State.between []).run ((quote text).toList ++ rest)).finish =
          some [.word parts, semicolon, .word [expansion "$SH"], plain "/tmp/x"] := by
  intro text rest
  have hrest : EndsWord rest := fun c hc => .inr (Option.some.inj hc).symm
  obtain ⟨hquote, hsafe, -⟩ := quote_is_word
  obtain ⟨parts, htext, -, hfinish⟩ := hquote text [] rest hrest
  refine ⟨hrest, by decide, by decide, hsafe "n7" (by decide) (by decide), parts, htext, ?_⟩
  rw [hfinish]
  rfl

end ScriptLink

end Preseed
