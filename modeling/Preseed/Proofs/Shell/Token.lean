import Preseed.Text.Shell

/-! # Tokens of shell lines

Before it does anything else, a POSIX shell cuts its input into words and operators. The lexer below goes
through the characters one by one. It keeps apart what stands for itself in a word, what may begin a pattern
or a home directory, and what is replaced by the value of a parameter or the output of a command. The bodies
of here-documents and what begins with `$` and a bracket are not read. -/

namespace Preseed.Shell

/-- A part of a word, without the quotes around it. -/
inductive Part where
  /-- A character that stands for itself. -/
  | literal (c : Char) (quoted : Bool)
  /-- A character that, outside of quotes, may begin a pattern or stand for a home directory. -/
  | pattern (c : Char)
  /-- A parameter with its `$`, or a command between backquotes. -/
  | expansion (text : List Char) (quoted : Bool)
  deriving DecidableEq

inductive Token where
  | word (parts : List Part)
  | operator (text : List Char)
  deriving DecidableEq

/-- Where the next character stands. -/
inductive Place where
  /-- Outside of quotes, in a word or between tokens. -/
  | bare
  /-- Behind a backslash. -/
  | escaped
  /-- Between single quotes. -/
  | single
  /-- Between double quotes. -/
  | double
  /-- Behind a backslash between double quotes. -/
  | doubleEscaped
  /-- Behind a `$` and the part of a name. -/
  | parameter (quoted : Bool) (name : List Char)
  /-- Behind a backquote and the part of a command. -/
  | command (quoted : Bool) (text : List Char)
  /-- Behind a backslash in such a command. -/
  | commandEscaped (quoted : Bool) (text : List Char)
  /-- Behind an operator, or the part of one. -/
  | operator (text : List Char)
  | comment
  /-- In what is not read. -/
  | unread
  deriving DecidableEq

structure State where
  /-- The tokens that have ended. -/
  tokens : List Token := []
  /-- The word that has begun. -/
  word : Option (List Part) := none
  place : Place := .bare
  deriving DecidableEq

def isBlank (c : Char) : Bool :=
  c ∈ [' ', '\t']

def isOperator (text : List Char) : Bool :=
  String.ofList text ∈ ["\n", "&", "&&", "(", ")", ";", ";;", "|", "||", "<", "<<", "<<-", "<&", "<>",
    ">", ">>", ">&", ">|"]

def isPattern (c : Char) : Bool :=
  c ∈ ['*', '?', '[', '~']

def isNameStart (c : Char) : Bool :=
  Ascii.isLetter c || c == '_'

/-- A parameter whose name is this character alone. -/
def isSpecialParameter (c : Char) : Bool :=
  Ascii.isDigit c || c ∈ ['@', '*', '#', '?', '-', '$', '!']

namespace State

/-- A word has begun, if none had. -/
def begin (s : State) : State :=
  { s with word := some (s.word.getD []) }

def push (s : State) (part : Part) : State :=
  { s with word := some (s.word.getD [] ++ [part]) }

def emit (s : State) (token : Token) : State :=
  { s with tokens := s.tokens ++ [token] }

def endWord (s : State) : State :=
  match s.word with
  | some parts => { s.emit (.word parts) with word := none }
  | none => s

/-- A `$` that no name follows stands for itself. -/
def endParameter (s : State) (quoted : Bool) (name : List Char) : State :=
  s.push (if name.isEmpty then .literal '$' quoted else .expansion ('$' :: name) quoted)

def bare (s : State) (c : Char) : State :=
  if isBlank c then { s.endWord with place := .bare }
  else if isOperator [c] then { s.endWord with place := .operator [c] }
  else if c = '#' && s.word.isNone then { s with place := .comment }
  else if c = '\'' then { s.begin with place := .single }
  else if c = '"' then { s.begin with place := .double }
  else if c = '\\' then { s with place := .escaped }
  else if c = '$' then { s.begin with place := .parameter false [] }
  else if c = '\x60' then { s.begin with place := .command false [] }
  else { s.push (if isPattern c then .pattern c else .literal c false) with place := .bare }

def double (s : State) (c : Char) : State :=
  if c = '"' then { s with place := .bare }
  else if c = '\\' then { s with place := .doubleEscaped }
  else if c = '$' then { s with place := .parameter true [] }
  else if c = '\x60' then { s with place := .command true [] }
  else { s.push (.literal c true) with place := .double }

/-- Behind an expansion, the quotes around it go on. -/
def around (quoted : Bool) : Place :=
  if quoted then .double else .bare

/-- Reads one character. -/
def step (s : State) (c : Char) : State :=
  match s.place with
  | .bare => s.bare c
  | .escaped =>
    if c = '\n' then { s with place := .bare } else { s.push (.literal c true) with place := .bare }
  | .single =>
    if c = '\'' then { s with place := .bare } else { s.push (.literal c true) with place := .single }
  | .double => s.double c
  | .doubleEscaped =>
    if c = '\n' then { s with place := .double }
    else if c ∈ ['$', '\x60', '"', '\\'] then { s.push (.literal c true) with place := .double }
    else { (s.push (.literal '\\' true)).push (.literal c true) with place := .double }
  | .parameter quoted name =>
    if isNameStart c || (!name.isEmpty && Ascii.isDigit c) then
      { s with place := .parameter quoted (name ++ [c]) }
    else if name.isEmpty && isSpecialParameter c then
      { s.push (.expansion ['$', c] quoted) with place := around quoted }
    else if name.isEmpty && c ∈ ['\x7b', '('] then { s with place := .unread }
    else if quoted then (s.endParameter quoted name).double c
    else (s.endParameter quoted name).bare c
  | .command quoted text =>
    if c = '\x60' then
      { s.push (.expansion ('\x60' :: (text ++ ['\x60'])) quoted) with place := around quoted }
    else if c = '\\' then { s with place := .commandEscaped quoted text }
    else { s with place := .command quoted (text ++ [c]) }
  | .commandEscaped quoted text => { s with place := .command quoted (text ++ ['\\', c]) }
  | .operator text =>
    if isOperator (text ++ [c]) then { s with place := .operator (text ++ [c]) }
    else (s.emit (.operator text)).bare c
  | .comment => if c = '\n' then s.bare c else s
  | .unread => s

def run (s : State) (cs : List Char) : State :=
  cs.foldl step s

@[simp] theorem run_nil (s : State) : s.run [] = s := rfl

@[simp] theorem run_cons (s : State) (c : Char) (cs : List Char) :
    s.run (c :: cs) = (s.step c).run cs := rfl

@[simp] theorem run_append (s : State) (cs ds : List Char) :
    s.run (cs ++ ds) = (s.run cs).run ds :=
  List.foldl_append

/-- The tokens, if nothing is left open where the input ends. -/
def finish (s : State) : Option (List Token) :=
  match s.place with
  | .bare => some s.endWord.tokens
  | .parameter false name => some (s.endParameter false name).endWord.tokens
  | .operator text => some (s.emit (.operator text)).tokens
  | .comment => some s.tokens
  | _ => none

/-- Between two tokens, outside of quotes. -/
def between (before : List Token) : State :=
  { tokens := before }

end State

/-- The tokens of a line. -/
def tokens? (line : String) : Option (List Token) :=
  ((State.between []).run line.toList).finish

example :
    tokens? "a\\ b 'c;'\"$d\" #e" = some [
      .word [.literal 'a' false, .literal ' ' true, .literal 'b' false],
      .word [.literal 'c' true, .literal ';' true, .expansion ['$', 'd'] true]] := by
  decide

/-- The characters of a word that stand for themselves, if all parts of the word do. -/
def text? (parts : List Part) : Option (List Char) :=
  parts.mapM fun
    | .literal c _ => some c
    | _ => none

/-! ## One token after another -/

namespace State

/-- The state behind further tokens. -/
def behind (before : List Token) (s : State) : State :=
  { s with tokens := before ++ s.tokens }

variable (before : List Token) (s : State)

theorem between_eq_behind : between before = (between []).behind before := by
  simp [between, behind]

theorem emit_behind (token : Token) :
    (s.behind before).emit token = (s.emit token).behind before := by
  simp [emit, behind]

theorem endWord_behind : (s.behind before).endWord = s.endWord.behind before := by
  obtain ⟨tokens, word, place⟩ := s
  cases word with
  | none => rfl
  | some parts => simp [endWord, emit, behind]

theorem bare_behind (c : Char) : (s.behind before).bare c = (s.bare c).behind before := by
  unfold bare
  rw [endWord_behind]
  simp only [apply_ite (behind before)]
  rfl

theorem double_behind (c : Char) : (s.behind before).double c = (s.double c).behind before := by
  unfold double
  simp only [apply_ite (behind before)]
  rfl

theorem step_behind (c : Char) : (s.behind before).step c = (s.step c).behind before := by
  obtain ⟨tokens, word, place⟩ := s
  cases place with
  | bare => exact bare_behind before _ c
  | double => exact double_behind before _ c
  | operator text =>
    have hemit := emit_behind before ⟨tokens, word, .operator text⟩ (.operator text)
    simp only [step, apply_ite (behind before), ← bare_behind, ← hemit]
    rfl
  | comment =>
    simp only [step, apply_ite (behind before), ← bare_behind]
    rfl
  | parameter quoted name =>
    simp only [step, apply_ite (behind before), ← bare_behind, ← double_behind]
    rfl
  | _ =>
    simp only [step, apply_ite (behind before)]
    rfl

/-- What was read before has no part in how the rest is read. -/
theorem run_behind (cs : List Char) : (s.behind before).run cs = (s.run cs).behind before := by
  induction cs generalizing s with
  | nil => rfl
  | cons c cs ih => rw [run_cons, step_behind, ih, run_cons]

theorem finish_behind : (s.behind before).finish = s.finish.map (before ++ ·) := by
  obtain ⟨tokens, word, place⟩ := s
  let s : State := ⟨tokens, word, place⟩
  cases place with
  | bare => exact congrArg (some ·.tokens) (endWord_behind before s)
  | parameter quoted name =>
    cases quoted with
    | true => rfl
    | false => exact congrArg (some ·.tokens) (endWord_behind before (s.endParameter false name))
  | operator text => exact congrArg (some ·.tokens) (emit_behind before s (.operator text))
  | _ => rfl

end State

end Preseed.Shell
