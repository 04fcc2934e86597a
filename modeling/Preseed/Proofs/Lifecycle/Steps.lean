import Preseed.Lifecycle

/-! # A run as a list of steps

The nested loops of a run, over the hooks and over the plugins of each, do what one loop over a list of
steps does. A step writes lines of the frame or calls one plugin. -/

namespace Preseed

namespace Output

@[simp] theorem line_eq_append (out : Output) (s : String) : out.line s = out.append [s] := rfl

@[simp] theorem comment_eq_append (out : Output) (s : String) :
    out.comment s = out.append ["# " ++ s] := rfl

@[simp] theorem blank_eq_append (out : Output) : out.blank = out.append [""] := rfl

@[simp] theorem directive_eq_append (out : Output) (d : Directive) :
    out.directive d = out.append [d.text] := rfl

@[simp] theorem append_append (out : Output) (a b : List String) :
    (out.append a).append b = out.append (a ++ b) := by
  simp [append]

@[simp] theorem append_nil (out : Output) : out.append [] = out := by
  simp [append]

@[simp] theorem lines_append (out : Output) (a : List String) :
    (out.append a).lines = out.lines ++ a := rfl

/-- The lines of a title between two empty comments. -/
def bannerLines (title : String) : List String :=
  ["#", "# " ++ title, "#", ""]

@[simp] theorem banner_eq_append (out : Output) (title : String) :
    out.banner title = out.append (bannerLines title) := by
  simp [banner, bannerLines]

end Output

/-- One step of a run. -/
inductive Step where
  /-- The frame writes lines. -/
  | write (lines : List String)
  /-- The plugin at a position is called in a hook. -/
  | call (index : Nat) (hook : Hook)
  deriving DecidableEq, Repr

namespace Step

/-- Calls of a hook of each of `n` plugins in order. -/
def calls (n : Nat) (hook : Hook) : List Step :=
  (List.range n).map (call · hook)

end Step

namespace Run

variable {σ : Type}

/-- A plugin after a call. -/
def after (p : LoadedPlugin σ) (reply : Reply σ) : LoadedPlugin σ :=
  { p with plugin := { p.plugin with state := reply.state } }

/-- What a plugin answers in a hook when a run stands where it stands. -/
def reply (r : Run σ) (p : LoadedPlugin σ) (hook : Hook) : Reply σ :=
  p.plugin.call hook r.output p.plugin.state

/-- The run after one step. Nothing happens in a run that has ended. -/
def step (r : Run σ) (s : Step) : Run σ :=
  match r.failure with
  | some _ => r
  | none =>
    match s with
    | .write lines => { r with output := r.output.append lines }
    | .call index hook =>
      match r.plugins[index]? with
      | none => r
      | some p =>
        { plugins := r.plugins.set index (after p (r.reply p hook))
          output := r.output.append (r.reply p hook).lines
          calls := r.calls ++ [(p.name, hook)]
          closes := r.closes + (r.reply p hook).closes
          failure := (r.reply p hook).failure.map (.hook p.name hook) }

theorem step_of_failure {r : Run σ} {e : PluginError} (h : r.failure = some e) (s : Step) :
    r.step s = r := by
  simp [step, h]

theorem foldl_step_of_failure {r : Run σ} {e : PluginError} (h : r.failure = some e)
    (steps : List Step) : steps.foldl step r = r := by
  induction steps with
  | nil => rfl
  | cons s steps ih => rw [List.foldl_cons, step_of_failure h, ih]

theorem write_eq_step (r : Run σ) (lines : List String) :
    r.write (·.append lines) = r.step (.write lines) := by
  unfold write step
  cases r.failure <;> rfl

theorem step_write {r : Run σ} (h : r.failure = none) (lines : List String) :
    r.step (.write lines) = { r with output := r.output.append lines } := by
  simp [step, h]

/-- Two writes in a row are one. -/
theorem step_write_write (r : Run σ) (a b : List String) :
    (r.step (.write a)).step (.write b) = r.step (.write (a ++ b)) := by
  cases hfailure : r.failure with
  | some e => simp [step_of_failure hfailure]
  | none => simp [step, hfailure]

theorem step_call {r : Run σ} {index : Nat} {p : LoadedPlugin σ} (h : r.failure = none)
    (hp : r.plugins[index]? = some p) (hook : Hook) :
    r.step (.call index hook) =
      { plugins := r.plugins.set index (after p (r.reply p hook))
        output := r.output.append (r.reply p hook).lines
        calls := r.calls ++ [(p.name, hook)]
        closes := r.closes + (r.reply p hook).closes
        failure := (r.reply p hook).failure.map (.hook p.name hook) } := by
  simp [step, h, hp]

theorem step_call_of_none {r : Run σ} {index : Nat} (hp : r.plugins[index]? = none) (hook : Hook) :
    r.step (.call index hook) = r := by
  unfold step
  split
  · rfl
  · simp [hp]

/-- The plugins before position `done.length` have been called already. -/
theorem foldl_calls_from (hook : Hook) (done rest : List (LoadedPlugin σ)) (output : Output)
    (calls : List (String × Hook)) (closes : Nat) :
    ((List.range' done.length rest.length).map (Step.call · hook)).foldl step
        { plugins := done ++ rest, output, calls, closes } =
      { callEach hook output rest with
        plugins := done ++ (callEach hook output rest).plugins
        calls := calls ++ (callEach hook output rest).calls
        closes := closes + (callEach hook output rest).closes } := by
  induction rest generalizing done output calls closes with
  | nil => simp [callEach]
  | cons p rest ih =>
      have hp : (done ++ p :: rest)[done.length]? = some p := by simp
      rw [List.length_cons, List.range'_succ, List.map_cons, List.foldl_cons, step_call rfl hp]
      simp only [reply]
      generalize hreply : p.plugin.call hook output p.plugin.state = answer
      have hset : (done ++ p :: rest).set done.length (after p answer) =
          (done ++ [after p answer]) ++ rest := by simp
      cases hfailure : answer.failure with
      | some e =>
          rw [Option.map_some, foldl_step_of_failure (e := .hook p.name hook e) rfl, hset]
          simp [callEach, hreply, hfailure, after]
      | none =>
          have hrest := ih (done ++ [after p answer]) (output.append answer.lines)
            (calls ++ [(p.name, hook)]) (closes + answer.closes)
          rw [List.length_append, List.length_singleton] at hrest
          rw [hset, Option.map_none, hrest]
          simp [callEach, hreply, hfailure, after, Nat.add_assoc]

/-- Calling a hook of all plugins is calling it of one plugin after another. -/
theorem call_eq_foldl (r : Run σ) (hook : Hook) :
    r.call hook = (Step.calls r.plugins.length hook).foldl step r := by
  cases hfailure : r.failure with
  | some e =>
      rw [foldl_step_of_failure hfailure]
      simp [call, hfailure]
  | none =>
      have hfrom := foldl_calls_from hook [] r.plugins r.output r.calls r.closes
      simp only [List.length_nil, List.nil_append, ← List.range_eq_range'] at hfrom
      obtain ⟨plugins, output, calls, closes, failure⟩ := r
      subst hfailure
      rw [call, Step.calls, hfrom]

@[simp] theorem length_plugins_step (r : Run σ) (s : Step) :
    (r.step s).plugins.length = r.plugins.length := by
  unfold step
  split
  · rfl
  · cases s with
    | write lines => rfl
    | call index hook =>
        dsimp only
        split
        · rfl
        · exact List.length_set

@[simp] theorem length_plugins_foldl (r : Run σ) (steps : List Step) :
    (steps.foldl step r).plugins.length = r.plugins.length := by
  induction steps generalizing r with
  | nil => rfl
  | cons s steps ih => rw [List.foldl_cons, ih, length_plugins_step]

end Run

namespace Lifecycle

variable {σ : Type}

/-! ## The lines of the frame -/

/-- What an answer calls a phase. -/
def phaseWord : Phase → String
  | .early => "early"
  | .late => "late"

theorem toString_eq_phaseWord (phase : Phase) : phase.toString = phaseWord phase := by
  cases phase <;> rfl

/-- The shell function by which scripts fetch files: it downloads the URL of its first argument to the
path of its second one. -/
def helperLines : List String :=
  ["download_file() \x7b",
    "URL=\"$1\"",
    "DEST=\"$2\"",
    "if [ ! -z \"$URL\" -a ! -z \"$DEST\" ]; then",
    "    wget -q -O $DEST \"$URL\" 2>&1",
    "    RES=$?",
    "else",
    "    RES=1",
    "fi",
    "return $RES",
    "\x7d"]

theorem downloadHelper_eq : downloadHelper = helperLines := rfl

/-- The command that fetches and runs the script of a phase for the client, with its plugin filter. -/
def fetchCommand (l : Lifecycle) (phase : Phase) : String :=
  l.link.commandLine phase l.client l.pluginFilter

theorem command_eq (l : Lifecycle) (phase : Phase) : l.command phase = l.fetchCommand phase := rfl

/-- What precedes everything else in the script of a phase. -/
def preambleLines (l : Lifecycle) (phase : Phase) : List String :=
  ["#", "# " ++ ("Generate " ++ phaseWord phase ++ " script"), "# manual execute:",
    "# " ++ l.fetchCommand phase, "#", "", "#", "# helper functions", "#"] ++ helperLines ++ [""]

def openingLines (l : Lifecycle) : List String :=
  match l.mode with
  | .preseed => []
  | .script phase => "#!/bin/bash" :: l.preambleLines phase
  | .unknownScript _ => ["#!/bin/bash"]

def nameLine (name : String) : String :=
  "# " ++ ("Plugin " ++ name)

def titleLine (l : Lifecycle) : String :=
  "# " ++ ("Preseed installer for machine " ++ l.client.name ++ " (" ++ l.client.ip.toString ++
    ", " ++ l.client.hardwareAddress ++ ", " ++ l.client.distro ++ ")")

/-- What is written before the first call. -/
def headLines (l : Lifecycle) (names : List String) : List String :=
  l.openingLines ++ names.map nameLine ++ ["#", l.titleLine, "#", ""] ++
    Output.bannerLines "Initialize Plugins"

/-- The directive that makes the installer fetch and run the script of a phase. -/
def commandLine (l : Lifecycle) (phase : Phase) : String :=
  (Directive.string ("preseed/" ++ phaseWord phase ++ "_command") (l.fetchCommand phase)).text

/-- What is written between the set-up and the calls of the mode's own hook. -/
def middleLines (l : Lifecycle) : List String :=
  match l.mode with
  | .preseed =>
    [l.commandLine .early, l.commandLine .late, ""] ++ Output.bannerLines "Perform preseed"
  | .script phase =>
    Output.bannerLines ("Perform " ++ phaseWord phase ++ " script") ++
      ["echo \"Running " ++ phaseWord phase ++ " script\""]
  | .unknownScript raw => ["# " ++ ("Unsupported script phase: " ++ raw), ""]

/-- What is written between those calls and the tear-down. -/
def closingLines (l : Lifecycle) : List String :=
  (match l.mode with
    | .preseed => []
    | .script phase => ["echo \"Finished " ++ phaseWord phase ++ " script\"", ""]
    | .unknownScript _ => []) ++ Output.bannerLines "Deinitialize Plugins"

def trailerLines : List String :=
  ["#", "# EOF", "#"]

/-! ## The steps -/

/-- The hook of a mode between set-up and tear-down, if it has one. -/
def modeHook : Mode → Option Hook
  | .preseed => some .preseed
  | .script .early => some .scriptEarly
  | .script .late => some .scriptLate
  | .unknownScript _ => none

theorem modeHook_script (phase : Phase) : modeHook (.script phase) = some (Hook.ofPhase phase) := by
  cases phase <;> rfl

/-- The steps of a run of plugins with the given names. -/
def steps (l : Lifecycle) (names : List String) : List Step :=
  .write (l.headLines names) :: Step.calls names.length .setUp ++
    .write l.middleLines :: (modeHook l.mode).toList.flatMap (Step.calls names.length) ++
    .write l.closingLines :: Step.calls names.length .tearDown ++
    [.write trailerLines]

theorem opening_eq_append (l : Lifecycle) (out : Output) :
    l.opening out = out.append l.openingLines := by
  unfold opening openingLines
  cases l.mode with
  | preseed => simp
  | script phase =>
      simp [preamble, preambleLines, toString_eq_phaseWord, command_eq, downloadHelper_eq]
  | unknownScript raw => simp

theorem names_eq_append (plugins : List (LoadedPlugin σ)) (out : Output) :
    names plugins out = out.append (plugins.map fun p => nameLine p.name) := by
  induction plugins generalizing out with
  | nil => simp [names]
  | cons p plugins ih =>
      change names plugins (out.comment ("Plugin " ++ p.name)) = _
      rw [ih]
      simp [nameLine]

theorem head_eq_append (l : Lifecycle) (plugins : List (LoadedPlugin σ)) (out : Output) :
    (l.title (names plugins (l.opening out))).banner "Initialize Plugins" =
      out.append (l.headLines (plugins.map (·.name))) := by
  simp [title, names_eq_append, opening_eq_append, headLines, titleLine, List.map_map,
    Function.comp_def]

/-- The part of a run between its set-up and its tear-down. -/
theorem body_eq_foldl (l : Lifecycle) (r : Run σ) :
    (l.body r).write (·.banner "Deinitialize Plugins") =
      (Step.write l.middleLines :: (modeHook l.mode).toList.flatMap (Step.calls r.plugins.length) ++
        [Step.write l.closingLines]).foldl Run.step r := by
  have hcalls : ∀ (lines : List String) (hook : Hook), (r.step (.write lines)).call hook =
      (Step.calls r.plugins.length hook).foldl Run.step (r.step (.write lines)) := by
    intro lines hook
    rw [Run.call_eq_foldl, Run.length_plugins_step]
  unfold body middleLines closingLines
  cases l.mode with
  | preseed => simp [Run.write_eq_step, hcalls, commandLine, command_eq, phaseWord, modeHook]
  | script phase =>
      simp [Run.write_eq_step, hcalls, Run.step_write_write, toString_eq_phaseWord, modeHook_script]
  | unknownScript raw => simp [Run.write_eq_step, modeHook]

/-- A run is a loop over its steps. -/
theorem run_eq_foldl (l : Lifecycle) (plugins : List (LoadedPlugin σ)) (out : Output) :
    l.run plugins out =
      (l.steps (plugins.map (·.name))).foldl Run.step { plugins, output := out } := by
  have hhead : ({ plugins, output := out.append (l.headLines (plugins.map (·.name))) } : Run σ) =
      Run.step { plugins, output := out } (.write (l.headLines (plugins.map (·.name)))) := rfl
  unfold run
  dsimp only
  rw [head_eq_append, hhead, body_eq_foldl]
  simp only [Run.call_eq_foldl, Output.line_eq_append, Output.comment_eq_append,
    Output.append_append, Run.write_eq_step, Run.length_plugins_foldl, Run.length_plugins_step]
  simp only [steps, trailerLines, List.length_map, List.foldl_append, List.foldl_cons,
    List.foldl_nil]
  rfl

end Lifecycle

end Preseed
