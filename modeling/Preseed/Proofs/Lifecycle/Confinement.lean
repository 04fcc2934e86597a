import Mathlib.Data.List.Infix
import Preseed.Proofs.Client.Link
import Preseed.Proofs.Client.Safety
import Preseed.Proofs.Lifecycle.Frame
import Preseed.Proofs.Text.OneLine

/-! # Confinement of request values

No value of a request breaks a line of the frame in two. Apart from comments and the two directives that
fetch scripts, the lines of the frame depend on nothing but the kind of the mode and the place where the
run ended. -/

namespace Preseed

/-! ## Texts without line breaks -/

theorem isOneLine_of_isSafe {s : String} (h : isSafe s = true) : IsOneLine s :=
  isOneLine_of_all (by decide) (by decide) h

theorem isOneLine_of_isPrintable {s : String} (h : isPrintable s = true) : IsOneLine s :=
  isOneLine_of_all (by decide) (by decide) h

/-! ## The lines of the frame -/

namespace Lifecycle

/-- What the texts in the frame of a run are made of. -/
structure IsSafe (l : Lifecycle) : Prop where
  client : l.client.IsSafe
  mode : ∀ raw, l.mode = .unknownScript raw → isSafe raw = true
  command : ∀ phase, isPrintable (l.fetchCommand phase) = true

variable {l : Lifecycle}

theorem IsSafe.isOneLine_command (h : l.IsSafe) (phase : Phase) : IsOneLine (l.fetchCommand phase) :=
  isOneLine_of_isPrintable (h.command phase)

theorem IsSafe.isOneLine_titleLine (h : l.IsSafe) : IsOneLine l.titleLine := by
  have hname := isOneLine_of_isSafe h.client.name
  have hip := isOneLine_of_isSafe (Net.Address.isSafe_toString l.client.ip)
  have hhardware := isOneLine_of_isSafe h.client.hardwareAddress
  have hdistro := isOneLine_of_isSafe h.client.distro
  unfold titleLine
  simp only [isOneLine_append, hname, hip, hhardware, hdistro]
  decide

/-- How the directive begins that makes the installer fetch the script of a phase. -/
def fetchStart (phase : Phase) : String :=
  "d-i preseed/" ++ phaseWord phase ++ "_command string "

theorem commandLine_eq (l : Lifecycle) (phase : Phase) :
    l.commandLine phase = fetchStart phase ++ l.fetchCommand phase := by
  have hend : ScriptLink.lineEnd phase ≠ "" := by cases phase <;> decide
  have hcommand : (l.fetchCommand phase).isEmpty = false := by
    rw [fetchCommand, ScriptLink.commandLine, String.isEmpty_eq_false_iff]
    exact fun h => hend (String.append_eq_empty_iff.mp h).2
  have hstart : "d-i preseed/" = "d-i " ++ "preseed/" := by decide
  have hspace : "_command string " = "_command string" ++ " " := by decide
  simp only [commandLine, Directive.string, Directive.text, hcommand, fetchStart, hstart, hspace,
    String.append_assoc]
  rfl

theorem IsSafe.isOneLine_commandLine (h : l.IsSafe) (phase : Phase) :
    IsOneLine (l.commandLine phase) := by
  rw [commandLine_eq]
  refine isOneLine_append.mpr ⟨?_, h.isOneLine_command phase⟩
  cases phase <;> decide

theorem isOneLine_bannerLines {title : String} (h : IsOneLine title) :
    ∀ line ∈ Output.bannerLines title, IsOneLine line := by
  simp only [Output.bannerLines, List.forall_mem_cons]
  exact ⟨by decide, isOneLine_comment h, by decide, by decide, List.forall_mem_nil _⟩

theorem IsSafe.isOneLine_openingLines (h : l.IsSafe) : ∀ line ∈ l.openingLines, IsOneLine line := by
  unfold openingLines
  cases l.mode with
  | preseed => exact List.forall_mem_nil _
  | unknownScript raw => exact (by decide : ∀ line ∈ ["#!/bin/bash"], IsOneLine line)
  | script phase =>
      have hgenerate : IsOneLine ("Generate " ++ phaseWord phase ++ " script") := by
        cases phase <;> decide
      have hcommand := isOneLine_comment (h.isOneLine_command phase)
      simp only [preambleLines, List.forall_mem_append, List.forall_mem_cons]
      exact ⟨by decide, ⟨⟨by decide, isOneLine_comment hgenerate, by decide, hcommand, by decide⟩,
        by decide⟩, by decide⟩

theorem IsSafe.isOneLine_headLines (h : l.IsSafe) {names : List String}
    (hnames : ∀ name ∈ names, IsOneLine name) : ∀ line ∈ l.headLines names, IsOneLine line := by
  have hname : ∀ line ∈ names.map nameLine, IsOneLine line := by
    intro line hline
    obtain ⟨name, hmem, rfl⟩ := List.mem_map.mp hline
    exact isOneLine_comment (isOneLine_append.mpr ⟨by decide, hnames name hmem⟩)
  simp only [headLines, List.forall_mem_append, List.forall_mem_cons]
  exact ⟨⟨⟨h.isOneLine_openingLines, hname⟩, by decide, h.isOneLine_titleLine, by decide⟩,
    isOneLine_bannerLines (by decide)⟩

theorem IsSafe.isOneLine_middleLines (h : l.IsSafe) : ∀ line ∈ l.middleLines, IsOneLine line := by
  unfold middleLines
  cases hmode : l.mode with
  | preseed =>
      have hearly := h.isOneLine_commandLine .early
      have hlate := h.isOneLine_commandLine .late
      simp only [List.forall_mem_append, List.forall_mem_cons]
      exact ⟨⟨hearly, hlate, by decide⟩, isOneLine_bannerLines (by decide)⟩
  | script phase =>
      have htitle : IsOneLine ("Perform " ++ phaseWord phase ++ " script") := by
        cases phase <;> decide
      have hecho : IsOneLine ("echo \"Running " ++ phaseWord phase ++ " script\"") := by
        cases phase <;> decide
      simp only [List.forall_mem_append, List.forall_mem_cons]
      exact ⟨isOneLine_bannerLines htitle, hecho, List.forall_mem_nil _⟩
  | unknownScript raw =>
      have hraw := isOneLine_of_isSafe (h.mode raw hmode)
      simp only [List.forall_mem_cons]
      exact ⟨isOneLine_comment (isOneLine_append.mpr ⟨by decide, hraw⟩), by decide⟩

theorem isOneLine_closingLines (l : Lifecycle) : ∀ line ∈ l.closingLines, IsOneLine line := by
  unfold closingLines
  rw [List.forall_mem_append]
  refine ⟨?_, isOneLine_bannerLines (by decide)⟩
  cases l.mode with
  | preseed => exact List.forall_mem_nil _
  | script phase =>
      have hecho : IsOneLine ("echo \"Finished " ++ phaseWord phase ++ " script\"") := by
        cases phase <;> decide
      simp only [List.forall_mem_cons]
      exact ⟨hecho, by decide, List.forall_mem_nil _⟩
  | unknownScript raw => exact List.forall_mem_nil _

theorem IsSafe.isOneLine_frame (h : l.IsSafe) {names : List String}
    (hnames : ∀ name ∈ names, IsOneLine name) (stop : Option Hook) :
    ∀ line ∈ l.frame names stop, IsOneLine line := by
  intro line hline
  obtain ⟨block, hblock, hmem⟩ := List.mem_flatten.mp hline
  have hblock := List.mem_of_mem_take hblock
  simp only [List.mem_cons, List.not_mem_nil, or_false] at hblock
  rcases hblock with rfl | rfl | rfl | rfl
  · exact h.isOneLine_headLines hnames line hmem
  · exact h.isOneLine_middleLines line hmem
  · exact isOneLine_closingLines l line hmem
  · exact (by decide : ∀ line ∈ trailerLines, IsOneLine line) line hmem

end Lifecycle

/-! ## The lines that are no comments -/

def isComment (line : String) : Bool :=
  "#".toList.isPrefixOf line.toList

/-- A directive that fetches a script. -/
def isFetch (line : String) : Bool :=
  [Phase.early, .late].any fun phase => (Lifecycle.fetchStart phase).toList.isPrefixOf line.toList

/-- Neither of the two. -/
def isPlain (line : String) : Bool :=
  !isComment line && !isFetch line

theorem isComment_append (s : String) : isComment ("# " ++ s) = true := by
  rw [isComment, List.isPrefixOf_iff_prefix, String.toList_append]
  exact (by decide : "#".toList <+: "# ".toList).trans (List.prefix_append _ _)

theorem isFetch_commandLine (l : Lifecycle) (phase : Phase) :
    isFetch (l.commandLine phase) = true := by
  rw [isFetch, List.any_eq_true]
  refine ⟨phase, by cases phase <;> decide, ?_⟩
  rw [List.isPrefixOf_iff_prefix, Lifecycle.commandLine_eq, String.toList_append]
  exact List.prefix_append _ _

theorem isComment_of_isFetch {line : String} (h : isFetch line = true) : isComment line = false := by
  obtain ⟨phase, -, hphase⟩ := List.any_eq_true.mp h
  obtain ⟨rest, hrest⟩ := List.isPrefixOf_iff_prefix.mp hphase
  rw [isComment, ← hrest]
  cases phase <;> simp [Lifecycle.fetchStart, Lifecycle.phaseWord, List.isPrefixOf]

theorem isComment_commandLine (l : Lifecycle) (phase : Phase) :
    isComment (l.commandLine phase) = false :=
  isComment_of_isFetch (isFetch_commandLine l phase)

/-- The lines of the frame's blocks that are no comments, with the directives that preseed mode has
among them. -/
def Mode.codeBlocks (mode : Mode) (directives : List String) : List (List String) :=
  match mode with
  | .preseed => [["", ""], directives ++ ["", ""], [""], []]
  | .script phase =>
    ["" :: (Lifecycle.helperLines ++ ["", "", ""]),
      ["", "echo \"Running " ++ Lifecycle.phaseWord phase ++ " script\""],
      ["echo \"Finished " ++ Lifecycle.phaseWord phase ++ " script\"", "", ""],
      []]
  | .unknownScript _ => [["", ""], [""], [""], []]

/-- Two modes that differ in no more than the name of an unknown phase. -/
def Mode.SameKind : Mode → Mode → Prop
  | .preseed, .preseed => True
  | .script phase, .script phase' => phase = phase'
  | .unknownScript _, .unknownScript _ => True
  | _, _ => False

theorem Mode.SameKind.codeBlocks_eq {mode mode' : Mode} (h : mode.SameKind mode')
    (directives : List String) : mode.codeBlocks directives = mode'.codeBlocks directives := by
  unfold Mode.SameKind at h
  split at h
  · rfl
  · rw [h]
  · rfl
  · cases h

theorem Mode.codeBlocks_of_ne_preseed {mode : Mode} (h : mode ≠ .preseed)
    (directives : List String) : mode.codeBlocks directives = mode.codeBlocks [] := by
  cases mode with
  | preseed => exact absurd rfl h
  | script phase => rfl
  | unknownScript raw => rfl

theorem Mode.filter_codeBlocks (mode : Mode) {directives : List String}
    (h : ∀ line ∈ directives, isFetch line = true) :
    (mode.codeBlocks directives).map (List.filter (!isFetch ·)) = mode.codeBlocks [] := by
  have hdirectives : directives.filter (!isFetch ·) = [] := by
    simpa [List.filter_eq_nil_iff] using h
  have hblank : isFetch "" = false := by decide
  cases mode with
  | preseed => simp [codeBlocks, hdirectives, hblank]
  | script phase =>
      rw [codeBlocks_of_ne_preseed (by nofun)]
      cases phase <;> decide
  | unknownScript raw => simp [codeBlocks, hblank]

namespace Lifecycle

/-- The directives of preseed mode that fetch the scripts. -/
def fetchLines (l : Lifecycle) : List String :=
  [l.commandLine .early, l.commandLine .late]

theorem isFetch_of_mem_fetchLines (l : Lifecycle) : ∀ line ∈ l.fetchLines, isFetch line = true := by
  simp [fetchLines, isFetch_commandLine]

theorem filter_nameLine (names : List String) :
    (names.map nameLine).filter (!isComment ·) = [] := by
  simp [List.filter_eq_nil_iff, nameLine, isComment_append]

theorem filter_bannerLines (title : String) :
    (Output.bannerLines title).filter (!isComment ·) = [""] := by
  simp +decide [Output.bannerLines, isComment_append]

theorem filter_blocks (l : Lifecycle) (names : List String) :
    [l.headLines names, l.middleLines, l.closingLines, trailerLines].map
      (List.filter (!isComment ·)) = l.mode.codeBlocks l.fetchLines := by
  have hhelper : helperLines.filter (!isComment ·) = helperLines := by decide
  have htitle : isComment l.titleLine = true := isComment_append _
  have hnames := filter_nameLine names
  unfold headLines openingLines middleLines closingLines Mode.codeBlocks fetchLines
  cases l.mode with
  | preseed =>
      simp +decide [hnames, htitle, filter_bannerLines, isComment_commandLine, trailerLines]
  | script phase =>
      have hrunning : isComment ("echo \"Running " ++ phaseWord phase ++ " script\"") = false := by
        cases phase <;> decide
      have hfinished : isComment ("echo \"Finished " ++ phaseWord phase ++ " script\"") = false := by
        cases phase <;> decide
      simp +decide [hnames, htitle, filter_bannerLines, isComment_append, hhelper, hrunning, hfinished,
        preambleLines, trailerLines]
  | unknownScript raw =>
      simp +decide [hnames, htitle, filter_bannerLines, isComment_append, trailerLines]

theorem filter_frame (l : Lifecycle) (names : List String) (stop : Option Hook) :
    (l.frame names stop).filter (!isComment ·) =
      ((l.mode.codeBlocks l.fetchLines).take (blocksBefore stop)).flatten := by
  rw [frame, List.filter_flatten, List.map_take, filter_blocks]

/-- The lines that are neither comments nor fetch a script depend on the mode alone. -/
theorem filter_isPlain_frame (l : Lifecycle) (names : List String) (stop : Option Hook) :
    (l.frame names stop).filter isPlain =
      ((l.mode.codeBlocks []).take (blocksBefore stop)).flatten := by
  have hfetch := Mode.filter_codeBlocks l.mode l.isFetch_of_mem_fetchLines
  have hplain : (l.frame names stop).filter isPlain =
      ((l.frame names stop).filter (!isComment ·)).filter (!isFetch ·) := by
    rw [List.filter_filter]
    exact List.filter_congr fun line _ => Bool.and_comm _ _
  rw [hplain, filter_frame, List.filter_flatten, List.map_take, hfetch]

/-- No line of a script's frame is a directive that fetches a script. -/
theorem isFetch_of_mem_frame {l : Lifecycle} (h : l.mode ≠ .preseed) {names : List String}
    {stop : Option Hook} : ∀ line ∈ l.frame names stop, isFetch line = false := by
  intro line hline
  cases hfetch : isFetch line with
  | false => rfl
  | true =>
      have hcode : line ∈ (l.frame names stop).filter (!isComment ·) := by
        simp [hline, isComment_of_isFetch hfetch]
      rw [filter_frame, Mode.codeBlocks_of_ne_preseed h, ← l.filter_isPlain_frame names] at hcode
      have hplain := (List.mem_filter.mp hcode).2
      simp [isPlain, hfetch] at hplain

end Lifecycle

/-! ## Requests -/

/-- A request with what its lookups answer. -/
structure Visit where
  ip : Net.Address
  query : String
  /-- The name of the address. -/
  name : Option String := none
  hardware : Option String := none
  /-- The classes from the directory. -/
  classes : List String := []
  base : Url

namespace Visit

def params (v : Visit) : Params :=
  Params.parse v.query

def client (v : Visit) : Client :=
  ((Client.Builder.ofQuery v.ip v.name v.hardware v.query).extendClasses v.classes).build

/-- The run for the request. -/
def lifecycle (v : Visit) : Lifecycle :=
  { mode := v.params.mode, client := v.client, link := .ofUrl v.base
    pluginFilter := v.params.plugin }

/-- What is relied on: hardware addresses are safe, and URLs are printable. -/
structure IsSound (v : Visit) : Prop where
  hardware : ∀ a ∈ v.hardware, isSafe a = true
  base : isPrintable v.base.toString = true

theorem IsSound.isSafe_lifecycle {v : Visit} (h : v.IsSound) : v.lifecycle.IsSafe where
  client := ((Client.Builder.isSafe_ofQuery v.ip v.name h.hardware v.query).extendClasses
    v.classes).build
  mode := by
    intro raw hmode
    change v.params.mode = _ at hmode
    unfold Params.mode at hmode
    split at hmode
    · cases hmode
    · rename_i script hscript
      split at hmode
      · cases hmode
      · cases hmode
        exact (Params.isSafe_parse v.query).script raw hscript
  command := fun phase => ScriptLink.isPrintable_commandLine h.base phase v.client v.params.plugin

/-- No value of a request breaks a line of the frame, only preseed mode has directives that fetch
scripts, and the lines besides these and comments are the same for all requests of a kind, as far as
both runs go. -/
theorem frame_confined {σ τ : Type} (v : Visit) (h : v.IsSound) (plugins : List (LoadedPlugin σ))
    (hnames : ∀ p ∈ plugins, IsOneLine p.name) (out : Output) :
    let r := v.lifecycle.run plugins out
    let lines := v.lifecycle.frameLines plugins out
    r.output.lines = out.lines ++ (v.lifecycle.transcript plugins out).flatMap Event.lines ∧
      (∀ line ∈ lines, IsOneLine line) ∧
      (v.lifecycle.mode ≠ .preseed → ∀ line ∈ lines, isFetch line = false) ∧
      ∀ (w : Visit) (others : List (LoadedPlugin τ)) (out' : Output),
        v.lifecycle.mode.SameKind w.lifecycle.mode →
        let r' := w.lifecycle.run others out'
        let plain := lines.filter isPlain
        let plain' := (w.lifecycle.frameLines others out').filter isPlain
        (plain <+: plain' ∨ plain' <+: plain) ∧
          (r.stop = r'.stop → plain = plain') ∧
          (r.failure = none → r'.failure = none → plain = plain') := by
  intro r lines
  have hsafe := h.isSafe_lifecycle
  have hlines : lines = v.lifecycle.frame (plugins.map (·.name)) r.stop :=
    Lifecycle.frameLines_eq _ _ _
  refine ⟨Lifecycle.lines_run _ _ _, ?_, ?_, ?_⟩
  · rw [hlines]
    exact hsafe.isOneLine_frame (by simpa using hnames) _
  · intro hmode
    rw [hlines]
    exact Lifecycle.isFetch_of_mem_frame hmode
  · intro w others out' hkind r' plain plain'
    have hplain : plain = ((v.lifecycle.mode.codeBlocks []).take
        (Lifecycle.blocksBefore r.stop)).flatten := by
      change lines.filter isPlain = _
      rw [hlines, Lifecycle.filter_isPlain_frame]
    have hplain' : plain' = ((v.lifecycle.mode.codeBlocks []).take
        (Lifecycle.blocksBefore r'.stop)).flatten := by
      change (w.lifecycle.frameLines others out').filter isPlain = _
      rw [Lifecycle.frameLines_eq, Lifecycle.filter_isPlain_frame, hkind.codeBlocks_eq]
    have hstop : r.stop = r'.stop → plain = plain' := by
      intro hstop
      rw [hplain, hplain', hstop]
    refine ⟨?_, hstop, ?_⟩
    · rw [hplain, hplain']
      rcases Nat.le_total (Lifecycle.blocksBefore r.stop) (Lifecycle.blocksBefore r'.stop) with
        hle | hle
      · exact .inl (List.take_prefix_take_left hle).flatten
      · exact .inr (List.take_prefix_take_left hle).flatten
    · intro hfailure hfailure'
      exact hstop (by rw [Run.stop_of_failure_none hfailure, Run.stop_of_failure_none hfailure'])

theorem frame_confined_of_hostile :
    let v : Visit :=
      { ip := .v4 ⟨10, 0, 0, 5⟩, query := "script=middle%0Aecho&client=a%0Ab&distro=%0D"
        name := some "host\nname", hardware := some "52:54:00:12:34:56", classes := ["a\nb"]
        base := { scheme := "http", host := some (.name "install.lab.example")
                  path := .segments ["preseed"] } }
    let plugin : LoadedPlugin Unit :=
      { name := "Alpha", kind := "Recorder"
        plugin := { state := (), call := fun _ _ s => { state := s, lines := ["x\ny"] } } }
    v.IsSound ∧ (∀ p ∈ [plugin], IsOneLine p.name) ∧
      ∀ line ∈ v.lifecycle.frameLines [plugin] {}, IsOneLine line := by
  intro v plugin
  have hsound : v.IsSound := ⟨by decide, by decide⟩
  have hnames : ∀ p ∈ [plugin], IsOneLine p.name := by
    intro p hp
    obtain rfl := List.mem_singleton.mp hp
    decide
  exact ⟨hsound, hnames, (frame_confined (τ := Unit) v hsound [plugin] hnames {}).2.1⟩

/-- A plugin that fails cuts the frame short, also beside a request of the same kind. -/
theorem frame_not_fixed :
    ¬ ∀ (v w : Visit) (plugins others : List (LoadedPlugin Unit)), v.IsSound → w.IsSound →
      (∀ p ∈ plugins, IsOneLine p.name) → (∀ p ∈ others, IsOneLine p.name) →
      v.lifecycle.mode.SameKind w.lifecycle.mode →
      (v.lifecycle.frameLines plugins {}).filter isPlain =
        (w.lifecycle.frameLines others {}).filter isPlain := by
  intro h
  let v : Visit :=
    { ip := .v4 ⟨10, 0, 0, 5⟩, query := ""
      base := { scheme := "http", host := some (.name "install.lab.example")
                path := .segments ["preseed"] } }
  let plugin (place : Option Hook) : LoadedPlugin Unit :=
    { name := "Alpha", kind := "Recorder"
      plugin :=
        { state := ()
          call := fun hook _ s =>
            { state := s
              failure := if some hook = place then some (.execution "boom Alpha") else none } } }
  have hsound : v.IsSound := ⟨by decide, by decide⟩
  have hnames : ∀ place, ∀ p ∈ [plugin place], IsOneLine p.name := by
    intro place p hp
    obtain rfl := List.mem_singleton.mp hp
    exact (by decide : IsOneLine "Alpha")
  have hmode : v.lifecycle.mode = .preseed := by decide
  have hcut : (v.lifecycle.run [plugin (some .setUp)] {}).stop = some .setUp := by rfl
  have hwhole : (v.lifecycle.run [plugin none] {}).stop = none := by rfl
  have heq := h v v _ _ hsound hsound (hnames (some .setUp)) (hnames none) (by rw [hmode]; trivial)
  rw [Lifecycle.frameLines_eq, Lifecycle.frameLines_eq, Lifecycle.filter_isPlain_frame,
    Lifecycle.filter_isPlain_frame, hcut, hwhole, hmode] at heq
  revert heq
  decide

end Visit

end Preseed
