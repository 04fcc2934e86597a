import Mathlib.Tactic.Tauto
import Preseed.Client.Params
import Preseed.Proofs.Shell.Token

/-! # Quoted texts are read as one word

A lexer that stands between two tokens in front of a quoted text takes it for one word, whose parts stand
for the characters of the text and nothing else. -/

namespace Preseed.Shell

/-- The characters that the lexer does more with than to copy them. -/
def special : List Char :=
  [' ', '\t', '\n', '&', '(', ')', ';', '|', '<', '>', '#', '\'', '"', '\\', '$', '\x60', '*', '?', '[', '~']

theorem ne_of_mem_special {c d : Char} (h : isInert c = true) (hd : d ∈ special) : c ≠ d := by
  rintro rfl
  have hall : special.all (fun c => !isInert c) = true := by decide
  have hnot := List.all_eq_true.mp hall c hd
  rw [h] at hnot
  cases hnot

theorem isOperator_singleton {c : Char} :
    isOperator [c] = true ↔ c ∈ ['\n', '&', '(', ')', ';', '|', '<', '>'] := by
  simp [isOperator, ← String.toList_inj]

theorem bare_of_isInert {c : Char} (h : isInert c = true) (s : State) :
    s.bare c = { s.push (.literal c false) with place := .bare } := by
  have hne := fun d (hd : d ∈ special) => ne_of_mem_special h hd
  simp only [special, List.forall_mem_cons] at hne
  have hoperator : isOperator [c] = false := by
    rw [Bool.eq_false_iff, ne_eq, isOperator_singleton]
    simp [hne]
  simp [State.bare, hoperator, isBlank, isPattern, hne]

/-! ## Reading a quoted text -/

/-- The word that a quoted text is read as. -/
def wordOf (cs : List Char) : List Part :=
  cs.map (.literal · (cs.isEmpty || !cs.all isInert))

theorem text?_map_literal (cs : List Char) (quoted : Bool) :
    text? (cs.map (.literal · quoted)) = some cs := by
  induction cs with
  | nil => rfl
  | cons c cs ih =>
    rw [text?] at ih ⊢
    rw [List.map_cons, List.mapM_cons, ih]
    rfl

section

variable (before : List Token) (parts : List Part)

theorem run_of_isInert {cs : List Char} (h : ∀ c ∈ cs, isInert c = true) :
    State.run ⟨before, some parts, .bare⟩ cs =
      ⟨before, some (parts ++ cs.map (.literal · false)), .bare⟩ := by
  induction cs generalizing parts with
  | nil => simp
  | cons c cs ih =>
    have hstep : State.step ⟨before, some parts, .bare⟩ c =
        ⟨before, some (parts ++ [.literal c false]), .bare⟩ :=
      bare_of_isInert (h c List.mem_cons_self) _
    rw [State.run_cons, hstep, ih _ fun d hd => h d (List.mem_cons_of_mem c hd), List.append_assoc]
    rfl

/-- A single quote closes the quotes, stands behind a backslash, and opens them again. -/
theorem run_escapeQuote (c : Char) :
    State.run ⟨before, some parts, .single⟩ (escapeQuote c) =
      ⟨before, some (parts ++ [.literal c true]), .single⟩ := by
  by_cases h : c = '\''
  · subst h
    rfl
  · rw [escapeQuote, if_neg h]
    simp [State.step, State.push, h]

theorem run_flatMap_escapeQuote (cs : List Char) :
    State.run ⟨before, some parts, .single⟩ (cs.flatMap escapeQuote) =
      ⟨before, some (parts ++ cs.map (.literal · true)), .single⟩ := by
  induction cs generalizing parts with
  | nil => simp
  | cons c cs ih =>
    rw [List.flatMap_cons, State.run_append, run_escapeQuote, ih, List.append_assoc]
    rfl

/-- Between two tokens, a quoted text begins a word of its characters, and ends none. -/
theorem run_quoteChars (cs : List Char) :
    (State.between before).run (quoteChars cs) = ⟨before, some (wordOf cs), .bare⟩ := by
  unfold quoteChars wordOf
  split
  · rename_i hinert
    rw [Bool.and_eq_true, Bool.not_eq_true', List.all_eq_true] at hinert
    obtain ⟨hne, hall⟩ := hinert
    have hquoted : (cs.isEmpty || !cs.all isInert) = false := by
      rw [hne, List.all_eq_true.mpr hall]
      rfl
    rw [hquoted]
    cases cs with
    | nil => cases hne
    | cons c cs =>
      have hstep : (State.between before).step c = ⟨before, some [.literal c false], .bare⟩ :=
        bare_of_isInert (hall c List.mem_cons_self) _
      rw [State.run_cons, hstep, run_of_isInert before _ fun d hd => hall d (List.mem_cons_of_mem c hd)]
      rfl
  · rename_i hactive
    have hquoted : (cs.isEmpty || !cs.all isInert) = true := by
      simpa [Classical.or_iff_not_imp_left] using hactive
    have hopen : (State.between before).step '\'' = ⟨before, some [], .single⟩ := rfl
    rw [hquoted, State.run_cons, hopen, State.run_append, run_flatMap_escapeQuote]
    rfl

end

/-! ## Behind a quoted text -/

/-- The text is empty, or begins with a blank or a semicolon. -/
def EndsWord (rest : List Char) : Prop :=
  ∀ c ∈ rest.head?, isBlank c = true ∨ c = ';'

theorem finish_run_of_endsWord {rest : List Char} (h : EndsWord rest) (before : List Token)
    (parts : List Part) :
    (State.run ⟨before, some parts, .bare⟩ rest).finish =
      ((State.between (before ++ [.word parts])).run rest).finish := by
  cases rest with
  | nil => rfl
  | cons c rest =>
    have hc : isBlank c = true ∨ c = ';' := h c rfl
    simp only [isBlank, List.mem_cons, List.not_mem_nil, or_false, decide_eq_true_eq] at hc
    rw [State.run_cons, State.run_cons]
    rcases hc with (rfl | rfl) | rfl
    all_goals rfl

/-- A quoted text is one token, and the rest is read as if it followed any other. -/
theorem finish_run_quote {rest : List Char} (h : EndsWord rest) (before : List Token)
    (text : String) :
    ((State.between before).run ((quote text).toList ++ rest)).finish =
      ((State.between (before ++ [.word (wordOf text.toList)])).run rest).finish := by
  rw [quote, String.toList_ofList, State.run_append, run_quoteChars, finish_run_of_endsWord h]

/-! ## Safe values -/

theorem isInert_of_isSafeChar {c : Char} (h : isSafeChar c = true) : isInert c = true := by
  simp only [isSafeChar, isInert, Bool.or_eq_true, List.mem_cons, List.not_mem_nil, or_false,
    decide_eq_true_eq] at h ⊢
  tauto

theorem quote_of_isSafe {text : String} (hne : text ≠ "") (h : isSafe text = true) :
    quote text = text := by
  have hall : text.toList.all isInert = true := by
    rw [List.all_eq_true]
    exact fun c hc => isInert_of_isSafeChar (List.all_eq_true.mp h c hc)
  have hnonempty : text.toList ≠ [] := by simpa using hne
  rw [quote, quoteChars, if_pos, String.ofList_toList]
  simp [hall, hnonempty]

end Preseed.Shell
