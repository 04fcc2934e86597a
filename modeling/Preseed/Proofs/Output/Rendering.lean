import Preseed.Output.Basic
import Preseed.Proofs.Text.Lines

/-! # Rendered output

Output is rendered with a line feed behind every line, and a block of text is added line by line. Each
undoes the other, except for lines that are not one line by themselves and for texts that do not consist of
whole lines. -/

namespace Preseed.Output

theorem lines_empty_text (block : String) : (empty.text block).lines = Lines.ofString block := rfl

theorem toList_render (out : Output) :
    out.render.toList = Lines.ended (out.lines.map String.toList) :=
  Lines.toList_join out.lines

theorem eq_iff_lines {out out' : Output} :
    out = out' ↔ out.lines.map String.toList = out'.lines.map String.toList := by
  rw [List.map_inj_right fun _ _ => String.toList_inj.mp]
  exact ⟨congrArg lines, fun h => by cases out; cases out'; exact congrArg mk h⟩

theorem toList_lines_empty_text (block : String) :
    (empty.text block).lines.map String.toList = Lines.split block.toList := by
  simp [lines_empty_text, Lines.ofString, Function.comp_def]

/-- What is rendered is cut into the lines again if and only if each of them is one line by itself. -/
theorem empty_text_render_eq_iff (out : Output) :
    empty.text out.render = out ↔ ∀ line ∈ out.lines, Lines.IsLine line.toList := by
  rw [eq_iff_lines, toList_lines_empty_text, toList_render, Lines.split_ended_eq_iff,
    List.forall_mem_map]

/-- A text is rendered again from its lines if and only if it consists of whole lines. -/
theorem render_empty_text_eq_iff (block : String) :
    (empty.text block).render = block ↔ Lines.AreWhole block.toList := by
  rw [← String.toList_inj, toList_render, toList_lines_empty_text, Lines.ended_split_eq_iff]

/-- As many lines are rendered as were written if and only if none of them holds a line feed. -/
theorem count_render_eq_iff (out : Output) :
    out.render.toList.count '\n' = out.lines.length ↔ ∀ line ∈ out.lines, '\n' ∉ line.toList := by
  have hcount := Lines.count_ended_eq_iff (out.lines.map String.toList)
  rw [List.length_map, List.forall_mem_map] at hcount
  rw [toList_render, hcount]

/-- Rendering output and adding a text to empty output undo one another: from rendered output come the same
lines if none of them holds a line feed or ends in a carriage return, from a text's lines the same text if it
is empty or ends in a line feed and has no carriage return before any, and in no other case. Rendered lines
are as many as the written ones unless one holds a line feed. -/
theorem render_text_undo :
    (∀ out : Output, empty.text out.render = out ↔
      ∀ line ∈ out.lines, '\n' ∉ line.toList ∧ line.toList.getLast? ≠ some '\r') ∧
    (∀ block : String, (empty.text block).render = block ↔
      (block = "" ∨ block.toList.getLast? = some '\n') ∧ ¬ ['\r', '\n'] <:+: block.toList) ∧
    (∀ out : Output, out.render.toList.count '\n' = out.lines.length ↔
      ∀ line ∈ out.lines, '\n' ∉ line.toList) := by
  refine ⟨empty_text_render_eq_iff, fun block => ?_, count_render_eq_iff⟩
  rw [render_empty_text_eq_iff, Lines.AreWhole, String.toList_eq_nil_iff]

end Preseed.Output
