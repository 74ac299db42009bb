import LineScript.Proofs.Statement.RoundTrip

namespace LineScript.Statement

open Text

def enabled (statement : Statement) : Statement := { statement with disabled := false }

theorem enabled_eq_self {statement : Statement} (isEnabled : statement.disabled = false) :
    statement.enabled = statement := by
  rw [enabled, ← isEnabled]

/-- The line without its first `!`. -/
def eraseMarker (line : Text) : Text := line.erase '!'

theorem eraseMarker_append (lead : Blanks) (back : Text) :
    eraseMarker (lead.text ++ '!' :: back) = lead.text ++ back := by
  rw [eraseMarker, List.erase_append_right _ (lead.not_mem rfl), List.erase_cons_head]

namespace Form

def enabled (form : Form) : Form := { form with body := { form.body with marker := none } }

theorem statement_enabled (form : Form) : form.enabled.statement = form.statement.enabled := rfl

theorem exists_text_eq_of_disabled {form : Form} (disabled : form.statement.disabled = true) :
    ∃ gap : Blanks, form.text = '!' :: (gap.text ++ form.enabled.text) := by
  obtain ⟨gap, marked⟩ := Option.isSome_iff_exists.mp disabled
  exact ⟨gap, by simp [text, Body.text, enabled, marked, optionalText]⟩

end Form

variable {reading : Reading} {line : Text} {statement : Statement}

/-- A line that reads as a disabled statement, cut at its marker. -/
theorem exists_marker_of_read (accepted : read reading line = .ok statement)
    (disabled : statement.disabled = true) :
    ∃ (lead : Blanks) (back : Text), line = lead.text ++ '!' :: back ∧ back ≠ [] ∧
      read reading (lead.text ++ back) = .ok statement.enabled := by
  obtain ⟨form, rest, rfl, asked, whole, leaves⟩ := read_eq_ok_iff.mp accepted
  obtain ⟨gap, marked⟩ := Form.exists_text_eq_of_disabled disabled
  obtain ⟨lead, finish, split⟩ := exists_surrounded_trim line
  have written : form.enabled.text ≠ [] := List.ne_nil_of_mem (Reading.quote_mem_text form.enabled)
  rw [marked, List.cons_append, List.append_assoc] at whole
  have trimmed : IsTrimmed (form.enabled.text ++ rest) := by
    refine ⟨form.enabled.stops_isBlank_append rest, ?_⟩
    have finished := (isTrimmed_trim line).finish
    rw [whole, ← List.singleton_append, ← List.append_assoc, List.reverse_append] at finished
    exact (stops_append_of_ne_nil _ (by simp [written])).mp finished
  refine ⟨lead, gap.text ++ (form.enabled.text ++ rest) ++ finish.text, ?_, ?_, ?_⟩
  · rw [split, whole]
    simp only [List.append_assoc, List.cons_append]
  · simp [written]
  · rw [← List.append_assoc]
    refine read_eq_ok_iff.mpr ⟨form.enabled, rest, form.statement_enabled, asked, ?_, leaves⟩
    rw [trim_surrounded, trim_blanks_append gap trimmed]

end LineScript.Statement
