import LineScript.Text.Basic

/-!
Operand texts as templates: plain text with references in angle brackets. A reference begins at the
first `<` that is not yet inside one and ends at the next `>`; a `<` that no `>` follows is plain.
Filling replaces each reference that means something by what it means, in one pass.
-/

namespace LineScript

/-- Plain text, then references, each with the plain text that follows it. -/
structure Template where
  lead : Text
  references : List (Text × Text)
  deriving DecidableEq, Repr

namespace Template

/-- The text before the first reference, the body of that reference, and the text after it. -/
def cutReference (text : Text) : Option (Text × Text × Text) :=
  (Text.cut '<' text).bind fun (lead, opened) =>
    (Text.cut '>' opened).map fun (body, rest) => (lead, body, rest)

theorem length_lt_of_cutReference {text lead body rest : Text}
    (found : cutReference text = some (lead, body, rest)) : rest.length < text.length := by
  simp only [cutReference, Option.bind_eq_some_iff, Option.map_eq_some_iff, Prod.exists,
    Prod.mk.injEq] at found
  obtain ⟨before, opened, first, inner, after, second, rfl, rfl, rfl⟩ := found
  exact Nat.lt_trans (Text.length_lt_of_cut second) (Text.length_lt_of_cut first)

def ofText (text : Text) : Template :=
  match _ : cutReference text with
  | none => ⟨text, []⟩
  | some (lead, body, rest) =>
      let later := ofText rest
      ⟨lead, (body, later.lead) :: later.references⟩
termination_by text.length
decreasing_by exact length_lt_of_cutReference (by assumption)

def toText (template : Template) : Text :=
  template.lead ++ template.references.flatMap fun (body, after) => '<' :: body ++ '>' :: after

/-- The text with each reference replaced where `meaning` gives it one. -/
def fill (meaning : Text → Option Text) (template : Template) : Text :=
  template.lead ++ template.references.flatMap fun (body, after) =>
    (meaning body).getD ('<' :: body ++ ['>']) ++ after

theorem cutReference_eq_some_iff {text lead body rest : Text} :
    cutReference text = some (lead, body, rest) ↔
      text = lead ++ '<' :: body ++ '>' :: rest ∧ '<' ∉ lead ∧ '>' ∉ body := by
  simp only [cutReference, Option.bind_eq_some_iff, Option.map_eq_some_iff, Prod.exists,
    Prod.mk.injEq, Text.cut_eq_some_iff]
  constructor
  · intro given
    obtain ⟨_, _, ⟨rfl, noOpening⟩, _, _, ⟨rfl, noClosing⟩, rfl, rfl, rfl⟩ := given
    exact ⟨by simp, noOpening, noClosing⟩
  · intro given
    obtain ⟨rfl, noOpening, noClosing⟩ := given
    exact ⟨lead, body ++ '>' :: rest, ⟨by simp, noOpening⟩, body, rest, ⟨rfl, noClosing⟩, rfl, rfl,
      rfl⟩

theorem ofText_of_none {text : Text} (none : cutReference text = none) :
    ofText text = ⟨text, []⟩ := by
  rw [ofText]
  split <;> simp_all

theorem ofText_of_some {text lead body rest : Text}
    (found : cutReference text = some (lead, body, rest)) :
    ofText text = ⟨lead, (body, (ofText rest).lead) :: (ofText rest).references⟩ := by
  rw [ofText]
  split <;> simp_all

@[simp] theorem toText_ofText (text : Text) : (ofText text).toText = text := by
  fun_induction ofText text with
  | case1 => simp [toText]
  | case2 text lead body rest found later induction =>
      obtain ⟨rfl, _, _⟩ := cutReference_eq_some_iff.mp found
      simpa [toText, later] using induction

end Template

end LineScript
