import LineScript.Template
import Mathlib.Data.List.Basic

namespace LineScript.Template

open Text

/-- The plain pieces, from the lead to the text after the last reference. -/
def pieces (template : Template) : List Text := template.lead :: template.references.map Prod.snd

def last (template : Template) : Text := template.pieces.getLast (List.cons_ne_nil _ _)

/-- No `<` of the text has a `>` anywhere after it. -/
def Plain (text : Text) : Prop := ∀ before after, text = before ++ '<' :: after → '>' ∉ after

/-- The template is the text, cut into plain pieces and references as soon as it can be. -/
structure Segments (template : Template) (text : Text) : Prop where
  whole : template.toText = text
  opening : ∀ piece ∈ template.pieces.dropLast, '<' ∉ piece
  closing : ∀ reference ∈ template.references, '>' ∉ reference.1
  ending : Plain template.last

variable {template : Template} {text lead body after rest later : Text}
  {references : List (Text × Text)} {meaning : Text → Option Text}

theorem plain_cons {character : Char} :
    Plain (character :: rest) ↔ (character = '<' → '>' ∉ rest) ∧ Plain rest := by
  constructor
  · intro plain
    refine ⟨?_, ?_⟩
    · rintro rfl
      exact plain [] rest rfl
    · rintro before after rfl
      exact plain (character :: before) after rfl
  · intro ⟨opened, plain⟩ before after split
    cases before with
    | nil =>
        obtain ⟨rfl, rfl⟩ := List.cons.inj split
        exact opened rfl
    | cons first before => exact plain before after (List.cons.inj split).2

theorem plain_of_not_mem (clean : '<' ∉ text) : Plain text := by
  rintro before after rfl
  exact absurd (List.mem_append_right before List.mem_cons_self) clean

theorem cutReference_cons (character : Char) (rest : Text) :
    cutReference (character :: rest) =
      if character = '<' then (cut '>' rest).map fun (body, later) => ([], body, later)
      else (cutReference rest).map fun (lead, body, later) => (character :: lead, body, later) := by
  unfold cutReference
  rw [cut_cons]
  split
  · rfl
  · cases cut '<' rest with
    | none => rfl
    | some found =>
        obtain ⟨lead, opened⟩ := found
        change Option.map _ (cut '>' opened) = Option.map _ (Option.map _ (cut '>' opened))
        rw [Option.map_map]
        rfl

theorem cutReference_eq_none_iff : cutReference text = none ↔ Plain text := by
  induction text with
  | nil => exact ⟨fun _ _ _ split => by simp at split, fun _ => rfl⟩
  | cons character rest induction =>
      rw [cutReference_cons, plain_cons]
      split
      · rename_i opens
        rw [Option.map_eq_none_iff, cut_eq_none_iff]
        refine ⟨fun unclosed => ⟨fun _ => unclosed, ?_⟩, fun plain => plain.1 opens⟩
        rintro before after rfl closed
        exact unclosed (List.mem_append_right before (List.mem_cons_of_mem _ closed))
      · rename_i other
        rw [Option.map_eq_none_iff, induction]
        exact ⟨fun plain => ⟨fun opens => absurd opens other, plain⟩, And.right⟩

theorem toText_cons :
    toText ⟨lead, (body, after) :: references⟩ =
      lead ++ '<' :: body ++ '>' :: toText ⟨after, references⟩ := by
  simp [toText]

theorem fill_cons :
    fill meaning ⟨lead, (body, after) :: references⟩ =
      lead ++ (meaning body).getD ('<' :: body ++ ['>']) ++ fill meaning ⟨after, references⟩ := by
  simp [fill]

theorem segments_nil_iff : Segments ⟨lead, []⟩ text ↔ lead = text ∧ cutReference text = none := by
  rw [cutReference_eq_none_iff]
  constructor
  · intro segments
    have whole : lead = text := by simpa [toText] using segments.whole
    exact ⟨whole, whole ▸ segments.ending⟩
  · rintro ⟨rfl, plain⟩
    exact ⟨by simp [toText], List.forall_mem_nil _, List.forall_mem_nil _, plain⟩

/-- A segmentation begins with the first reference that can be cut, and goes on with a segmentation of
what stands behind it. -/
theorem segments_cons_iff :
    Segments ⟨lead, (body, after) :: references⟩ text ↔
      ∃ rest, cutReference text = some (lead, body, rest) ∧ Segments ⟨after, references⟩ rest := by
  constructor
  · intro ⟨whole, opening, closing, ending⟩
    refine ⟨toText ⟨after, references⟩, ?_, rfl, ?_, ?_, ending⟩
    · apply cutReference_eq_some_iff.mpr
      refine ⟨?_, opening lead List.mem_cons_self, closing _ List.mem_cons_self⟩
      rw [← whole, toText_cons]
    · intro piece member
      exact opening piece (List.mem_cons_of_mem _ member)
    · intro reference member
      exact closing reference (List.mem_cons_of_mem _ member)
  · rintro ⟨rest, found, whole, opening, closing, ending⟩
    obtain ⟨rfl, leadClean, bodyClean⟩ := cutReference_eq_some_iff.mp found
    refine ⟨?_, ?_, ?_, ending⟩
    · rw [toText_cons, whole]
    · intro piece member
      rcases List.mem_cons.mp member with rfl | member
      · exact leadClean
      · exact opening piece member
    · intro reference member
      rcases List.mem_cons.mp member with rfl | member
      · exact bodyClean
      · exact closing reference member

theorem segments_ofText (text : Text) : (ofText text).Segments text := by
  fun_induction ofText text with
  | case1 text uncut => exact segments_nil_iff.mpr ⟨rfl, uncut⟩
  | case2 text lead body rest found tail induction =>
      exact segments_cons_iff.mpr ⟨rest, found, induction⟩

theorem Segments.eq_ofText (segments : template.Segments text) : template = ofText text := by
  obtain ⟨lead, references⟩ := template
  induction references generalizing lead text with
  | nil =>
      obtain ⟨rfl, uncut⟩ := segments_nil_iff.mp segments
      exact (ofText_of_none uncut).symm
  | cons reference references induction =>
      obtain ⟨body, after⟩ := reference
      obtain ⟨rest, found, tail⟩ := segments_cons_iff.mp segments
      rw [ofText_of_some found, ← induction after tail]

theorem fill_ofText_of_none (uncut : cutReference text = none) :
    (ofText text).fill meaning = text := by
  rw [ofText_of_none uncut]
  simp [fill]

theorem fill_ofText_of_some (found : cutReference text = some (lead, body, rest)) :
    (ofText text).fill meaning =
      lead ++ (meaning body).getD ('<' :: body ++ ['>']) ++ (ofText rest).fill meaning := by
  rw [ofText_of_some found, fill_cons]

theorem fill_eq_toText (unknown : ∀ reference ∈ template.references, meaning reference.1 = none) :
    template.fill meaning = template.toText := by
  unfold fill toText
  apply congrArg (template.lead ++ ·)
  apply List.flatMap_congr
  rintro ⟨body, after⟩ member
  have unfilled : meaning body = none := unknown (body, after) member
  simp [unfilled]

/-- Without a `<` in it, a text only lengthens the lead of what follows it. -/
theorem cutReference_append (clean : '<' ∉ text) (later : Text) :
    cutReference (text ++ later) =
      (cutReference later).map fun (lead, body, rest) => (text ++ lead, body, rest) := by
  induction text with
  | nil => exact Option.map_id'.symm
  | cons character text induction =>
      simp only [List.mem_cons, not_or] at clean
      obtain ⟨other, clean⟩ := clean
      rw [List.cons_append, cutReference_cons, if_neg (Ne.symm other), induction clean,
        Option.map_map]
      rfl

theorem fill_ofText_clean_append (clean : '<' ∉ text) (later : Text) :
    (ofText (text ++ later)).fill meaning = text ++ (ofText later).fill meaning := by
  have lengthened := cutReference_append clean later
  cases found : cutReference later with
  | none =>
      rw [found] at lengthened
      rw [fill_ofText_of_none lengthened, fill_ofText_of_none found]
  | some cuts =>
      obtain ⟨lead, body, rest⟩ := cuts
      rw [found] at lengthened
      rw [fill_ofText_of_some lengthened, fill_ofText_of_some found]
      simp only [List.append_assoc]

theorem fill_ofText_append (closed : '<' ∉ (ofText text).last) (later : Text) :
    (ofText (text ++ later)).fill meaning =
      (ofText text).fill meaning ++ (ofText later).fill meaning := by
  fun_induction ofText text with
  | case1 text uncut =>
      have clean : '<' ∉ text := closed
      rw [fill_ofText_clean_append clean]
      simp [fill]
  | case2 text lead body rest found tail induction =>
      obtain ⟨rfl, leadClean, bodyClean⟩ := cutReference_eq_some_iff.mp found
      have lengthened : cutReference (lead ++ '<' :: body ++ '>' :: rest ++ later) =
          some (lead, body, rest ++ later) :=
        cutReference_eq_some_iff.mpr ⟨by simp, leadClean, bodyClean⟩
      rw [fill_ofText_of_some lengthened, induction closed, fill_cons]
      simp only [List.append_assoc]
      rfl

end LineScript.Template
