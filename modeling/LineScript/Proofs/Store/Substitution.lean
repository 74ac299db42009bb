import LineScript.Proofs.Store.References
import LineScript.Proofs.Template.Segments
import Mathlib.Data.List.Forall2

namespace LineScript

/-- What stands for a reference in a text that has been substituted. -/
inductive Reference.Replaces (find : Text → Option Value) (body : Text) : Text → Prop
  | meant {text : Text} (denotes : Denotes find body text) : Replaces find body text
  | verbatim (meaningless : ∀ text, ¬ Denotes find body text) :
      Replaces find body ('<' :: body ++ ['>'])

theorem Reference.replaces_resolve (find : Text → Option Value) (body : Text) :
    Replaces find body ((resolve find body).getD ('<' :: body ++ ['>'])) := by
  cases resolved : resolve find body with
  | none => exact .verbatim (resolve_eq_none_iff.mp resolved)
  | some text => exact .meant (resolve_eq_some_iff.mp resolved)

namespace Template

/-- The plain pieces of the template with one of the texts in place of each reference. -/
def withTexts (template : Template) (texts : List Text) : Text :=
  template.lead ++ (List.zipWith (fun text reference => text ++ reference.2) texts
    template.references).flatten

theorem fill_eq_withTexts (meaning : Text → Option Text) (template : Template) :
    template.fill meaning = template.withTexts (template.references.map fun (body, _) =>
      (meaning body).getD ('<' :: body ++ ['>'])) := by
  unfold fill withTexts
  rw [List.zipWith_map_left, List.zipWith_self, List.flatMap_def]

end Template

theorem NameMap.get?_of_isEmpty {map : NameMap α} (bare : map.isEmpty = true) (name : Text) :
    map.get? name = none := by
  unfold get?
  rw [List.isEmpty_iff.mp bare]
  rfl

/-- The name between the brackets of a reference, as an operand refers to it. -/
def referenceTo (name : Text) : Text := '<' :: name ++ ['>']

namespace Store

open Reference

variable {store : Store} {text lead body rest meant : Text} {template : Template}

theorem get?_of_isEmpty (bare : store.isEmpty = true) (name : Text) : store.get? name = none := by
  obtain ⟨ordinary, captures⟩ := Bool.and_eq_true_iff.mp bare
  unfold get?
  rw [NameMap.get?_of_isEmpty ordinary, NameMap.get?_of_isEmpty captures]
  rfl

/-- How a store substitutes a text that the template cuts. -/
structure Substitutes (store : Store) (template : Template) (text : Text) : Prop where
  filled : ∃ texts, List.Forall₂ (fun reference => Replaces store.get? reference.1)
    template.references texts ∧ store.substitute text = template.withTexts texts
  unknown : (∀ reference ∈ template.references, ∀ meant, ¬ Denotes store.get? reference.1 meant) →
    store.substitute text = text
  append : '<' ∉ template.last → ∀ later,
    store.substitute (text ++ later) = store.substitute text ++ store.substitute later

theorem substitute_append_reference (leadClean : '<' ∉ lead) (bodyClean : '>' ∉ body) :
    store.substitute (lead ++ '<' :: body ++ '>' :: rest) =
      lead ++ (resolve store.get? body).getD (referenceTo body) ++ store.substitute rest := by
  have found : Template.cutReference (lead ++ '<' :: body ++ '>' :: rest) = some (lead, body, rest) :=
    Template.cutReference_eq_some_iff.mpr ⟨rfl, leadClean, bodyClean⟩
  exact Template.fill_ofText_of_some found

theorem substitute_of_denotes (leadClean : '<' ∉ lead) (bodyClean : '>' ∉ body)
    (denotes : Denotes store.get? body meant) :
    store.substitute (lead ++ '<' :: body ++ '>' :: rest) = lead ++ meant ++ store.substitute rest := by
  rw [substitute_append_reference leadClean bodyClean, resolve_eq_some_iff.mpr denotes]
  rfl

theorem substitute_of_unknown (segments : template.Segments text)
    (unknown : ∀ reference ∈ template.references, ∀ meant, ¬ Denotes store.get? reference.1 meant) :
    store.substitute text = text := by
  unfold substitute
  rw [← segments.eq_ofText, Template.fill_eq_toText, segments.whole]
  intro reference member
  exact resolve_eq_none_iff.mpr (unknown reference member)

theorem substitute_referenceTo (unclosed : '>' ∉ body) :
    store.substitute (referenceTo body) = (resolve store.get? body).getD (referenceTo body) := by
  have whole : store.substitute ([] ++ '<' :: body ++ '>' :: []) = _ ++ store.substitute [] :=
    substitute_append_reference List.not_mem_nil unclosed
  have nothing : Template.Segments ⟨[], []⟩ [] := Template.segments_nil_iff.mpr ⟨rfl, rfl⟩
  rwa [substitute_of_unknown nothing nofun, List.append_nil, List.nil_append] at whole

theorem substitutes_of_segments (segments : template.Segments text) :
    store.Substitutes template text := by
  constructor
  case filled =>
    have filled : store.substitute text = _ :=
      Template.fill_eq_withTexts (resolve store.get?) (Template.ofText text)
    rw [← segments.eq_ofText] at filled
    refine ⟨_, ?_, filled⟩
    rw [List.forall₂_map_right_iff, List.forall₂_same]
    intro reference _
    exact replaces_resolve store.get? reference.1
  case unknown => exact substitute_of_unknown segments
  case append =>
    intro closed later
    rw [segments.eq_ofText] at closed
    exact Template.fill_ofText_append closed later

/-- A text has one segmentation, and substitution fills its references and does nothing else: what a
reference means is never scanned, a text without meaning stays, and texts that are cut apart where no
reference is open are substituted apart. -/
theorem substitution_is_one_pass (store : Store) (text : Text) :
    (∃! template : Template, template.Segments text) ∧
    (∀ template : Template, template.Segments text → store.Substitutes template text) ∧
    (∀ lead body rest meant, text = lead ++ '<' :: body ++ '>' :: rest → '<' ∉ lead → '>' ∉ body →
      Denotes store.get? body meant → store.substitute text = lead ++ meant ++ store.substitute rest) ∧
    (store.isEmpty = true → store.substitute text = text) := by
  have segments := Template.segments_ofText text
  refine ⟨⟨Template.ofText text, segments, fun _ => Template.Segments.eq_ofText⟩,
    fun _ => substitutes_of_segments, ?_, ?_⟩
  · rintro lead body rest meant rfl leadClean bodyClean denotes
    exact substitute_of_denotes leadClean bodyClean denotes
  · intro bare
    apply substitute_of_unknown segments
    intro reference _ meant
    exact not_denotes_of_unbound (get?_of_isEmpty bare)

/-- A name whose value refers to another one, and a list whose last item refers to the first. -/
def nested : Store :=
  ((empty.set ['N'] (.text "<M>".toList) .ordinary).set ['M'] (.text ['1']) .capture).set ['L']
    (.list [['5'], "<N>".toList]) .ordinary

def nestedText : Text := "a<N>b<L[-1 ]>c<Q<N>".toList

def nestedTemplate : Template :=
  ⟨['a'], [(['N'], ['b']), ("L[-1 ]".toList, ['c']), ("Q<N".toList, [])]⟩

theorem substitution_is_one_pass_nested :
    nestedTemplate.Segments nestedText ∧ '<' ∉ nestedTemplate.last ∧
      nested.substitute nestedText = "a<M>b<N>c<Q<N>".toList ∧
      nested.substitute (nestedText ++ "<M>".toList) = "a<M>b<N>c<Q<N>".toList ++ ['1'] ∧
      nested.substitute nestedText = "a<M>".toList ++ nested.substitute "b<L[-1 ]>c<Q<N>".toList := by
  have segments : nestedTemplate.Segments nestedText :=
    ⟨by decide, by decide, by decide, Template.plain_of_not_mem (by decide)⟩
  have closed : '<' ∉ nestedTemplate.last := by decide
  obtain ⟨_, substitutes, unscanned, _⟩ := substitution_is_one_pass nested nestedText
  have bound : nested.get? (Text.trim ['N']) = some (.text "<M>".toList) := by decide +kernel
  have first := unscanned ['a'] ['N'] "b<L[-1 ]>c<Q<N>".toList _ (by decide) (by decide) (by decide)
    (.whole (by decide) bound)
  have whole : nested.substitute nestedText = "a<M>b<N>c<Q<N>".toList := by decide +kernel
  have behind : nested.substitute "<M>".toList = ['1'] := by decide +kernel
  have appended := (substitutes nestedTemplate segments).append closed "<M>".toList
  rw [whole, behind] at appended
  exact ⟨segments, closed, whole, appended, first⟩

end Store

end LineScript
