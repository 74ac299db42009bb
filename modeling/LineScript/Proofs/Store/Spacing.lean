import LineScript.Proofs.Store.Partitions
import LineScript.Proofs.Store.Substitution

namespace LineScript

open Text

theorem Text.cut_append_of_not_mem {mark : Char} {front : Text} (clean : mark ∉ front) (text : Text) :
    cut mark (front ++ text) = (cut mark text).map fun (before, after) => (front ++ before, after) := by
  cases found : cut mark text with
  | none =>
      have absent := cut_eq_none_iff.mp found
      exact cut_eq_none_iff.mpr (List.mem_append.not.mpr (not_or.mpr ⟨clean, absent⟩))
  | some cuts =>
      obtain ⟨before, after⟩ := cuts
      obtain ⟨rfl, absent⟩ := cut_eq_some_iff.mp found
      rw [← List.append_assoc]
      exact cut_append mark (List.mem_append.not.mpr (not_or.mpr ⟨clean, absent⟩)) after

namespace Reference

variable {find : Text → Option Value} {body meant : Text} {lead finish : Blanks}

def surround (lead finish : Blanks) (body : Text) : Text := lead.text ++ body ++ finish.text

theorem not_mem_surround {mark : Char} (solid : isBlank mark = false) (absent : mark ∉ body) :
    mark ∉ surround lead finish body := by
  simp [surround, absent, lead.not_mem solid, finish.not_mem solid]

/-- Blanks behind a closing bracket hide it. -/
theorem getLast?_surround_iff :
    (surround lead finish body).getLast? = some ']' ↔ body.getLast? = some ']' ∧ finish.text = [] := by
  have unblank (blanks : Blanks) : blanks.text.getLast? ≠ some ']' := by
    intro last
    exact blanks.not_mem rfl (List.mem_of_getLast? last)
  rw [surround, List.getLast?_append, List.getLast?_append]
  cases ended : finish.text.getLast? with
  | none =>
      have empty : finish.text = [] := List.getLast?_eq_none_iff.mp ended
      cases body.getLast? <;> simp [empty, unblank lead]
  | some last =>
      have nonempty : finish.text ≠ [] := by
        intro empty
        rw [empty] at ended
        cases ended
      have other := unblank finish
      rw [ended] at other
      simpa [nonempty] using other

theorem resolve_surround (last : body.getLast? = some ']' → finish.text = []) :
    resolve find (surround lead finish body) = resolve find body := by
  by_cases bracketed : body.getLast? = some ']'
  · obtain ⟨front, rfl⟩ := List.getLast?_eq_some_iff.mp bracketed
    have whole : surround lead finish (front ++ [']']) = lead.text ++ front ++ [']'] := by
      simp [surround, last bracketed]
    rw [whole, resolve_of_bracketed, resolve_of_bracketed, cut_append_of_not_mem (lead.not_mem rfl),
      Option.bind_map]
    congr 1
    funext (name, index)
    have trimmed : trim (lead.text ++ name) = trim name := by
      simpa using trim_surrounded lead Blanks.none name
    simp only [Function.comp_apply, trimmed]
  · have hidden : (surround lead finish body).getLast? ≠ some ']' :=
      fun closed => bracketed (getLast?_surround_iff.mp closed).1
    rw [resolve_of_unbracketed hidden, resolve_of_unbracketed bracketed, surround, trim_surrounded]

theorem denotes_surround_iff (blank : finish.text ≠ []) :
    Denotes find (surround lead finish body) meant ↔
      ∃ value, find (trim body) = some value ∧ value.display = meant := by
  have hidden : (surround lead finish body).getLast? ≠ some ']' :=
    fun closed => blank (getLast?_surround_iff.mp closed).2
  rw [← resolve_eq_some_iff, resolve_of_unbracketed hidden, surround, trim_surrounded,
    Option.map_eq_some_iff]

end Reference

namespace Store

open Reference

variable {store : Store} {body other : Text}

/-- In any text, a reference with this body gives way to what is meant. -/
def ReplacedBy (store : Store) (body meant : Text) : Prop :=
  ∀ before after, '<' ∉ before →
    store.substitute (before ++ '<' :: body ++ '>' :: after) = before ++ meant ++ store.substitute after

/-- The two bodies refer to something only together, and then the same text replaces either. -/
structure RefersAlike (store : Store) (body other : Text) : Prop where
  resolves : (∃ meant, Denotes store.get? body meant) ↔ ∃ meant, Denotes store.get? other meant
  replaced : ∀ meant, Denotes store.get? other meant →
    store.ReplacedBy body meant ∧ store.ReplacedBy other meant

theorem refersAlike_of_resolve_eq (unclosed : '>' ∉ body) (otherUnclosed : '>' ∉ other)
    (same : resolve store.get? body = resolve store.get? other) : store.RefersAlike body other := by
  have together (meant : Text) : Denotes store.get? body meant ↔ Denotes store.get? other meant := by
    rw [← resolve_eq_some_iff, ← resolve_eq_some_iff, same]
  constructor
  case resolves => exact exists_congr together
  case replaced =>
    intro meant denotes
    exact ⟨fun _ _ clean => substitute_of_denotes clean unclosed ((together meant).mpr denotes),
      fun _ _ clean => substitute_of_denotes clean otherUnclosed denotes⟩

/-- A text bound under a body that a square bracket closes is never what the body refers to. -/
theorem not_refersAlike_surround {lead finish : Blanks} (bracketed : body.getLast? = some ']')
    (blank : finish.text ≠ []) :
    ¬ (empty.set (trim body) (.text []) .ordinary).RefersAlike (surround lead finish body) body := by
  intro alike
  have bound : (empty.set (trim body) (.text []) .ordinary).get? (trim body) = some (.text []) := by
    rw [get?_set, if_pos rfl]
  obtain ⟨meant, denotes⟩ :=
    alike.resolves.mp ⟨_, (denotes_surround_iff blank).mpr ⟨_, bound, rfl⟩⟩
  cases denotes with
  | whole unbracketed => exact unbracketed bracketed
  | element _ _ listed =>
      rw [get?_set] at listed
      split at listed <;> cases listed

/-- Blanks around the body of a reference matter in no store, except behind a closing square bracket. There
the reference is to the whole value of a name that ends in the bracket. -/
theorem blanks_matter_behind_a_bracket_only (unclosed : '>' ∉ body) (lead finish : Blanks) :
    ((∀ store : Store, store.RefersAlike (surround lead finish body) body) ↔
      (body.getLast? = some ']' → finish.text = [])) ∧
    (finish.text ≠ [] → ∀ (store : Store) (meant : Text),
      Denotes store.get? (surround lead finish body) meant ↔
        ∃ value, store.get? (trim body) = some value ∧ value.display = meant) := by
  refine ⟨⟨?only, ?always⟩, ?read⟩
  case only =>
    intro alike bracketed
    by_contra blank
    exact not_refersAlike_surround bracketed blank (alike _)
  case always =>
    intro last store
    exact refersAlike_of_resolve_eq (not_mem_surround rfl unclosed) unclosed (resolve_surround last)
  case read =>
    intro blank store meant
    exact denotes_surround_iff blank

/-- A list of two items. -/
def shelved : Store := empty.set ['L'] (.list [['a'], ['b']]) .ordinary

def wideBlank : Blanks := ⟨['\u3000'], List.forall_mem_singleton.mpr rfl⟩

/-- Blanks around an index and before a name, and one behind the bracket of another reference. -/
theorem blanks_matter_behind_a_bracket_only_shelved :
    surround wideBlank .none "L [ 1 ]".toList = "\u3000L [ 1 ]".toList ∧
      shelved.RefersAlike (surround wideBlank .none "L [ 1 ]".toList) "L [ 1 ]".toList ∧
      shelved.substitute "<\u3000L [ 1 ]>".toList = ['b'] ∧
      ¬ ∃ meant, Denotes shelved.get? (surround wideBlank (.spaces 1) "L[1]".toList) meant := by
  have unclosed : '>' ∉ "L [ 1 ]".toList := by decide
  have alike := (blanks_matter_behind_a_bracket_only unclosed wideBlank .none).1.mpr fun _ => rfl
  have otherUnclosed : '>' ∉ "L[1]".toList := by decide
  have hidden := (blanks_matter_behind_a_bracket_only otherUnclosed wideBlank (.spaces 1)).2 (by decide) shelved
  refine ⟨rfl, alike shelved, by decide +kernel, ?_⟩
  rintro ⟨meant, denotes⟩
  obtain ⟨value, bound, _⟩ := (hidden meant).mp denotes
  have unbound : shelved.get? (trim "L[1]".toList) = none := by decide +kernel
  exact nomatch unbound.symm.trans bound

/-- One blank, and the item is not found. -/
theorem blank_behind_a_bracket_hides_the_index :
    '>' ∉ "L[1]".toList ∧ shelved.substitute "<L[1]>".toList = ['b'] ∧
      shelved.substitute "<L[1] >".toList = "<L[1] >".toList ∧
      ¬ shelved.RefersAlike (surround .none (.spaces 1) "L[1]".toList) "L[1]".toList := by
  have found : shelved.substitute "<L[1]>".toList = ['b'] := by decide +kernel
  have kept : shelved.substitute "<L[1] >".toList = "<L[1] >".toList := by decide +kernel
  have resolved : resolve shelved.get? "L[1]".toList = some ['b'] := by decide +kernel
  refine ⟨by decide, found, kept, ?_⟩
  intro alike
  have replaced := (alike.replaced ['b'] (resolve_eq_some_iff.mp resolved)).1 [] [] List.not_mem_nil
  exact absurd (kept.symm.trans replaced) (by decide +kernel)

end Store

end LineScript
