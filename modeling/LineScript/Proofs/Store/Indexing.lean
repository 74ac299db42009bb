import LineScript.Proofs.Store.Substitution

namespace LineScript

open Text

theorem Value.HasIndex.bounds {items : List Text} {index : Int} {item : Text}
    (indexed : HasIndex items index item) : -items.length ≤ index ∧ index < items.length := by
  obtain ⟨place, found, counted⟩ := indexed
  have inside : place < items.length := (List.getElem?_eq_some_iff.mp found).1
  omega

/-- A name and an index of any size, as an operand refers to an item of a list. -/
structure ElementReference where
  name : Text
  lead : Blanks
  digits : Text
  index : Int
  finish : Blanks
  unopened : '[' ∉ name
  unclosed : '>' ∉ name
  trimmed : IsTrimmed name
  spelled : Numeral.Spells digits index

namespace ElementReference

open Reference

variable (reference : ElementReference) {find : Text → Option Value} {item : Text}

def body : Text :=
  reference.name ++ '[' :: (reference.lead.text ++ reference.digits ++ reference.finish.text) ++ [']']

def text : Text := referenceTo reference.body

theorem not_mem_body : '>' ∉ reference.body := by
  have blanks (run : Blanks) : '>' ∉ run.text := run.not_mem rfl
  have numeral : '>' ∉ reference.digits := fun member =>
    absurd (reference.spelled.signOrDigit_of_mem member) (by decide)
  simp [body, reference.unclosed, blanks, numeral]

/-- The index is tried as a word before the name is looked up. -/
theorem denotes_iff : Denotes find reference.body item ↔
    Word.InRange reference.index ∧
      ∃ items, find reference.name = some (.list items) ∧ Value.HasIndex items reference.index item := by
  obtain ⟨name, lead, digits, index, finish, unopened, _, trimmed, spelled⟩ := reference
  have read : Word.read? (trim (lead.text ++ digits ++ finish.text)) = Word.ofInt? index := by
    rw [trim_surrounded, spelled.isTrimmed.trim_eq, Word.read?_of_spells spelled]
  rw [← resolve_eq_some_iff, body, resolve_of_bracketed, cut_append '[' unopened, Option.bind_some]
  dsimp only
  rw [read, trimmed.trim_eq]
  simp only [Option.bind_eq_some_iff, Word.ofInt?_eq_some_iff, Value.element?_eq_some_iff]
  constructor
  · rintro ⟨word, rfl, _, bound, items, rfl, indexed⟩
    exact ⟨word.inRange, items, bound, indexed⟩
  · rintro ⟨inRange, items, bound, indexed⟩
    exact ⟨⟨index, inRange⟩, rfl, _, bound, items, rfl, indexed⟩

end ElementReference

namespace Store

open Reference

variable {store : Store} {reference : ElementReference} {items : List Text} {item : Text}

/-- What a list gives for an index: its items are counted from the start or, below zero, from the end. -/
structure Gives (store : Store) (reference : ElementReference) (items : List Text) : Prop where
  fromStart : 0 ≤ reference.index → reference.index < items.length →
    items[reference.index.toNat]? = some (store.substitute reference.text)
  fromEnd : -items.length ≤ reference.index → reference.index < 0 →
    items[(items.length + reference.index).toNat]? = some (store.substitute reference.text)
  outside : reference.index < -items.length ∨ items.length ≤ reference.index →
    store.substitute reference.text = reference.text
  least : reference.index = -2 ^ 63 → store.substitute reference.text = reference.text

theorem substitute_element_of_hasIndex (bound : store.get? reference.name = some (.list items))
    (inRange : Word.InRange reference.index) (indexed : Value.HasIndex items reference.index item) :
    store.substitute reference.text = item := by
  have meant := reference.denotes_iff.mpr ⟨inRange, items, bound, indexed⟩
  rw [ElementReference.text, substitute_referenceTo reference.not_mem_body,
    resolve_eq_some_iff.mpr meant, Option.getD_some]

theorem substitute_element_of_unknown
    (unknown : Word.InRange reference.index → ∀ items,
      store.get? reference.name = some (.list items) →
        ¬ (-items.length ≤ reference.index ∧ reference.index < items.length)) :
    store.substitute reference.text = reference.text := by
  have meaningless : resolve store.get? reference.body = none := by
    apply resolve_eq_none_iff.mpr
    intro item denotes
    obtain ⟨inRange, items, bound, indexed⟩ := reference.denotes_iff.mp denotes
    exact unknown inRange items bound indexed.bounds
  rw [ElementReference.text, substitute_referenceTo reference.not_mem_body, meaningless,
    Option.getD_none]

theorem gives_of_bound (bound : store.get? reference.name = some (.list items))
    (fits : items.length < 2 ^ 63) : store.Gives reference items := by
  have counted {place : Nat} (inside : place < items.length)
      (counts : reference.index = place ∨ reference.index = place - items.length) :
      items[place]? = some (store.substitute reference.text) := by
    have found := List.getElem?_eq_getElem inside
    -- what counts an item is a word, since there are no more items than words from zero on
    have inRange : Word.InRange reference.index := by
      unfold Word.InRange
      omega
    rw [substitute_element_of_hasIndex bound inRange ⟨place, found, counts⟩, found]
  have unmet (outside : reference.index < -items.length ∨ items.length ≤ reference.index) :
      store.substitute reference.text = reference.text := by
    apply substitute_element_of_unknown
    intro _ others otherBound
    cases bound.symm.trans otherBound
    omega
  constructor
  case fromStart =>
    intro nonnegative inside
    exact counted (by omega) (.inl (by omega))
  case fromEnd =>
    intro reaches negative
    exact counted (by omega) (.inr (by omega))
  case outside => exact unmet
  case least =>
    intro least
    exact unmet (.inl (by omega))

/-- A reference with an index gives an item of the list that its name is bound to, or stands unchanged.
No list in memory has as many as 2^63 items, so no index outside the words counts one. -/
theorem indexing_is_total (store : Store) (reference : ElementReference) :
    (∀ items, store.get? reference.name = some (.list items) → items.length < 2 ^ 63 →
      store.Gives reference items) ∧
    (¬ Word.InRange reference.index → store.substitute reference.text = reference.text) ∧
    (store.get? reference.name = none → store.substitute reference.text = reference.text) ∧
    (∀ content, store.get? reference.name = some (.text content) →
      store.substitute reference.text = reference.text) := by
  refine ⟨?list, ?range, ?unbound, ?scalar⟩
  case list => exact fun _ => gives_of_bound
  case range =>
    intro outside
    exact substitute_element_of_unknown fun inRange => absurd inRange outside
  case unbound =>
    intro unbound
    exact substitute_element_of_unknown fun _ items bound => nomatch unbound.symm.trans bound
  case scalar =>
    intro content scalar
    exact substitute_element_of_unknown fun _ items bound => nomatch scalar.symm.trans bound

/-- A list under a name with marks of its own, none of which begins an index. -/
def listed : Store := empty.set "a<]".toList (.list [['x'], [], "<N>".toList]) .capture

/-- The least index of three items, with blanks around it and zeros before it. -/
def leastIndex : ElementReference where
  name := "a<]".toList
  lead := ⟨['\u00a0'], List.forall_mem_singleton.mpr rfl⟩
  digits := "-003".toList
  index := -3
  finish := .spaces 1
  unopened := by decide
  unclosed := by decide
  trimmed := ⟨stops_cons.mpr rfl, stops_cons.mpr rfl⟩
  spelled := Numeral.integer?_eq_some_iff.mp (by decide)

/-- The first index from zero on that is no word. -/
def beyondWords : ElementReference where
  name := "a<]".toList
  lead := .none
  digits := "+9223372036854775808".toList
  index := 2 ^ 63
  finish := .none
  unopened := by decide
  unclosed := by decide
  trimmed := ⟨stops_cons.mpr rfl, stops_cons.mpr rfl⟩
  spelled := Numeral.integer?_eq_some_iff.mp (by decide +kernel)

theorem indexing_is_total_listed :
    leastIndex.text = "<a<][\u00a0-003 ]>".toList ∧ listed.substitute leastIndex.text = ['x'] ∧
      ¬ Word.InRange beyondWords.index ∧ listed.substitute beyondWords.text = beyondWords.text := by
  have bound : listed.get? leastIndex.name = some (.list [['x'], [], "<N>".toList]) := by
    decide +kernel
  have outside : ¬ Word.InRange (2 ^ 63) := by
    unfold Word.InRange
    omega
  have counted := (indexing_is_total listed leastIndex).1 _ bound (by decide)
  have first := counted.fromEnd (by decide) (by decide)
  exact ⟨rfl, (Option.some.inj first).symm, outside,
    (indexing_is_total listed beyondWords).2.1 outside⟩

end Store

end LineScript
