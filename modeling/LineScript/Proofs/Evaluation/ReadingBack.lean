import LineScript.Proofs.Evaluation.Independence
import LineScript.Proofs.Evaluation.Rules
import LineScript.Proofs.Store.Substitution
import LineScript.Proofs.Text.Runs

/-! Results read back through references. A statement binds its name as it is written, but a reference is
cut at the first `>`, trimmed, and taken for a list element if it ends in a square bracket; so a result
is found again under the names that none of this touches, and under no other. -/

namespace LineScript

open Text Reference

structure Referenceable (name : Text) : Prop where
  unclosed : '>' ∉ name
  trimmed : IsTrimmed name
  unbracketed : name.getLast? ≠ some ']'

variable {name : Text} {store : Store}

theorem Referenceable.substitute_referenceTo {value : Value} (referenceable : Referenceable name)
    (bound : store.get? name = some value) : store.substitute (referenceTo name) = value.display := by
  have found : store.get? (trim name) = some value := by rw [referenceable.trimmed.trim_eq, bound]
  rw [Store.substitute_referenceTo referenceable.unclosed,
    resolve_eq_some_iff.mpr (.whole referenceable.unbracketed found)]
  rfl

/-- Where no other name is bound, and this one to a text, the first reference in `<name>` means something
only if it is the name itself. -/
theorem referenceable_of_denotes {content body rest meant : Text}
    (alone : ∀ other value, store.get? other = some value → other = name ∧ value = .text content)
    (split : name ++ ['>'] = body ++ '>' :: rest) (clean : '>' ∉ body)
    (denotes : Denotes store.get? body meant) : Referenceable name := by
  cases denotes with
  | @whole body value unbracketed bound =>
      obtain ⟨same, -⟩ := alone _ _ bound
      have unclosed : '>' ∉ name := by
        rw [← same]
        exact fun member => clean (mem_of_mem_trim member)
      obtain ⟨rfl, -⟩ := quoted_append_inj unclosed clean split
      exact ⟨unclosed, same ▸ isTrimmed_trim name, unbracketed⟩
  | element _ _ bound =>
      obtain ⟨-, impossible⟩ := alone _ _ bound
      cases impossible

theorem substitute_referenceTo_of_not_referenceable {content : Text}
    (alone : ∀ other value, store.get? other = some value → other = name ∧ value = .text content)
    (unreferenceable : ¬ Referenceable name) :
    ∃ rest, store.substitute (referenceTo name) = '<' :: rest := by
  obtain ⟨body, rest, split, clean⟩ : ∃ body rest, name ++ ['>'] = body ++ '>' :: rest ∧ '>' ∉ body := by
    cases found : cut '>' (name ++ ['>']) with
    | none => exact absurd (List.mem_append_right name List.mem_cons_self) (cut_eq_none_iff.mp found)
    | some pieces => exact ⟨pieces.1, pieces.2, cut_eq_some_iff.mp found⟩
  have meaningless : resolve store.get? body = none := by
    apply resolve_eq_none_iff.mpr
    intro meant denotes
    exact unreferenceable (referenceable_of_denotes alone split clean denotes)
  have whole : referenceTo name = [] ++ '<' :: body ++ '>' :: rest := by
    rw [referenceTo, List.cons_append, split]
    rfl
  rw [whole, Store.substitute_append_reference List.not_mem_nil clean, meaningless]
  exact ⟨_, rfl⟩

namespace Statement

/-- The store gives a result back as text under the name it has been bound to. -/
def ReadsBack (name : Text) : Prop :=
  ∀ (statement : Statement) (store after : Store) (outcome : Outcome),
    statement.binds? = some name →
    statement.execute Script.storeContext store = (.ok outcome, after) →
    after.substitute (referenceTo name) = outcome.result.write

/-- An operand that refers to the name is read as the result that has been bound to it. -/
def ReadsAsOperand (name : Text) : Prop :=
  ∀ (statement : Statement) (store after : Store) (outcome : Outcome) (slot : Slot),
    statement.binds? = some name →
    statement.execute Script.storeContext store = (.ok outcome, after) →
    operandWord after.substitute slot (referenceTo name) = .ok outcome.result

variable {statement : Statement} {after : Store} {outcome : Outcome}

theorem get?_of_execute (binds : statement.binds? = some name)
    (executed : statement.execute Script.storeContext store = (.ok outcome, after)) (asked : Text) :
    after.get? asked =
      if asked = name then some (.text outcome.result.write) else store.get? asked := by
  rw [execute_eq, Prod.mk.injEq] at executed
  obtain ⟨came, rfl⟩ := executed
  obtain ⟨⟨partition, held⟩, located, rfl⟩ := Option.map_eq_some_iff.mp binds
  have assigned : statement.assignment? (.ok outcome) =
      some (⟨partition, held⟩, .text outcome.result.write) := by
    unfold assignment?
    rw [located]
    rfl
  rw [came, settle, assigned]
  exact store.get?_set held (.text outcome.result.write) partition asked

/-- A statement that succeeds, whatever name it binds. -/
def adding (name : Text) : Statement :=
  { plain .sum ['1'] ['2'] with destination := some ⟨.ordinary, name⟩ }

theorem evaluate_adding (name : Text) :
    (adding name).evaluate Store.empty.substitute =
      .ok ⟨[⟨1, by decide⟩, ⟨2, by decide⟩], ⟨3, by decide⟩, some ⟨.ordinary, name⟩⟩ := by
  have first : Store.empty.substitute ['1'] = ['1'] := by decide +kernel
  have second : Store.empty.substitute ['2'] = ['2'] := by decide +kernel
  rw [evaluate_of_pair rfl]
  unfold operandWord
  rw [first, second]
  rfl

theorem exists_execute_adding (name : Text) :
    ∃ outcome after, (adding name).execute Script.storeContext Store.empty = (.ok outcome, after) ∧
      ∀ other value, after.get? other = some value →
        other = name ∧ value = .text outcome.result.write := by
  have executed := execute_eq (adding name) Store.empty
  rw [evaluate_adding] at executed
  refine ⟨_, _, executed, ?_⟩
  intro other value bound
  rw [get?_of_execute rfl executed] at bound
  split at bound
  · rename_i same
    exact ⟨same, (Option.some.inj bound).symm⟩
  · cases bound

theorem readsBack_of_referenceable (referenceable : Referenceable name) : ReadsBack name := by
  intro statement store after outcome binds executed
  have bound := get?_of_execute binds executed name
  rw [if_pos rfl] at bound
  exact referenceable.substitute_referenceTo bound

theorem ReadsBack.readsAsOperand (readsBack : ReadsBack name) : ReadsAsOperand name := by
  intro statement store after outcome slot binds executed
  rw [operandWord, readsBack statement store after outcome binds executed, Word.read?_write]

theorem ReadsAsOperand.referenceable (readsAsOperand : ReadsAsOperand name) : Referenceable name := by
  obtain ⟨outcome, after, executed, alone⟩ := exists_execute_adding name
  have read := readsAsOperand (adding name) Store.empty after outcome .first rfl executed
  by_contra unreferenceable
  obtain ⟨rest, opened⟩ := substitute_referenceTo_of_not_referenceable alone unreferenceable
  have unread : Word.read? ('<' :: rest) = none :=
    Word.read?_eq_none_iff.mpr fun _ spelled =>
      absurd rfl (spelled.ne_cons (by decide) (by decide) (by decide))
  rw [operandWord, opened, unread] at read
  cases read

/-- A result is given back by a reference to its name, and read as an operand, exactly if the name has no
`>` in it, no blank at either end, and no square bracket that closes it. -/
theorem results_read_back_iff (name : Text) :
    (ReadsBack name ↔ Referenceable name) ∧ (ReadsAsOperand name ↔ Referenceable name) :=
  ⟨⟨fun readsBack => readsBack.readsAsOperand.referenceable, readsBack_of_referenceable⟩,
    ⟨ReadsAsOperand.referenceable, fun given => (readsBack_of_referenceable given).readsAsOperand⟩⟩

end Statement

end LineScript
