import LineScript.Evaluation
import LineScript.Proofs.Text.Numerals
import Mathlib.Data.List.Basic

namespace LineScript

namespace Operation

theorem result?_eq_some_iff {operation : Operation} {left right result : Word} :
    operation.result? left right = some result ↔
      result.toInt = operation.compute left.toInt right.toInt :=
  Word.ofInt?_eq_some_iff

theorem result?_eq_none_iff {operation : Operation} {left right : Word} :
    operation.result? left right = none ↔
      ¬ Word.InRange (operation.compute left.toInt right.toInt) :=
  Word.ofInt?_eq_none_iff_not_inRange

end Operation

namespace Statement

open Numeral Word

/-- The number of operands counts first, then the first operand, then the second, then the result. -/
inductive ComesTo (substitute : Text → Text) (statement : Statement) :
    Except EvaluationFault Outcome → Prop
  | wrongArity (count : statement.operands.length ≠ 2) :
      ComesTo substitute statement
        (.error (.wrongArity statement.operation statement.operands.length))
  | firstNotInteger {first second : Text} (operands : statement.operands = [first, second])
      (unread : ∀ value, Spells (substitute first) value → ¬ InRange value) :
      ComesTo substitute statement (.error (.notInteger .first (substitute first)))
  | secondNotInteger {first second : Text} {left : Word}
      (operands : statement.operands = [first, second])
      (read : Spells (substitute first) left.toInt)
      (unread : ∀ value, Spells (substitute second) value → ¬ InRange value) :
      ComesTo substitute statement (.error (.notInteger .second (substitute second)))
  | overflow {first second : Text} {left right : Word}
      (operands : statement.operands = [first, second])
      (readFirst : Spells (substitute first) left.toInt)
      (readSecond : Spells (substitute second) right.toInt)
      (outside : ¬ InRange (statement.operation.compute left.toInt right.toInt)) :
      ComesTo substitute statement (.error (.overflow statement.operation left right))
  | outcome {first second : Text} {left right result : Word}
      (operands : statement.operands = [first, second])
      (readFirst : Spells (substitute first) left.toInt)
      (readSecond : Spells (substitute second) right.toInt)
      (exact : result.toInt = statement.operation.compute left.toInt right.toInt) :
      ComesTo substitute statement (.ok ⟨[left, right], result, statement.destination⟩)

variable {substitute : Text → Text} {statement : Statement} {slot : Slot} {raw first second : Text}

theorem operandWord_of_spells {word : Word} (spelled : Spells (substitute raw) word.toInt) :
    operandWord substitute slot raw = .ok word := by
  rw [operandWord, read?_eq_some_iff.mpr spelled]

theorem operandWord_of_unread
    (unread : ∀ value, Spells (substitute raw) value → ¬ InRange value) :
    operandWord substitute slot raw = .error (.notInteger slot (substitute raw)) := by
  rw [operandWord, read?_eq_none_iff.mpr unread]

theorem evaluate_of_wrong_count (count : statement.operands.length ≠ 2) :
    statement.evaluate substitute =
      .error (.wrongArity statement.operation statement.operands.length) := by
  unfold evaluate
  split
  · rename_i operands
    rw [operands] at count
    exact absurd rfl count
  · rfl

theorem evaluate_of_pair (operands : statement.operands = [first, second]) :
    statement.evaluate substitute =
      (operandWord substitute .first first).bind fun left =>
        (operandWord substitute .second second).bind fun right =>
          match statement.operation.result? left right with
          | some result => .ok ⟨[left, right], result, statement.destination⟩
          | none => .error (.overflow statement.operation left right) := by
  unfold evaluate
  rw [operands]
  rfl

theorem ComesTo.evaluate_eq {result : Except EvaluationFault Outcome}
    (comes : statement.ComesTo substitute result) : statement.evaluate substitute = result := by
  cases comes with
  | wrongArity count => exact evaluate_of_wrong_count count
  | firstNotInteger operands unread =>
      rw [evaluate_of_pair operands, operandWord_of_unread unread]
      rfl
  | secondNotInteger operands read unread =>
      rw [evaluate_of_pair operands, operandWord_of_spells read, operandWord_of_unread unread]
      rfl
  | overflow operands readFirst readSecond outside =>
      rw [evaluate_of_pair operands, operandWord_of_spells readFirst,
        operandWord_of_spells readSecond]
      dsimp only [Except.bind]
      rw [Operation.result?_eq_none_iff.mpr outside]
  | outcome operands readFirst readSecond exact =>
      rw [evaluate_of_pair operands, operandWord_of_spells readFirst,
        operandWord_of_spells readSecond]
      dsimp only [Except.bind]
      rw [Operation.result?_eq_some_iff.mpr exact]

/-- Each text is a word, or spells none. -/
theorem spells_or_unread (text : Text) :
    (∃ word : Word, Spells text word.toInt) ∨ ∀ value, Spells text value → ¬ InRange value := by
  cases found : read? text with
  | some word => exact .inl ⟨word, read?_eq_some_iff.mp found⟩
  | none => exact .inr (read?_eq_none_iff.mp found)

theorem exists_comesTo (substitute : Text → Text) (statement : Statement) :
    ∃ result, statement.ComesTo substitute result := by
  by_cases count : statement.operands.length = 2
  · obtain ⟨first, second, operands⟩ := List.length_eq_two.mp count
    rcases spells_or_unread (substitute first) with ⟨left, readFirst⟩ | unread
    · rcases spells_or_unread (substitute second) with ⟨right, readSecond⟩ | unread
      · cases computed : statement.operation.result? left right with
        | some result =>
            exact ⟨_, .outcome operands readFirst readSecond
              (Operation.result?_eq_some_iff.mp computed)⟩
        | none =>
            exact ⟨_, .overflow operands readFirst readSecond
              (Operation.result?_eq_none_iff.mp computed)⟩
      · exact ⟨_, .secondNotInteger operands readFirst unread⟩
    · exact ⟨_, .firstNotInteger operands unread⟩
  · exact ⟨_, .wrongArity count⟩

/-- Executing a statement gives what the rules say it comes to, and nothing else. -/
theorem execution_follows_the_rules (context : Context σ) (statement : Statement) (state : σ)
    (result : Except EvaluationFault Outcome) :
    (statement.execute context state).1 = result ↔
      statement.ComesTo (context.substitute state) result := by
  have evaluated : (statement.execute context state).1 =
      statement.evaluate (context.substitute state) := by
    unfold execute
    cases statement.evaluate (context.substitute state) <;> rfl
  rw [evaluated]
  constructor
  · rintro rfl
    obtain ⟨result, comes⟩ := exists_comesTo (context.substitute state) statement
    rw [comes.evaluate_eq]
    exact comes
  · exact ComesTo.evaluate_eq

end Statement

end LineScript
