import LineScript.Journal

namespace LineScript

structure Outcome where
  operands : List Word
  result : Word
  written : Option Destination
  deriving DecidableEq

inductive EvaluationFault where
  | notInteger (slot : Slot) (text : Text)
  | overflow (operation : Operation) (left right : Word)
  | wrongArity (operation : Operation) (count : Nat)
  deriving DecidableEq

namespace EvaluationFault

def message : EvaluationFault → Text
  | notInteger slot text =>
      slot.name ++ " operand is not an integer: ".toList ++ Text.quoted text
  | overflow operation left right =>
      operation.name ++ " overflowed: ".toList ++ left.write ++ " ".toList ++ operation.symbol ++
        " ".toList ++ right.write
  | wrongArity operation count =>
      operation.name ++ " takes ".toList ++ Numeral.ofNat Operation.arity ++
        " operands, got ".toList ++ Numeral.ofNat count

end EvaluationFault

/-- What a statement is executed against: it gives texts their substitutes, and takes bindings and
log lines. -/
structure Context (σ : Type) where
  substitute : σ → Text → Text
  set : σ → Text → Text → Partition → σ
  appendLog : σ → Text → σ

namespace Statement

def operandWord (substitute : Text → Text) (slot : Slot) (raw : Text) :
    Except EvaluationFault Word :=
  match Word.read? (substitute raw) with
  | some word => .ok word
  | none => .error (.notInteger slot (substitute raw))

def evaluate (substitute : Text → Text) (statement : Statement) :
    Except EvaluationFault Outcome :=
  match statement.operands with
  | [first, second] => do
      let left ← operandWord substitute .first first
      let right ← operandWord substitute .second second
      match statement.operation.result? left right with
      | some result => .ok ⟨[left, right], result, statement.destination⟩
      | none => .error (.overflow statement.operation left right)
  | operands => .error (.wrongArity statement.operation operands.length)

def logLine (statement : Statement) (outcome : Outcome) : Text :=
  statement.label ++ ": ".toList ++
    Text.join (" ".toList ++ statement.operation.symbol ++ " ".toList)
      (outcome.operands.map Word.write) ++
    " = ".toList ++ outcome.result.write

def commit (context : Context σ) (statement : Statement) (outcome : Outcome) (state : σ) : σ :=
  let bound :=
    match statement.destination with
    | some ⟨partition, name⟩ => context.set state name outcome.result.write partition
    | none => state
  context.appendLog bound (statement.logLine outcome)

/-- Executes the statement, whether it is disabled or not. -/
def execute (context : Context σ) (statement : Statement) (state : σ) :
    Except EvaluationFault Outcome × σ :=
  match statement.evaluate (context.substitute state) with
  | .ok outcome => (.ok outcome, commit context statement outcome state)
  | .error fault => (.error fault, state)

/-- The operands that are looked at: the second only if the first is an integer. -/
def operandsRead (substitute : Text → Text) (statement : Statement) : List (Slot × Text) :=
  match statement.operands with
  | [first, second] =>
      match operandWord substitute .first first with
      | .ok _ => [(.first, first), (.second, second)]
      | .error _ => [(.first, first)]
  | _ => []

def notices (substitute : Text → Text) (statement : Statement) : List Notice :=
  let reading := (statement.operandsRead substitute).map fun (slot, raw) =>
    Notice.operandRead slot raw (substitute raw)
  match statement.evaluate substitute with
  | .ok outcome => reading ++ [.computed (statement.logLine outcome)]
  | .error _ => reading

end Statement

end LineScript
