import LineScript.Proofs.Evaluation.Effects
import Mathlib.Data.List.Basic

namespace LineScript

open Text

namespace Reference

def name : Reference → Text
  | whole name => name
  | element name _ => name

/-- The name that a reference asks for, whether or not its index can be read. -/
def name? (body : Text) : Option Text :=
  if body.getLast? = some ']' then (cut '[' body).map fun (name, _) => trim name
  else some (trim body)

theorem name?_of_read? {body : Text} {reference : Reference}
    (reads : read? body = some reference) : name? body = some reference.name := by
  unfold read? at reads
  unfold name?
  split at reads
  · rename_i closed
    obtain ⟨front, rfl⟩ := List.getLast?_eq_some_iff.mp closed
    rw [List.dropLast_concat] at reads
    obtain ⟨⟨name, index⟩, found, reads⟩ := Option.bind_eq_some_iff.mp reads
    obtain ⟨word, _, rfl⟩ := Option.map_eq_some_iff.mp reads
    obtain ⟨rfl, clean⟩ := cut_eq_some_iff.mp found
    rw [if_pos closed, List.append_assoc, List.cons_append, cut_append '[' clean]
    rfl
  · rename_i opened
    obtain rfl := Option.some.inj reads
    rw [if_neg opened]
    rfl

theorem meaning_congr {find other : Text → Option Value} {reference : Reference}
    (same : find reference.name = other reference.name) :
    meaning find reference = meaning other reference := by
  cases reference with
  | whole name => exact congrArg (Option.map Value.display) same
  | element name index => exact congrArg (Option.bind · (Value.element? · index)) same

theorem resolve_congr {find other : Text → Option Value} {body : Text}
    (same : ∀ name ∈ name? body, find name = other name) :
    resolve find body = resolve other body := by
  unfold resolve
  cases reads : read? body with
  | none => rfl
  | some reference => exact meaning_congr (same reference.name (name?_of_read? reads))

end Reference

namespace Template

def names (template : Template) : List Text :=
  template.references.filterMap fun (body, _) => Reference.name? body

theorem fill_congr {find other : Text → Option Value} {template : Template}
    (same : ∀ name ∈ template.names, find name = other name) :
    template.fill (Reference.resolve find) = template.fill (Reference.resolve other) := by
  unfold fill
  apply congrArg (template.lead ++ ·)
  apply List.flatMap_congr
  rintro ⟨body, after⟩ member
  have resolved : Reference.resolve find body = Reference.resolve other body := by
    apply Reference.resolve_congr
    intro name asked
    exact same name (List.mem_filterMap.mpr ⟨(body, after), member, asked⟩)
  simp only [resolved]

end Template

namespace Statement

/-- The names that the operands refer to. -/
def reads (statement : Statement) : List Text :=
  statement.operands.flatMap fun operand => (Template.ofText operand).names

/-- The name that the statement binds, unless it fails. -/
def binds? (statement : Statement) : Option Text := statement.destination.map Destination.name

/-- Neither statement binds a name that the other refers to or binds. -/
structure Independent (first second : Statement) : Prop where
  firstUnread : ∀ name ∈ first.binds?, name ∉ second.reads
  secondUnread : ∀ name ∈ second.binds?, name ∉ first.reads
  apart : ∀ name ∈ first.binds?, name ∉ second.binds?

variable {statement first second : Statement} {store other : Store}
  {result : Except EvaluationFault Outcome}

theorem evaluate_congr {substitute replace : Text → Text}
    (same : ∀ operand ∈ statement.operands, substitute operand = replace operand) :
    statement.evaluate substitute = statement.evaluate replace := by
  unfold evaluate
  split
  · rename_i first second operands
    rw [operands] at same
    unfold operandWord
    rw [same first (by simp), same second (by simp)]
  · rfl

theorem evaluate_eq_of_reads (same : ∀ name ∈ statement.reads, store.get? name = other.get? name) :
    statement.evaluate store.substitute = statement.evaluate other.substitute := by
  apply evaluate_congr
  intro operand member
  apply Template.fill_congr
  intro name asked
  exact same name (List.mem_flatMap.mpr ⟨operand, member, asked⟩)

theorem binds?_of_assignment? {bound : Destination × Value}
    (assigned : statement.assignment? result = some bound) :
    statement.binds? = some bound.1.name := by
  cases result with
  | error fault => cases assigned
  | ok outcome =>
      obtain ⟨destination, located, rfl⟩ := Option.map_eq_some_iff.mp assigned
      unfold binds?
      rw [located]
      rfl

theorem get?_settle {name : Text} (unbound : name ∉ statement.binds?) :
    (statement.settle result store).get? name = store.get? name := by
  change (store.assign (statement.assignment? result)).get? name = store.get? name
  cases assigned : statement.assignment? result with
  | none => rfl
  | some bound =>
      obtain ⟨⟨partition, held⟩, value⟩ := bound
      have different : name ≠ held := by
        intro same
        apply unbound
        rw [binds?_of_assignment? assigned, same]
        rfl
      exact (Store.get?_set store held value partition name).trans (if_neg different)

theorem evaluate_settle (unread : ∀ name ∈ first.binds?, name ∉ second.reads) :
    second.evaluate (first.settle result store).substitute = second.evaluate store.substitute := by
  apply evaluate_eq_of_reads
  intro name asked
  exact get?_settle fun bound => unread name bound asked

theorem settle_comm (apart : ∀ name ∈ first.binds?, name ∉ second.binds?)
    (result secondResult : Except EvaluationFault Outcome) (store : Store) :
    ((second.settle secondResult (first.settle result store)).withLog []) =
      (first.settle result (second.settle secondResult store)).withLog [] := by
  unfold settle
  simp only [Store.assign_withLog, Store.withLog_withLog]
  cases assigned : first.assignment? result with
  | none => rfl
  | some bound =>
      cases secondAssigned : second.assignment? secondResult with
      | none => rfl
      | some secondBound =>
          have different : bound.1.name ≠ secondBound.1.name := by
            intro same
            apply apart bound.1.name
            · exact binds?_of_assignment? assigned
            · rw [same]
              exact binds?_of_assignment? secondAssigned
          apply congrArg (Store.withLog · [])
          exact Store.set_comm store different bound.2 secondBound.2 bound.1.partition
            secondBound.1.partition

/-- The results of two statements executed one after the other, and the store they leave. -/
def executeBoth (first second : Statement) (store : Store) :
    (Except EvaluationFault Outcome × Except EvaluationFault Outcome) × Store :=
  let (result, between) := first.execute Script.storeContext store
  let (secondResult, after) := second.execute Script.storeContext between
  ((result, secondResult), after)

theorem executeBoth_eq (unread : ∀ name ∈ first.binds?, name ∉ second.reads) (store : Store) :
    executeBoth first second store =
      ((first.evaluate store.substitute, second.evaluate store.substitute),
        second.settle (second.evaluate store.substitute)
          (first.settle (first.evaluate store.substitute) store)) := by
  unfold executeBoth
  simp only [execute_eq, evaluate_settle unread]

/-- In either order two independent statements come to the same results and leave the same bindings,
and what they log differs in no more than its order. -/
theorem independent_statements_commute (independent : Independent first second) (store : Store) :
    (executeBoth second first store).1 = (executeBoth first second store).1.swap ∧
      (executeBoth second first store).2.variables = (executeBoth first second store).2.variables ∧
      (executeBoth second first store).2.captures = (executeBoth first second store).2.captures ∧
      ∃ firstLines secondLines,
        (executeBoth first second store).2.log = store.log ++ firstLines ++ secondLines ∧
        (executeBoth second first store).2.log = store.log ++ secondLines ++ firstLines := by
  rw [executeBoth_eq independent.firstUnread, executeBoth_eq independent.secondUnread]
  generalize first.evaluate store.substitute = result
  generalize second.evaluate store.substitute = secondResult
  have same := settle_comm independent.apart result secondResult store
  have sameVariables := congrArg Store.variables same
  have sameCaptures := congrArg Store.captures same
  exact ⟨rfl, sameVariables.symm, sameCaptures.symm, first.logLines result,
    second.logLines secondResult, rfl, rfl⟩

/-- A variable, a list among the captures, and a variable that the first statement makes a capture. -/
def furnished : Store :=
  ((Store.empty.set ['A'] (.text ['2']) .ordinary).set ['B'] (.list [['5'], ['7']]) .capture).set
    ['X'] (.text ['1']) .ordinary

def capturing : Statement :=
  ⟨.sum, "Sum".toList, ["< A >".toList, "<B[-1]>".toList], some ⟨.capture, ['X']⟩, false⟩

def subtracting : Statement :=
  ⟨.subtract, "less".toList, ["<B[ 0 ]>".toList, "<A>".toList], some ⟨.ordinary, ['Y']⟩, false⟩

theorem independent_statements_commute_furnished :
    Independent capturing subtracting ∧
      (executeBoth capturing subtracting furnished).2.log =
        ["Sum: 2 + 7 = 9".toList, "less: 5 - 2 = 3".toList] ∧
      (executeBoth subtracting capturing furnished).1 =
        (executeBoth capturing subtracting furnished).1.swap ∧
      (executeBoth subtracting capturing furnished).2.variables =
        (executeBoth capturing subtracting furnished).2.variables ∧
      (executeBoth subtracting capturing furnished).2.captures =
        (executeBoth capturing subtracting furnished).2.captures := by
  have independent : Independent capturing subtracting :=
    ⟨by decide +kernel, by decide +kernel, by decide +kernel⟩
  obtain ⟨results, sameVariables, sameCaptures, _⟩ :=
    independent_statements_commute independent furnished
  exact ⟨independent, by decide +kernel, results, sameVariables, sameCaptures⟩

end Statement

end LineScript
