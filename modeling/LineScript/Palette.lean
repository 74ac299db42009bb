import LineScript.Operation

namespace LineScript.Palette

inductive Control where
  | textBox
  | checkBox
  | choice (options : List Text)
  deriving DecidableEq, Repr

inductive Demand where
  | required
  | integerAfterSubstitution
  | noQuotes
  | labelRules
  deriving DecidableEq, Repr

def Demand.all : List Demand := [.required, .integerAfterSubstitution, .noQuotes, .labelRules]

structure Field where
  name : Text
  caption : Text
  control : Control
  demands : List Demand
  deriving DecidableEq, Repr

def Field.demanded (field : Field) : List Demand :=
  Demand.all.filter fun demand => field.demands.contains demand

structure Form where
  title : Text
  color : Text
  lightText : Bool
  fields : List Field
  deriving DecidableEq, Repr

def Form.field? (form : Form) (name : Text) : Option Field :=
  form.fields.find? fun field => field.name == name

def operandField (slot : Slot) (caption : Text) : Field :=
  ⟨slot.name, caption, .textBox, [.required, .integerAfterSubstitution, .noQuotes]⟩

/-- The six fields of a statement, in the order in which they are filled in. -/
def statementFields : List Field :=
  [⟨"Label".toList, "Label".toList, .textBox, [.required, .labelRules]⟩,
    operandField .first "First number".toList,
    operandField .second "Second number".toList,
    ⟨"OutputKind".toList, "Output type".toList, .choice ["VAR".toList, "CAP".toList], []⟩,
    ⟨"OutputName".toList, "Variable name".toList, .textBox, [.noQuotes]⟩,
    ⟨"Disabled".toList, "Disabled".toList, .checkBox, []⟩]

def form : Operation → Form
  | .sum => ⟨"Sum".toList, "#9ACD32".toList, false, statementFields⟩
  | .subtract => ⟨"Subtract".toList, "#9ACD32".toList, false, statementFields⟩
  | .multiply => ⟨"Multiply".toList, "#6B8E23".toList, true, statementFields⟩

def Control.describe : Control → Text
  | .textBox => "text".toList
  | .checkBox => "checkbox".toList
  | .choice options => "one of ".toList ++ Text.join "/".toList options

def describeField (field : Field) : Text :=
  let padding := List.replicate (12 - field.name.length) ' '
  "\n  ".toList ++ field.name ++ padding ++ " ".toList ++ field.caption ++ " [".toList ++
    field.control.describe ++ "]".toList

/-- One line for the operation, then one for each field of its form. -/
def describe (operation : Operation) : Text :=
  let form := form operation
  form.title ++ " (".toList ++ operation.name ++ ") color ".toList ++ form.color ++
    (if form.lightText then ", light text".toList else []) ++
    form.fields.flatMap describeField

end LineScript.Palette
