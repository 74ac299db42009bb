import LineScript.NameMap
import LineScript.Reference
import LineScript.Statement.Basic
import LineScript.Template
import LineScript.Value

namespace LineScript

namespace Reference

/-- What a reference means where `find` gives names their values: the text of a value, or of one
element of a list. -/
def meaning (find : Text → Option Value) : Reference → Option Text
  | whole name => (find name).map Value.display
  | element name index => (find name).bind fun value => value.element? index

def resolve (find : Text → Option Value) (body : Text) : Option Text :=
  (read? body).bind (meaning find)

end Reference

structure Store where
  «variables» : NameMap Value
  captures : NameMap Value
  log : List Text
  deriving DecidableEq, Inhabited

namespace Store

def empty : Store := ⟨.empty, .empty, []⟩

def get? (store : Store) (name : Text) : Option Value :=
  (store.variables.get? name).or (store.captures.get? name)

def isCapture (store : Store) (name : Text) : Bool := store.captures.contains name

def size (store : Store) : Nat := store.variables.size + store.captures.size

def isEmpty (store : Store) : Bool := store.variables.isEmpty && store.captures.isEmpty

def set (store : Store) (name : Text) (value : Value) : Partition → Store
  | .ordinary =>
      { store with
        «variables» := store.variables.insert name value
        captures := store.captures.erase name }
  | .capture =>
      { store with
        «variables» := store.variables.erase name
        captures := store.captures.insert name value }

/-- Unbinds the variable of that name, or the capture if there is no such variable, and gives the
value it had. -/
def extract (store : Store) (name : Text) : Option Value × Store :=
  match store.variables.get? name with
  | some value => (some value, { store with «variables» := store.variables.erase name })
  | none => (store.captures.get? name, { store with captures := store.captures.erase name })

def remove (store : Store) (name : Text) : Store := (store.extract name).2

def appendLog (store : Store) (line : Text) : Store := { store with log := store.log ++ [line] }

def withoutLog (store : Store) : Store := { store with log := [] }

def substitute (store : Store) (text : Text) : Text :=
  (Template.ofText text).fill (Reference.resolve store.get?)

end Store

end LineScript
