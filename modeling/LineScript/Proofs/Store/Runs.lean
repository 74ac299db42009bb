import LineScript.Proofs.Store.Bindings
import LineScript.Proofs.Store.Snapshot

namespace LineScript

/-- What can be done to a store. Restoring takes back the snapshot of the store as it was so many
actions ago. -/
inductive Action where
  | set (name : Text) (value : Value) (partition : Partition)
  | remove (name : Text)
  | clear
  | log (line : Text)
  | takeLogs
  | execute (statement : Statement)
  | restore (ago : Nat)

def Action.sets (entries : List (Text × Value × Partition)) : List Action :=
  entries.map fun (name, value, partition) => .set name value partition

/-- The states of a run, the past ones from the latest back. -/
structure History (σ : Type) where
  now : σ
  past : List σ

namespace History

def earlier? (history : History σ) (ago : Nat) : Option σ := (history.now :: history.past)[ago]?

def followedBy (history : History σ) (next : σ) : History σ := ⟨next, history.now :: history.past⟩

def run (step : History σ → Action → σ) (history : History σ) (actions : List Action) : History σ :=
  actions.foldl (fun history action => history.followedBy (step history action)) history

end History

namespace Store

/-- A snapshot that cannot be read leaves the store as it is. -/
def step (history : History Store) : Action → Store
  | .set name value partition => history.now.set name value partition
  | .remove name => history.now.remove name
  | .clear => empty
  | .log line => history.now.appendLog line
  | .takeLogs => history.now.withoutLog
  | .execute statement => (statement.execute Script.storeContext history.now).2
  | .restore ago =>
      ((history.earlier? ago).bind fun earlier => ofSnapshot? earlier.toSnapshot).getD history.now

def after (actions : List Action) : Store := (History.run step ⟨empty, []⟩ actions).now

/-- What the action takes back from a snapshot fits into one. -/
def Restorable (history : History Store) : Action → Prop
  | .restore ago => ∀ earlier ∈ history.earlier? ago, earlier.Fits
  | _ => True

def AllRestorable (history : History Store) : List Action → Prop
  | [] => True
  | action :: later =>
      Restorable history action ∧ AllRestorable (history.followedBy (step history action)) later

end Store

namespace Bindings

def step (history : History Bindings) : Action → Bindings
  | .set name value partition => history.now.insert name (value, partition)
  | .remove name => history.now.erase name
  | .clear => ∅
  | .log _ => history.now
  | .takeLogs => history.now
  | .execute statement => (statement.execute context history.now).2
  | .restore ago => (history.earlier? ago).getD history.now

def after (actions : List Action) : Bindings := (History.run step ⟨∅, []⟩ actions).now

end Bindings

namespace Store

/-- At every point of the two histories the store stands for the map. -/
def Follows (stores : History Store) (bindings : History Bindings) : Prop :=
  ∀ ago, Option.Rel Represents (stores.earlier? ago) (bindings.earlier? ago)

variable {stores : History Store} {bindings : History Bindings}

namespace Follows

theorem now (follows : Follows stores bindings) : stores.now.Represents bindings.now := by
  cases follows 0 with
  | some represents => exact represents

theorem followedBy (follows : Follows stores bindings) {store : Store} {held : Bindings}
    (represents : store.Represents held) :
    Follows (stores.followedBy store) (bindings.followedBy held) := by
  intro ago
  cases ago with
  | zero => exact .some represents
  | succ ago => exact follows ago

theorem restore (follows : Follows stores bindings) {ago : Nat}
    (restorable : Restorable stores (.restore ago)) :
    (step stores (.restore ago)).Represents (Bindings.step bindings (.restore ago)) := by
  have related := follows ago
  rw [step, Bindings.step]
  generalize recalled : stores.earlier? ago = earlier at related ⊢
  generalize bindings.earlier? ago = held at related ⊢
  cases related with
  | none => exact follows.now
  | @some earlier _ represents =>
      have restored := ofSnapshot?_toSnapshot (restorable earlier recalled)
      rw [Option.bind_some, restored]
      exact represents.of_bound_eq rfl

theorem step (follows : Follows stores bindings) (action : Action)
    (restorable : Restorable stores action) :
    (step stores action).Represents (Bindings.step bindings action) := by
  cases action with
  | set name value partition => exact follows.now.set name value partition
  | remove name => exact follows.now.remove name
  | clear => exact represents_empty
  | log line => exact follows.now.of_bound_eq rfl
  | takeLogs => exact follows.now.of_bound_eq rfl
  | execute statement => exact follows.now.execute statement
  | restore ago => exact follows.restore restorable

theorem run (follows : Follows stores bindings) {actions : List Action}
    (restorable : AllRestorable stores actions) :
    Follows (stores.run Store.step actions) (bindings.run Bindings.step actions) := by
  induction actions generalizing stores bindings with
  | nil => exact follows
  | cons action later induction =>
      exact induction (follows.followedBy (follows.step action restorable.1)) restorable.2

end Follows

theorem after_represents {actions : List Action} (restorable : AllRestorable ⟨empty, []⟩ actions) :
    (after actions).Represents (Bindings.after actions) := by
  have begun : Follows ⟨empty, []⟩ ⟨∅, []⟩ := by
    intro ago
    cases ago with
    | zero => exact .some represents_empty
    | succ _ => exact .none
  exact (begun.run restorable).now

/-- The store answers each question about names as the map does, and lists what it binds in the
order of the bytes of the names. -/
structure Answers (store : Store) (bindings : Bindings) : Prop where
  exclusive : ∀ name, store.variables.get? name = none ∨ store.captures.get? name = none
  get : ∀ name, store.get? name = (bindings.lookup name).map Prod.fst
  isCapture : ∀ name, store.isCapture name = true ↔
    ∃ value, bindings.lookup name = some (value, .capture)
  extracted : ∀ name, (store.extract name).1 = (bindings.lookup name).map Prod.fst
  removed : ∀ name, (store.extract name).2.get? name = none
  size : store.size = bindings.keys.card
  isEmpty : store.isEmpty = true ↔ bindings.keys.card = 0
  listedVariables : ∀ name value, (name, value) ∈ store.variables.entries ↔
    bindings.lookup name = some (value, .ordinary)
  listedCaptures : ∀ name value, (name, value) ∈ store.captures.entries ↔
    bindings.lookup name = some (value, .capture)
  orderedVariables : store.variables.entries.Pairwise fun left right =>
    Text.utf8 left.1 < Text.utf8 right.1
  orderedCaptures : store.captures.entries.Pairwise fun left right =>
    Text.utf8 left.1 < Text.utf8 right.1

theorem Represents.answers {store : Store} {bindings : Bindings}
    (represents : store.Represents bindings) : store.Answers bindings where
  exclusive := represents.exclusive
  get := represents.get?_eq
  isCapture := represents.isCapture_iff
  extracted := by
    intro name
    rw [extract_eq_get?]
    exact represents.get?_eq name
  removed := by
    intro name
    apply ((represents.remove name).get?_eq name).trans
    rw [Bindings.find?, Finmap.lookup_erase]
    rfl
  size := represents.size_eq
  isEmpty := by rw [isEmpty_iff_size_eq_zero, represents.size_eq]
  listedVariables := represents.mem_bound_iff .ordinary
  listedCaptures := represents.mem_bound_iff .capture
  orderedVariables := store.variables.increasing_utf8
  orderedCaptures := store.captures.increasing_utf8

end Store

end LineScript
