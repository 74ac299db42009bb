import LineScript.CommandLine.Program
import LineScript.Proofs.Script.Logging

/-! The work of a batch, piece by piece: the lines of its files in order, without regard to where one
file ends, and the files that cannot be read. It stops at a file that cannot be read, and at a line that
fails unless failures are to be passed over; what it shows are the log lines of the statements it
executed before. -/

namespace LineScript.Program

open Text Script

inductive Piece where
  | line (text : Text)
  | unreadable (name : Text)
  deriving DecidableEq

def filePieces (folder : Folder) (name : Text) : List Piece :=
  match readSource folder name with
  | .ok source => (lines source).map .line
  | .error _ => [.unreadable name]

def pieces (folder : Folder) (files : List Text) : List Piece := files.flatMap (filePieces folder)

namespace Piece

def Stops (settings : Settings) (store : Store) : Piece → Prop
  | line text => settings.haltOnFailure = true ∧
      ∃ failure, (runLine settings text store).result = .error failure
  | unreadable _ => True

/-- What the piece executes, where the store is as given. -/
def executed? (settings : Settings) (store : Store) : Piece → Option (Statement × Outcome)
  | line text =>
      match (runLine settings text store).result with
      | .ok (.executed statement outcome) => some (statement, outcome)
      | _ => none
  | unreadable _ => none

/-- The store that the piece leaves, without its log. -/
def after (settings : Settings) (store : Store) : Piece → Store
  | line text => (runLine settings text store).store.withoutLog
  | unreadable _ => store

end Piece

def reached (settings : Settings) : List Piece → Store → Store
  | [], store => store
  | piece :: later, store => reached settings later (piece.after settings store)

/-- What the pieces execute, each of them where the ones before it lead. -/
def executions (settings : Settings) : List Piece → Store → List (Statement × Outcome)
  | [], _ => []
  | piece :: later, store =>
      (piece.executed? settings store).toList ++
        executions settings later (piece.after settings store)

def shownLines (settings : Settings) (pieces : List Piece) (store : Store) : List Text :=
  (executions settings pieces store).map fun (statement, outcome) => statement.logLine outcome

/-- None of the pieces stops the work where the ones before it lead. -/
def Passes (settings : Settings) : List Piece → Store → Prop
  | [], _ => True
  | piece :: later, store =>
      ¬ piece.Stops settings store ∧ Passes settings later (piece.after settings store)

/-- The pieces up to the first one that stops the work, and those from it on, if there is one. -/
structure Cut (settings : Settings) (store : Store) (pieces done rest : List Piece) : Prop where
  whole : pieces = done ++ rest
  passes : Passes settings done store
  stops : ∀ piece ∈ rest.head?, piece.Stops settings (reached settings done store)

variable {settings : Settings} {store : Store} {piece : Piece} {front back done rest : List Piece}

theorem reached_append (settings : Settings) (front back : List Piece) (store : Store) :
    reached settings (front ++ back) store = reached settings back (reached settings front store) := by
  induction front generalizing store with
  | nil => rfl
  | cons piece later induction => exact induction _

theorem shownLines_append (settings : Settings) (front back : List Piece) (store : Store) :
    shownLines settings (front ++ back) store =
      shownLines settings front store ++ shownLines settings back (reached settings front store) := by
  unfold shownLines
  rw [← List.map_append]
  congr 1
  induction front generalizing store with
  | nil => rfl
  | cons piece later induction =>
      rw [List.cons_append, executions, induction, executions, List.append_assoc, reached]

theorem passes_append_iff :
    Passes settings (front ++ back) store ↔
      Passes settings front store ∧ Passes settings back (reached settings front store) := by
  induction front generalizing store with
  | nil => exact ⟨fun passes => ⟨trivial, passes⟩, And.right⟩
  | cons piece later induction =>
      rw [List.cons_append, Passes, induction, Passes, reached, and_assoc]

theorem log_after (drained : store.log = []) (settings : Settings) (piece : Piece) :
    (piece.after settings store).log = [] := by
  cases piece with
  | line text => rfl
  | unreadable name => exact drained

theorem log_reached (drained : store.log = []) (settings : Settings) (pieces : List Piece) :
    (reached settings pieces store).log = [] := by
  induction pieces generalizing store with
  | nil => exact drained
  | cons piece later induction => exact induction (log_after drained settings piece)

namespace Cut

theorem nil : Cut settings store [] [] [] := ⟨rfl, trivial, nofun⟩

theorem of_stops (stops : piece.Stops settings store) (later : List Piece) :
    Cut settings store (piece :: later) [] (piece :: later) := by
  refine ⟨rfl, trivial, ?_⟩
  rintro _ ⟨⟩
  exact stops

theorem append {more : List Piece} (cut : Cut settings store front done [])
    (further : Cut settings (reached settings done store) back more rest) :
    Cut settings store (front ++ back) (done ++ more) rest where
  whole := by rw [cut.whole, further.whole, List.append_nil, List.append_assoc]
  passes := passes_append_iff.mpr ⟨cut.passes, further.passes⟩
  stops := by
    rw [reached_append]
    exact further.stops

theorem append_right (cut : Cut settings store front done rest) (stopped : rest ≠ [])
    (back : List Piece) : Cut settings store (front ++ back) done (rest ++ back) where
  whole := by rw [cut.whole, List.append_assoc]
  passes := cut.passes
  stops := by
    rw [List.head?_append_of_ne_nil rest stopped]
    exact cut.stops

theorem cons (passes : ¬ piece.Stops settings store)
    (cut : Cut settings (piece.after settings store) back done rest) :
    Cut settings store (piece :: back) (piece :: done) rest := by
  have alone : Cut settings store [piece] [piece] [] := ⟨rfl, ⟨passes, trivial⟩, nofun⟩
  exact alone.append cut

/-- There is one place only where the work stops. -/
theorem unique {pieces others further : List Piece} (cut : Cut settings store pieces done rest)
    (other : Cut settings store pieces others further) : done = others ∧ rest = further := by
  -- If one of the fronts were longer, it would pass the piece that stops the other one.
  induction done generalizing store pieces others with
  | nil =>
      cases others with
      | nil => exact ⟨rfl, (cut.whole.symm.trans other.whole)⟩
      | cons piece later =>
          have first : rest.head? = some piece := by
            rw [show rest = piece :: later ++ further from cut.whole.symm.trans other.whole]
            rfl
          exact absurd (cut.stops piece first) other.passes.1
  | cons piece done induction =>
      have whole := cut.whole.symm.trans other.whole
      cases others with
      | nil =>
          have first : further.head? = some piece := by
            rw [← show piece :: done ++ rest = further from whole]
            rfl
          exact absurd (other.stops piece first) cut.passes.1
      | cons _ later =>
          obtain ⟨rfl, tails⟩ := List.cons.inj whole
          have here : Cut settings (piece.after settings store) (done ++ rest) done rest :=
            ⟨rfl, cut.passes.2, cut.stops⟩
          have there : Cut settings (piece.after settings store) (done ++ rest) later further :=
            ⟨tails, other.passes.2, other.stops⟩
          obtain ⟨rfl, rfl⟩ := induction here there
          exact ⟨rfl, rfl⟩

end Cut

end LineScript.Program
