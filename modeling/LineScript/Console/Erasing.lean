import LineScript.Text.Cluster
import LineScript.Text.Utf8

/-!
Lines that come through a pipe may hold backspaces. Each erases the cluster before it, if there is
one, as it would when the line is typed. The size of a cluster is kept in one byte: of a cluster of
256 bytes or more, a backspace erases as many bytes at its end as that size leaves when divided by
256, and if this would cut a character in two, the line cannot be had.
-/

namespace LineScript.Console

/-- A line while it is typed: its characters, the last one first, and the kept sizes of its
clusters. -/
structure Typed where
  reversed : Text
  sizes : List Nat
  deriving DecidableEq, Repr

namespace Typed

def start : Typed := ⟨[], []⟩

def keptSize (cluster : Text) : Nat := Text.utf8Length cluster % 256

/-- The text without so many bytes at its front, if they are whole characters. -/
def withoutBytes? : Nat → Text → Option Text
  | 0, text => some text
  | _ + 1, [] => none
  | size + 1, character :: rest =>
      if character.utf8Size ≤ size + 1 then withoutBytes? (size + 1 - character.utf8Size) rest
      else none

def append (typed : Typed) (cluster : Text) : Typed :=
  ⟨cluster.reverse ++ typed.reversed, keptSize cluster :: typed.sizes⟩

def erase? (typed : Typed) : Option Typed :=
  match typed.sizes with
  | [] => some typed
  | size :: sizes => (withoutBytes? size typed.reversed).map (⟨·, sizes⟩)

def backspace : Text := ['\x08']

def type? (typed : Typed) (cluster : Text) : Option Typed :=
  if cluster = backspace then typed.erase? else some (typed.append cluster)

def line (typed : Typed) : Text := typed.reversed.reverse

end Typed

def typedLine? (text : Text) : Option Text :=
  ((Text.clusters text).foldlM Typed.type? Typed.start).map Typed.line

private theorem foldlM_type? {clusters : List Text} (clean : Typed.backspace ∉ clusters)
    (typed : Typed) :
    ∃ reached, clusters.foldlM Typed.type? typed = some reached ∧
      reached.line = typed.line ++ clusters.flatten := by
  induction clusters generalizing typed with
  | nil => exact ⟨typed, rfl, by simp⟩
  | cons cluster later induction =>
      simp only [List.mem_cons, not_or] at clean
      obtain ⟨reached, run, line⟩ := induction clean.2 (typed.append cluster)
      refine ⟨reached, ?_, ?_⟩
      · rw [List.foldlM_cons, Typed.type?, if_neg (Ne.symm clean.1)]
        exact run
      · rw [line]
        simp [Typed.append, Typed.line]

theorem typedLine?_of_not_mem {text : Text} (clean : '\x08' ∉ text) :
    typedLine? text = some text := by
  have apart : Typed.backspace ∉ Text.clusters text := by
    intro member
    apply clean
    rw [← Text.flatten_clusters text]
    exact List.mem_flatten.mpr ⟨Typed.backspace, member, by simp [Typed.backspace]⟩
  obtain ⟨reached, run, line⟩ := foldlM_type? apart Typed.start
  rw [typedLine?, run, Option.map_some, line]
  simp [Typed.start, Typed.line]

end LineScript.Console
