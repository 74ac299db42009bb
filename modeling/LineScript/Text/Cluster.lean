import LineScript.Text.Joining

/-!
Clusters: the pieces of a text that a reader takes for one character each, by the rules of Unicode
for extended grapheme clusters. A text is the concatenation of its clusters.
-/

namespace LineScript.Text

/-- What the characters before a place ask of the one after it, beyond the last of them. -/
inductive Bond where
  | none
  /-- A pictograph, perhaps with marks. -/
  | pictograph
  /-- A pictograph with a joiner, which takes another pictograph. -/
  | joined
  | regional
  /-- A consonant, perhaps with marks. -/
  | consonant
  /-- A consonant with a binder, which takes another consonant. -/
  | bound
  deriving DecidableEq, Repr

namespace Bond

def mark (bond : Bond) (character : Char) : Bond :=
  match bond with
  | pictograph => pictograph
  | consonant =>
      if Joining.binderRanges.contains character then bound
      else if character = '\u200c' then none
      else consonant
  | bound => if character = '\u200c' then none else bound
  | none | joined | regional => none

def next (bond : Bond) (character : Char) : Bond :=
  match Joining.ofChar character with
  | .pictograph => pictograph
  | .consonant => consonant
  | .regional => if bond = regional then none else regional
  | .extending => bond.mark character
  | .joiner => if bond = pictograph then joined else bond.mark character
  | _ => none

/-- Whether no cluster ends between two characters that join in these ways. -/
def joins (bond : Bond) (before after : Joining) : Bool :=
  match before, after with
  | .carriageReturn, .lineFeed => true
  | .carriageReturn, _ | .lineFeed, _ | .control, _ => false
  | _, .carriageReturn | _, .lineFeed | _, .control => false
  | .leadingJamo, .leadingJamo | .leadingJamo, .vowelJamo => true
  | .leadingJamo, .openSyllable | .leadingJamo, .closedSyllable => true
  | .openSyllable, .vowelJamo | .openSyllable, .trailingJamo => true
  | .vowelJamo, .vowelJamo | .vowelJamo, .trailingJamo => true
  | .closedSyllable, .trailingJamo | .trailingJamo, .trailingJamo => true
  | _, .extending | _, .joiner | _, .spacing => true
  | .preceding, _ => true
  | _, .consonant => bond = bound
  | _, .pictograph => bond = joined
  | _, .regional => bond = regional
  | _, _ => false

end Bond

/-- What more belongs to the cluster that a text continues, and the clusters after it. -/
def clustersAfter (bond : Bond) (before : Joining) : Text → Text × List Text
  | [] => ([], [])
  | character :: rest =>
      let after := Joining.ofChar character
      let (more, later) := clustersAfter (bond.next character) after rest
      if bond.joins before after then (character :: more, later)
      else ([], (character :: more) :: later)

def clusters : Text → List Text
  | [] => []
  | character :: rest =>
      let (more, later) := clustersAfter (Bond.none.next character) (Joining.ofChar character) rest
      (character :: more) :: later

theorem clustersAfter_flatten (bond : Bond) (before : Joining) (text : Text) :
    (clustersAfter bond before text).1 ++ (clustersAfter bond before text).2.flatten = text := by
  induction text generalizing bond before with
  | nil => rfl
  | cons character rest induction =>
      have continued := induction (bond.next character) (Joining.ofChar character)
      simp only [clustersAfter]
      split <;> simp [continued]

@[simp] theorem flatten_clusters (text : Text) : (clusters text).flatten = text := by
  cases text with
  | nil => rfl
  | cons character rest => simp [clusters, clustersAfter_flatten]

end LineScript.Text
