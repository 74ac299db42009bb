import LineScript.Text.Basic

namespace LineScript.Text

abbrev Ranges := List (Nat × Nat)

def Ranges.contains (ranges : Ranges) (character : Char) : Bool :=
  ranges.any fun (first, last) => first ≤ character.toNat && character.toNat ≤ last

theorem Ranges.contains_of_mem {ranges : Ranges} {first last : Nat} {character : Char}
    (member : (first, last) ∈ ranges) (above : first ≤ character.toNat)
    (below : character.toNat ≤ last) : ranges.contains character = true :=
  List.any_eq_true.mpr ⟨(first, last), member, by simp [above, below]⟩

end LineScript.Text
