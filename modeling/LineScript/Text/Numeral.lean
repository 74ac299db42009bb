import LineScript.Text.Basic

namespace LineScript.Numeral

def natural? (text : Text) : Option Nat :=
  if text ≠ [] ∧ text.all Char.isDigit then some (Nat.ofDigitChars 10 text 0) else none

def integer? : Text → Option Int
  | '-' :: digits => (natural? digits).map fun value => -(value : Int)
  | '+' :: digits => (natural? digits).map fun value => (value : Int)
  | digits => (natural? digits).map fun value => (value : Int)

def ofNat (value : Nat) : Text := Nat.toDigits 10 value

def ofInt : Int → Text
  | .ofNat value => ofNat value
  | .negSucc below => '-' :: ofNat (below + 1)

theorem isDigit_of_mem_ofNat {value : Nat} {character : Char} (member : character ∈ ofNat value) :
    character.isDigit = true :=
  Nat.isDigit_of_mem_toDigits (by decide) (by decide) member

@[simp] theorem natural?_ofNat (value : Nat) : natural? (ofNat value) = some value := by
  have digits : (ofNat value).all Char.isDigit = true :=
    List.all_eq_true.mpr fun _ member => isDigit_of_mem_ofNat member
  rw [natural?, if_pos ⟨Nat.toDigits_ne_nil, digits⟩, ofNat,
    Nat.ofDigitChars_toDigits (by decide) (by decide)]

@[simp] theorem integer?_ofInt (value : Int) : integer? (ofInt value) = some value := by
  cases value with
  | ofNat value =>
      unfold integer?
      split
      · rename_i rest written
        have member : '-' ∈ ofNat value := by
          rw [show ofNat value = '-' :: rest from written]
          exact List.mem_cons_self
        exact absurd (isDigit_of_mem_ofNat member) (by decide)
      · rename_i rest written
        have member : '+' ∈ ofNat value := by
          rw [show ofNat value = '+' :: rest from written]
          exact List.mem_cons_self
        exact absurd (isDigit_of_mem_ofNat member) (by decide)
      · simp [ofInt]
  | negSucc below =>
      simp only [ofInt, integer?, natural?_ofNat]
      rfl

end LineScript.Numeral
