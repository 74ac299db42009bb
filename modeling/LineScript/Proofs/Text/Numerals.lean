import LineScript.Proofs.Text.Runs
import LineScript.Word
import Mathlib.Data.Nat.Digits.Defs

namespace LineScript

namespace Numeral

/-- At least one digit, and the number that the digits stand for by their places. -/
structure SpellsNatural (text : Text) (value : Nat) : Prop where
  nonempty : text ≠ []
  digits : ∀ character ∈ text, '0' ≤ character ∧ character ≤ '9'
  places : value = Nat.ofDigits 10 (text.map fun digit => digit.toNat - '0'.toNat).reverse

/-- Digits after a sign, or after none. -/
inductive Spells : Text → Int → Prop
  | unsigned {digits : Text} {value : Nat} (spelled : SpellsNatural digits value) :
      Spells digits value
  | plus {digits : Text} {value : Nat} (spelled : SpellsNatural digits value) :
      Spells ('+' :: digits) value
  | minus {digits : Text} {value : Nat} (spelled : SpellsNatural digits value) :
      Spells ('-' :: digits) (-value)

variable {text digits : Text}

theorem ofDigitChars_eq_ofDigits (digits : Text) :
    Nat.ofDigitChars 10 digits 0 =
      Nat.ofDigits 10 (digits.map fun digit => digit.toNat - '0'.toNat).reverse := by
  rw [Nat.ofDigits_eq_foldr, List.foldr_reverse, List.foldl_map, Nat.ofDigitChars]
  congr 1
  funext value digit
  exact Nat.add_comm _ _

theorem all_isDigit_iff :
    text.all Char.isDigit = true ↔ ∀ character ∈ text, '0' ≤ character ∧ character ≤ '9' := by
  simp only [List.all_eq_true, Char.isDigit, Bool.and_eq_true, decide_eq_true_eq]
  rfl

theorem natural?_eq_some_iff {value : Nat} :
    natural? text = some value ↔ SpellsNatural text value := by
  unfold natural?
  constructor
  · intro read
    split at read
    · rename_i decimal
      cases read
      exact ⟨decimal.1, all_isDigit_iff.mp decimal.2, ofDigitChars_eq_ofDigits text⟩
    · cases read
  · intro ⟨nonempty, digits, places⟩
    rw [if_pos ⟨nonempty, all_isDigit_iff.mpr digits⟩, ofDigitChars_eq_ofDigits, places]

theorem SpellsNatural.ne_cons {value : Nat} (spelled : SpellsNatural text value) {sign : Char}
    (outside : ¬ ('0' ≤ sign ∧ sign ≤ '9')) : text ≠ sign :: digits := by
  rintro rfl
  exact outside (spelled.digits sign List.mem_cons_self)

theorem integer?_plus : integer? ('+' :: digits) = (natural? digits).map Int.ofNat := by
  change Option.map _ (Option.bind (natural? digits) _) = _
  cases natural? digits <;> rfl

theorem integer?_minus :
    integer? ('-' :: digits) = (natural? digits).map fun value => -Int.ofNat value := by
  change Option.map _ (Option.bind (natural? digits) _) = _
  cases natural? digits <;> rfl

theorem integer?_unsigned (noMinus : ∀ digits, text ≠ '-' :: digits)
    (noPlus : ∀ digits, text ≠ '+' :: digits) : integer? text = (natural? text).map Int.ofNat := by
  unfold integer?
  split
  · exact absurd rfl (noMinus _)
  · exact absurd rfl (noPlus _)
  · cases natural? text <;> rfl

theorem integer?_eq_some_iff {value : Int} :
    integer? text = some value ↔ Spells text value := by
  constructor
  · intro read
    by_cases minus : ∃ digits, text = '-' :: digits
    · obtain ⟨digits, rfl⟩ := minus
      rw [integer?_minus] at read
      obtain ⟨natural, found, rfl⟩ := Option.map_eq_some_iff.mp read
      exact .minus (natural?_eq_some_iff.mp found)
    · by_cases plus : ∃ digits, text = '+' :: digits
      · obtain ⟨digits, rfl⟩ := plus
        rw [integer?_plus] at read
        obtain ⟨natural, found, rfl⟩ := Option.map_eq_some_iff.mp read
        exact .plus (natural?_eq_some_iff.mp found)
      · rw [integer?_unsigned (not_exists.mp minus) (not_exists.mp plus)] at read
        obtain ⟨natural, found, rfl⟩ := Option.map_eq_some_iff.mp read
        exact .unsigned (natural?_eq_some_iff.mp found)
  · intro spelled
    cases spelled with
    | plus spelled =>
        rw [integer?_plus, natural?_eq_some_iff.mpr spelled]
        rfl
    | minus spelled =>
        rw [integer?_minus, natural?_eq_some_iff.mpr spelled]
        rfl
    | unsigned spelled =>
        have noSign (sign : Char) (outside : ¬ ('0' ≤ sign ∧ sign ≤ '9')) (digits : Text) :
            text ≠ sign :: digits := spelled.ne_cons outside
        rw [integer?_unsigned (noSign '-' (by decide)) (noSign '+' (by decide)),
          natural?_eq_some_iff.mpr spelled]
        rfl

theorem Spells.ne_cons {value : Int} (spelled : Spells text value) {character : Char}
    (noPlus : character ≠ '+') (noMinus : character ≠ '-')
    (noDigit : ¬ ('0' ≤ character ∧ character ≤ '9')) : text ≠ character :: digits := by
  cases spelled with
  | unsigned spelled => exact spelled.ne_cons noDigit
  | plus => exact fun same => noPlus (List.cons.inj same).1.symm
  | minus => exact fun same => noMinus (List.cons.inj same).1.symm

theorem Spells.signOrDigit_of_mem {value : Int} (spelled : Spells text value) {character : Char}
    (member : character ∈ text) :
    character = '+' ∨ character = '-' ∨ '0' ≤ character ∧ character ≤ '9' := by
  cases spelled with
  | unsigned spelled => exact .inr (.inr (spelled.digits character member))
  | plus spelled =>
      rcases List.mem_cons.mp member with sign | digit
      · exact .inl sign
      · exact .inr (.inr (spelled.digits character digit))
  | minus spelled =>
      rcases List.mem_cons.mp member with sign | digit
      · exact .inr (.inl sign)
      · exact .inr (.inr (spelled.digits character digit))

theorem Spells.not_isBlank_of_mem {value : Int} (spelled : Spells text value) {character : Char}
    (member : character ∈ text) : Text.isBlank character = false := by
  rcases spelled.signOrDigit_of_mem member with rfl | rfl | ⟨first, last⟩
  · rfl
  · rfl
  · exact Text.not_isBlank_of_digit first last

theorem Spells.isTrimmed {value : Int} (spelled : Spells text value) : Text.IsTrimmed text :=
  Text.isTrimmed_of_forall_not_isBlank fun _ => spelled.not_isBlank_of_mem

end Numeral

namespace Word

/-- The integers that are words. -/
def InRange (value : Int) : Prop := -2 ^ 63 ≤ value ∧ value < 2 ^ 63

variable {text : Text}

theorem read?_eq_some_iff {word : Word} :
    read? text = some word ↔ Numeral.Spells text word.toInt := by
  unfold read?
  rw [Option.bind_eq_some_iff, ← Numeral.integer?_eq_some_iff]
  constructor
  · intro ⟨value, read, fits⟩
    rw [read, ofInt?_eq_some_iff.mp fits]
  · intro read
    exact ⟨word.toInt, read, ofInt?_toInt word⟩

theorem read?_of_spells {value : Int} (spelled : Numeral.Spells text value) :
    read? text = ofInt? value := by
  rw [read?, Numeral.integer?_eq_some_iff.mpr spelled, Option.bind_some]

theorem ofInt?_eq_none_iff_not_inRange {value : Int} : ofInt? value = none ↔ ¬ InRange value :=
  ofInt?_eq_none_iff

theorem read?_eq_none_iff :
    read? text = none ↔ ∀ value, Numeral.Spells text value → ¬ InRange value := by
  unfold read?
  rw [Option.bind_eq_none_iff]
  simp only [Numeral.integer?_eq_some_iff, ofInt?_eq_none_iff_not_inRange]

end Word

end LineScript
