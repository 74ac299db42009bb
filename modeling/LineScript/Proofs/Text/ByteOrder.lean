import Mathlib.Tactic.SplitIfs
import LineScript.Text.Utf8

namespace LineScript.Text

theorem digits_lt {code other : Nat} (less : code < other) (base : Nat) :
    code / base < other / base ∨
      code / base = other / base ∧ code % base < other % base := by
  have order : code / base ≤ other / base := Nat.div_le_div_right (Nat.le_of_lt less)
  cases Nat.lt_or_eq_of_le order with
  | inl lower => exact .inl lower
  | inr same =>
      have whole := Nat.div_add_mod code base
      have otherWhole := Nat.div_add_mod other base
      rw [same] at whole
      exact .inr ⟨same, by omega⟩

/-- The four digits to base 64 of a code point decide its order, the first of them first. -/
theorem four_digits_lt {code other : Nat} (less : code < other) (bound : other < 0x200000) :
    code / 262144 % 8 < other / 262144 % 8 ∨ code / 262144 % 8 = other / 262144 % 8 ∧
      (code / 4096 % 64 < other / 4096 % 64 ∨ code / 4096 % 64 = other / 4096 % 64 ∧
        (code / 64 % 64 < other / 64 % 64 ∨ code / 64 % 64 = other / 64 % 64 ∧
          code % 64 < other % 64)) := by
  cases digits_lt less 262144 with
  | inl lower => omega
  | inr first =>
      refine .inr ⟨by omega, ?_⟩
      cases digits_lt first.2 4096 with
      | inl lower => omega
      | inr second =>
          refine .inr ⟨by omega, ?_⟩
          omega

theorem leading_mod (digit : Nat) : (digit % 8 + 240) % 256 = digit % 8 + 240 := by
  omega

theorem trailing_mod (digit : Nat) : (digit % 64 + 128) % 256 = digit % 64 + 128 := by
  omega

/-- Two characters differ in some byte, so what follows them does not matter. -/
theorem utf8EncodeChar_append_lt {character other : Char} (less : character < other)
    (rest otherRest : List UInt8) :
    String.utf8EncodeChar character ++ rest < String.utf8EncodeChar other ++ otherRest := by
  have codes : character.val.toNat < other.val.toNat := less
  have bound : other.val.toNat < 0x200000 := by
    cases other.valid with
    | inl low => exact Nat.lt_trans low (by decide)
    | inr high => exact Nat.lt_trans high.2 (by decide)
  unfold String.utf8EncodeChar
  dsimp only
  generalize character.val.toNat = code at codes ⊢
  generalize other.val.toNat = otherCode at codes bound ⊢
  by_cases long : 0xffff < code
  · have digits := four_digits_lt codes bound
    iterate 6 rw [if_neg (by omega)]
    simp only [List.cons_append, List.cons_lt_cons_iff, UInt8.lt_iff_toNat_lt, ← UInt8.toNat_inj,
      UInt8.toNat_ofNat', Nat.reducePow, leading_mod, trailing_mod, Nat.add_lt_add_iff_right,
      Nat.add_right_cancel_iff]
    exact digits.imp_right (.imp_right (.imp_right (.imp_right (.imp_right (.imp_right .inl)))))
  · -- where the lengths differ the first bytes do: each length has leading bytes of its own
    split_ifs <;>
      simp only [List.cons_append, List.nil_append, List.cons_lt_cons_iff, UInt8.lt_iff_toNat_lt,
        ← UInt8.toNat_inj, UInt8.toNat_ofNat'] <;>
      omega

theorem utf8_lt {left right : Text} (less : left < right) : utf8 left < utf8 right := by
  induction less with
  | @nil first rest =>
      cases encoded : String.utf8EncodeChar first with
      | nil => exact absurd encoded String.utf8EncodeChar_ne_nil
      | cons byte bytes =>
          have headed : utf8 (first :: rest) = byte :: (bytes ++ utf8 rest) := by
            rw [utf8, List.flatMap_cons, encoded]
            rfl
          rw [headed]
          exact List.nil_lt_cons _ _
  | @rel _ rest _ otherRest less => exact utf8EncodeChar_append_lt less (utf8 rest) (utf8 otherRest)
  | cons _ induction => exact List.append_left_lt induction

end LineScript.Text
