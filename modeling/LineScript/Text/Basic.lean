namespace LineScript

abbrev Text := List Char

namespace Text

/-- The characters with the Unicode property `White_Space`. -/
def isBlank (character : Char) : Bool :=
  let code := character.toNat
  (0x09 ≤ code && code ≤ 0x0D) || code == 0x20 || code == 0x85 || code == 0xA0 ||
    code == 0x1680 || (0x2000 ≤ code && code ≤ 0x200A) || code == 0x2028 || code == 0x2029 ||
    code == 0x202F || code == 0x205F || code == 0x3000

theorem codes_of_isAlpha {character : Char} (letter : character.isAlpha = true) :
    (0x41 ≤ character.toNat ∧ character.toNat ≤ 0x5A) ∨
      (0x61 ≤ character.toNat ∧ character.toNat ≤ 0x7A) := by
  cases (Bool.or_eq_true character.isUpper character.isLower).mp letter with
  | inl upper =>
      have range : character.val ≥ 'A'.val ∧ character.val ≤ 'Z'.val := of_decide_eq_true upper
      exact .inl range
  | inr lower =>
      have range : character.val ≥ 'a'.val ∧ character.val ≤ 'z'.val :=
        (Bool.and_eq_true_iff.mp lower).imp of_decide_eq_true of_decide_eq_true
      exact .inr range

def isSolid (character : Char) : Bool := !isBlank character

/-- The characters of bare words, which end at a blank or a quote. -/
def isWordCharacter (character : Char) : Bool := isSolid character && character != '"'

def trimStart (text : Text) : Text := text.dropWhile isBlank

def trimEnd (text : Text) : Text := (text.reverse.dropWhile isBlank).reverse

def trim (text : Text) : Text := trimEnd (trimStart text)

/-- What stands before and after the first `mark`, if there is one. -/
def cut (mark : Char) : Text → Option (Text × Text)
  | [] => none
  | character :: rest =>
      if character = mark then some ([], rest)
      else (cut mark rest).map fun (before, after) => (character :: before, after)

@[simp] theorem cut_nil (mark : Char) : cut mark [] = none := rfl

theorem cut_cons (mark character : Char) (rest : Text) :
    cut mark (character :: rest) =
      if character = mark then some ([], rest)
      else (cut mark rest).map fun (before, after) => (character :: before, after) := rfl

theorem cut_append (mark : Char) {before : Text} (clean : mark ∉ before) (after : Text) :
    cut mark (before ++ mark :: after) = some (before, after) := by
  induction before with
  | nil => simp [cut_cons]
  | cons character rest induction =>
      simp only [List.mem_cons, not_or] at clean
      simp [cut_cons, Ne.symm clean.1, induction clean.2]

theorem cut_eq_some_iff {mark : Char} {text before after : Text} :
    cut mark text = some (before, after) ↔ text = before ++ mark :: after ∧ mark ∉ before := by
  constructor
  · intro found
    induction text generalizing before with
    | nil => simp at found
    | cons character rest induction =>
        rw [cut_cons] at found
        split at found
        · simp_all
        · rename_i other
          simp only [Option.map_eq_some_iff] at found
          obtain ⟨⟨inner, tail⟩, inside, same⟩ := found
          simp only [Prod.mk.injEq] at same
          obtain ⟨rfl, rfl⟩ := same
          obtain ⟨rfl, clean⟩ := induction inside
          exact ⟨rfl, by simp [Ne.symm other, clean]⟩
  · intro given
    obtain ⟨rfl, clean⟩ := given
    exact cut_append mark clean after

theorem cut_eq_none_iff {mark : Char} {text : Text} : cut mark text = none ↔ mark ∉ text := by
  induction text with
  | nil => simp
  | cons character rest induction =>
      rw [cut_cons]
      split
      · simp_all
      · rename_i other
        simp [induction, Ne.symm other]

theorem length_lt_of_cut {mark : Char} {text before after : Text}
    (found : cut mark text = some (before, after)) : after.length < text.length := by
  obtain ⟨rfl, _⟩ := cut_eq_some_iff.mp found
  simp
  omega

/-- Equality of texts when the case of ASCII letters is ignored. -/
def sameLetters (left right : Text) : Bool := left.map Char.toLower == right.map Char.toLower

def beginsWithLetters (word text : Text) : Bool :=
  (word.map Char.toLower).isPrefixOf (text.map Char.toLower)

def join (separator : Text) : List Text → Text
  | [] => []
  | [last] => last
  | first :: rest => first ++ separator ++ join separator rest

end Text

end LineScript
