import LineScript.Text.Numeral

namespace LineScript

structure Word where
  toInt : Int
  inRange : -0x8000000000000000 ≤ toInt ∧ toInt < 0x8000000000000000

namespace Word

instance : DecidableEq Word := fun left right =>
  if same : left.toInt = right.toInt then
    isTrue (by cases left; cases right; simp_all)
  else
    isFalse fun equal => same (congrArg toInt equal)

def ofInt? (value : Int) : Option Word :=
  if inRange : -0x8000000000000000 ≤ value ∧ value < 0x8000000000000000 then some ⟨value, inRange⟩
  else none

def read? (text : Text) : Option Word := (Numeral.integer? text).bind ofInt?

def write (word : Word) : Text := Numeral.ofInt word.toInt

theorem ofInt?_eq_some_iff {value : Int} {word : Word} :
    ofInt? value = some word ↔ word.toInt = value := by
  unfold ofInt?
  split
  · constructor
    · intro equal
      cases equal
      rfl
    · intro same
      subst same
      rfl
  · rename_i outside
    constructor
    · intro impossible
      cases impossible
    · intro same
      subst same
      exact absurd word.inRange outside

theorem ofInt?_eq_none_iff {value : Int} :
    ofInt? value = none ↔
      ¬ (-0x8000000000000000 ≤ value ∧ value < 0x8000000000000000) := by
  unfold ofInt?
  split
  · rename_i inside
    simpa using inside
  · rename_i outside
    simpa using outside

@[simp] theorem ofInt?_toInt (word : Word) : ofInt? word.toInt = some word :=
  ofInt?_eq_some_iff.mpr rfl

@[simp] theorem read?_write (word : Word) : read? word.write = some word := by
  simp [read?, write]

end Word

end LineScript
