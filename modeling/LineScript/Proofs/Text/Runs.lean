import LineScript.Text.Basic
import Mathlib.Data.List.TakeWhile

namespace LineScript.Text

def Stops (belongs : Char → Bool) (text : Text) : Prop :=
  ∀ character ∈ text.head?, belongs character = false

theorem stops_nil (belongs : Char → Bool) : Stops belongs [] := by
  intro character member
  simp at member

theorem stops_cons {belongs : Char → Bool} {character : Char} {rest : Text} :
    Stops belongs (character :: rest) ↔ belongs character = false := by
  simp [Stops]

theorem stops_mark_iff {mark : Char} {text : Text} :
    Stops (· == mark) text ↔ text.head? ≠ some mark := by
  cases text with
  | nil => simp [stops_nil]
  | cons character rest => simp [stops_cons]

theorem head?_ne_of_forall_ne_cons {mark : Char} {text : Text}
    (other : ∀ rest, text = mark :: rest → False) : text.head? ≠ some mark := by
  intro marked
  obtain ⟨rest, here⟩ := List.head?_eq_some_iff.mp marked
  exact other rest here

theorem stops_append_of_ne_nil {belongs : Char → Bool} {front : Text} (back : Text)
    (nonempty : front ≠ []) : Stops belongs (front ++ back) ↔ Stops belongs front := by
  cases front with
  | nil => exact absurd rfl nonempty
  | cons character rest => simp [stops_cons]

theorem stops_dropWhile (belongs : Char → Bool) (text : Text) :
    Stops belongs (text.dropWhile belongs) := by
  intro character member
  have refused := List.head?_dropWhile_not belongs text
  rw [Option.mem_def.mp member] at refused
  exact refused

theorem takeWhile_eq_nil_iff {belongs : Char → Bool} {text : Text} :
    text.takeWhile belongs = [] ↔ Stops belongs text := by
  cases text with
  | nil => simp [stops_nil]
  | cons character rest => simp [stops_cons]

/-- A text is cut in one way only: the front takes all it can. -/
theorem takeWhile_dropWhile_eq_iff {belongs : Char → Bool} {text front back : Text} :
    (text.takeWhile belongs = front ∧ text.dropWhile belongs = back) ↔
      text = front ++ back ∧ (∀ character ∈ front, belongs character = true) ∧
        Stops belongs back := by
  constructor
  · intro given
    obtain ⟨rfl, rfl⟩ := given
    refine ⟨List.takeWhile_append_dropWhile.symm, ?_, stops_dropWhile belongs text⟩
    intro character member
    exact List.mem_takeWhile_imp member
  · intro given
    obtain ⟨rfl, inside, stops⟩ := given
    rw [List.takeWhile_append_of_pos inside, List.dropWhile_append_of_pos inside]
    cases back with
    | nil => simp
    | cons character rest =>
        have outside := stops_cons.mp stops
        simp [outside]

theorem append_eq_append_of_stops {belongs : Char → Bool} {front back other later : Text}
    (inside : ∀ character ∈ front, belongs character = true) (stops : Stops belongs back)
    (otherInside : ∀ character ∈ other, belongs character = true) (otherStops : Stops belongs later)
    (same : front ++ back = other ++ later) : front = other ∧ back = later := by
  have first := takeWhile_dropWhile_eq_iff.mpr ⟨rfl, inside, stops⟩
  have second := takeWhile_dropWhile_eq_iff.mpr ⟨same, otherInside, otherStops⟩
  exact ⟨first.1.symm.trans second.1, first.2.symm.trans second.2⟩

theorem quoted_append_inj {mark : Char} {content rest other later : Text} (clean : mark ∉ content)
    (otherClean : mark ∉ other) (same : content ++ mark :: rest = other ++ mark :: later) :
    content = other ∧ rest = later := by
  have cuts := (cut_append mark clean rest).symm.trans (same ▸ cut_append mark otherClean later)
  simpa using cuts

theorem ne_of_isBlank {character mark : Char} (blank : isBlank character = true)
    (solid : isBlank mark = false) : character ≠ mark := by
  rintro rfl
  rw [blank] at solid
  cases solid

/-- A run of blanks, which may be empty. -/
@[ext] structure Blanks where
  text : Text
  blank : ∀ character ∈ text, isBlank character = true

namespace Blanks

def none : Blanks := ⟨[], by simp⟩

def spaces (count : Nat) : Blanks :=
  ⟨List.replicate count ' ', fun character member => by
    rw [List.eq_of_mem_replicate member]
    rfl⟩

theorem not_mem (blanks : Blanks) {mark : Char} (solid : isBlank mark = false) : mark ∉ blanks.text :=
  fun member => ne_of_isBlank (blanks.blank mark member) solid rfl

@[simp] theorem text_none : none.text = [] := rfl

@[simp] theorem text_spaces (count : Nat) : (spaces count).text = List.replicate count ' ' := rfl

theorem stops_append {belongs : Char → Bool} (blanks : Blanks) {rest : Text}
    (blankOutside : ∀ character, isBlank character = true → belongs character = false)
    (stops : Stops belongs rest) : Stops belongs (blanks.text ++ rest) := by
  obtain ⟨text, blank⟩ := blanks
  cases text with
  | nil => exact stops
  | cons character text =>
      exact stops_cons.mpr (blankOutside character (blank character List.mem_cons_self))

theorem stops_isSolid_append {blanks : Blanks} (rest : Text) (nonempty : blanks.text ≠ []) :
    Stops isSolid (blanks.text ++ rest) := by
  obtain ⟨text, blank⟩ := blanks
  cases text with
  | nil => exact absurd rfl nonempty
  | cons character text =>
      have first := blank character List.mem_cons_self
      exact stops_cons.mpr (by simp [isSolid, first])

theorem append_inj {blanks other : Blanks} {rest later : Text} (stops : Stops isBlank rest)
    (otherStops : Stops isBlank later) (same : blanks.text ++ rest = other.text ++ later) :
    blanks = other ∧ rest = later := by
  obtain ⟨texts, rests⟩ :=
    append_eq_append_of_stops blanks.blank stops other.blank otherStops same
  exact ⟨Blanks.ext texts, rests⟩

end Blanks

theorem trimStart_blanks_append (blanks : Blanks) {text : Text} (stops : Stops isBlank text) :
    trimStart (blanks.text ++ text) = text :=
  (takeWhile_dropWhile_eq_iff.mpr ⟨rfl, blanks.blank, stops⟩).2

theorem stops_trimEnd (text : Text) : Stops isBlank (trimEnd text).reverse := by
  rw [trimEnd, List.reverse_reverse]
  exact stops_dropWhile isBlank _

theorem exists_trimEnd_append (text : Text) :
    ∃ blanks : Blanks, text = trimEnd text ++ blanks.text := by
  refine ⟨⟨(text.reverse.takeWhile isBlank).reverse, ?_⟩, ?_⟩
  · intro character member
    exact List.mem_takeWhile_imp (List.mem_reverse.mp member)
  · rw [trimEnd, ← List.reverse_append, List.takeWhile_append_dropWhile, List.reverse_reverse]

theorem exists_surrounded_trim (text : Text) :
    ∃ lead finish : Blanks, text = lead.text ++ trim text ++ finish.text := by
  obtain ⟨finish, whole⟩ := exists_trimEnd_append (trimStart text)
  refine ⟨⟨text.takeWhile isBlank, fun _ member => List.mem_takeWhile_imp member⟩, finish, ?_⟩
  rw [List.append_assoc, trim, ← whole]
  exact List.takeWhile_append_dropWhile.symm

theorem trimEnd_append_blanks (text : Text) (blanks : Blanks) :
    trimEnd (text ++ blanks.text) = trimEnd text := by
  have blank : ∀ character ∈ blanks.text.reverse, isBlank character = true := by
    intro character member
    exact blanks.blank character (List.mem_reverse.mp member)
  rw [trimEnd, List.reverse_append, List.dropWhile_append_of_pos blank, trimEnd]

theorem trimEnd_eq_self {text : Text} (stops : Stops isBlank text.reverse) :
    trimEnd text = text := by
  have uncut : text.reverse.dropWhile isBlank = text.reverse :=
    (takeWhile_dropWhile_eq_iff.mpr ⟨(List.nil_append _).symm, by simp, stops⟩).2
  rw [trimEnd, uncut, List.reverse_reverse]

structure IsTrimmed (text : Text) : Prop where
  start : Stops isBlank text
  finish : Stops isBlank text.reverse

theorem not_isBlank_of_digit {character : Char} (first : '0' ≤ character) (last : character ≤ '9') :
    isBlank character = false := by
  have low : 0x30 ≤ character.toNat := first
  have high : character.toNat ≤ 0x39 := last
  simp [isBlank]
  omega

theorem isTrimmed_of_forall_not_isBlank {text : Text}
    (solid : ∀ character ∈ text, isBlank character = false) : IsTrimmed text := by
  constructor
  · intro character member
    exact solid character (List.mem_of_mem_head? member)
  · intro character member
    exact solid character (List.mem_reverse.mp (List.mem_of_mem_head? member))

theorem isTrimmed_trim (text : Text) : IsTrimmed (trim text) := by
  refine ⟨?_, stops_trimEnd _⟩
  by_cases empty : trim text = []
  · rw [empty]
    exact stops_nil isBlank
  · obtain ⟨blanks, whole⟩ := exists_trimEnd_append (trimStart text)
    have stops : Stops isBlank (trimStart text) := stops_dropWhile isBlank text
    rw [whole] at stops
    exact (stops_append_of_ne_nil _ empty).mp stops

theorem trim_blanks_append (lead : Blanks) {text : Text} (trimmed : IsTrimmed text) :
    trim (lead.text ++ text) = text := by
  rw [trim, trimStart_blanks_append lead trimmed.start, trimEnd_eq_self trimmed.finish]

theorem trim_append_blanks (text : Text) (blanks : Blanks) :
    trim (text ++ blanks.text) = trim text := by
  have gone : blanks.text.dropWhile isBlank = [] := List.dropWhile_eq_nil_iff.mpr blanks.blank
  rw [trim, trimStart, List.dropWhile_append, gone]
  split
  · rename_i empty
    rw [trim, trimStart, List.isEmpty_iff.mp empty]
  · exact trimEnd_append_blanks _ blanks

theorem trim_surrounded (lead finish : Blanks) (text : Text) :
    trim (lead.text ++ text ++ finish.text) = trim text := by
  rw [trim_append_blanks, trim, trimStart, List.dropWhile_append_of_pos lead.blank]
  rfl

theorem IsTrimmed.trim_eq {text : Text} (trimmed : IsTrimmed text) : trim text = text :=
  trim_blanks_append Blanks.none trimmed

@[simp] theorem trim_trim (text : Text) : trim (trim text) = trim text :=
  (isTrimmed_trim text).trim_eq

@[simp] theorem trim_trimEnd (text : Text) : trim (trimEnd text) = trim text := by
  obtain ⟨blanks, whole⟩ := exists_trimEnd_append text
  calc
    trim (trimEnd text) = trim (trimEnd text ++ blanks.text) := (trim_append_blanks _ blanks).symm
    _ = trim text := by rw [← whole]

@[simp] theorem trimEnd_trimEnd (text : Text) : trimEnd (trimEnd text) = trimEnd text :=
  trimEnd_eq_self (stops_trimEnd text)

theorem trimEnd_eq_nil_iff {text : Text} :
    trimEnd text = [] ↔ ∀ character ∈ text, isBlank character = true := by
  simp [trimEnd, List.dropWhile_eq_nil_iff]

theorem trim_eq_nil_iff {text : Text} :
    trim text = [] ↔ ∀ character ∈ text, isBlank character = true := by
  rw [trim, trimEnd_eq_nil_iff]
  constructor
  · intro blank character member
    rw [← List.takeWhile_append_dropWhile (p := isBlank) (l := text), List.mem_append] at member
    rcases member with lead | rest
    · exact List.mem_takeWhile_imp lead
    · exact blank character rest
  · intro blank character member
    exact blank character ((List.dropWhile_sublist _).subset member)

theorem mem_of_mem_trimEnd {text : Text} {character : Char} (member : character ∈ trimEnd text) :
    character ∈ text :=
  List.mem_reverse.mp ((List.dropWhile_sublist _).subset (List.mem_reverse.mp member))

theorem mem_of_mem_trim {text : Text} {character : Char} (member : character ∈ trim text) :
    character ∈ text :=
  (List.dropWhile_sublist _).subset (mem_of_mem_trimEnd member)

/-- Nothing is left behind a cut where all that could be left would have been taken. -/
theorem eq_nil_of_stops_reverse {belongs : Char → Bool} {front back : Text}
    (stops : Stops belongs (front ++ back).reverse)
    (inside : ∀ character ∈ back, belongs character = true) : back = [] := by
  rw [List.reverse_append] at stops
  cases reversed : back.reverse with
  | nil => exact List.reverse_eq_nil_iff.mp reversed
  | cons last rest =>
      have member : last ∈ back := by
        rw [← List.mem_reverse, reversed]
        exact List.mem_cons_self
      rw [reversed, List.cons_append, stops_cons, inside last member] at stops
      cases stops

theorem IsTrimmed.blanks_eq_nil {front : Text} (blanks : Blanks)
    (trimmed : IsTrimmed (front ++ blanks.text)) : blanks.text = [] :=
  eq_nil_of_stops_reverse trimmed.finish blanks.blank

end LineScript.Text
