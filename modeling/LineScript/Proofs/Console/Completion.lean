import LineScript.Console.Completion
import LineScript.Text.Position
import LineScript.Proofs.Text.Runs

namespace LineScript.Completion

open Text

/-- The longest end of the text with no blank and no quote in it. -/
structure LastWord (text word : Text) : Prop where
  isSuffix : word <:+ text
  clean : ∀ character ∈ word, isBlank character = false ∧ character ≠ '"'
  longest : ∀ other, other <:+ text →
    (∀ character ∈ other, isBlank character = false ∧ character ≠ '"') → other <:+ word

/-- In the order of the keywords, those that begin with the word, whatever the case of its letters. -/
structure Offers (word : Text) (candidates : List Text) : Prop where
  inOrder : candidates.Sublist keywords
  mem_iff : ∀ keyword, keyword ∈ candidates ↔
    keyword ∈ keywords ∧ ∃ front back, keyword = front ++ back ∧ sameLetters front word = true

/-- What completing after the text has to come to. -/
inductive Completes (before : Text) : Completion → Prop
  | literal (quoted : before.count '"' % 2 = 1) : Completes before ⟨utf8Length before, []⟩
  | word {lead word : Text} {candidates : List Text} (unquoted : before.count '"' % 2 = 0)
      (split : before = lead ++ word) (last : LastWord before word)
      (offers : Offers word candidates) : Completes before ⟨utf8Length lead, candidates⟩

variable {text lead word before : Text}

theorem before?_eq_cutAt? (position : Nat) (text : Text) :
    before? position text = (cutAt? position text).map Prod.fst := by
  induction text generalizing position with
  | nil => cases position <;> rfl
  | cons character rest induction =>
      cases position with
      | zero => rfl
      | succ position =>
          rw [before?, cutAt?]
          split
          · rw [induction, Option.map_map, Option.map_map]
            rfl
          · rfl

theorem before?_append (front back : Text) :
    before? (utf8Length front) (front ++ back) = some front := by
  rw [before?_eq_cutAt?, cutAt?_append]
  rfl

theorem isWordCharacter_iff {character : Char} :
    isWordCharacter character = true ↔ isBlank character = false ∧ character ≠ '"' := by
  simp [isWordCharacter, isSolid]

/-- A word is the last one if nothing that could lengthen it stands before it. -/
theorem lastWord_of_stops (inside : ∀ character ∈ word, isWordCharacter character = true)
    (stops : Stops isWordCharacter lead.reverse) : LastWord (lead ++ word) word where
  isSuffix := List.suffix_append lead word
  clean := fun character member => isWordCharacter_iff.mp (inside character member)
  longest := by
    intro other isSuffix clean
    rcases List.suffix_or_suffix_of_suffix isSuffix (List.suffix_append lead word) with
      shorter | longer
    · exact shorter
    · obtain ⟨front, rfl⟩ := longer
      obtain ⟨earlier, rfl⟩ := List.suffix_append_self_iff.mp isSuffix
      have frontInside : ∀ character ∈ front, isWordCharacter character = true := by
        intro character member
        exact isWordCharacter_iff.mpr (clean character (List.mem_append_left word member))
      rw [eq_nil_of_stops_reverse stops frontInside]
      exact List.suffix_rfl

theorem LastWord.unique {other : Text} (last : LastWord text word) (otherLast : LastWord text other) :
    word = other := by
  have shorter := otherLast.longest word last.isSuffix last.clean
  have longer := last.longest other otherLast.isSuffix otherLast.clean
  exact shorter.eq_of_length_le longer.length_le

/-- The word that is completed is the last one, and it is known where it begins. -/
theorem exists_lastWord (text : Text) :
    ∃ lead word, text = lead ++ word ∧ LastWord text word ∧
      lastWord text = (word, lead.getLast?) := by
  have cut : text = (text.reverse.dropWhile isWordCharacter).reverse ++
      (text.reverse.takeWhile isWordCharacter).reverse := by
    rw [← List.reverse_append, List.takeWhile_append_dropWhile, List.reverse_reverse]
  refine ⟨_, _, cut, ?_, ?_⟩
  · have inside : ∀ character ∈ (text.reverse.takeWhile isWordCharacter).reverse,
        isWordCharacter character = true := by
      intro character member
      exact List.mem_takeWhile_imp (List.mem_reverse.mp member)
    have last := lastWord_of_stops inside (by
      rw [List.reverse_reverse]
      exact stops_dropWhile isWordCharacter text.reverse)
    rwa [← cut] at last
  · rw [List.getLast?_reverse]
    rfl

theorem beginsWithLetters_iff : beginsWithLetters word text = true ↔
    ∃ front back, text = front ++ back ∧ sameLetters front word = true := by
  simp only [beginsWithLetters, sameLetters, List.isPrefixOf_iff_prefix, beq_iff_eq]
  constructor
  · rintro ⟨back, same⟩
    obtain ⟨front, rest, rfl, letters, _⟩ := List.map_eq_append_iff.mp same.symm
    exact ⟨front, rest, rfl, letters⟩
  · rintro ⟨front, back, rfl, letters⟩
    rw [List.map_append, letters]
    exact List.prefix_append _ _

theorem offers_ofWord (start : Nat) (word : Text) : Offers word (ofWord start word).candidates where
  inOrder := List.filter_sublist
  mem_iff := by
    intro keyword
    rw [ofWord, List.mem_filter, beginsWithLetters_iff]

/-- Outside a literal, all hangs on the character before the last word. -/
theorem complete_of_unquoted {after : Text} (unquoted : before.count '"' % 2 = 0)
    (split : before = lead ++ word) (found : lastWord before = (word, lead.getLast?)) :
    complete (before ++ after) (utf8Length before) =
      match lead.getLast? with
      | none => .ok (ofWord (utf8Length lead) word)
      | some stop =>
          if stop.utf8Size = 1 then .ok (ofWord (utf8Length lead) word)
          else .error (.offBoundary (utf8Length lead - stop.utf8Size + 1)) := by
  have start : utf8Length before - utf8Length word = utf8Length lead := by
    rw [split, utf8Length_append, Nat.add_sub_cancel]
  rw [complete, before?_append]
  dsimp only
  rw [if_neg (by omega), found]
  cases lead.getLast? with
  | none => simp only [start]
  | some stop => simp only [start]

theorem complete_of_quoted {after : Text} (quoted : before.count '"' % 2 = 1) :
    complete (before ++ after) (utf8Length before) = .ok ⟨utf8Length before, []⟩ := by
  rw [complete, before?_append]
  exact if_pos quoted

/-- The last word, if it does not begin the text, stands behind a character of one byte. -/
def AfterSingleByte (before : Text) : Prop :=
  ∀ lead stop word, before = lead ++ stop :: word → LastWord before word → stop.utf8Size = 1

theorem afterSingleByte_iff (split : before = lead ++ word) (last : LastWord before word) :
    AfterSingleByte before ↔ ∀ stop ∈ lead.getLast?, stop.utf8Size = 1 := by
  constructor
  · intro single stop stops
    obtain ⟨earlier, rfl⟩ := List.getLast?_eq_some_iff.mp stops
    exact single earlier stop word (by simpa using split) last
  · intro single earlier stop other otherSplit otherLast
    obtain rfl := last.unique otherLast
    apply single
    have same : lead ++ word = (earlier ++ [stop]) ++ word := by
      rw [← split, otherSplit]
      simp
    rw [List.append_cancel_right same]
    exact List.getLast?_concat ..

/-- At every position between two characters, a completion that does not fail is right. It fails exactly
where the last word, outside a literal, stands behind a character of more than one byte. -/
theorem completion_is_right_or_fails (before after : Text) :
    (∀ completion, complete (before ++ after) (utf8Length before) = .ok completion →
      Completes before completion) ∧
    ((∃ completion, complete (before ++ after) (utf8Length before) = .ok completion) ↔
      before.count '"' % 2 = 1 ∨ AfterSingleByte before) := by
  rcases Nat.mod_two_eq_zero_or_one (before.count '"') with unquoted | quoted
  · obtain ⟨lead, word, split, last, found⟩ := exists_lastWord before
    have right : Completes before (ofWord (utf8Length lead) word) :=
      .word unquoted split last (offers_ofWord (utf8Length lead) word)
    rw [complete_of_unquoted unquoted split found, afterSingleByte_iff split last, unquoted]
    cases lead.getLast? with
    | none => simpa using right
    | some stop =>
        by_cases single : stop.utf8Size = 1
        · simpa [single] using right
        · simp [single]
  · rw [complete_of_quoted quoted]
    refine ⟨?_, fun _ => .inl quoted, fun _ => ⟨_, rfl⟩⟩
    rintro _ ⟨⟩
    exact .literal quoted

/-- A word behind a quote, and a blank of three bytes after it. -/
def quotedThenWord : Text := "\u3000\"é\"cA".toList

theorem completion_is_right_or_fails_quotedThenWord :
    complete (quotedThenWord ++ "\u3000".toList) 9 = .ok ⟨7, ["CAP".toList]⟩ ∧
      Completes quotedThenWord ⟨7, ["CAP".toList]⟩ := by
  have completes : complete (quotedThenWord ++ "\u3000".toList) (utf8Length quotedThenWord) =
      .ok ⟨7, ["CAP".toList]⟩ := by
    decide +kernel
  exact ⟨completes, (completion_is_right_or_fails quotedThenWord "\u3000".toList).1 _ completes⟩

/-- A blank of two bytes before the word, with no quote on the line. -/
def behindWideBlank : Text := "\u00a0VA".toList

theorem completion_fails_behind_wide_blank :
    behindWideBlank.count '"' = 0 ∧ utf8Length behindWideBlank = 4 ∧
      complete behindWideBlank 4 = .error (.offBoundary 1) := by
  decide +kernel

end LineScript.Completion
