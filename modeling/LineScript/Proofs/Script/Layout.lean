import LineScript.Proofs.Script.Lines
import Mathlib.Data.List.Forall2

namespace LineScript.Script

open Text

inductive LaysOut (settings : Settings) (line : Text) : Text → Prop
  | passive (passive : isPassive line = true) : LaysOut settings line (trimEnd line)
  | statement {statement : Statement} (active : isPassive line = false)
      (reads : readStatement settings line = .ok statement) :
      LaysOut settings line
        (statement.writeAs (if isIndented line then settings.indentWidth else 0)
          statement.disabled)

/-- Whether the source ends in a line of blanks with no line feed after it. -/
def endsInOpenBlank (source : Text) : Bool :=
  source.getLast? != some '\n' && (lines source).getLast?.any isBlankLine

/-- The lines that have a line of their own in the layout: all but a last one of blanks, if no line
feed ends it. -/
def keptLines (source : Text) : List Text :=
  if endsInOpenBlank source then (lines source).dropLast else lines source

variable {settings : Settings} {line text : Text}

theorem laysOut_iff_readLine :
    LaysOut settings line text ↔
      ∃ statement, readLine settings line = .ok statement ∧
        layLine settings line statement = text := by
  constructor
  · intro laidOut
    cases laidOut with
    | passive passive => exact ⟨none, readLine_of_passive passive, rfl⟩
    | @statement statement active reads =>
        have reads := readLine_eq_some_iff.mpr (readStatement_eq_ok_iff.mp reads)
        exact ⟨some statement, reads, rfl⟩
  · rintro ⟨statement, reads, laid⟩
    subst laid
    cases statement with
    | none => exact .passive (readLine_eq_none_iff.mp reads)
    | some statement =>
        have accepted := readLine_eq_some_iff.mp reads
        exact .statement (Statement.isPassive_eq_false_of_read accepted)
          (readStatement_eq_ok_iff.mpr accepted)

theorem formatFrom_eq_ok_iff {number : Nat} {texts laid : List Text} :
    formatFrom settings number texts = .ok laid ↔ List.Forall₂ (LaysOut settings) texts laid := by
  induction texts generalizing number laid with
  | nil =>
      rw [formatFrom, List.forall₂_nil_left_iff]
      exact ⟨fun same => (Except.ok.inj same).symm, fun same => same ▸ rfl⟩
  | cons line later induction =>
      rw [formatFrom_cons, List.forall₂_cons_left_iff]
      constructor
      · intro laidOut
        cases reads : readLine settings line with
        | error failure => simp [reads] at laidOut
        | ok statement =>
            rw [reads] at laidOut
            obtain ⟨others, went, rfl⟩ := map_eq_ok_iff.mp laidOut
            exact ⟨_, others, laysOut_iff_readLine.mpr ⟨statement, reads, rfl⟩,
              induction.mp went, rfl⟩
      · rintro ⟨text, others, here, went, same⟩
        obtain ⟨statement, reads, rfl⟩ := laysOut_iff_readLine.mp here
        rw [reads, same]
        exact map_eq_ok_iff.mpr ⟨others, induction.mpr went, rfl⟩

theorem isBlankLine_trimEnd : isBlankLine (trimEnd line) = isBlankLine line := by
  rw [isBlankLine, isBlankLine, trim_trimEnd]

theorem isPassive_trimEnd : isPassive (trimEnd line) = isPassive line := by
  rw [isPassive, isPassive, isBlankLine_trimEnd, isComment, isComment, trim_trimEnd]

namespace LaysOut

theorem stops_reverse (laidOut : LaysOut settings line text) : Stops isBlank text.reverse := by
  cases laidOut with
  | passive passive => exact stops_trimEnd line
  | statement active reads =>
      have wellFormed := Statement.wellFormed_of_read (readStatement_eq_ok_iff.mp reads)
      exact Statement.stops_reverse_writeAs wellFormed.toQuotable _ _

theorem feed_not_mem (laidOut : LaysOut settings line text) (noFeed : '\n' ∉ line) :
    '\n' ∉ text := by
  cases laidOut with
  | passive passive => exact fun member => noFeed (mem_of_mem_trimEnd member)
  | statement active reads =>
      have oneLine := Statement.oneLine_of_read noFeed (readStatement_eq_ok_iff.mp reads)
      exact oneLine.feed_not_mem_writeAs _ _

theorem isLine (laidOut : LaysOut settings line text) (noFeed : '\n' ∉ line) : IsLine text :=
  isLine_of_stops (laidOut.feed_not_mem noFeed) laidOut.stops_reverse

theorem readLine_eq (laidOut : LaysOut settings line text) :
    readLine settings text = readLine settings line := by
  cases laidOut with
  | passive passive =>
      rw [readLine_of_passive passive, readLine_of_passive (isPassive_trimEnd.trans passive)]
  | statement active reads =>
      have accepted := readStatement_eq_ok_iff.mp reads
      have again := Statement.read_writeAs_of_read accepted
        (if isIndented line then settings.indentWidth else 0) settings.strict
      rw [readLine_eq_some_iff.mpr accepted, readLine_eq_some_iff.mpr again]

theorem isPassive_eq (laidOut : LaysOut settings line text) : isPassive text = isPassive line := by
  have ofText : readLine settings text = .ok none ↔ isPassive text = true := readLine_eq_none_iff
  have ofLine : readLine settings line = .ok none ↔ isPassive line = true := readLine_eq_none_iff
  rw [laidOut.readLine_eq] at ofText
  exact Bool.eq_iff_iff.mpr (ofText.symm.trans ofLine)

theorem isBlankLine_eq (laidOut : LaysOut settings line text) :
    isBlankLine text = isBlankLine line := by
  have passive := laidOut.isPassive_eq
  cases laidOut with
  | passive _ => exact isBlankLine_trimEnd
  | statement active reads =>
      rw [active] at passive
      rw [isPassive, Bool.or_eq_false_iff] at active passive
      rw [active.1, passive.1]

theorem eq_nil_iff (laidOut : LaysOut settings line text) :
    text = [] ↔ isBlankLine line = true := by
  rw [← laidOut.isBlankLine_eq, isBlankLine, List.isEmpty_iff, trim_eq_nil_iff,
    ← trimEnd_eq_nil_iff, trimEnd_eq_self laidOut.stops_reverse]

theorem again {other : Settings} (laidOut : LaysOut settings line text)
    (sameWidth : other.indentWidth = settings.indentWidth) : LaysOut other text text := by
  cases laidOut with
  | passive passive =>
      have laid : LaysOut other (trimEnd line) _ := .passive (isPassive_trimEnd.trans passive)
      rwa [trimEnd_trimEnd] at laid
  | @statement statement active reads =>
      have accepted := readStatement_eq_ok_iff.mp reads
      have quotable := (Statement.wellFormed_of_read accepted).toQuotable
      generalize indented : (if isIndented line then settings.indentWidth else 0) = margin
      have read := Statement.read_writeAs_of_read accepted margin other.strict
      have laid : LaysOut other (statement.writeAs margin statement.disabled) _ :=
        .statement (Statement.isPassive_eq_false_of_read read) (readStatement_eq_ok_iff.mpr read)
      -- With no indentation to give, an indented line is laid out like any other, and stays so.
      have sameMargin : (if decide (0 < margin) = true then settings.indentWidth else 0) = margin := by
        subst indented
        cases isIndented line with
        | false => rfl
        | true => cases settings.indentWidth <;> rfl
      rwa [Statement.isIndented_writeAs quotable, sameWidth, sameMargin] at laid

end LaysOut

theorem forall_mem_of_forall₂ {related : α → β → Prop} {property : β → Prop} {sources : List α}
    {results : List β} (paired : List.Forall₂ related sources results)
    (holds : ∀ source ∈ sources, ∀ result, related source result → property result) :
    ∀ result ∈ results, property result := by
  induction paired with
  | nil => simp
  | cons here _ induction =>
      obtain ⟨first, others⟩ := List.forall_mem_cons.mp holds
      exact List.forall_mem_cons.mpr ⟨first _ here, induction others⟩

theorem exists_append_of_forall₂_append {related : α → β → Prop} {front back : List α}
    {whole : List β} (paired : List.Forall₂ related (front ++ back) whole) :
    ∃ early late, whole = early ++ late ∧ List.Forall₂ related front early ∧
      List.Forall₂ related back late := by
  refine ⟨whole.take front.length, whole.drop front.length, (List.take_append_drop _ _).symm, ?_, ?_⟩
  · simpa using List.forall₂_take front.length paired
  · simpa using List.forall₂_drop front.length paired

/-- The lines that the source ends, laid out, each with its line feed, then what the source has after
them, laid out. -/
structure LaidOutParts (settings : Settings) (source formatted : Text) (ended texts : List Text)
    (tail last : Text) : Prop where
  split : lines source = ended ++ lines tail
  tailNoFeed : '\n' ∉ tail
  ends : source.getLast? = some '\n' ↔ ended ≠ [] ∧ tail = []
  endedLaidOut : List.Forall₂ (LaysOut settings) ended texts
  tailLaidOut : LaysOut settings tail last
  whole : formatted = unlines texts ++ last

theorem exists_laidOutParts {source formatted : Text}
    (laidOut : format settings source = .ok formatted) :
    ∃ ended texts tail last, LaidOutParts settings source formatted ended texts tail last := by
  obtain ⟨laid, went, rfl⟩ := map_eq_ok_iff.mp laidOut
  obtain ⟨ended, tail, split, noFeed, ends⟩ := exists_ended_lines source
  have paired := formatFrom_eq_ok_iff.mp went
  rw [split] at paired
  obtain ⟨texts, late, rfl, endedLaidOut, lateLaidOut⟩ := exists_append_of_forall₂_append paired
  by_cases empty : tail = []
  · subst empty
    obtain rfl := List.forall₂_nil_left_iff.mp lateLaidOut
    refine ⟨ended, texts, [], [], split, noFeed, ends, endedLaidOut, .passive rfl, ?_⟩
    cases endedLaidOut with
    | nil => rw [if_neg fun fed => (ends.mp fed).1 rfl]; rfl
    | cons here later =>
        rw [if_pos (ends.mpr ⟨by simp, rfl⟩), List.append_nil, List.append_nil,
          join_feed_append_feed (by simp)]
  · rw [lines_eq_singleton noFeed empty] at lateLaidOut
    obtain ⟨last, _, tailLaidOut, none, rfl⟩ := List.forall₂_cons_left_iff.mp lateLaidOut
    obtain rfl := List.forall₂_nil_left_iff.mp none
    refine ⟨ended, texts, tail, last, split, noFeed, ends, endedLaidOut, tailLaidOut, ?_⟩
    rw [if_neg fun fed => empty (ends.mp fed).2, List.append_nil, join_feed_concat]

namespace LaidOutParts

variable {source formatted tail last : Text} {ended texts : List Text}

theorem areLines (parts : LaidOutParts settings source formatted ended texts tail last) :
    ∀ text ∈ texts, IsLine text := by
  refine forall_mem_of_forall₂ parts.endedLaidOut ?_
  intro line member text laidOut
  have listed : line ∈ lines source := by
    rw [parts.split]
    exact List.mem_append_left _ member
  exact laidOut.isLine (feed_not_mem_of_mem_lines listed)

theorem lastNoFeed (parts : LaidOutParts settings source formatted ended texts tail last) :
    '\n' ∉ last :=
  parts.tailLaidOut.feed_not_mem parts.tailNoFeed

theorem lines_formatted (parts : LaidOutParts settings source formatted ended texts tail last) :
    lines formatted = texts ++ if isBlankLine tail then [] else [last] := by
  rw [parts.whole, lines_unlines_append parts.areLines]
  split
  · rename_i blank
    rw [parts.tailLaidOut.eq_nil_iff.mpr blank, lines_nil]
  · rename_i solid
    rw [lines_eq_singleton parts.lastNoFeed fun empty => solid (parts.tailLaidOut.eq_nil_iff.mp empty)]

theorem keptLines_source (parts : LaidOutParts settings source formatted ended texts tail last) :
    keptLines source = ended ++ if isBlankLine tail then [] else [tail] := by
  by_cases empty : tail = []
  · have blank : isBlankLine tail = true := by rw [empty]; rfl
    have split : lines source = ended := by simp [parts.split, empty]
    have closed : endsInOpenBlank source = false := by
      rw [endsInOpenBlank, split]
      by_cases none : ended = []
      · simp [none]
      · simp [parts.ends.mpr ⟨none, empty⟩]
    rw [keptLines, closed, if_pos blank, split]
    simp
  · have split : lines source = ended ++ [tail] := by
      rw [parts.split, lines_eq_singleton parts.tailNoFeed empty]
    have unended : source.getLast? ≠ some '\n' := fun fed => empty (parts.ends.mp fed).2
    have ending : endsInOpenBlank source = isBlankLine tail := by
      simp [endsInOpenBlank, split, unended]
    rw [keptLines, ending, split, List.dropLast_concat]
    split <;> simp

theorem correspond (parts : LaidOutParts settings source formatted ended texts tail last) :
    List.Forall₂ (LaysOut settings) (keptLines source) (lines formatted) := by
  rw [parts.keptLines_source, parts.lines_formatted]
  refine List.rel_append parts.endedLaidOut ?_
  split
  · exact .nil
  · exact .cons parts.tailLaidOut .nil

theorem ends_formatted (parts : LaidOutParts settings source formatted ended texts tail last)
    (fed : source.getLast? = some '\n') : formatted.getLast? = some '\n' := by
  obtain ⟨nonempty, empty⟩ := parts.ends.mp fed
  have nothing : last = [] := parts.tailLaidOut.eq_nil_iff.mpr (by rw [empty]; rfl)
  have some : texts ≠ [] := by
    intro none
    have length := parts.endedLaidOut.length_eq
    rw [none] at length
    exact nonempty (List.length_eq_zero_iff.mp length)
  rw [parts.whole, nothing, List.append_nil, ← join_feed_append_feed some, List.getLast?_concat]

end LaidOutParts

/-- A layout is laid out already. Its lines end in no blank, and they are the lines of the source one
by one, without a last one of blanks that no line feed ends. -/
theorem layout_is_a_projection {source formatted : Text}
    (laidOut : format settings source = .ok formatted) :
    (∀ other : Settings, other.indentWidth = settings.indentWidth →
        format other formatted = .ok formatted) ∧
      (∀ line ∈ lines formatted, ∀ character ∈ line.getLast?, isBlank character = false) ∧
      (source.getLast? = some '\n' → formatted.getLast? = some '\n') ∧
      List.Forall₂ (LaysOut settings) (keptLines source) (lines formatted) := by
  obtain ⟨ended, texts, tail, last, parts⟩ := exists_laidOutParts laidOut
  have correspond := parts.correspond
  refine ⟨?_, ?_, parts.ends_formatted, correspond⟩
  · intro other sameWidth
    have laid : formatFrom other 1 (lines formatted) = .ok (lines formatted) := by
      refine formatFrom_eq_ok_iff.mpr (List.forall₂_same.mpr ?_)
      exact forall_mem_of_forall₂ correspond fun _ _ _ here => here.again sameWidth
    have together := join_lines_unlines_append parts.areLines parts.lastNoFeed
    rw [← parts.whole] at together
    exact map_eq_ok_iff.mpr ⟨lines formatted, laid, together⟩
  · refine forall_mem_of_forall₂ correspond ?_
    intro line _ text here character ends
    exact here.stops_reverse character (by rw [List.head?_reverse]; exact ends)

/-- Lines ended in both ways, a line that only a lenient reading accepts, and an open blank line. -/
def sprawling : Text :=
  "## adding \r\n\t !  sum \"1\"  \"<A B>\" -> VAR \"B\"  \n\n  #x SUM \"2\" \"\" rest\r\n \t".toList

def sprawlingLaidOut : Text :=
  "## adding\n  !SUM \"1\" \"<A B>\" -> VAR \"B\"\n\n  #x SUM \"2\" \"\"\n".toList

theorem layout_is_a_projection_sprawling :
    format {} sprawling = .ok sprawlingLaidOut ∧
      format { strict := true } sprawlingLaidOut = .ok sprawlingLaidOut ∧
      List.Forall₂ (LaysOut {}) (keptLines sprawling) (lines sprawlingLaidOut) ∧
      format {} (sprawling ++ ['\n']) = .ok (sprawlingLaidOut ++ ['\n']) ∧
      (sprawlingLaidOut ++ ['\n']).getLast? = some '\n' := by
  have laidOut : format {} sprawling = .ok sprawlingLaidOut := rfl
  have closed : format {} (sprawling ++ ['\n']) = .ok (sprawlingLaidOut ++ ['\n']) := rfl
  have projection := layout_is_a_projection laidOut
  exact ⟨laidOut, projection.1 { strict := true } rfl, projection.2.2.2, closed,
    (layout_is_a_projection closed).2.2.1 rfl⟩

end LineScript.Script
