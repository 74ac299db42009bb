import LineScript.MessagePack.Decoder

namespace LineScript.MessagePack

namespace Decoder

variable {decoder : Decoder α} {bytes front : Bytes} {value : α}

/-- More bytes behind those that were given are left as they are. -/
def SelfDelimiting (decoder : Decoder α) : Prop :=
  ∀ ⦃bytes value rest⦄, decoder.run bytes = some (value, rest) →
    ∀ extra, decoder.run (bytes ++ extra) = some (value, rest ++ extra)

theorem SelfDelimiting.run_eq_none_of_prefix (delimits : SelfDelimiting decoder)
    (whole : decoder.run bytes = some (value, [])) (cut : front <+: bytes) (short : front ≠ bytes) :
    decoder.run front = none := by
  obtain ⟨missing, rfl⟩ := cut
  cases ran : decoder.run front with
  | none => rfl
  | some taken =>
      obtain ⟨early, rest⟩ := taken
      have lengthened := (delimits ran missing).symm.trans whole
      simp only [Option.some.injEq, Prod.mk.injEq, List.append_eq_nil_iff] at lengthened
      obtain ⟨_, _, rfl⟩ := lengthened
      exact absurd (List.append_nil front).symm short

@[simp] theorem selfDelimiting_pure (value : α) : SelfDelimiting (pure value : Decoder α) := by
  rintro bytes _ _ ⟨⟩ extra
  rfl

theorem selfDelimiting_of_refuses (refuses : ∀ bytes, decoder.run bytes = none) :
    SelfDelimiting decoder := by
  intro bytes value rest ran
  rw [refuses] at ran
  cases ran

@[simp] theorem selfDelimiting_refuse : SelfDelimiting (refuse : Decoder α) :=
  selfDelimiting_of_refuses fun _ => rfl

theorem SelfDelimiting.bind {next : α → Decoder β} (begins : SelfDelimiting decoder)
    (goesOn : ∀ value, SelfDelimiting (next value)) : SelfDelimiting (decoder >>= next) := by
  intro bytes value rest ran extra
  obtain ⟨first, middle, started, finished⟩ := run_bind_eq_some_iff.mp ran
  rw [run_bind_of_some (begins started extra)]
  exact goesOn first finished extra

@[simp] theorem selfDelimiting_require (required : Option α) : SelfDelimiting (require required) := by
  cases required with
  | none => exact selfDelimiting_refuse
  | some value => exact selfDelimiting_pure value

theorem selfDelimiting_byte : SelfDelimiting byte := by
  intro bytes value rest ran extra
  cases bytes with
  | nil => cases ran
  | cons first bytes =>
      cases ran
      rfl

theorem splitBytes_eq_some_iff {count : Nat} {rest : Bytes} :
    splitBytes count bytes = some (front, rest) ↔ front.length = count ∧ bytes = front ++ rest := by
  constructor
  · intro split
    induction count generalizing bytes front with
    | zero =>
        cases split
        exact ⟨rfl, rfl⟩
    | succ count induction =>
        cases bytes with
        | nil => cases split
        | cons byte bytes =>
            obtain ⟨⟨taken, left⟩, split, same⟩ := Option.map_eq_some_iff.mp split
            cases same
            obtain ⟨rfl, rfl⟩ := induction split
            exact ⟨rfl, rfl⟩
  · rintro ⟨rfl, rfl⟩
    exact splitBytes_append front rest

@[simp] theorem selfDelimiting_take (count : Nat) : SelfDelimiting (take count) := by
  intro bytes front rest ran extra
  obtain ⟨counted, rfl⟩ := splitBytes_eq_some_iff.mp ran
  exact splitBytes_eq_some_iff.mpr ⟨counted, List.append_assoc front rest extra⟩

@[simp] theorem selfDelimiting_number (width : Nat) : SelfDelimiting (number width) :=
  (selfDelimiting_take width).bind fun _ => selfDelimiting_pure _

theorem SelfDelimiting.times (delimits : SelfDelimiting decoder) (count : Nat) :
    SelfDelimiting (decoder.times count) := by
  induction count with
  | zero => exact selfDelimiting_pure []
  | succ count induction =>
      exact delimits.bind fun _ => induction.bind fun _ => selfDelimiting_pure _

end Decoder

namespace Header

open Decoder

@[simp] theorem selfDelimiting_wide (header : Nat → Header) (width : Nat) :
    SelfDelimiting (wide header width) :=
  (selfDelimiting_number width).bind fun _ => selfDelimiting_pure _

@[simp] theorem selfDelimiting_passed (width : Nat) : SelfDelimiting (passed width) :=
  (selfDelimiting_take width).bind fun _ => selfDelimiting_pure _

@[simp] theorem selfDelimiting_ofPlainMarker (marker : Nat) : SelfDelimiting (ofPlainMarker marker) := by
  unfold ofPlainMarker
  split <;> simp

theorem selfDelimiting_ofMarker (marker : Nat) : SelfDelimiting (ofMarker marker) := by
  unfold ofMarker
  repeat' split
  all_goals simp

theorem selfDelimiting_decode : SelfDelimiting decode :=
  selfDelimiting_byte.bind selfDelimiting_ofMarker

end Header

namespace Decoder

open Header

theorem selfDelimiting_text : SelfDelimiting text := by
  refine selfDelimiting_decode.bind fun header => ?_
  split
  · exact (selfDelimiting_take _).bind fun _ => selfDelimiting_require _
  · exact (selfDelimiting_take _).bind fun _ => selfDelimiting_require _
  · exact selfDelimiting_refuse

theorem SelfDelimiting.array (delimits : SelfDelimiting decoder) : SelfDelimiting (array decoder) := by
  refine selfDelimiting_decode.bind fun header => ?_
  split
  · exact delimits.times _
  · exact selfDelimiting_pure []
  · exact selfDelimiting_refuse

theorem SelfDelimiting.map {key : Decoder α} {item : Decoder β} (keys : SelfDelimiting key)
    (items : SelfDelimiting item) : SelfDelimiting (map key item) := by
  refine selfDelimiting_decode.bind fun header => ?_
  split
  · refine SelfDelimiting.times ?_ _
    exact keys.bind fun _ => items.bind fun _ => selfDelimiting_pure _
  · exact selfDelimiting_refuse

theorem selfDelimiting_skipBytes (count : Nat) : SelfDelimiting (skipBytes count) :=
  (selfDelimiting_take count).bind fun _ => selfDelimiting_pure ()

theorem selfDelimiting_skipped {items content : Nat → Decoder Unit}
    (inside : ∀ count, SelfDelimiting (items count)) (extension : ∀ count, SelfDelimiting (content count)) :
    SelfDelimiting (skipped items content) := by
  refine selfDelimiting_decode.bind fun header => ?_
  cases header with
  | unsigned | other => exact selfDelimiting_pure ()
  | text length | binary length => exact selfDelimiting_skipBytes length
  | array length => exact inside length
  | map length => exact inside (2 * length)
  | extension length => exact extension (length + 1)

theorem selfDelimiting_skip (depth : Nat) : SelfDelimiting (skip depth) := by
  induction depth with
  | zero => exact selfDelimiting_skipped (fun _ => selfDelimiting_refuse) fun _ => selfDelimiting_refuse
  | succ depth induction =>
      refine selfDelimiting_skipped (fun count => ?_) selfDelimiting_skipBytes
      exact (induction.times count).bind fun _ => selfDelimiting_pure ()

end Decoder

end LineScript.MessagePack
