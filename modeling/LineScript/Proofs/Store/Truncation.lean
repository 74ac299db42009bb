import LineScript.Proofs.MessagePack.Delimiting
import LineScript.Proofs.Store.Snapshot

namespace LineScript

open MessagePack Decoder

namespace Value

theorem selfDelimiting_decodeTag : SelfDelimiting decodeTag := by
  refine Header.selfDelimiting_decode.bind fun header => ?_
  split
  -- the tag by its name, in a text or in bytes
  case h_3 | h_4 =>
    refine (selfDelimiting_take _).bind fun bytes => ?_
    repeat' split
    all_goals simp
  all_goals simp

theorem selfDelimiting_ofSnapshot : SelfDelimiting ofSnapshot := by
  refine Header.selfDelimiting_decode.bind fun header => ?_
  split
  · refine selfDelimiting_decodeTag.bind fun isList => ?_
    split
    · exact selfDelimiting_text.array.bind fun _ => selfDelimiting_pure _
    · exact selfDelimiting_text.bind fun _ => selfDelimiting_pure _
  · exact selfDelimiting_refuse

end Value

theorem NameMap.selfDelimiting_ofSnapshot : SelfDelimiting ofSnapshot :=
  (selfDelimiting_text.map Value.selfDelimiting_ofSnapshot).bind fun _ => selfDelimiting_pure _

namespace Store

variable {store : Store} {bytes : Bytes}

theorem selfDelimiting_decodeKey : SelfDelimiting decodeKey := by
  refine Header.selfDelimiting_decode.bind fun header => ?_
  split
  -- the key by its name, in a text or in bytes
  case h_4 | h_5 =>
    refine (selfDelimiting_take _).bind fun bytes => ?_
    repeat' split
    all_goals simp
  all_goals simp

theorem selfDelimiting_decodeEntries (ordinary captures : Option (NameMap Value)) (count : Nat) :
    SelfDelimiting (decodeEntries ordinary captures count) := by
  induction count generalizing ordinary captures with
  | zero => exact selfDelimiting_pure _
  | succ count induction =>
      rw [decodeEntries]
      refine selfDelimiting_decodeKey.bind fun key => ?_
      cases key with
      | none => exact (selfDelimiting_skip skipDepth).bind fun _ => induction ordinary captures
      | some partition =>
          cases partition with
          | ordinary =>
              cases ordinary with
              -- the second listing of a partition is refused
              | some _ => exact selfDelimiting_of_refuses fun _ => rfl
              | none =>
                  exact NameMap.selfDelimiting_ofSnapshot.bind fun decoded =>
                    induction (some decoded) captures
          | capture =>
              cases captures with
              -- the second listing of a partition is refused
              | some _ => exact selfDelimiting_of_refuses fun _ => rfl
              | none =>
                  exact NameMap.selfDelimiting_ofSnapshot.bind fun decoded =>
                    induction ordinary (some decoded)

theorem selfDelimiting_decode : SelfDelimiting decode := by
  refine Header.selfDelimiting_decode.bind fun header => ?_
  split
  · refine NameMap.selfDelimiting_ofSnapshot.bind fun ordinary => ?_
    exact NameMap.selfDelimiting_ofSnapshot.bind fun captures => selfDelimiting_pure _
  · refine (selfDelimiting_decodeEntries none none _).bind fun partitions => ?_
    split <;> simp
  · exact selfDelimiting_refuse

theorem ofSnapshot?_append (restored : ofSnapshot? bytes = some store) (extra : Bytes) :
    ofSnapshot? (bytes ++ extra) = some store := by
  obtain ⟨⟨_, rest⟩, decoded, rfl⟩ := Option.map_eq_some_iff.mp restored
  rw [ofSnapshot?, selfDelimiting_decode decoded extra]
  rfl

/-- A snapshot says itself where it ends. Whatever is cut off, wherever the cut falls, nothing is restored;
whatever is added, the same is bound. -/
theorem snapshots_delimit_themselves (fits : store.Fits) :
    (∀ front, front <+: store.toSnapshot → front ≠ store.toSnapshot → ofSnapshot? front = none) ∧
    ∀ extra, ofSnapshot? (store.toSnapshot ++ extra) = some store.withoutLog := by
  refine ⟨?short, ?long⟩
  case short =>
    intro front cut short
    have whole := run_decode_toSnapshot fits []
    rw [List.append_nil] at whole
    rw [ofSnapshot?, selfDelimiting_decode.run_eq_none_of_prefix whole cut short, Option.map_none]
  case long => exact ofSnapshot?_append (ofSnapshot?_toSnapshot fits)

/-- A cut inside the last of the items, and the reserved marker as the only byte behind. -/
theorem snapshots_delimit_themselves_crowded :
    crowded.Fits ∧ crowded.toSnapshot.take 600 ≠ crowded.toSnapshot ∧
      ofSnapshot? (crowded.toSnapshot.take 600) = none ∧
      ofSnapshot? (crowded.toSnapshot ++ [0xC1]) = some crowded.withoutLog := by
  have fits : crowded.Fits := by decide
  have short : crowded.toSnapshot.take 600 ≠ crowded.toSnapshot := by decide +kernel
  obtain ⟨unfinished, followed⟩ := snapshots_delimit_themselves fits
  exact ⟨fits, short, unfinished _ (List.take_prefix 600 _) short, followed [0xC1]⟩

end Store

end LineScript
