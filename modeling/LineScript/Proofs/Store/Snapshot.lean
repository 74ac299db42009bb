import LineScript.Store.Snapshot

namespace LineScript

open MessagePack

namespace NameMap

theorem insertEntry_of_above {name : Text} {value : α} {entries : List (Text × α)}
    (above : ∀ entry ∈ entries, entry.1 < name) :
    insertEntry name value entries = entries ++ [(name, value)] := by
  induction entries with
  | nil => rfl
  | cons head rest induction =>
      obtain ⟨other, held⟩ := head
      have smaller : other < name := above (other, held) List.mem_cons_self
      have different : name ≠ other := by
        intro same
        rw [same] at smaller
        exact List.lt_irrefl other smaller
      rw [insertEntry, if_neg (List.lt_asymm smaller), if_neg different,
        induction fun entry member => above entry (List.mem_cons_of_mem _ member)]
      rfl

theorem entries_foldl_insert {later : List (Text × α)} {map : NameMap α}
    (increasing : (map.entries ++ later).Pairwise fun left right => left.1 < right.1) :
    (later.foldl (fun map entry => map.insert entry.1 entry.2) map).entries =
      map.entries ++ later := by
  induction later generalizing map with
  | nil => simp
  | cons entry later induction =>
      have above : ∀ other ∈ map.entries, other.1 < entry.1 := by
        intro other member
        exact (List.pairwise_append.mp increasing).2.2 other member entry List.mem_cons_self
      have inserted : (map.insert entry.1 entry.2).entries = map.entries ++ [entry] :=
        insertEntry_of_above above
      have whole : (map.insert entry.1 entry.2).entries ++ later =
          map.entries ++ entry :: later := by
        rw [inserted, List.append_assoc, List.singleton_append]
      rw [List.foldl_cons, induction (whole ▸ increasing), whole]

theorem ofList_entries (map : NameMap α) : ofList map.entries = map := by
  obtain ⟨entries, increasing⟩ := map
  have same : (ofList entries).entries = entries := entries_foldl_insert increasing
  cases listed : ofList entries
  simp only [listed] at same
  subst same
  rfl

end NameMap

namespace Value

def Fits : Value → Prop
  | text content => Text.utf8Length content < lengthLimit
  | list items => items.length < lengthLimit ∧ ∀ item ∈ items, Text.utf8Length item < lengthLimit

instance : DecidablePred Fits
  | text _ => inferInstanceAs (Decidable (_ < _))
  | list _ => inferInstanceAs (Decidable (_ ∧ _))

theorem run_decodeTag_textTag (rest : Bytes) :
    decodeTag.run (writeText textTag ++ rest) = some (false, rest) := rfl

theorem run_decodeTag_listTag (rest : Bytes) :
    decodeTag.run (writeText listTag ++ rest) = some (true, rest) := rfl

theorem run_ofSnapshot_toSnapshot {value : Value} (fits : value.Fits) (rest : Bytes) :
    ofSnapshot.run (value.toSnapshot ++ rest) = some (value, rest) := by
  cases value with
  | text content =>
      rw [ofSnapshot, toSnapshot, List.append_assoc, List.append_assoc,
        Decoder.run_bind_of_some (Header.run_decode_mapHeader (by decide) _)]
      apply (Decoder.run_bind_of_some (run_decodeTag_textTag _)).trans
      exact Decoder.run_bind_of_some (Decoder.run_text_writeText fits rest)
  | list items =>
      rw [ofSnapshot, toSnapshot, List.append_assoc, List.append_assoc,
        Decoder.run_bind_of_some (Header.run_decode_mapHeader (by decide) _)]
      apply (Decoder.run_bind_of_some (run_decodeTag_listTag _)).trans
      apply Decoder.run_bind_of_some
      apply Decoder.run_array_writeArray fits.1
      intro item member after
      exact Decoder.run_text_writeText (fits.2 item member) after

end Value

namespace NameMap

structure Fits (bindings : NameMap Value) : Prop where
  size : bindings.entries.length < lengthLimit
  names : ∀ entry ∈ bindings.entries, Text.utf8Length entry.1 < lengthLimit
  values : ∀ entry ∈ bindings.entries, entry.2.Fits

instance (bindings : NameMap Value) : Decidable bindings.Fits :=
  decidable_of_iff
    (bindings.entries.length < lengthLimit ∧
      (∀ entry ∈ bindings.entries, Text.utf8Length entry.1 < lengthLimit) ∧
        ∀ entry ∈ bindings.entries, entry.2.Fits)
    ⟨fun ⟨size, names, values⟩ => ⟨size, names, values⟩,
      fun ⟨size, names, values⟩ => ⟨size, names, values⟩⟩

theorem run_ofSnapshot_toSnapshot {bindings : NameMap Value} (fits : bindings.Fits)
    (rest : Bytes) : ofSnapshot.run (bindings.toSnapshot ++ rest) = some (bindings, rest) := by
  have decoded : (Decoder.map Decoder.text Value.ofSnapshot).run (bindings.toSnapshot ++ rest) =
      some (bindings.entries, rest) := by
    apply Decoder.run_map_writeMap fits.size
    · intro entry member after
      exact Decoder.run_text_writeText (fits.names entry member) after
    · intro entry member after
      exact Value.run_ofSnapshot_toSnapshot (fits.values entry member) after
  rw [ofSnapshot, Decoder.run_bind_of_some decoded, Decoder.run_pure, ofList_entries]

end NameMap

namespace Store

/-- Every length of the store can stand in a header of MessagePack. -/
structure Fits (store : Store) : Prop where
  ordinary : store.variables.Fits
  captured : store.captures.Fits

instance (store : Store) : Decidable store.Fits :=
  decidable_of_iff (store.variables.Fits ∧ store.captures.Fits)
    ⟨fun ⟨ordinary, captured⟩ => ⟨ordinary, captured⟩,
      fun ⟨ordinary, captured⟩ => ⟨ordinary, captured⟩⟩

theorem run_decodeKey_variablesKey (rest : Bytes) :
    decodeKey.run (writeText variablesKey ++ rest) = some (some .ordinary, rest) := rfl

theorem run_decodeKey_capturesKey (rest : Bytes) :
    decodeKey.run (writeText capturesKey ++ rest) = some (some .capture, rest) := rfl

theorem run_decode_toSnapshot {store : Store} (fits : store.Fits) (rest : Bytes) :
    decode.run (store.toSnapshot ++ rest) = some (store.withoutLog, rest) := by
  have entries : (decodeEntries none none 2).run (writeText variablesKey ++
      (store.variables.toSnapshot ++ (writeText capturesKey ++
        (store.captures.toSnapshot ++ rest)))) =
      some ((some store.variables, some store.captures), rest) := by
    rw [decodeEntries, Decoder.run_bind_of_some (run_decodeKey_variablesKey _)]
    apply (Decoder.run_bind_of_some
      (NameMap.run_ofSnapshot_toSnapshot fits.ordinary _)).trans
    rw [decodeEntries, Decoder.run_bind_of_some (run_decodeKey_capturesKey _)]
    exact Decoder.run_bind_of_some (NameMap.run_ofSnapshot_toSnapshot fits.captured rest)
  simp only [toSnapshot, List.append_assoc]
  rw [decode, Decoder.run_bind_of_some (Header.run_decode_mapHeader (by decide) _)]
  exact Decoder.run_bind_of_some entries

theorem ofSnapshot?_toSnapshot {store : Store} (fits : store.Fits) :
    ofSnapshot? store.toSnapshot = some store.withoutLog := by
  have decoded := run_decode_toSnapshot fits []
  rw [List.append_nil] at decoded
  rw [ofSnapshot?, decoded]
  rfl

theorem log_eq_nil_of_run_decode {bytes rest : Bytes} {store : Store}
    (decoded : decode.run bytes = some (store, rest)) : store.log = [] := by
  obtain ⟨header, _, _, decoded⟩ := Decoder.run_bind_eq_some_iff.mp decoded
  split at decoded
  · obtain ⟨ordinary, _, _, decoded⟩ := Decoder.run_bind_eq_some_iff.mp decoded
    obtain ⟨captures, _, _, decoded⟩ := Decoder.run_bind_eq_some_iff.mp decoded
    cases decoded
    rfl
  · obtain ⟨partitions, _, _, decoded⟩ := Decoder.run_bind_eq_some_iff.mp decoded
    split at decoded
    · cases decoded
      rfl
    · cases decoded
  · cases decoded

theorem log_eq_nil_of_ofSnapshot? {bytes : Bytes} {store : Store}
    (restored : ofSnapshot? bytes = some store) : store.log = [] := by
  obtain ⟨⟨_, rest⟩, decoded, rfl⟩ := Option.map_eq_some_iff.mp restored
  exact log_eq_nil_of_run_decode decoded

/-- A snapshot gives back all that the store binds. A store that came from any bytes at all is given
back as it is, even if it binds a name in both partitions. -/
theorem snapshots_lose_only_the_log :
    (∀ store : Store, store.Fits →
      ofSnapshot? store.toSnapshot = some store.withoutLog) ∧
    ∀ (bytes : Bytes) (restored : Store), ofSnapshot? bytes = some restored → restored.Fits →
      ofSnapshot? restored.toSnapshot = some restored := by
  refine ⟨fun store fits => ofSnapshot?_toSnapshot fits, ?_⟩
  intro bytes restored accepted fits
  have unlogged : restored.withoutLog = restored := by
    rw [withoutLog, ← log_eq_nil_of_ofSnapshot? accepted]
  rw [ofSnapshot?_toSnapshot fits, unlogged]

/-- A store at the lengths where the headers change, with a name in both partitions. -/
def crowded : Store where
  «variables» := NameMap.empty.insert "λ".toList (.text (List.replicate 32 'é'))
  captures := NameMap.empty.insert "λ".toList (.list (List.replicate 16 (List.replicate 31 'x')))
  log := ["Sum: 1 + 2 = 3".toList]

theorem snapshots_lose_only_the_log_crowded :
    crowded.Fits ∧ crowded.withoutLog.Fits ∧
      ofSnapshot? crowded.toSnapshot = some crowded.withoutLog ∧
      ofSnapshot? crowded.withoutLog.toSnapshot = some crowded.withoutLog := by
  have fits : crowded.Fits := by decide
  have restoredFits : crowded.withoutLog.Fits := by decide
  have restored := snapshots_lose_only_the_log.1 crowded fits
  exact ⟨fits, restoredFits, restored,
    snapshots_lose_only_the_log.2 crowded.toSnapshot crowded.withoutLog restored restoredFits⟩

end Store

end LineScript
