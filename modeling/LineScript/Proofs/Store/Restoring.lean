import LineScript.Proofs.Store.Partitions
import LineScript.Store.Snapshot
import Mathlib.Data.Set.Card

/-! Stores restored from any bytes at all. Each of the two maps is put together by itself, so a name
listed in both is bound in both; then nothing that a store otherwise keeps to holds of it. -/

namespace LineScript

open MessagePack

namespace MessagePack.Decoder

/-- The second decoder takes the same bytes as the first one and gives the image of its value. -/
def Mirrors (change : α → β) (decoder : Decoder α) (image : Decoder β) : Prop :=
  ∀ bytes, image.run bytes = (decoder.run bytes).map fun (value, rest) => (change value, rest)

theorem mirrors_self (decoder : Decoder α) : Mirrors id decoder decoder := by
  intro bytes
  cases decoder.run bytes <;> rfl

theorem mirrors_pure (change : α → β) (value : α) :
    Mirrors change (pure value) (pure (change value)) := fun _ => rfl

theorem Mirrors.bind {change : α → β} {further : γ → δ} {first : Decoder α} {image : Decoder β}
    {next : α → Decoder γ} {nextImage : β → Decoder δ} (begins : Mirrors change first image)
    (goesOn : ∀ value, Mirrors further (next value) (nextImage (change value))) :
    Mirrors further (first >>= next) (image >>= nextImage) := by
  intro bytes
  rw [run_bind, run_bind, begins bytes]
  cases first.run bytes with
  | none => rfl
  | some taken => exact goesOn taken.1 taken.2

end MessagePack.Decoder

/-- Names with their values in the order in which they stand; a name may come more than once. -/
abbrev Listing := List (Text × Value)

namespace Listing

def names (listing : Listing) : List Text := listing.map Prod.fst

def decode : Decoder Listing := Decoder.map Decoder.text Value.ofSnapshot

end Listing

namespace NameMap

theorem mirrors_ofSnapshot : Decoder.Mirrors ofList Listing.decode ofSnapshot := by
  intro bytes
  rw [ofSnapshot, Decoder.run_bind, ← Listing.decode]
  cases Listing.decode.run bytes <;> rfl

theorem mem_names_insert {map : NameMap α} {name other : Text} {value : α} :
    name ∈ (map.insert other value).names ↔ name = other ∨ name ∈ map.names := by
  rw [mem_names_iff, mem_names_iff, get?_insert]
  by_cases same : name = other <;> simp [same]

theorem mem_names_foldl_insert {entries : List (Text × α)} {map : NameMap α} {name : Text} :
    name ∈ (entries.foldl (fun map entry => map.insert entry.1 entry.2) map).names ↔
      name ∈ entries.map Prod.fst ∨ name ∈ map.names := by
  induction entries generalizing map with
  | nil => simp
  | cons entry later induction =>
      rw [List.foldl_cons, induction, mem_names_insert, List.map_cons, List.mem_cons]
      tauto

theorem mem_names_ofList {entries : List (Text × α)} {name : Text} :
    name ∈ (ofList entries).names ↔ name ∈ entries.map Prod.fst := by
  have unbound : name ∉ (empty : NameMap α).names := List.not_mem_nil
  rw [ofList, mem_names_foldl_insert, or_iff_left unbound]

end NameMap

namespace Store

/-- What stands under the two keys of a whole of so many entries, where so much of it has been found. -/
def decodeListed (ordinary captures : Option Listing) :
    Nat → Decoder (Option Listing × Option Listing)
  | 0 => return (ordinary, captures)
  | count + 1 => do
      match ← decodeKey with
      | none =>
          Decoder.skip skipDepth
          decodeListed ordinary captures count
      | some .ordinary =>
          if ordinary.isSome then Decoder.refuse
          let listing ← Listing.decode
          decodeListed (some listing) captures count
      | some .capture =>
          if captures.isSome then Decoder.refuse
          let listing ← Listing.decode
          decodeListed ordinary (some listing) count

def decodeListings : Decoder (Listing × Listing) := do
  match ← Header.decode with
  | .array 2 =>
      let ordinary ← Listing.decode
      let captures ← Listing.decode
      return (ordinary, captures)
  | .map count =>
      match ← decodeListed none none count with
      | (some ordinary, some captures) => return (ordinary, captures)
      | _ => Decoder.refuse
  | _ => Decoder.refuse

/-- The bindings that a snapshot lists, the ordinary ones and the captures, as they stand in it. -/
def listings? (bytes : Bytes) : Option (Listing × Listing) :=
  (decodeListings.run bytes).map Prod.fst

theorem mirrors_decodeEntries (ordinary captures : Option Listing) (count : Nat) :
    Decoder.Mirrors (Prod.map (Option.map NameMap.ofList) (Option.map NameMap.ofList))
      (decodeListed ordinary captures count)
      (decodeEntries (ordinary.map NameMap.ofList) (captures.map NameMap.ofList) count) := by
  induction count generalizing ordinary captures with
  | zero => exact Decoder.mirrors_pure _ (ordinary, captures)
  | succ count induction =>
      rw [decodeListed, decodeEntries]
      apply (Decoder.mirrors_self decodeKey).bind
      intro key
      cases key with
      | none => exact (Decoder.mirrors_self _).bind fun _ => induction ordinary captures
      | some partition =>
          cases partition with
          | ordinary =>
              cases ordinary with
              | some _ => exact fun _ => rfl
              | none =>
                  exact NameMap.mirrors_ofSnapshot.bind fun listing => induction (some listing) captures
          | capture =>
              cases captures with
              | some _ => exact fun _ => rfl
              | none =>
                  exact NameMap.mirrors_ofSnapshot.bind fun listing => induction ordinary (some listing)

theorem mirrors_decode :
    Decoder.Mirrors
      (fun (ordinary, captures) => ⟨NameMap.ofList ordinary, NameMap.ofList captures, []⟩)
      decodeListings decode := by
  apply (Decoder.mirrors_self Header.decode).bind
  intro header
  cases header with
  | array count =>
      match count with
      | 2 =>
          exact NameMap.mirrors_ofSnapshot.bind fun ordinary =>
            NameMap.mirrors_ofSnapshot.bind fun captures => Decoder.mirrors_pure _ (ordinary, captures)
      | 0 | 1 | _ + 3 => exact fun _ => rfl
  | map count =>
      apply (mirrors_decodeEntries none none count).bind
      rintro ⟨_ | ordinary, _ | captures⟩ <;> exact fun _ => rfl
  | _ => exact fun _ => rfl

/-- A restored store is the two listings of its bytes, each put together by itself. -/
theorem exists_listings {bytes : Bytes} {store : Store} (restored : ofSnapshot? bytes = some store) :
    ∃ ordinary captures, listings? bytes = some (ordinary, captures) ∧
      store = ⟨NameMap.ofList ordinary, NameMap.ofList captures, []⟩ := by
  rw [ofSnapshot?, mirrors_decode bytes] at restored
  unfold listings?
  cases listed : decodeListings.run bytes with
  | none =>
      rw [listed] at restored
      cases restored
  | some found =>
      rw [listed] at restored
      exact ⟨found.1.1, found.1.2, rfl, (Option.some.inj restored).symm⟩

/-- Asking whether a name is a capture tells in which of its maps the store finds the value. -/
def TellsPartitions (store : Store) : Prop :=
  ∀ name, store.isCapture name = true ↔
    store.variables.get? name = none ∧ ∃ value, store.captures.get? name = some value

/-- The size is the number of different names that have a value. -/
def CountsNames (store : Store) : Prop :=
  store.size = Set.ncard {name | ∃ value, store.get? name = some value}

/-- Removing a name unbinds it. -/
def Unbinds (store : Store) : Prop := ∀ name, (store.remove name).get? name = none

variable {store : Store}

theorem exclusive_iff_disjoint :
    store.Exclusive ↔ store.variables.names.Disjoint store.captures.names := by
  constructor
  · intro exclusive name ordinary capture
    obtain ⟨value, asVariable⟩ := NameMap.mem_names_iff.mp ordinary
    obtain ⟨captured, asCapture⟩ := NameMap.mem_names_iff.mp capture
    rcases exclusive name with absent | absent
    · rw [absent] at asVariable
      cases asVariable
    · rw [absent] at asCapture
      cases asCapture
  · intro disjoint name
    cases asVariable : store.variables.get? name with
    | none => exact .inl rfl
    | some value =>
        refine .inr (Option.eq_none_iff_forall_ne_some.mpr fun captured asCapture => ?_)
        exact disjoint (NameMap.mem_names_iff.mpr ⟨value, asVariable⟩)
          (NameMap.mem_names_iff.mpr ⟨captured, asCapture⟩)

theorem tellsPartitions_iff_exclusive : store.TellsPartitions ↔ store.Exclusive := by
  constructor
  · intro tells name
    cases asCapture : store.captures.get? name with
    | none => exact .inr rfl
    | some captured =>
        exact .inl ((tells name).mp (NameMap.contains_eq_true_iff.mpr ⟨captured, asCapture⟩)).1
  · intro exclusive name
    rw [isCapture, NameMap.contains_eq_true_iff]
    constructor
    · intro ⟨captured, asCapture⟩
      refine ⟨(exclusive name).resolve_right ?_, captured, asCapture⟩
      rw [asCapture]
      exact Option.some_ne_none captured
    · exact And.right

theorem setOf_bound_eq (store : Store) :
    {name | ∃ value, store.get? name = some value} =
      ((store.variables.names ++ store.captures.names).toFinset : Set Text) := by
  ext name
  simp only [Set.mem_ofPred_eq, List.coe_toFinset, List.mem_append, NameMap.mem_names_iff, get?,
    Option.or_eq_some_iff]
  cases store.variables.get? name <;> simp

theorem countsNames_iff_exclusive : store.CountsNames ↔ store.Exclusive := by
  have sizes : store.size = (store.variables.names ++ store.captures.names).length := by
    rw [List.length_append, size, NameMap.size_eq_length_names, NameMap.size_eq_length_names]
  have alone : (store.variables.names ++ store.captures.names).Nodup ↔
      store.variables.names.Disjoint store.captures.names := by
    rw [List.nodup_append']
    exact ⟨fun whole => whole.2.2,
      fun disjoint => ⟨store.variables.nodup_names, store.captures.nodup_names, disjoint⟩⟩
  -- There are as many names as places exactly if no name stands in two places.
  rw [CountsNames, setOf_bound_eq, Set.ncard_coe_finset, sizes, exclusive_iff_disjoint, ← alone,
    List.card_toFinset]
  constructor
  · intro same
    have whole := (List.dedup_sublist _).eq_of_length same.symm
    rw [← whole]
    exact List.nodup_dedup _
  · intro distinct
    rw [distinct.dedup]

/-- A variable hides the capture of its name until it is removed. -/
theorem get?_remove_self (store : Store) (name : Text) :
    (store.remove name).get? name =
      (store.variables.get? name).bind fun _ => store.captures.get? name := by
  unfold remove extract
  cases asVariable : store.variables.get? name with
  | none => simp [get?, asVariable]
  | some value => simp [get?]

theorem unbinds_iff_exclusive : store.Unbinds ↔ store.Exclusive := by
  apply forall_congr'
  intro name
  rw [get?_remove_self]
  cases store.variables.get? name <;> simp

/-- A restored store binds no name twice exactly if its bytes list no name in both partitions, and
exactly then all that is asked of it about names is answered as of a store that never did. -/
theorem restored_store_is_exclusive_iff {bytes : Bytes} (restored : ofSnapshot? bytes = some store) :
    ∃ ordinary captures, listings? bytes = some (ordinary, captures) ∧
      (store.Exclusive ↔ ordinary.names.Disjoint captures.names) ∧
      (store.TellsPartitions ↔ ordinary.names.Disjoint captures.names) ∧
      (store.CountsNames ↔ ordinary.names.Disjoint captures.names) ∧
      (store.Unbinds ↔ ordinary.names.Disjoint captures.names) := by
  obtain ⟨ordinary, captures, listed, rfl⟩ := exists_listings restored
  refine ⟨ordinary, captures, listed, ?_⟩
  have exclusive : Store.Exclusive ⟨NameMap.ofList ordinary, NameMap.ofList captures, []⟩ ↔
      ordinary.names.Disjoint captures.names := by
    rw [exclusive_iff_disjoint]
    unfold List.Disjoint
    simp only [NameMap.mem_names_ofList]
    rfl
  exact ⟨exclusive, tellsPartitions_iff_exclusive.trans exclusive,
    countsNames_iff_exclusive.trans exclusive, unbinds_iff_exclusive.trans exclusive⟩

/-- The keys come as numbers and in the other order, with an unknown one between them, and one name is
listed again with another value. -/
def looseSnapshot : Bytes :=
  [0x83, 0x01, 0x81, 0xA1, 0x41, 0x81, 0x00, 0xA1, 0x78, 0x05, 0xC0, 0x00, 0x82, 0xA1, 0x42, 0x81,
    0x00, 0xA1, 0x31, 0xA1, 0x42, 0x81, 0x00, 0xA1, 0x32]

def looseListings : Listing × Listing :=
  ([(['B'], .text ['1']), (['B'], .text ['2'])], [(['A'], .text ['x'])])

def looseStore : Store where
  «variables» := NameMap.empty.insert ['B'] (.text ['2'])
  captures := NameMap.empty.insert ['A'] (.text ['x'])
  log := []

theorem restored_store_is_exclusive_iff_loose :
    ofSnapshot? looseSnapshot = some looseStore ∧ listings? looseSnapshot = some looseListings ∧
      looseStore.Exclusive ∧ looseStore.TellsPartitions ∧ looseStore.CountsNames ∧
      looseStore.Unbinds := by
  have restored : ofSnapshot? looseSnapshot = some looseStore := by decide +kernel
  have listed : listings? looseSnapshot = some looseListings := by decide +kernel
  obtain ⟨ordinary, captures, same, exclusive, tells, counts, unbinds⟩ :=
    restored_store_is_exclusive_iff restored
  obtain ⟨rfl, rfl⟩ := Prod.mk.inj (Option.some.inj (same.symm.trans listed))
  have disjoint : looseListings.1.names.Disjoint looseListings.2.names := by
    simp [looseListings, Listing.names]
  exact ⟨restored, listed, exclusive.mpr disjoint, tells.mpr disjoint, counts.mpr disjoint,
    unbinds.mpr disjoint⟩

/-- Both partitions list the one name. -/
def doubledSnapshot : Bytes :=
  [0x82, 0xA9, 0x76, 0x61, 0x72, 0x69, 0x61, 0x62, 0x6C, 0x65, 0x73, 0x81, 0xA1, 0x4E, 0x81, 0xA3,
    0x53, 0x74, 0x72, 0xA1, 0x76, 0xA8, 0x63, 0x61, 0x70, 0x74, 0x75, 0x72, 0x65, 0x73, 0x81, 0xA1,
    0x4E, 0x81, 0xA3, 0x53, 0x74, 0x72, 0xA1, 0x63]

def doubledStore : Store where
  «variables» := NameMap.empty.insert ['N'] (.text ['v'])
  captures := NameMap.empty.insert ['N'] (.text ['c'])
  log := []

/-- The name is a capture, though its value is the variable's; it is counted twice, and it is still
bound when it has been removed. -/
theorem restored_store_binds_twice :
    ofSnapshot? doubledSnapshot = some doubledStore ∧ ¬ doubledStore.Exclusive ∧
      doubledStore.isCapture ['N'] = true ∧ doubledStore.get? ['N'] = some (.text ['v']) ∧
      doubledStore.size = 2 ∧ ¬ doubledStore.CountsNames ∧
      (doubledStore.remove ['N']).get? ['N'] = some (.text ['c']) := by
  have twice : ¬ doubledStore.Exclusive := by
    intro exclusive
    rcases exclusive ['N'] with absent | absent <;> cases absent
  refine ⟨by decide +kernel, twice, rfl, rfl, rfl, ?_, rfl⟩
  exact fun counts => twice (countsNames_iff_exclusive.mp counts)

end Store

end LineScript
