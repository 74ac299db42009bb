import LineScript.MessagePack.Writer

/-!
Decoding MessagePack from the front of a sequence of bytes. A decoder takes any width of a header,
and leaves the bytes after what it decoded. The reserved marker is refused everywhere, and an
extension wherever it is not passed over.
-/

namespace LineScript.MessagePack

structure Decoder (α : Type) where
  run : Bytes → Option (α × Bytes)

namespace Decoder

instance : Monad Decoder where
  pure value := ⟨fun bytes => some (value, bytes)⟩
  bind decoder next := ⟨fun bytes =>
    match decoder.run bytes with
    | some (value, rest) => (next value).run rest
    | none => none⟩

@[simp] theorem run_pure (value : α) (bytes : Bytes) :
    (pure value : Decoder α).run bytes = some (value, bytes) := rfl

theorem run_bind (decoder : Decoder α) (next : α → Decoder β) (bytes : Bytes) :
    (decoder >>= next).run bytes =
      match decoder.run bytes with
      | some (value, rest) => (next value).run rest
      | none => none := rfl

theorem run_bind_of_some {decoder : Decoder α} {next : α → Decoder β} {bytes rest : Bytes}
    {value : α} (ran : decoder.run bytes = some (value, rest)) :
    (decoder >>= next).run bytes = (next value).run rest := by
  rw [run_bind, ran]

theorem run_bind_eq_some_iff {decoder : Decoder α} {next : α → Decoder β} {bytes rest : Bytes}
    {value : β} :
    (decoder >>= next).run bytes = some (value, rest) ↔
      ∃ first middle, decoder.run bytes = some (first, middle) ∧
        (next first).run middle = some (value, rest) := by
  rw [run_bind]
  constructor
  · intro ran
    split at ran
    · rename_i first middle decoded
      exact ⟨first, middle, decoded, ran⟩
    · cases ran
  · intro ⟨first, middle, decoded, ran⟩
    rw [decoded]
    exact ran

def refuse : Decoder α := ⟨fun _ => none⟩

def require : Option α → Decoder α
  | some value => pure value
  | none => refuse

def byte : Decoder Nat := ⟨fun bytes =>
  match bytes with
  | [] => none
  | first :: rest => some (first.toNat, rest)⟩

def splitBytes : Nat → Bytes → Option (Bytes × Bytes)
  | 0, bytes => some ([], bytes)
  | _ + 1, [] => none
  | count + 1, byte :: bytes =>
      (splitBytes count bytes).map fun (front, rest) => (byte :: front, rest)

theorem splitBytes_append (front rest : Bytes) :
    splitBytes front.length (front ++ rest) = some (front, rest) := by
  induction front with
  | nil => rfl
  | cons byte front induction => simp [splitBytes, induction]

def take (count : Nat) : Decoder Bytes := ⟨splitBytes count⟩

theorem run_take_append (front rest : Bytes) :
    (take front.length).run (front ++ rest) = some (front, rest) :=
  splitBytes_append front rest

def number (width : Nat) : Decoder Nat := do
  let bytes ← take width
  return bytes.foldl (fun high byte => 256 * high + byte.toNat) 0

theorem foldl_bigEndian (width number : Nat) :
    (bigEndian width number).foldl (fun high byte => 256 * high + byte.toNat) 0 =
      number % capacity width := by
  induction width generalizing number with
  | zero => simp [bigEndian, capacity, Nat.mod_one]
  | succ width induction =>
      rw [bigEndian, List.foldl_append, induction, capacity, Nat.mod_mul]
      simp
      omega

theorem run_number_bigEndian {width number : Nat} (fits : number < capacity width) (rest : Bytes) :
    (Decoder.number width).run (bigEndian width number ++ rest) = some (number, rest) := by
  have taken := run_take_append (bigEndian width number) rest
  rw [length_bigEndian] at taken
  rw [Decoder.number, run_bind_of_some taken, foldl_bigEndian, Nat.mod_eq_of_lt fits]
  rfl

def times (decoder : Decoder α) : Nat → Decoder (List α)
  | 0 => pure []
  | count + 1 => do
      let first ← decoder
      let later ← decoder.times count
      return first :: later

end Decoder

/-- The front of an item: of a text, bytes, an array, a map or an extension the length, of an
unsigned number its value. The other kinds have nothing that a caller needs, and their bytes are
passed over. -/
inductive Header where
  | unsigned (value : Nat)
  | text (length : Nat)
  | binary (length : Nat)
  | array (length : Nat)
  | map (length : Nat)
  /-- Of the content; the number of the extension stands before it. -/
  | extension (length : Nat)
  | other
  deriving DecidableEq, Repr

namespace Header

/-- A header whose length or value stands in the next `width` bytes. -/
def wide (header : Nat → Header) (width : Nat) : Decoder Header := do
  return header (← Decoder.number width)

/-- A header with `width` bytes of content that are passed over. -/
def passed (width : Nat) : Decoder Header := do
  let _ ← Decoder.take width
  return other

/-- The headers whose marker holds neither a length nor a value. -/
def ofPlainMarker : Nat → Decoder Header
  | 0xC0 | 0xC2 | 0xC3 => pure other
  | 0xC4 => wide binary 1
  | 0xC5 => wide binary 2
  | 0xC6 => wide binary 4
  | 0xC7 => wide extension 1
  | 0xC8 => wide extension 2
  | 0xC9 => wide extension 4
  | 0xCA => passed 4
  | 0xCB => passed 8
  | 0xCC => wide unsigned 1
  | 0xCD => wide unsigned 2
  | 0xCE => wide unsigned 4
  | 0xCF => wide unsigned 8
  | 0xD0 => passed 1
  | 0xD1 => passed 2
  | 0xD2 => passed 4
  | 0xD3 => passed 8
  | 0xD4 => pure (extension 1)
  | 0xD5 => pure (extension 2)
  | 0xD6 => pure (extension 4)
  | 0xD7 => pure (extension 8)
  | 0xD8 => pure (extension 16)
  | 0xD9 => wide text 1
  | 0xDA => wide text 2
  | 0xDB => wide text 4
  | 0xDC => wide array 2
  | 0xDD => wide array 4
  | 0xDE => wide map 2
  | 0xDF => wide map 4
  | _ => Decoder.refuse

def ofMarker (marker : Nat) : Decoder Header :=
  if marker < 0x80 then pure (unsigned marker)
  else if marker < 0x90 then pure (map (marker - 0x80))
  else if marker < 0xA0 then pure (array (marker - 0x90))
  else if marker < 0xC0 then pure (text (marker - 0xA0))
  else if 0xE0 ≤ marker then pure other
  else ofPlainMarker marker

def decode : Decoder Header := do
  ofMarker (← Decoder.byte)

theorem run_decode_cons (marker : UInt8) (rest : Bytes) :
    decode.run (marker :: rest) = (ofMarker marker.toNat).run rest := rfl

theorem run_wide_bigEndian (header : Nat → Header) (width : Nat) {length : Nat}
    (fits : length < capacity width) (rest : Bytes) :
    (wide header width).run (bigEndian width length ++ rest) = some (header length, rest) := by
  rw [wide, Decoder.run_bind_of_some (Decoder.run_number_bigEndian fits rest)]
  rfl

theorem run_decode_textHeader {length : Nat} (fits : length < lengthLimit) (rest : Bytes) :
    decode.run (textHeader length ++ rest) = some (text length, rest) := by
  unfold textHeader
  split
  · have marker : (UInt8.ofNat (0xA0 + length)).toNat = 0xA0 + length := by simp; omega
    rw [List.singleton_append, run_decode_cons, marker, ofMarker, if_neg (by omega),
      if_neg (by omega), if_neg (by omega), if_pos (by omega)]
    simp
  · split
    · exact run_wide_bigEndian text 1 (show length < 0x100 by omega) rest
    · split
      · exact run_wide_bigEndian text 2 (show length < 0x10000 by omega) rest
      · exact run_wide_bigEndian text 4 fits rest

theorem run_decode_arrayHeader {length : Nat} (fits : length < lengthLimit) (rest : Bytes) :
    decode.run (arrayHeader length ++ rest) = some (array length, rest) := by
  unfold arrayHeader
  split
  · have marker : (UInt8.ofNat (0x90 + length)).toNat = 0x90 + length := by simp; omega
    rw [List.singleton_append, run_decode_cons, marker, ofMarker, if_neg (by omega),
      if_neg (by omega), if_pos (by omega)]
    simp
  · split
    · exact run_wide_bigEndian array 2 (show length < 0x10000 by omega) rest
    · exact run_wide_bigEndian array 4 fits rest

theorem run_decode_mapHeader {length : Nat} (fits : length < lengthLimit) (rest : Bytes) :
    decode.run (mapHeader length ++ rest) = some (map length, rest) := by
  unfold mapHeader
  split
  · have marker : (UInt8.ofNat (0x80 + length)).toNat = 0x80 + length := by simp; omega
    rw [List.singleton_append, run_decode_cons, marker, ofMarker, if_neg (by omega),
      if_pos (by omega)]
    simp
  · split
    · exact run_wide_bigEndian map 2 (show length < 0x10000 by omega) rest
    · exact run_wide_bigEndian map 4 fits rest

end Header

namespace Decoder

/-- The content of a text, or of bytes that are the UTF-8 form of one. -/
def text : Decoder Text := do
  match ← Header.decode with
  | .text length | .binary length =>
      let bytes ← take length
      require (Text.ofUtf8? bytes)
  | _ => refuse

/-- An array; bytes of which there are none stand for an empty one. -/
def array (item : Decoder α) : Decoder (List α) := do
  match ← Header.decode with
  | .array length => item.times length
  | .binary 0 => return []
  | _ => refuse

def pair (key : Decoder α) (value : Decoder β) : Decoder (α × β) := do
  let first ← key
  let second ← value
  return (first, second)

def map (key : Decoder α) (value : Decoder β) : Decoder (List (α × β)) := do
  match ← Header.decode with
  | .map length => (pair key value).times length
  | _ => refuse

def skipBytes (count : Nat) : Decoder Unit := do
  let _ ← take count
  return ()

/-- Passes over one item, given how to pass over the items in an array or a map, and over the bytes
of an extension. -/
def skipped (items bytes : Nat → Decoder Unit) : Decoder Unit := do
  match ← Header.decode with
  | .unsigned _ | .other => return ()
  | .text length | .binary length => skipBytes length
  | .array length => items length
  | .map length => items (2 * length)
  | .extension length => bytes (length + 1)

/-- Passes over one item of whatever kind, in which arrays, maps and extensions lie at most `depth`
deep. -/
def skip : Nat → Decoder Unit
  | 0 => skipped (fun _ => refuse) (fun _ => refuse)
  | depth + 1 =>
      skipped
        (fun count => do
          let _ ← (skip depth).times count
          return ())
        skipBytes

theorem run_times_flatMap {decoder : Decoder α} {write : α → Bytes} {items : List α}
    (decoded : ∀ item ∈ items, ∀ rest, decoder.run (write item ++ rest) = some (item, rest))
    (rest : Bytes) :
    (decoder.times items.length).run (items.flatMap write ++ rest) = some (items, rest) := by
  induction items with
  | nil => rfl
  | cons item items induction =>
      rw [List.length_cons, times, List.flatMap_cons, List.append_assoc,
        run_bind_of_some (decoded item (by simp) _),
        run_bind_of_some (induction fun other member => decoded other (by simp [member]))]
      rfl

theorem run_text_writeText {content : Text} (fits : Text.utf8Length content < lengthLimit)
    (rest : Bytes) :
    text.run (writeText content ++ rest) = some (content, rest) := by
  have taken := run_take_append (Text.utf8 content) rest
  rw [Text.length_utf8] at taken
  rw [text, writeText, Text.length_utf8, List.append_assoc,
    run_bind_of_some (Header.run_decode_textHeader fits _), run_bind_of_some taken,
    Text.ofUtf8?_utf8]
  rfl

theorem run_array_writeArray {item : Decoder α} {write : α → Bytes} {items : List α}
    (fits : items.length < lengthLimit)
    (decoded : ∀ value ∈ items, ∀ rest, item.run (write value ++ rest) = some (value, rest))
    (rest : Bytes) :
    (array item).run (writeArray write items ++ rest) = some (items, rest) := by
  rw [array, writeArray, List.append_assoc, run_bind_of_some (Header.run_decode_arrayHeader fits _)]
  exact run_times_flatMap decoded rest

theorem run_map_writeMap {key : Decoder α} {value : Decoder β} {writeKey : α → Bytes}
    {writeValue : β → Bytes} {entries : List (α × β)} (fits : entries.length < lengthLimit)
    (keys : ∀ entry ∈ entries, ∀ rest, key.run (writeKey entry.1 ++ rest) = some (entry.1, rest))
    (values : ∀ entry ∈ entries, ∀ rest,
      value.run (writeValue entry.2 ++ rest) = some (entry.2, rest))
    (rest : Bytes) :
    (map key value).run (writeMap writeKey writeValue entries ++ rest) = some (entries, rest) := by
  rw [map, writeMap, List.append_assoc, run_bind_of_some (Header.run_decode_mapHeader fits _)]
  apply run_times_flatMap
  intro entry member after
  rw [pair, List.append_assoc, run_bind_of_some (keys entry member _),
    run_bind_of_some (values entry member _)]
  rfl

end Decoder

end LineScript.MessagePack
