import LineScript.Text.Basic

namespace LineScript.Text

def utf8 (text : Text) : List UInt8 := text.flatMap String.utf8EncodeChar

def utf8Length : Text → Nat
  | [] => 0
  | character :: rest => character.utf8Size + utf8Length rest

def ofUtf8? (bytes : List UInt8) : Option Text :=
  (ByteArray.utf8Decode? bytes.toByteArray).map Array.toList

@[simp] theorem utf8Length_append (left right : Text) :
    utf8Length (left ++ right) = utf8Length left + utf8Length right := by
  induction left with
  | nil => simp [utf8Length]
  | cons character left induction => simp [utf8Length, induction, Nat.add_assoc]

@[simp] theorem length_utf8 (text : Text) : (utf8 text).length = utf8Length text := by
  induction text with
  | nil => rfl
  | cons character rest induction => simp_all [utf8, utf8Length]

@[simp] theorem ofUtf8?_utf8 (text : Text) : ofUtf8? (utf8 text) = some text := by
  have encoded : (utf8 text).toByteArray = List.utf8Encode text := rfl
  rw [ofUtf8?, encoded, List.utf8Decode?_utf8Encode]
  simp

end LineScript.Text
