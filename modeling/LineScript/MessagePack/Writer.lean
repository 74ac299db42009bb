import LineScript.Text.Utf8

/-!
Writing MessagePack. Every header takes the shortest form that holds its length; a length of 2^32 or
more loses its high part.
-/

namespace LineScript.MessagePack

abbrev Bytes := List UInt8

/-- The lowest `width` bytes of a number, the most significant first. -/
def bigEndian : Nat → Nat → Bytes
  | 0, _ => []
  | width + 1, number => bigEndian width (number / 256) ++ [UInt8.ofNat (number % 256)]

@[simp] theorem length_bigEndian (width number : Nat) :
    (bigEndian width number).length = width := by
  induction width generalizing number with
  | zero => rfl
  | succ width induction => simp [bigEndian, induction]

/-- How many numbers have so many bytes. -/
def capacity : Nat → Nat
  | 0 => 1
  | width + 1 => 256 * capacity width

/-- The first length that no header holds. -/
def lengthLimit : Nat := 0x100000000

def textHeader (length : Nat) : Bytes :=
  if length < 32 then [UInt8.ofNat (0xA0 + length)]
  else if length < 256 then 0xD9 :: bigEndian 1 length
  else if length < 65536 then 0xDA :: bigEndian 2 length
  else 0xDB :: bigEndian 4 length

def arrayHeader (length : Nat) : Bytes :=
  if length < 16 then [UInt8.ofNat (0x90 + length)]
  else if length < 65536 then 0xDC :: bigEndian 2 length
  else 0xDD :: bigEndian 4 length

def mapHeader (length : Nat) : Bytes :=
  if length < 16 then [UInt8.ofNat (0x80 + length)]
  else if length < 65536 then 0xDE :: bigEndian 2 length
  else 0xDF :: bigEndian 4 length

def writeText (text : Text) : Bytes :=
  textHeader (Text.utf8 text).length ++ Text.utf8 text

def writeArray (write : α → Bytes) (items : List α) : Bytes :=
  arrayHeader items.length ++ items.flatMap write

def writeMap (writeKey : α → Bytes) (writeValue : β → Bytes) (entries : List (α × β)) : Bytes :=
  mapHeader entries.length ++ entries.flatMap fun (key, value) => writeKey key ++ writeValue value

end LineScript.MessagePack
