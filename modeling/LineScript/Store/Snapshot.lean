import LineScript.MessagePack.Decoder
import LineScript.Store.Basic

/-!
Snapshots: the bindings of a store as MessagePack, without its log. Writing gives one form for each
store. Reading takes more: names and texts may be given as bytes, the tag of a value as its number,
an empty list as no bytes, the whole as an array of two, and unknown keys of the whole are passed
over.
-/

namespace LineScript

open MessagePack

def variablesKey : Text := "variables".toList

def capturesKey : Text := "captures".toList

namespace Value

def textTag : Text := "Str".toList

def listTag : Text := "List".toList

def toSnapshot : Value → Bytes
  | text content => mapHeader 1 ++ writeText textTag ++ writeText content
  | list items => mapHeader 1 ++ writeText listTag ++ writeArray writeText items

/-- Whether the value that follows is a list. -/
def decodeTag : Decoder Bool := do
  match ← Header.decode with
  | .unsigned 0 => return false
  | .unsigned 1 => return true
  | .text length | .binary length =>
      let bytes ← Decoder.take length
      if bytes = Text.utf8 textTag then return false
      else if bytes = Text.utf8 listTag then return true
      else Decoder.refuse
  | _ => Decoder.refuse

def ofSnapshot : Decoder Value := do
  match ← Header.decode with
  | .map 1 =>
      if ← decodeTag then
        return list (← Decoder.array Decoder.text)
      else
        return text (← Decoder.text)
  | _ => Decoder.refuse

end Value

namespace NameMap

def toSnapshot (bindings : NameMap Value) : Bytes :=
  writeMap writeText Value.toSnapshot bindings.entries

def ofSnapshot : Decoder (NameMap Value) := do
  return ofList (← Decoder.map Decoder.text Value.ofSnapshot)

end NameMap

namespace Store

def toSnapshot (store : Store) : Bytes :=
  mapHeader 2 ++ writeText variablesKey ++ store.variables.toSnapshot ++
    writeText capturesKey ++ store.captures.toSnapshot

/-- The partition that a key of the whole stands for, if it is known. -/
def decodeKey : Decoder (Option Partition) := do
  match ← Header.decode with
  | .unsigned 0 => return some .ordinary
  | .unsigned 1 => return some .capture
  | .unsigned _ => return none
  | .text length | .binary length =>
      let bytes ← Decoder.take length
      if bytes = Text.utf8 variablesKey then return some .ordinary
      else if bytes = Text.utf8 capturesKey then return some .capture
      else return none
  | _ => Decoder.refuse

/-- How deep arrays, maps and extensions may lie under a key that is passed over. -/
def skipDepth : Nat := 1022

/-- The partitions that a whole of so many entries gives, each at most once. -/
def decodeEntries (ordinary captures : Option (NameMap Value)) :
    Nat → Decoder (Option (NameMap Value) × Option (NameMap Value))
  | 0 => return (ordinary, captures)
  | count + 1 => do
      match ← decodeKey with
      | none =>
          Decoder.skip skipDepth
          decodeEntries ordinary captures count
      | some .ordinary =>
          if ordinary.isSome then Decoder.refuse
          let decoded ← NameMap.ofSnapshot
          decodeEntries (some decoded) captures count
      | some .capture =>
          if captures.isSome then Decoder.refuse
          let decoded ← NameMap.ofSnapshot
          decodeEntries ordinary (some decoded) count

def decode : Decoder Store := do
  match ← Header.decode with
  | .array 2 =>
      let ordinary ← NameMap.ofSnapshot
      let captures ← NameMap.ofSnapshot
      return ⟨ordinary, captures, []⟩
  | .map count =>
      match ← decodeEntries none none count with
      | (some ordinary, some captures) => return ⟨ordinary, captures, []⟩
      | _ => Decoder.refuse
  | _ => Decoder.refuse

/-- Bytes after the whole do not matter. -/
def ofSnapshot? (bytes : Bytes) : Option Store := (decode.run bytes).map Prod.fst

end Store

end LineScript
