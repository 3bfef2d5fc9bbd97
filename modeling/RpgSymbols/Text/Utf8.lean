/-!
UTF-8. The decoder reads byte by byte and reports one fault for each maximal part that begins a
character and cannot be completed, so a strict reading and a reading with replacement characters
come from one definition.
-/

namespace RpgSymbols.Text

/-- A character that is not complete: its bits so far, the bytes still missing, and the range the
next byte has to lie in. -/
structure PartialChar where
  bits : Nat
  missing : Nat
  low : Nat
  high : Nat

inductive LeadByte where
  | complete (c : Char)
  | opening (rest : PartialChar)
  | invalid

/-- Classifies the first byte of a character. The ranges of the second byte exclude overlong
forms, surrogates and code points beyond U+10FFFF. -/
def LeadByte.of (byte : Nat) : LeadByte :=
  if byte < 0x80 then .complete (Char.ofNat byte)
  else if byte < 0xC2 then .invalid
  else if byte < 0xE0 then .opening ⟨byte - 0xC0, 1, 0x80, 0xBF⟩
  else if byte == 0xE0 then .opening ⟨0, 2, 0xA0, 0xBF⟩
  else if byte == 0xED then .opening ⟨0xD, 2, 0x80, 0x9F⟩
  else if byte < 0xF0 then .opening ⟨byte - 0xE0, 2, 0x80, 0xBF⟩
  else if byte == 0xF0 then .opening ⟨0, 3, 0x90, 0xBF⟩
  else if byte < 0xF4 then .opening ⟨byte - 0xF0, 3, 0x80, 0xBF⟩
  else if byte == 0xF4 then .opening ⟨4, 3, 0x80, 0x8F⟩
  else .invalid

/-- What was read so far, last first, and the character that is not complete. A `none` stands for a
part that is no character. -/
structure Decoding where
  read : List (Option Char) := []
  begun : Option PartialChar := none

namespace Decoding

def start (read : List (Option Char)) (value : Nat) : Decoding :=
  match LeadByte.of value with
  | .complete c => ⟨some c :: read, none⟩
  | .opening rest => ⟨read, some rest⟩
  | .invalid => ⟨none :: read, none⟩

/-- Reads a byte. One that cannot continue the character begun before it begins another. -/
def feed (state : Decoding) (byte : UInt8) : Decoding :=
  let value := byte.toNat
  match state.begun with
  | none => start state.read value
  | some begun =>
      if begun.low ≤ value && value ≤ begun.high then
        let bits := begun.bits * 64 + (value - 0x80)
        if begun.missing ≤ 1 then ⟨some (Char.ofNat bits) :: state.read, none⟩
        else ⟨state.read, some ⟨bits, begun.missing - 1, 0x80, 0xBF⟩⟩
      else start (none :: state.read) value

def ofBytes (bytes : List UInt8) : Decoding := bytes.foldl feed {}

def finish (state : Decoding) : List (Option Char) :=
  (if state.begun.isSome then none :: state.read else state.read).reverse

def soundChars? (state : Decoding) : Option (List Char) := state.read.reverse.mapM id

end Decoding

def decodeStrict? (bytes : List UInt8) : Option (List Char) :=
  (Decoding.ofBytes bytes).finish.mapM id

/-- The text of any bytes, with a replacement character for each part that is no character. -/
def decodeReplacing (bytes : List UInt8) : List Char :=
  (Decoding.ofBytes bytes).finish.map fun c => c.getD (Char.ofNat 0xFFFD)

/-- The bytes without two at their end that begin the form a surrogate would have. Only the third byte
shows that they are no character. -/
def withoutSurrogateStart (bytes : List UInt8) : List UInt8 :=
  match bytes.reverse with
  | second :: first :: before =>
      if first = 0xED && 0xA0 ≤ second.toNat && second.toNat ≤ 0xBF &&
          (Decoding.ofBytes before.reverse).begun.isNone then before.reverse
      else bytes
  | _ => bytes

/-- The characters that are known before bytes turn out not to be well-formed, where they are read
in blocks of the given size. The end of the bytes is noticed by an empty block. -/
def charsBeforeFault (size : Nat) (bytes : List UInt8) : List Char :=
  let known (blocks : Nat) : Option (List Char) :=
    (Decoding.ofBytes (withoutSurrogateStart (bytes.take (blocks * size)))).soundChars?
  ((List.range (bytes.length / size + 2)).filterMap known).getLast?.getD []

def encodeUtf8 (text : String) : List UInt8 := text.toList.flatMap String.utf8EncodeChar

/-- A carriage return, alone or before a line feed, is read as a line feed. -/
def unifyNewlines : List Char → List Char
  | [] => []
  | '\r' :: '\n' :: rest => '\n' :: unifyNewlines rest
  | '\r' :: rest => '\n' :: unifyNewlines rest
  | c :: rest => c :: unifyNewlines rest

def readText? (bytes : List UInt8) : Option String :=
  (decodeStrict? bytes).map fun chars => String.ofList (unifyNewlines chars)

def readTextReplacing (bytes : List UInt8) : String :=
  String.ofList (unifyNewlines (decodeReplacing bytes))

end RpgSymbols.Text
