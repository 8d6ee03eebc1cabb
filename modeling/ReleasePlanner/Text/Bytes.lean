/-!
# Bytes

Text as the bytes of its UTF-8 form, and back.  Bytes that are not the form of
any text are read as replacement characters, one for each longest run of bytes
that begins a character and does not end one.
-/

namespace ReleasePlanner.Text

/-- The bytes of some characters. -/
def toBytes (cs : List Char) : List Nat :=
  cs.flatMap fun c => (String.utf8EncodeChar c).map UInt8.toNat

/-- The character that stands for bytes that are no text. -/
def replacement : Char := '\uFFFD'

/-- A character that has begun. -/
structure Begun where
  /-- The bits so far. -/
  value : Nat
  /-- How many bytes are still to come. -/
  missing : Nat
  /-- The least next byte. -/
  low : Nat
  /-- The greatest next byte. -/
  high : Nat

/-- What begins with a byte: a whole character, a part of one, or nothing. -/
def beginning (b : Nat) : Except Char Begun :=
  if b < 0x80 then .error (Char.ofNat b)
  else if 0xC2 ≤ b && b ≤ 0xDF then .ok ⟨b - 0xC0, 1, 0x80, 0xBF⟩
  else if b = 0xE0 then .ok ⟨0, 2, 0xA0, 0xBF⟩
  else if b = 0xED then .ok ⟨0xD, 2, 0x80, 0x9F⟩
  else if 0xE1 ≤ b && b ≤ 0xEF then .ok ⟨b - 0xE0, 2, 0x80, 0xBF⟩
  else if b = 0xF0 then .ok ⟨0, 3, 0x90, 0xBF⟩
  else if b = 0xF4 then .ok ⟨4, 3, 0x80, 0x8F⟩
  else if 0xF1 ≤ b && b ≤ 0xF3 then .ok ⟨b - 0xF0, 3, 0x80, 0xBF⟩
  else .error replacement

/-- Reads bytes after the beginning of a character, if there is one. -/
def readBytes : Option Begun → List Nat → List Char
  | none, [] => []
  | some _, [] => [replacement]
  | none, b :: bs =>
    match beginning b with
    | .error c => c :: readBytes none bs
    | .ok begun => readBytes (some begun) bs
  | some begun, b :: bs =>
    if begun.low ≤ b && b ≤ begun.high then
      let value := begun.value * 64 + (b - 0x80)
      if begun.missing = 1 then Char.ofNat value :: readBytes none bs
      else readBytes (some ⟨value, begun.missing - 1, 0x80, 0xBF⟩) bs
    else
      replacement ::
        match beginning b with
        | .error c => c :: readBytes none bs
        | .ok next => readBytes (some next) bs

/-- The characters of some bytes. -/
def ofBytes (bs : List Nat) : List Char :=
  readBytes none bs

example : ofBytes (toBytes ['a', 'é', '😀']) = ['a', 'é', '😀'] := by decide

example : ofBytes [0xE2, 0x82, 0x41, 0xFF] = [replacement, 'A', replacement] := by decide

end ReleasePlanner.Text
