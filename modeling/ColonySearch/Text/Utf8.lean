import ColonySearch.Text.Hex

/-!
# UTF-8

Encoding and decoding of texts. Decoding is a machine that reads one byte at a time and is either between two characters or inside one; it stops at the first byte that rules the text out, and the error says which run of bytes is at fault and how.
-/

namespace ColonySearch.Text.Utf8

def encode (text : List Char) : List UInt8 := text.flatMap String.utf8EncodeChar

inductive Fault where
  /-- No character starts with the byte. -/
  | invalidStart
  /-- The byte behind the run does not continue the character that the run begins. -/
  | invalidContinuation
  /-- The text ends inside the character that the run begins. -/
  | unexpectedEnd
deriving DecidableEq, Repr

def Fault.reason : Fault → String
  | .invalidStart => "invalid start byte"
  | .invalidContinuation => "invalid continuation byte"
  | .unexpectedEnd => "unexpected end of data"

/-- The bytes from position `start` up to, but without, position `stop` are no character; `lead` is the first of them. -/
structure DecodeError where
  fault : Fault
  start : Nat
  stop : Nat
  lead : UInt8
deriving DecidableEq, Repr

/-- The error in words: a run of one byte is shown, of a longer run the first and last position. -/
def DecodeError.message (e : DecodeError) : String :=
  let place :=
    if e.stop = e.start + 1 then
      "byte 0x" ++ String.ofList (hexDigits 2 e.lead.toNat) ++ s!" in position {e.start}"
    else
      s!"bytes in position {e.start}-{e.stop - 1}"
  "'utf-8' codec can't decode " ++ place ++ ": " ++ e.fault.reason

/-- A character that has begun: its first byte and where that stands, the bits read so far, how many bytes are owed, and the bounds of the next one. -/
structure Pending where
  lead : UInt8
  start : Nat
  bits : Nat
  owed : Nat
  low : Nat
  high : Nat
deriving DecidableEq, Repr

/-- What a byte of at least `0x80` begins. The bounds of the second byte leave out overlong forms, surrogates and numbers beyond the last code point. -/
def begin? (position : Nat) (byte : UInt8) : Option Pending :=
  let b := byte.toNat
  if 0xC2 ≤ b ∧ b ≤ 0xDF then some ⟨byte, position, b - 0xC0, 1, 0x80, 0xBF⟩
  else if b = 0xE0 then some ⟨byte, position, 0, 2, 0xA0, 0xBF⟩
  else if b = 0xED then some ⟨byte, position, 0xD, 2, 0x80, 0x9F⟩
  else if 0xE1 ≤ b ∧ b ≤ 0xEF then some ⟨byte, position, b - 0xE0, 2, 0x80, 0xBF⟩
  else if b = 0xF0 then some ⟨byte, position, 0, 3, 0x90, 0xBF⟩
  else if 0xF1 ≤ b ∧ b ≤ 0xF3 then some ⟨byte, position, b - 0xF0, 3, 0x80, 0xBF⟩
  else if b = 0xF4 then some ⟨byte, position, 4, 3, 0x80, 0x8F⟩
  else none

/-- Decodes the bytes that stand at `position`, inside the pending character if there is one. -/
def decodeFrom : (position : Nat) → Option Pending → List UInt8 → Except DecodeError (List Char)
  | _, none, [] => .ok []
  | position, some p, [] => .error ⟨.unexpectedEnd, p.start, position, p.lead⟩
  | position, none, byte :: rest =>
    if byte.toNat < 0x80 then
      (decodeFrom (position + 1) none rest).map (Char.ofNat byte.toNat :: ·)
    else
      match begin? position byte with
      | some p => decodeFrom (position + 1) (some p) rest
      | none => .error ⟨.invalidStart, position, position + 1, byte⟩
  | position, some p, byte :: rest =>
    if p.low ≤ byte.toNat ∧ byte.toNat ≤ p.high then
      let bits := p.bits * 64 + (byte.toNat - 0x80)
      if p.owed ≤ 1 then
        (decodeFrom (position + 1) none rest).map (Char.ofNat bits :: ·)
      else
        decodeFrom (position + 1) (some ⟨p.lead, p.start, bits, p.owed - 1, 0x80, 0xBF⟩) rest
    else
      .error ⟨.invalidContinuation, p.start, position, p.lead⟩

def decode (bytes : List UInt8) : Except DecodeError (List Char) := decodeFrom 0 none bytes

end ColonySearch.Text.Utf8
