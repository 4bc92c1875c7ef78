/-!
# Texts and bytes

The UTF-8 form of a text is the bytes of its characters. Bytes are read as UTF-8 whatever they are:
what cannot be read is shown by a replacement character, one for each longest start of a character
that is not continued, and one for each byte that can start no character.
-/

namespace PlotDeck.Text

/-- The bytes of a text. -/
def utf8 (t : List Char) : List UInt8 := t.flatMap String.utf8EncodeChar

/-- A character of which some bytes have been read. -/
structure PartialChar where
  /-- How many bytes are still to come. -/
  left : Nat
  /-- The bits read so far. -/
  bits : Nat
  /-- The least byte that can come next. -/
  low : Nat := 0x80
  /-- The greatest byte that can come next. -/
  high : Nat := 0xbf
deriving DecidableEq, Repr

/-- The character that shows what cannot be read. -/
def replacementChar : Char := '\ufffd'

/-- What a byte starts: a character that it is all of, a longer one, or nothing. -/
def startChar (b : Nat) : Char ⊕ PartialChar :=
  if b < 0x80 then .inl (Char.ofNat b)
  else if 0xc2 ≤ b ∧ b ≤ 0xdf then .inr { left := 1, bits := b - 0xc0 }
  else if b = 0xe0 then .inr { left := 2, bits := 0, low := 0xa0 }
  else if b = 0xed then .inr { left := 2, bits := 0xd, high := 0x9f }
  else if 0xe1 ≤ b ∧ b ≤ 0xef then .inr { left := 2, bits := b - 0xe0 }
  else if b = 0xf0 then .inr { left := 3, bits := 0, low := 0x90 }
  else if 0xf1 ≤ b ∧ b ≤ 0xf3 then .inr { left := 3, bits := b - 0xf0 }
  else if b = 0xf4 then .inr { left := 3, bits := 4, high := 0x8f }
  else .inl replacementChar

/-- Reads bytes after some bytes of a character. -/
def decodeFrom : Option PartialChar → List UInt8 → List Char
  | none, [] => []
  | some _, [] => [replacementChar]
  | none, b :: rest =>
    match startChar b.toNat with
    | .inl c => c :: decodeFrom none rest
    | .inr p => decodeFrom (some p) rest
  | some p, b :: rest =>
    let byte := b.toNat
    if p.low ≤ byte ∧ byte ≤ p.high then
      let bits := p.bits * 64 + (byte - 0x80)
      if p.left = 1 then Char.ofNat bits :: decodeFrom none rest
      else decodeFrom (some { left := p.left - 1, bits }) rest
    else
      replacementChar ::
        match startChar byte with
        | .inl c => c :: decodeFrom none rest
        | .inr q => decodeFrom (some q) rest

/-- The text that bytes show. -/
def shown (content : ByteArray) : String := String.ofList (decodeFrom none content.toList)

end PlotDeck.Text
