/-!
# Bytes as text

Decoding replaces each maximal malformed piece by one U+FFFD: a lead byte takes
continuation bytes as long as the result can still be a scalar value, and the
byte that cannot follow starts anew.
-/

set_option autoImplicit false

namespace ColumnarSql.Utf8

/-- An unfinished character: its bits so far, the continuation bytes still
needed, and the range of the next one. -/
structure Pending where
  bits : Nat
  needed : Nat
  low : Nat
  high : Nat

/-- A byte at the start of a character: finished characters, or a pending one.
The narrowed ranges exclude overlong forms, surrogates and code points above
U+10FFFF. -/
def start (b : Nat) : List Char × Option Pending :=
  if b < 0x80 then ([Char.ofNat b], none)
  else if 0xc2 ≤ b ∧ b ≤ 0xdf then ([], some ⟨b - 0xc0, 1, 0x80, 0xbf⟩)
  else if 0xe0 ≤ b ∧ b ≤ 0xef then
    ([], some ⟨b - 0xe0, 2, if b = 0xe0 then 0xa0 else 0x80, if b = 0xed then 0x9f else 0xbf⟩)
  else if 0xf0 ≤ b ∧ b ≤ 0xf4 then
    ([], some ⟨b - 0xf0, 3, if b = 0xf0 then 0x90 else 0x80, if b = 0xf4 then 0x8f else 0xbf⟩)
  else (['\uFFFD'], none)

/-- One byte in a state: the characters it finishes and the next state. -/
def step (p : Option Pending) (b : Nat) : List Char × Option Pending :=
  match p with
  | none => start b
  | some p =>
    if p.low ≤ b ∧ b ≤ p.high then
      let bits := p.bits * 64 + (b - 0x80)
      if p.needed = 1 then ([Char.ofNat bits], none)
      else ([], some ⟨bits, p.needed - 1, 0x80, 0xbf⟩)
    else
      let (cs, q) := start b
      ('\uFFFD' :: cs, q)

/-- Decodes the rest of the bytes; an unfinished character at the end is malformed. -/
def decodeFrom (p : Option Pending) : List UInt8 → List Char
  | [] => if p.isSome then ['\uFFFD'] else []
  | b :: r =>
    let (cs, q) := step p b.toNat
    cs ++ decodeFrom q r

def decodeLossy (bytes : List UInt8) : String := String.ofList (decodeFrom none bytes)

/-- The bytes of a text. -/
def encode (s : String) : List UInt8 := s.toUTF8.toList

end ColumnarSql.Utf8
