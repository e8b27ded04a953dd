-- SUMMARY: UTF-8 with replacement: a text for any bytes, with U+FFFD for each ill-formed piece.

/-!
# Bytes as text

The core library decodes well-formed UTF-8. Names that come from a device or
from the environment may hold anything: here each maximal piece of bytes that
starts no character is shown as one replacement character.
-/

namespace Cooling.Text

/-- A character of several bytes, of which the last ones are still to come. -/
structure PartialChar where
  /-- The bits read so far. -/
  value : Nat
  /-- How many bytes follow, less one. -/
  more : Nat
  /-- The least and the greatest byte that may follow. -/
  low : Nat
  high : Nat

def replacement : Char := Char.ofNat 0xFFFD

/-- What a first byte starts: a character of its own, a longer one, or nothing. -/
def PartialChar.ofLead (b : Nat) : List Char × Option PartialChar :=
  if b < 0x80 then ([Char.ofNat b], none)
  else if b < 0xC2 then ([replacement], none)
  else if b < 0xE0 then ([], some ⟨b - 0xC0, 0, 0x80, 0xBF⟩)
  else if b == 0xE0 then ([], some ⟨0, 1, 0xA0, 0xBF⟩)
  else if b == 0xED then ([], some ⟨0xD, 1, 0x80, 0x9F⟩)
  else if b < 0xF0 then ([], some ⟨b - 0xE0, 1, 0x80, 0xBF⟩)
  else if b == 0xF0 then ([], some ⟨0, 2, 0x90, 0xBF⟩)
  else if b < 0xF4 then ([], some ⟨b - 0xF0, 2, 0x80, 0xBF⟩)
  else if b == 0xF4 then ([], some ⟨4, 2, 0x80, 0x8F⟩)
  else ([replacement], none)

/-- Reads one more byte: the characters that are now complete, and the one that is not. -/
def PartialChar.next (p : PartialChar) (b : Nat) : List Char × Option PartialChar :=
  if p.low ≤ b ∧ b ≤ p.high then
    let value := 64 * p.value + (b - 0x80)
    match p.more with
    | 0 => ([Char.ofNat value], none)
    | more + 1 => ([], some ⟨value, more, 0x80, 0xBF⟩)
  else
    let (cs, q) := ofLead b
    (replacement :: cs, q)

/-- The characters of the bytes that follow a partial one. -/
def lossyFrom : Option PartialChar → List UInt8 → List Char
  | none, [] => []
  | some _, [] => [replacement]
  | none, b :: bs =>
    let (cs, p) := PartialChar.ofLead b.toNat
    cs ++ lossyFrom p bs
  | some p, b :: bs =>
    let (cs, q) := p.next b.toNat
    cs ++ lossyFrom q bs

/-- The text of the bytes, with U+FFFD for what is not UTF-8. -/
def lossy (bytes : ByteArray) : String :=
  match String.fromUTF8? bytes with
  | some s => s
  | none => String.ofList (lossyFrom none bytes.data.toList)

end Cooling.Text
