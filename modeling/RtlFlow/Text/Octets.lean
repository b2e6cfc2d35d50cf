import RtlFlow.Text.Utf8

/-! # Texts of octets

Programs pass bytes to each other that need not be the encoding of any text. Here a byte is
written as the character with its code, so that such bytes can be read and cut like a text.
`octets` spells out the bytes of a text, and `ofOctets` reads them as a text again. -/

namespace RtlFlow.Text

/-- The character with the code of a byte. -/
def octet (b : UInt8) : Char := Char.ofNat b.toNat

/-- The bytes that characters with their codes stand for. -/
def octetBytes (cs : List Char) : List UInt8 := cs.map fun c => UInt8.ofNat c.toNat

/-- **The octets of a text.** -/
def octets (s : String) : List Char := (encode s).map octet

/-- **The text that octets encode.** -/
def ofOctets (cs : List Char) : String := decode (octetBytes cs)

end RtlFlow.Text
