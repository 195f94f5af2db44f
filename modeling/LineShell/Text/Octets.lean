import LineShell.Text.Utf8

/-!
Text in which every character stands for one byte. Programs work on bytes; written like this, a byte
string can be read and matched as text.
-/
namespace LineShell

/-- Each byte as the character of its number. -/
def Text.ofBytes (bytes : Bytes) : Text := bytes.map fun b => Char.ofNat b.toNat

def Text.toBytes (octets : Text) : Bytes := octets.map fun c => UInt8.ofNat c.toNat

/-- A text in UTF-8, a character for each byte. -/
def Text.toOctets (t : Text) : Text := .ofBytes (Utf8.encode t)

def Text.ofOctets (octets : Text) : Text := Utf8.decode octets.toBytes

namespace Text

theorem toNat_ofNat_byte (b : UInt8) : (Char.ofNat b.toNat).toNat = b.toNat := by
  have hb := b.toNat_lt
  have hv : b.toNat.isValidChar := Or.inl (by omega)
  rw [Char.ofNat, dif_pos hv]
  rfl

end Text
end LineShell
