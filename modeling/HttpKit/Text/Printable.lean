import HttpKit.Text.PrintableTable

/-!
# Printable characters
-/

namespace HttpKit.Text

/-- Whether the character stands for itself in a quoted text. -/
def isPrintable (c : Char) : Bool :=
  if c.toNat < 0x80 then 0x20 ≤ c.toNat && c.toNat < 0x7F
  else inSpans printableSpans c.toNat

end HttpKit.Text
