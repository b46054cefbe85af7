import HttpKit.Text.Span

/-!
# Blanks

White space in the wide sense: the characters that trimming removes from both ends of a text.
-/

namespace HttpKit.Text

/-- The blanks, ASCII and beyond. The four separators U+001C to U+001F count. -/
def blankSpans : List Span :=
  [(0x9, 0xD), (0x1C, 0x20), (0x85, 0x85), (0xA0, 0xA0), (0x1680, 0x1680), (0x2000, 0x200A),
   (0x2028, 0x2029), (0x202F, 0x202F), (0x205F, 0x205F), (0x3000, 0x3000)]

/-- Whether trimming removes the character. -/
def isBlank (c : Char) : Bool := inSpans blankSpans c.toNat

/-- Removes what satisfies `p` at both ends. -/
def trimBy {α : Type} (p : α → Bool) (cs : List α) : List α :=
  ((cs.dropWhile p).reverse.dropWhile p).reverse

/-- The text without the blanks at its ends. -/
def trim (s : String) : String := String.ofList (trimBy isBlank s.toList)

end HttpKit.Text
