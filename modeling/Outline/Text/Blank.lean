import Outline.Text.Ranges

/-!
# Blank characters

White space of every script: the ASCII blanks, the four information separators, the next-line
control, and the space, line and paragraph separators of Unicode.  The zero-width space and the
byte order mark are not blank.
-/

namespace Outline.Text

def blankRanges : Ranges :=
  [(9, 13), (28, 32), (133, 133), (160, 160), (5760, 5760), (8192, 8202), (8232, 8233),
   (8239, 8239), (8287, 8287), (12288, 12288)]

/-- White space of any script. -/
def isBlank (c : Char) : Bool := blankRanges.has c.toNat

end Outline.Text
