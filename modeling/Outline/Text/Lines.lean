import Outline.Text.Basic

/-!
# Lines of a text

A text is broken at every line break of Unicode: the line feed, vertical tab, form feed and
carriage return, the three larger information separators, the next-line control and the line and
paragraph separators.  A carriage return followed by a line feed is one break.  A break ends a
line, so a text that ends with one has no empty last line.
-/

namespace Outline.Text

def isBreak (c : Char) : Bool :=
  [10, 11, 12, 13, 28, 29, 30, 133, 8232, 8233].contains c.toNat

def lines : Text → List Text
  | [] => []
  | '\r' :: '\n' :: rest => [] :: lines rest
  | c :: rest =>
    if isBreak c then [] :: lines rest
    else
      match lines rest with
      | [] => [[c]]
      | l :: ls => (c :: l) :: ls

/-- The text without the line feed that it may end with. -/
def dropLastFeed : Text → Text
  | [] => []
  | ['\n'] => []
  | c :: rest => c :: dropLastFeed rest

/-- The text with each carriage return, alone or before a line feed, read as a line feed. -/
def unifyBreaks : Text → Text
  | [] => []
  | '\r' :: '\n' :: rest => '\n' :: unifyBreaks rest
  | c :: rest => (if c = '\r' then '\n' else c) :: unifyBreaks rest

end Outline.Text
