import Outline.Text.Basic

/-!
# Escaping

Characters with a meaning in markup are written as references.  Running text keeps its quotes,
attribute values do not, and the title of a page refers to its quotes by number.
-/

namespace Outline.Markup

def textReference (c : Char) : Option Text :=
  if c = '&' then some "&amp;".toList
  else if c = '<' then some "&lt;".toList
  else if c = '>' then some "&gt;".toList
  else none

def valueReference (c : Char) : Option Text :=
  if c = '"' then some "&quot;".toList
  else if c = '\'' then some "&#x27;".toList
  else textReference c

def fieldReference (c : Char) : Option Text :=
  if c = '"' then some "&#34;".toList
  else if c = '\'' then some "&#39;".toList
  else textReference c

/-- The text with characters replaced by their references. -/
def escape (reference : Char → Option Text) (t : Text) : Text :=
  t.flatMap fun c => (reference c).getD [c]

def escapeText (t : Text) : Text := escape textReference t

def escapeValue (t : Text) : Text := escape valueReference t

def escapeField (t : Text) : Text := escape fieldReference t

end Outline.Markup
