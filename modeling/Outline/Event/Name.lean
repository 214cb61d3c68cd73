import Outline.Text.Basic
import Outline.Text.Lower

/-!
# Event names

An event may be named with a leading `on`, as handlers are: `onSave` and `on-save` name the event
`save`.  Only `on` before a capital letter, or before a hyphen, an underscore or a colon, is such
a mark; `online` is a name of its own.
-/

namespace Outline.Event

def lowerFirst : Text → Text
  | [] => []
  | c :: rest => Text.lower c ++ rest

/-- The name of the event that a name means. -/
def plainName : Text → Text
  | 'o' :: 'n' :: c :: rest =>
    if c = '-' ∨ c = '_' ∨ c = ':' then lowerFirst rest
    else if c.isUpper then lowerFirst (c :: rest)
    else 'o' :: 'n' :: c :: rest
  | name => name

end Outline.Event
