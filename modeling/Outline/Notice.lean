import Outline.Text.Quoted

/-!
# Notices

What the library has to say about its input without refusing it.  A notice is a value; its wording
is a function of it.

* `Issue`: what is wrong in a line, so that a part of it is dropped or guessed.
* `Notice`: an issue at its line, or a remark about the work done.
-/

namespace Outline

/-- Something in a line that is dropped, or read otherwise than it was probably meant. -/
inductive Issue where
  /-- A class name that starts with a digit. -/
  | invalidClass (name : Text)
  /-- An attribute name that is empty or starts with a digit. -/
  | invalidAttribute (name : Text)
  /-- An event name that starts with a digit or holds white space. -/
  | invalidEvent (name : Text)
  /-- Text behind the last part of the line. -/
  | trailing (text : Text)
  /-- A group that nothing closes; it takes the rest of the line. -/
  | unclosed (opener : Char)
  /-- A group that is not balanced; it ends at the last closing character. -/
  | closedAtLast (opener closer : Char)
  /-- A nested line before the first line at depth zero. -/
  | orphan (text : Text)
deriving DecidableEq, Repr

inductive Level where
  | debug
  | info
  | warning
deriving DecidableEq, Repr

def Level.rank : Level → Nat
  | debug => 0
  | info => 1
  | warning => 2

/-- A remark on the input or on the work done. -/
inductive Notice where
  | issue (line : Option Int) (issue : Issue)
  /-- The number of trees that a template gave. -/
  | compiled (count : Nat)
  /-- An event name that no binding is registered for. -/
  | unresolved (line : Option Int) (event : Text)
  /-- A binding registered under a name that is taken; the earlier one stays in force. -/
  | repeated (name : Text)
deriving DecidableEq, Repr

def Issue.wording : Issue → Text
  | invalidClass name => "invalid class name ".toList ++ name.quoted
  | invalidAttribute name => "invalid attribute name ".toList ++ name.quoted
  | invalidEvent name => "invalid event name ".toList ++ name.quoted
  | trailing text => "ignoring trailing text ".toList ++ text.quoted
  | unclosed opener =>
    "unterminated ".toList ++ Text.quoted [opener] ++ ", taking rest of line".toList
  | closedAtLast opener closer =>
    "unterminated ".toList ++ Text.quoted [opener] ++ ", closing at last ".toList
      ++ Text.quoted [closer]
  | orphan text => text.quoted ++ " is nested but has no top-level parent, dropping".toList

namespace Notice

/-- Issues are warnings; remarks on the work are for debugging. -/
def level : Notice → Level
  | issue _ _ => .warning
  | _ => .debug

def place (line : Option Int) : Text :=
  "line ".toList ++ (line.elim "None".toList Text.ofInt) ++ ": ".toList

def wording : Notice → Text
  | issue line i => place line ++ i.wording
  | compiled count => "compiled ".toList ++ Text.ofNat count ++ " tree(s)".toList
  | unresolved line event =>
    place line ++ "no event registered as ".toList ++ event.quoted
  | repeated name =>
    "event ".toList ++ name.quoted ++ " already registered, first one wins".toList

end Notice

end Outline
