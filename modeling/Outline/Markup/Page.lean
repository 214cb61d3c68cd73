import Outline.Markup.Escape

/-!
# Pages

A **page** is a complete document around a body of markup.  The body is taken as it is; language
and title are escaped.
-/

namespace Outline.Markup

def page (lang title body : Text) : Text :=
  "<!DOCTYPE html>\n<html lang=\"".toList ++ escapeField lang
    ++ "\">\n<head>\n<meta charset=\"utf-8\">\n<title>".toList ++ escapeField title
    ++ "</title>\n</head>\n<body>\n".toList ++ body ++ "\n</body>\n</html>\n".toList

end Outline.Markup
