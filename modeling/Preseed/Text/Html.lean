/-!
# Text in HTML

The five characters that HTML interprets in element content and attribute values are written as
character references.
-/

namespace Preseed.Html

def escapeChar (c : Char) : List Char :=
  if c = '&' then "&amp;".toList
  else if c = '<' then "&lt;".toList
  else if c = '>' then "&gt;".toList
  else if c = '"' then "&quot;".toList
  else if c = '\'' then "&#39;".toList
  else [c]

def escape (s : String) : String :=
  String.ofList (s.toList.flatMap escapeChar)

end Preseed.Html
