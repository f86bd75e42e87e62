/-! Text inside markup.
-/

namespace AddonPackager.Text

/-- A character as it stands in markup that shows it. -/
def markupChar (c : Char) : List Char :=
  if c = '&' then "&amp;".toList
  else if c = '<' then "&lt;".toList
  else if c = '>' then "&gt;".toList
  else if c = '"' then "&quot;".toList
  else if c = '\'' then "&#x27;".toList
  else if c = '/' then "&#x2f;".toList
  else [c]

/-- A text as it stands in markup that shows it. -/
def markup (text : String) : String :=
  String.ofList (text.toList.flatMap markupChar)

end AddonPackager.Text
