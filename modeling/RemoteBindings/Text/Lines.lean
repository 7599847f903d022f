/-!
# Line ends

Files end their lines with a line feed, a carriage return, or both: `unifyLineEnds` makes a line
feed of each.
-/

namespace RemoteBindings.Text

def unifyLineEndChars : List Char → List Char
  | [] => []
  | '\r' :: '\n' :: cs => '\n' :: unifyLineEndChars cs
  | '\r' :: cs => '\n' :: unifyLineEndChars cs
  | c :: cs => c :: unifyLineEndChars cs

def unifyLineEnds (s : String) : String := String.ofList (unifyLineEndChars s.toList)

end RemoteBindings.Text
