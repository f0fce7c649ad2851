/-! Lines of a text. Every control character that breaks lines and the line and paragraph
separators end a line; a carriage return and a line feed after it are one break. -/
namespace SwaggerGate.Text

def isLineBreak (c : Char) : Bool :=
  ('\n' ≤ c && c ≤ '\r') || ('\x1c' ≤ c && c ≤ '\x1e') || c == '\x85' || c == '\u2028' || c == '\u2029'

/-- The lines of a text, given the characters since the last break in reverse. -/
def linesAfter (done : List Char) : List Char → List String
  | [] => if done.isEmpty then [] else [String.ofList done.reverse]
  | '\r' :: '\n' :: rest => String.ofList done.reverse :: linesAfter [] rest
  | c :: rest =>
    if isLineBreak c then String.ofList done.reverse :: linesAfter [] rest else linesAfter (c :: done) rest

/-- The lines of texts that are each written on a line of its own. -/
def linesOf (texts : List String) : List String := texts.flatMap fun text => linesAfter [] (text.toList ++ ['\n'])

end SwaggerGate.Text
