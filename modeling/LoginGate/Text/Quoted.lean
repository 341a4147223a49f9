import LoginGate.Text.Numeral
import LoginGate.Unicode.DomainFold

/-!
Contract: text between quotes in a message, with everything that would not show written as an
escape.

Owns: the escapes of quotes, backslashes, line controls and characters without a visible form.
Does not own: JSON strings (`Json.Basic`), which escape less.
-/

namespace LoginGate.Text

/-- A character with a visible form of its own: the space, and any visible character but a mark,
which would be drawn onto its neighbour. -/
def isPrintable (c : Char) : Bool :=
  c == ' ' || (Unicode.covers Unicode.visibleRanges c.toNat && !Unicode.isMark c)

def quotedChar (c : Char) : Text :=
  if c = '"' then "\\\"".toList
  else if c = '\\' then "\\\\".toList
  else if c.toNat = 0 then "\\0".toList
  else if c = '\t' then "\\t".toList
  else if c = '\n' then "\\n".toList
  else if c = '\r' then "\\r".toList
  else if isPrintable c then [c]
  else "\\u\x7b".toList ++ hexOfNat c.toNat ++ "\x7d".toList

def inQuotes (text : Text) : Text := '"' :: text.flatMap quotedChar ++ ['"']

end LoginGate.Text
