import FleetLifecycle.Text.Digits
import FleetLifecycle.Text.Unprintable

/-!
# Quoted — a text between quotation marks, for messages

Messages show a text or a file name that they were given between double quotation marks, with
everything that could be mistaken escaped.  An apostrophe stands for itself.

1. `escape`, one character as it stands inside the quotation marks;
2. `quote`, the whole text.
-/

namespace FleetLifecycle
namespace Text

/-- A code point in braces, in lower-case hexadecimal digits without leading zeros. -/
def escapeByNumber (c : Char) : List Char :=
  ['\\', 'u', '\x7b'] ++ Nat.toDigits 16 c.toNat ++ ['\x7d']

def escape (c : Char) : List Char :=
  if c = '\x00' then ['\\', '0']
  else if c = '\t' then ['\\', 't']
  else if c = '\r' then ['\\', 'r']
  else if c = '\n' then ['\\', 'n']
  else if c = '\\' then ['\\', '\\']
  else if c = '"' then ['\\', '"']
  else if isUnprintable c then escapeByNumber c
  else [c]

/-- A text as messages show it, between double quotation marks. -/
def quote (s : String) : String :=
  String.ofList ('"' :: s.toList.flatMap escape ++ ['"'])

end Text
end FleetLifecycle
