/-!
# Blanks — the white space that surrounds a text

Tag values, zone names and wall-clock texts are read without the white space around them.  This
file fixes which characters count and how they are removed:

1. `isBlank`, the Unicode property `White_Space`;
2. `trimStart` and `trimChars` on lists of characters;
3. `trim` and `isBlankText` on strings.

A zero-width space and a byte-order mark are no white space, so they stay.
-/

namespace FleetLifecycle
namespace Text

/-- The characters with the Unicode property `White_Space`. -/
def isBlank (c : Char) : Bool :=
  let n := c.toNat
  (9 ≤ n && n ≤ 13) || n == 0x20 || n == 0x85 || n == 0xA0 || n == 0x1680 ||
    (0x2000 ≤ n && n ≤ 0x200A) || n == 0x2028 || n == 0x2029 || n == 0x202F ||
    n == 0x205F || n == 0x3000

def trimStart (cs : List Char) : List Char :=
  cs.dropWhile isBlank

/-- The text without the blanks at either end. -/
def trimChars (cs : List Char) : List Char :=
  (trimStart (trimStart cs).reverse).reverse

def trim (s : String) : String :=
  String.ofList (trimChars s.toList)

/-- A string that holds nothing but blanks, the empty one included. -/
def isBlankText (s : String) : Bool :=
  s.toList.all isBlank

end Text
end FleetLifecycle
