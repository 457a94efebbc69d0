/-!
# Blank characters

A character is blank if Unicode gives it the property White_Space. Values that people write in
option lists, filters and catalogues are read without the blanks around them.

## Main definitions

* `isBlank` — the blank characters
* `trim` — a text without the blanks at its two ends
-/

namespace RouteFeed

/-- The characters with the property White_Space. -/
def isBlank (c : Char) : Bool :=
  let n := c.toNat
  (9 ≤ n && n ≤ 13) || n = 32 || n = 0x85 || n = 0xA0 || n = 0x1680 ||
    (0x2000 ≤ n && n ≤ 0x200A) || n = 0x2028 || n = 0x2029 || n = 0x202F || n = 0x205F ||
    n = 0x3000

/-- A list of characters without the blanks at its two ends. -/
def trimBlank (cs : List Char) : List Char :=
  ((cs.dropWhile isBlank).reverse.dropWhile isBlank).reverse

/-- A text without the blanks at its two ends. -/
def trim (text : String) : String := String.ofList (trimBlank text.toList)

/-- `cs` with the capital letters of the Latin alphabet made small. -/
def lowerLatin (text : String) : String := String.ofList (text.toList.map Char.toLower)

end RouteFeed
