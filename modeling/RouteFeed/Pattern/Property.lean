import RouteFeed.Pattern.Property.Age
import RouteFeed.Pattern.Property.Break
import RouteFeed.Pattern.Property.Category
import RouteFeed.Pattern.Property.Script
import RouteFeed.Pattern.Property.Trait

/-!
# Named classes of characters

Classes of characters may be named in brackets, such as `[:alpha:]`, or by a property of Unicode,
such as `\p{Nd}`, `\p{Greek}`, `\p{Math}` and `\p{Age=6.0}`.

## Main definitions

* `bracketClass?` — the classes with a name in brackets
* `property?` — the property of a name
* `valuesOf?`, `propertyValue?` — the values of a property
-/

namespace RouteFeed

/-- The class that a name in brackets stands for; it has no members beyond ASCII. -/
def bracketClass? (name : String) : Option CharSet :=
  match name with
  | "alnum" => some (.ofRanges [('0', '9'), ('A', 'Z'), ('a', 'z')])
  | "alpha" => some (.ofRanges [('A', 'Z'), ('a', 'z')])
  | "ascii" => some (.range '\x00' '\x7f')
  | "blank" => some (.ofRanges [('\t', '\t'), (' ', ' ')])
  | "cntrl" => some (.ofRanges [('\x00', '\x1f'), ('\x7f', '\x7f')])
  | "digit" => some (.range '0' '9')
  | "graph" => some (.range '!' '~')
  | "lower" => some (.range 'a' 'z')
  | "print" => some (.range ' ' '~')
  | "punct" => some (.ofRanges [('!', '/'), (':', '@'), ('[', '\x60'), ('\x7b', '~')])
  | "space" => some (.ofRanges [('\t', '\r'), (' ', ' ')])
  | "upper" => some (.range 'A' 'Z')
  | "word" => some .wordly
  | "xdigit" => some (.ofRanges [('0', '9'), ('A', 'F'), ('a', 'f')])
  | _ => none

/-- The property of a name: a trait, a general category or a script. -/
def property? (name : List Char) : Option Property :=
  (Property.find? traits name).or
    ((Property.find? generalCategories name).or (Property.find? scripts name))

/-- The values of a property, if it is one of those that have other values than yes and no. -/
def valuesOf? (name : List Char) : Option (List Property) :=
  match looseName name with
  | "gc" | "generalcategory" => some generalCategories
  | "sc" | "script" | "scx" | "scriptextensions" => some scripts
  | "age" => some ages
  | "gcb" | "graphemeclusterbreak" => some graphemeBreaks
  | "wb" | "wordbreak" => some wordBreaks
  | "sb" | "sentencebreak" => some sentenceBreaks
  | _ => none

/-- The value of a property, both given by name. -/
def propertyValue? (name value : List Char) : Option Property :=
  (valuesOf? name).bind fun values => Property.find? values value

end RouteFeed
