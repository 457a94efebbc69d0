import RouteFeed.Pattern.CharSet

/-!
# Properties of characters

Unicode gives characters properties, and the values of a property have one or more names. Names are
compared loosely: capital letters, blanks, dashes and low lines make no difference, nor does an
initial "is".

The tables of the modules in this folder hold for every value its names as they are compared, its
members in ASCII, and of its other members what a class keeps of them.

## Main definitions

* `Property`, `Property.set` — the characters that a value of a property has
* `Property.decimal`, `Property.blank`, `Property.wordly` — the properties with escapes of their own
* `looseName` — a name as names are compared
* `Property.find?` — the property of a name in a table
-/

namespace RouteFeed

/-- A value of a property of Unicode, or a property that a character has or has not. -/
structure Property where
  /-- Its names, as names are compared. -/
  names : List String
  /-- The ranges of its members in ASCII. -/
  ascii : List (Char × Char)
  /-- Its other members. -/
  beyond : Beyond
deriving Repr

/-- The characters of a property. -/
def Property.set (p : Property) : CharSet := .union (.ofRanges p.ascii) (.beyond p.beyond)

/-- The decimal digits. -/
def Property.decimal : Property :=
  ⟨["nd", "decimalnumber", "digit"], [('0', '9')], .part ⟨1336, 4540⟩ ⟨2152, 11520⟩⟩

/-- The blank characters. -/
def Property.blank : Property :=
  ⟨["wspace", "whitespace", "space"], [('\t', '\r'), (' ', ' ')],
    .part ⟨344, 544⟩ ⟨736, 1752⟩⟩

/-- The characters that words are made of. No name stands for them. -/
def Property.wordly : Property :=
  ⟨[], [('0', '9'), ('A', 'Z'), ('_', '_'), ('a', 'z')], .part ⟨19960, 47992⟩ ⟨19336, 45044⟩⟩

/-- The characters of a name that count when names are compared. -/
def looseChars (name : List Char) : List Char :=
  (name.filter fun c => c.toNat < 128 ∧ ¬ [' ', '-', '_'].contains c).map Char.toLower

/-- A name of a property as names are compared: in small letters, without blanks, dashes, low lines
and characters beyond ASCII, and without an initial "is". The name "isc" keeps it, since it is the
short name of a property. -/
def looseName (name : List Char) : String :=
  match name with
  | i :: s :: rest =>
    if i.toLower = 'i' ∧ s.toLower = 's' then
      if looseChars rest = ['c'] then "isc" else String.ofList (looseChars rest)
    else String.ofList (looseChars name)
  | _ => String.ofList (looseChars name)

/-- The property of a name in a table. -/
def Property.find? (table : List Property) (name : List Char) : Option Property :=
  table.find? fun p => p.names.contains (looseName name)

end RouteFeed
