import RouteFeed.Numeral

/-!
# JSON

Values of JSON and their compact text. A number is kept as it is written, so that no digit of it is
lost, and an object keeps the order of its fields.

## Main definitions

* `Json` — the values
* `Json.write` — the compact text of a value
* `Json.field?`, `Json.integer?` — what is inside a value
-/

namespace RouteFeed

/-- A value of JSON. -/
inductive Json where
  /-- Nothing. -/
  | null
  /-- A truth value. -/
  | bool (b : Bool)
  /-- A number, as it is written. -/
  | number (text : String)
  /-- A text. -/
  | string (s : String)
  /-- A list of values. -/
  | array (items : List Json)
  /-- Values by name, in the order in which they are written. -/
  | object (fields : List (String × Json))
deriving Repr

namespace Json

/-- An integer. -/
def ofInt (n : Int) : Json := number (Numeral.print n)

/-- A natural number. -/
def ofNat (n : Nat) : Json := number (Numeral.printNat n)

/-- A value, or null. -/
def ofOption {α : Type} (write : α → Json) : Option α → Json
  | some a => write a
  | none => null

/-- The field of a name; of several the last. -/
def field? : Json → String → Option Json
  | object fields, name => (fields.reverse.find? fun f => f.1 = name).map Prod.snd
  | _, _ => none

/-- The integer that a number writes without a point and without an exponent. A zero with a minus
sign is no integer. -/
def integer? : Json → Option Int
  | number text =>
    match text.toList with
    | '+' :: _ => none
    | ['-', '0'] => none
    | cs => Numeral.int? cs
  | _ => none

/-- The text that a value is. -/
def string? : Json → Option String
  | string s => some s
  | _ => none

/-- A character as it is written in a text. -/
def escape (c : Char) : List Char :=
  if c = '"' then ['\\', '"']
  else if c = '\\' then ['\\', '\\']
  else if c = '\n' then ['\\', 'n']
  else if c = '\r' then ['\\', 'r']
  else if c = '\t' then ['\\', 't']
  else if c = '\x08' then ['\\', 'b']
  else if c = '\x0c' then ['\\', 'f']
  else if c.toNat < 32 then
    ['\\', 'u', '0', '0', Numeral.hexDigit (c.toNat / 16), Numeral.hexDigit (c.toNat % 16)]
  else [c]

/-- A text in quotes. -/
def quoted (s : String) : String := String.ofList ('"' :: (s.toList.flatMap escape ++ ['"']))

mutual

/-- The compact text of a value. -/
def write : Json → String
  | null => "null"
  | bool b => if b then "true" else "false"
  | number text => text
  | string s => quoted s
  | array items => "[" ++ ",".intercalate (writeItems items) ++ "]"
  | object fields => "\x7b" ++ ",".intercalate (writeFields fields) ++ "\x7d"

/-- The compact texts of the items of a list. -/
def writeItems : List Json → List String
  | [] => []
  | item :: rest => write item :: writeItems rest

/-- The compact texts of the fields of an object. -/
def writeFields : List (String × Json) → List String
  | [] => []
  | (name, value) :: rest => (quoted name ++ ":" ++ write value) :: writeFields rest

end

end Json

end RouteFeed
