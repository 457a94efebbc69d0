import RouteFeed.Text.Blank

/-!
# Tables of separated values

A table is written line by line, its fields separated by commas. A field may be quoted; then it may
hold commas, line ends and, written twice, quotes. Lines that start with a number sign are comments,
and empty lines do not count. A mark of the byte order in front is ignored.

The reader works on bytes, one at a time, and never fails: a quote that is not closed reaches to the
end, and what follows a closing quote belongs to the field. Whether the bytes of a line are text is
decided afterwards.

## Main definitions

* `Separated.State` — the place in a line
* `Separated.lines` — the lines of a table, as fields of bytes
* `Separated.fields?` — the fields of a line as texts, without the blanks around them
-/

namespace RouteFeed.Separated

/-- A field, as its bytes. -/
abbrev Field := List UInt8

/-- The place in a line. -/
inductive State where
  /-- At the start of a line. -/
  | lineStart
  /-- In a comment. -/
  | comment
  /-- At the start of a field. -/
  | fieldStart
  /-- In a field without quotes, or behind the closing quote. -/
  | plain
  /-- Inside quotes. -/
  | quoted
  /-- Behind a quote inside quotes. -/
  | quoteInQuoted
deriving DecidableEq, Repr

/-- What has been read of the present line. -/
structure Progress where
  /-- The place in it. -/
  state : State := .lineStart
  /-- The bytes of the present field, last first. -/
  field : Field := []
  /-- The fields before it, last first. -/
  fields : List Field := []
  /-- The lines before this one, last first. -/
  lines : List (List Field) := []

/-- The byte of a comma. -/
def comma : UInt8 := 44

/-- The byte of a double quote. -/
def quote : UInt8 := 34

/-- The byte of a number sign. -/
def numberSign : UInt8 := 35

/-- The byte of a line feed. -/
def lineFeed : UInt8 := 10

/-- The bytes that end a line. -/
def isLineEnd (b : UInt8) : Bool := b = lineFeed || b = 13

namespace Progress

/-- Adds a byte to the present field. -/
def take (p : Progress) (b : UInt8) (state : State) : Progress :=
  { p with field := b :: p.field, state := state }

/-- Ends the present field. -/
def endField (p : Progress) : Progress :=
  { p with field := [], fields := p.field.reverse :: p.fields, state := .fieldStart }

/-- Ends the present line. -/
def endLine (p : Progress) : Progress :=
  let q := p.endField
  { q with fields := [], lines := q.fields.reverse :: q.lines, state := .lineStart }

/-- A byte that is no quote with a meaning: it separates, ends the line or belongs to the field. -/
def separate (p : Progress) (b : UInt8) : Progress :=
  if b = comma then p.endField
  else if isLineEnd b then p.endLine
  else p.take b .plain

/-- A byte at the start of a field. -/
def startField (p : Progress) (b : UInt8) : Progress :=
  if b = quote then { p with state := .quoted } else p.separate b

/-- Reads one byte. -/
def step (p : Progress) (b : UInt8) : Progress :=
  match p.state with
  | .lineStart =>
    if isLineEnd b then p
    else if b = numberSign then { p with state := .comment }
    else p.startField b
  | .comment => if b = lineFeed then { p with state := .lineStart } else p
  | .fieldStart => p.startField b
  | .plain => p.separate b
  | .quoted => if b = quote then { p with state := .quoteInQuoted } else p.take b .quoted
  | .quoteInQuoted => if b = quote then p.take b .quoted else p.separate b

/-- All lines, once the bytes are at an end. -/
def finish (p : Progress) : List (List Field) :=
  match p.state with
  | .lineStart | .comment => p.lines.reverse
  | _ => p.endLine.lines.reverse

end Progress

/-- The bytes without a mark of the byte order in front. -/
def withoutMark : List UInt8 → List UInt8
  | 0xEF :: 0xBB :: 0xBF :: rest => rest
  | bytes => bytes

/-- The lines of a table. -/
def lines (bytes : List UInt8) : List (List Field) :=
  ((withoutMark bytes).foldl Progress.step {}).finish

/-- The fields of a line as texts, without the blanks around them; none if some bytes are no
text. -/
def fields? (line : List Field) : Option (List String) :=
  line.mapM fun field => (String.fromUTF8? ⟨field.toArray⟩).map trim

end RouteFeed.Separated
