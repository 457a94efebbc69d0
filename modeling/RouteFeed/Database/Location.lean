import RouteFeed.Archive

/-!
# Where databases lie

The name of a database is a path, or a reference: the text `file:` and a path, behind which a
question mark may introduce parameters and a number sign a remark. In a reference, a percent sign
and two hexadecimal digits stand for a byte. An empty path, and the path `:memory:`, stand for a
database that is empty and kept nowhere.

A path is simplified before it is followed: two dots take away the name in front of them, whether
there is a file of that name or not. Only behind a file there can be no name.

## Main definitions

* `Location`, `Location.ofName?` — what the name of a database stands for
* `Location.database?` — the database that lies there
-/

namespace RouteFeed

/-- What the name of a database stands for. -/
inductive Location where
  /-- An empty database that is kept nowhere. -/
  | nowhere
  /-- The file that a path leads to. -/
  | behind (path : String)
deriving DecidableEq, Repr

namespace Location

/-- The bytes that a text in a reference stands for. A byte of zero ends it. -/
def bytes : List Char → List UInt8
  | '%' :: c :: d :: rest =>
    match Numeral.hexDigit? c, Numeral.hexDigit? d with
    | some high, some low =>
      if high = 0 ∧ low = 0 then [] else UInt8.ofNat (16 * high + low) :: bytes rest
    | _, _ => '%'.toUInt8 :: bytes (c :: d :: rest)
  | c :: rest => (String.singleton c).toUTF8.toList ++ bytes rest
  | [] => []

/-- The text that a text in a reference stands for. -/
def unescape? (cs : List Char) : Option String := String.fromUTF8? ⟨(bytes cs).toArray⟩

/-- The parameters of a reference with their values; one without a name does not count. -/
def parameters? (cs : List Char) : Option (List (String × String)) :=
  let named := (partsBetween '&' cs).filter fun p => !(cutAt '=' p).1.isEmpty
  named.mapM fun p => do
    some (← unescape? (cutAt '=' p).1, ← unescape? (cutAt '=' p).2)

/-- A parameter is of another kind, or has one of its possible values. A database is opened for
reading only, so no mode that allows writing is possible. -/
def isPossible : String × String → Bool
  | ("mode", value) => ["ro", "memory"].contains value
  | ("cache", value) => ["shared", "private"].contains value
  | _ => true

/-- The value of a parameter; the last one counts. -/
def lastValue? (parameters : List (String × String)) (name : String) : Option String :=
  (parameters.reverse.find? fun p => p.1 = name).map Prod.snd

/-- What a path with parameters stands for. The parameter `vfs` says how files are reached, and one
of the ways is not to have any. -/
def ofParameters? (path : String) (parameters : List (String × String)) : Option Location :=
  let way := (lastValue? parameters "vfs").getD "unix"
  if ¬ parameters.all isPossible then none
  else if ¬ ["unix", "unix-none", "unix-dotfile", "unix-excl", "memdb"].contains way then none
  else if ["", ":memory:"].contains path ∨ lastValue? parameters "mode" = some "memory" ∨
      way = "memdb" then some nowhere
  else some (.behind path)

/-- The name of a host in front of a path, and the path. The path starts with a slash, or leads into
the folder of the archive. -/
def host (folder : List Char) : List Char → List Char × List Char
  | [] => ([], [])
  | c :: rest =>
    if c = '/' ∨ (folder ≠ [] ∧ folder = (c :: rest).take folder.length) then ([], c :: rest)
    else
      let (name, path) := host folder rest
      (c :: name, path)

/-- The path of a reference behind the name of its host, which has to be this one. -/
def behindHost? (folder : List Char) : List Char → Option (List Char)
  | '/' :: '/' :: rest =>
    let (name, path) := host folder rest
    if ["", "localhost"].contains (String.ofList name) then some path else none
  | cs => some cs

/-- What a reference stands for, without the text `file:` in front. -/
def ofReference? (folder : List Char) (cs : List Char) : Option Location := do
  let (path, query) := cutAt '?' (cutAt '#' (← behindHost? folder cs)).1
  ofParameters? (← unescape? path) (← parameters? query)

/-- What the name of a database stands for. -/
def ofName? (a : Archive) (name : String) : Option Location :=
  match name.toList with
  | 'f' :: 'i' :: 'l' :: 'e' :: ':' :: rest => ofReference? a.folder.toList rest
  | _ => if ["", ":memory:"].contains name then some nowhere else some (.behind name)

/-- Simplifies one part more of a path into a folder; `names` is what is left of the parts in front,
last first. -/
def simplify? (a : Archive) (names : List (List Char)) (part : List Char) :
    Option (List (List Char)) :=
  if [[], ['.']].contains part then some names
  else if part = ['.', '.'] then if names.isEmpty then none else some names.tail
  else
    match names with
    | [name] => if (a.file? (String.ofList name)).isSome then none else some [part, name]
    | _ => some (part :: names)

/-- The file that a path leads to, once it is simplified. A file of just this name comes first. -/
def file? (a : Archive) (path : String) : Option File := do
  let rest ← a.within? path
  match a.file? (String.ofList rest) with
  | some content => some content
  | none =>
    match ← (pathParts rest).foldlM (simplify? a) [] with
    | [name] => a.file? (String.ofList name)
    | _ => none

/-- The database of a file; a file that is something else has no table. -/
def databaseOf : File → Database
  | .database db => db
  | _ => .withoutTable

/-- The database that lies somewhere. -/
def database? (a : Archive) : Location → Option Database
  | nowhere => some .withoutTable
  | behind path => (file? a path).map databaseOf

end Location

end RouteFeed
