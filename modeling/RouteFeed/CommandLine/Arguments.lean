import RouteFeed.Criteria.Criterion

/-!
# Arguments of the command line

An argument names an option, by a long name behind two dashes or by a letter behind one. Letters may
share a dash; only the last of them may take a value. A value follows its option, as an argument of
its own that does not start with a dash, behind an equals sign, or directly behind a letter. Some
options may be given more than once.

Arguments are read in two steps. First each is taken for an option and its value, then the values
are read. What cannot be read in either step is a fault in the use of the program.

## Main definitions

* `OptionKey`, `OptionKey.all` — the options
* `occurrences?` — the options that arguments give
* `Arguments`, `Arguments.read?` — the values of all options
-/

namespace RouteFeed

/-- The options of the command line. -/
inductive OptionKey where
  /-- The name of the catalogue to read from. -/
  | catalogue
  /-- A setting of the catalogue. -/
  | setting
  /-- List the catalogues. -/
  | list
  /-- Print elements instead of records. -/
  | elements
  /-- Print JSON. -/
  | json
  /-- A project. -/
  | project
  /-- A collector. -/
  | collector
  /-- A kind of dump. -/
  | kind
  /-- A system of peers. -/
  | peer
  /-- A system that routes start from. -/
  | origin
  /-- A block. -/
  | block
  /-- Let larger blocks count. -/
  | larger
  /-- Let smaller blocks count. -/
  | smaller
  /-- Announcements or withdrawals. -/
  | action
  /-- A pattern of paths. -/
  | path
  /-- The start of the interval. -/
  | start
  /-- The end of the interval. -/
  | stop
  /-- The length of a window that ends now. -/
  | recent
  /-- Let that window go on. -/
  | live
  /-- The sampling period of tables. -/
  | ribPeriod
deriving DecidableEq, Repr

namespace OptionKey

/-- All options. -/
def all : List OptionKey :=
  [catalogue, setting, list, elements, json, project, collector, kind, peer, origin, block, larger,
   smaller, action, path, start, stop, recent, live, ribPeriod]

/-- The long name. -/
def long : OptionKey → String
  | catalogue => "data-interface"
  | setting => "option"
  | list => "list-interfaces"
  | elements => "elems"
  | json => "json"
  | project => "project"
  | collector => "collector"
  | kind => "type"
  | peer => "peer-asn"
  | origin => "origin-asn"
  | block => "prefix"
  | larger => "include-super"
  | smaller => "include-sub"
  | action => "elem-type"
  | path => "as-path"
  | start => "start-ts"
  | stop => "end-ts"
  | recent => "recent"
  | live => "live"
  | ribPeriod => "rib-period"

/-- The letter, if there is one. -/
def letter? : OptionKey → Option Char
  | catalogue => some 'd'
  | setting => some 'O'
  | elements => some 'e'
  | collector => some 'c'
  | peer => some 'J'
  | origin => some 'o'
  | block => some 'p'
  | larger => some 's'
  | smaller => some 'S'
  | action => some 'm'
  | path => some 'a'
  | start => some 't'
  | stop => some 'T'
  | recent => some 'r'
  | live => some 'l'
  | list | json | project | kind | ribPeriod => none

/-- Whether the option takes a value. -/
def takesValue : OptionKey → Bool
  | list | elements | json | larger | smaller | live => false
  | _ => true

/-- Whether the option may be given more than once. -/
def isRepeatable : OptionKey → Bool
  | setting | project | collector | kind | peer | origin | block => true
  | _ => false

/-- The option of a long name. -/
def ofLong? (name : String) : Option OptionKey := all.find? fun key => key.long = name

/-- The option of a letter. -/
def ofLetter? (letter : Char) : Option OptionKey := all.find? fun key => key.letter? = some letter

end OptionKey

/-- An option that was given, with its value, which is empty for one that takes none. -/
abbrev Occurrence := OptionKey × String

/-- The options that one argument gives, and the one that waits for a value. -/
abbrev Given := List Occurrence × Option OptionKey

/-- The options of letters behind one dash. -/
def readLetters? : List Char → Option Given
  | [] => some ([], none)
  | c :: rest => do
    let key ← OptionKey.ofLetter? c
    if key.takesValue then
      match rest with
      | [] => some ([], some key)
      | '=' :: value => some ([(key, String.ofList value)], none)
      | value => some ([(key, String.ofList value)], none)
    else
      let (others, waiting?) ← readLetters? rest
      some ((key, "") :: others, waiting?)

/-- The option of a long name, with the value behind an equals sign. -/
def readLong? (cs : List Char) : Option Given := do
  let name := cs.takeWhile (· ≠ '=')
  let key ← OptionKey.ofLong? (String.ofList name)
  match cs.drop name.length, key.takesValue with
  | _ :: value, true => some ([(key, String.ofList value)], none)
  | _ :: _, false => none
  | [], true => some ([], some key)
  | [], false => some ([(key, "")], none)

/-- The options that one argument gives. -/
def readArgument? (argument : String) : Option Given :=
  match argument.toList with
  | '-' :: '-' :: cs => readLong? cs
  | '-' :: c :: cs => readLetters? (c :: cs)
  | _ => none

/-- Whether an argument may be the value of the option before it. -/
def isValue (argument : String) : Bool :=
  match argument.toList with
  | '-' :: _ :: _ => false
  | _ => true

/-- The options that arguments give; two dashes alone may stand at the end. -/
def occurrences? (arguments : List String) : Option (List Occurrence) :=
  match arguments with
  | [] => some []
  | ["--"] => some []
  | argument :: rest =>
    match readArgument? argument with
    | none => none
    | some (given, none) => (occurrences? rest).map (given ++ ·)
    | some (given, some key) =>
      match rest with
      | [] => none
      | value :: rest =>
        if isValue value then (occurrences? rest).map (given ++ [(key, value)] ++ ·) else none

/-- The values of all options. -/
structure Arguments where
  /-- The name of the catalogue to read from. -/
  catalogue? : Option String
  /-- Settings of the catalogue, each a name and a value with an equals sign between them. -/
  settings : List String
  /-- List the catalogues. -/
  list : Bool
  /-- Print elements instead of records. -/
  elements : Bool
  /-- Print JSON. -/
  json : Bool
  /-- The projects. -/
  projects : List String
  /-- The collectors. -/
  collectors : List String
  /-- The kinds of dumps. -/
  kinds : List DumpKind
  /-- The systems of peers. -/
  peers : List UInt32
  /-- The systems that routes start from. -/
  origins : List UInt32
  /-- The blocks. -/
  blocks : List Block
  /-- How blocks may lie to these. -/
  relation : BlockRelation
  /-- Announcements or withdrawals. -/
  action? : Option String
  /-- The pattern of paths. -/
  path? : Option String
  /-- The start of the interval. -/
  start? : Option String
  /-- The end of the interval. -/
  stop? : Option String
  /-- The length of a window that ends now. -/
  recent? : Option String
  /-- Let that window go on. -/
  live : Bool
  /-- The sampling period of tables. -/
  ribPeriod? : Option UInt32

namespace Arguments

/-- The values of an option, in order. -/
def valuesOf (given : List Occurrence) (key : OptionKey) : List String :=
  (given.filter fun o => o.1 = key).map Prod.snd

/-- Whether an option is given. -/
def isGiven (given : List Occurrence) (key : OptionKey) : Bool := given.any fun o => o.1 = key

/-- The value of an option that is given once at most. -/
def valueOf? (given : List Occurrence) (key : OptionKey) : Option String :=
  (valuesOf given key).head?

/-- No option is given more often than it may be. -/
def areDistinct (given : List Occurrence) : Bool :=
  OptionKey.all.all fun key => key.isRepeatable || (valuesOf given key).length ≤ 1

/-- An unsigned number of 32 bits, with any sign that leaves it in range. -/
def readWord? (text : String) : Option UInt32 :=
  (Numeral.int? text.toList).bind fun n =>
    if 0 ≤ n ∧ n < UInt32.size then some (UInt32.ofNat n.toNat) else none

/-- The values of options that were given. -/
def ofOccurrences? (given : List Occurrence) : Option Arguments := do
  if ¬ areDistinct given then none
  some
    { catalogue? := valueOf? given .catalogue
      settings := valuesOf given .setting
      list := isGiven given .list
      elements := isGiven given .elements
      json := isGiven given .json
      projects := valuesOf given .project
      collectors := valuesOf given .collector
      kinds := ← (valuesOf given .kind).mapM DumpKind.read?
      peers := ← (valuesOf given .peer).mapM readWord?
      origins := ← (valuesOf given .origin).mapM readWord?
      blocks := ← (valuesOf given .block).mapM Block.read?
      relation := .ofFlags (isGiven given .larger) (isGiven given .smaller)
      action? := valueOf? given .action
      path? := valueOf? given .path
      start? := valueOf? given .start
      stop? := valueOf? given .stop
      recent? := valueOf? given .recent
      live := isGiven given .live
      ribPeriod? := (← (valueOf? given .ribPeriod).toList.mapM readWord?).head? }

/-- The values that arguments give; none if they cannot be read. -/
def read? (arguments : List String) : Option Arguments :=
  (occurrences? arguments).bind ofOccurrences?

end Arguments

end RouteFeed
