import RouteFeed.Database.Basic
import RouteFeed.Merge.Basic
import RouteFeed.Text.Parts

/-!
# Archives

An archive is what a feed may read: the files of one folder. A file is a series of bytes, a dump or
a database. How a dump is encoded in bytes is not the concern of this library, so a dump stands for
itself, as the list of its elements in their order, with the knowledge whether it ends in damage.

A path is followed part by part. An empty part and a dot stay where they are, two dots leave the
folder, and a name leads to the file of that name, behind which there is nothing. Outside of the
folder no names are known. A folder can be opened like a file, but not read.

## Main definitions

* `File` — what a file may be
* `Archive`, `Place`, `Archive.place?` — where a path leads
* `Archive.opener` — opens the dumps of an archive
-/

namespace RouteFeed

/-- What a file may be. -/
inductive File where
  /-- Bytes that are neither a dump nor a database. -/
  | bytes (content : List UInt8)
  /-- A dump with one record for each element, and whether damage follows them. -/
  | dump (elements : List Element) (damaged : Bool)
  /-- A database. -/
  | database (content : Database)

/-- The files of a folder. -/
structure Archive where
  /-- How paths begin that lead into the folder. -/
  folder : String := ""
  /-- The files by name. -/
  files : List (String × File) := []

/-- Where a path may lead. -/
inductive Place where
  /-- To the folder of an archive. -/
  | inside
  /-- To another folder. -/
  | outside
  /-- To a file. -/
  | file (content : File)

/-- The bytes of a header in a dump. Fewer of them at the end of a file do not count. -/
def dumpHeaderLength : Nat := 12

/-- The failure of a dump that is damaged; what exactly is damaged is the decoder's knowledge. -/
def damage (locator : String) : FeedError := .corrupted locator "damaged record"

/-- An element of a dump as a decoder gives it: its time has a precision of a millionth of a second,
withdrawals carry no route, and the systems that a route starts from are those of its path. -/
def Element.asDecoded (e : Element) : Element :=
  match e.action with
  | .withdraw =>
    { time := e.time.inMicros, action := .withdraw, peerAddress := e.peerAddress, peer := e.peer,
      block := e.block }
  | .announce => { e with time := e.time.inMicros, origins? := e.path?.map AsPath.origins }

/-- What decoding a file as a dump brings. -/
def File.contents (locator : String) : File → Contents
  | .bytes content =>
    ⟨[], if content.length < dumpHeaderLength then none else some (damage locator)⟩
  | .database _ => ⟨[], some (damage locator)⟩
  | .dump elements damaged =>
    { records := elements.map fun e => ⟨e.time.inMicros, [e.asDecoded]⟩
      failure? := if damaged then some (damage locator) else none }

/-- What opening a place as a dump brings. -/
def Place.contents (locator : String) : Place → Contents
  | .file content => content.contents locator
  | .inside | .outside => ⟨[], some (damage locator)⟩

/-- The parts of a path. -/
def pathParts (path : List Char) : List (List Char) := partsBetween '/' path

namespace Archive

/-- The file of a name. -/
def file? (a : Archive) (name : String) : Option File :=
  (a.files.find? fun entry => entry.1 = name).map Prod.snd

/-- Puts a file into the place of the one that had its name. -/
def put (a : Archive) (name : String) (file : File) : Archive :=
  { a with files := (name, file) :: a.files.filter fun entry => entry.1 ≠ name }

/-- What is left of a path that begins like those into the folder. -/
def within? (a : Archive) (path : String) : Option (List Char) :=
  let start := a.folder.toList
  if start = path.toList.take start.length then some (path.toList.drop start.length) else none

/-- Where a part of a path leads. -/
def enter? (a : Archive) (place : Place) (part : List Char) : Option Place :=
  match place with
  | .file _ => none
  | .outside => if [[], ['.'], ['.', '.']].contains part then some .outside else none
  | .inside =>
    if [[], ['.']].contains part then some .inside
    else if part = ['.', '.'] then some .outside
    else (a.file? (String.ofList part)).map .file

/-- Where a path leads. A file of just this name comes first. -/
def place? (a : Archive) (path : String) : Option Place :=
  if path.isEmpty then none
  else
    match a.within? path with
    | none => (pathParts path.toList).foldlM a.enter? .outside
    | some rest =>
      ((a.file? (String.ofList rest)).map .file).or ((pathParts rest).foldlM a.enter? .inside)

/-- Opens the dumps of an archive. -/
def opener (a : Archive) : Opener := fun chunk =>
  match a.place? chunk.locator with
  | some place => .ok (place.contents chunk.locator)
  | none => .error (.unopenable chunk.locator "no such file")

end Archive

end RouteFeed
