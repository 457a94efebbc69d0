import RouteFeed.Chunk
import RouteFeed.Json.Basic

/-!
# Chunks in JSON

A chunk is written as an object with seven fields. It is read from such an object, in which further
fields do not matter, or from the list of the seven values.

## Main definitions

* `Chunk.toJson` — the object of a chunk
* `Chunk.ofJson?` — the chunk that a value describes
-/

namespace RouteFeed

/-- The only format of dumps. -/
def dumpFormat : String := "Mrt"

/-- The name of a kind that a value gives: a text, or an object with that name and nothing in it. -/
def variantName? : Json → Option String
  | .string s => some s
  | .object [(name, .null)] => some name
  | _ => none

/-- The kind of dump that a value names. -/
def DumpKind.ofJson? (j : Json) : Option DumpKind :=
  (variantName? j).bind fun name => [DumpKind.rib, .update].find? fun kind => kind.name = name

/-- The time that a value gives. -/
def Seconds.ofJson? (j : Json) : Option Seconds := j.integer?.bind Seconds.ofInt?

namespace Chunk

/-- The names of the fields, in the order of the list. -/
def fieldNames : List String :=
  ["project", "collector", "dump_type", "format", "locator", "file_time", "time_span"]

/-- The object of a chunk. -/
def toJson (c : Chunk) : Json :=
  .object
    [("project", .string c.project), ("collector", .string c.collector),
     ("dump_type", .string c.kind.name), ("format", .string dumpFormat),
     ("locator", .string c.locator), ("file_time", .ofInt c.fileTime.toInt),
     ("time_span", .ofInt c.timeSpan.toInt)]

/-- The chunk that seven values describe. -/
def ofValues? : List Json → Option Chunk
  | [project, collector, kind, format, locator, fileTime, timeSpan] => do
    if variantName? format ≠ some dumpFormat then none
    some
      { project := ← project.string?
        collector := ← collector.string?
        kind := ← DumpKind.ofJson? kind
        locator := ← locator.string?
        fileTime := ← Seconds.ofJson? fileTime
        timeSpan := ← Seconds.ofJson? timeSpan }
  | _ => none

/-- The chunk that a value describes. -/
def ofJson? : Json → Option Chunk
  | .array values => ofValues? values
  | .object fields => (fieldNames.mapM fun name => (Json.object fields).field? name).bind ofValues?
  | _ => none

end Chunk

end RouteFeed
