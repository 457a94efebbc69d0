import RouteFeed.Catalogue.Source
import RouteFeed.CommandLine.Run
import Std.Time

/-!
# The program

Reads the arguments, sets up a feed of the catalogues that every feed knows, and prints the lines of
its records as they come. Files are read before the feed starts: those that settings name, and those
that a table among them lists.

## Main definitions

* `main` — the program
-/

namespace RouteFeed.Program

/-- The bytes of a file, if it can be read. -/
def bytes? (name : String) : IO (Option (List UInt8)) := do
  try
    let content ← IO.FS.readBinFile name
    return some content.toList
  catch _ => return none

/-- The files of some names that can be read. -/
def load (names : List String) : IO (List (String × File)) := do
  let files ← names.filterMapM fun name => do
    let content? ← bytes? name
    return content?.map fun content => (name, File.bytes content)
  return files

/-- The dumps that a file lists, if it is a table of dumps. -/
def listed : String × File → List String
  | (name, file) =>
    match TableFile.rowsOf name (TableFile.bytesOf file) with
    | .ok rows => rows.map fun row => row.chunk.locator
    | .error _ => []

/-- The files that settings name, and those that they list. -/
def archive (a : Arguments) : IO Archive := do
  let values := a.settings.filterMap fun setting => (splitSetting setting).toOption.map Prod.snd
  let named ← load values
  let dumps ← load (named.flatMap listed)
  return { files := named ++ dumps }

/-- Pauses for a while. -/
def pause (delay : Duration) : IO Unit := IO.sleep (UInt32.ofNat (delay.nanos / 1000000))

/-- More steps than any feed is read in. -/
def enoughSteps : Nat := UInt64.size

end RouteFeed.Program

open RouteFeed in
/-- The program. -/
def main (arguments : List String) : IO UInt32 := do
  match Arguments.read? arguments with
  | none =>
    IO.eprintln "the arguments cannot be read"
    return UInt32.ofNat usageExitCode
  | some a =>
    let now := Int64.ofInt (← Std.Time.Timestamp.now).toSecondsSinceUnixEpoch.val
    let archive ← Program.archive a
    let f := Feed.ofList (Source.builtIn archive (fun _ => none) now) archive.opener
    let ending? ← carryOut IO.println Program.pause a now Program.enoughSteps f
    let ending := ending?.getD ⟨none⟩
    ending.failure?.forM IO.eprintln
    return UInt32.ofNat ending.exitCode
