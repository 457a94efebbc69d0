import RouteFeed.CommandLine.Configure
import RouteFeed.CommandLine.Render
import RouteFeed.Feed.Reading

/-!
# Running the command line

A run sets up a feed as the arguments say, starts it, and prints the lines of its records. A failure
that costs one dump is passed over; any other ends the run after the lines before it. How a line is
said and how a pause is made is left open, so the program and the reports of what it does are two
uses of the same run.

## Main definitions

* `listing` — the list of catalogues
* `Layout.print` — what is printed of a result of a feed
* `follow` — the lines of all records, as they come
* `carryOut` — a whole run
* `Report`, `printAll`, `run` — what is said in a run, and how it ends
-/

namespace RouteFeed

/-- How a run ends. -/
structure Ending where
  /-- The sentence of the failure that ended it, if one did. -/
  failure? : Option String
deriving DecidableEq, Repr

/-- Zero for a run that came to its end and one for a failure. -/
def Ending.exitCode (e : Ending) : Nat := if e.failure?.isSome then 1 else 0

/-- What a result of a feed means for a run. -/
inductive Printed where
  /-- Lines are printed, and the run goes on. -/
  | lines (lines : List String)
  /-- The run ends. -/
  | ended (ending : Ending)

/-- What is printed of a result of a feed: the lines of a record, and nothing of a failure that costs
one dump; any other failure ends the run, and so does the end of the feed. -/
def Layout.print (layout : Layout) : Except FeedError (Option Record) → Printed
  | .ok none => .ended ⟨none⟩
  | .ok (some record) => .lines (layout.render record)
  | .error e => if e.isSoft then .lines [] else .ended ⟨some e.message⟩

/-- The exit code for arguments that cannot be read. -/
def usageExitCode : Nat := 2

/-- A text with blanks behind it up to a width. -/
def padRight (width : Nat) (text : String) : String :=
  text ++ String.ofList (List.replicate (width - text.length) ' ')

/-- The line of a setting in the list of catalogues. -/
def Setting.line (s : Setting) : String :=
  "    " ++ padRight 12 s.name ++ s.description ++
    printOption (fun d => " (default: " ++ d ++ ")") s.default? ++
    (if s.required then " [required]" else "")

/-- The list of catalogues with their settings. -/
def listing {κ : Type} [Catalogue κ] (table : List κ) : List String :=
  table.flatMap fun k =>
    (Catalogue.name k ++ ": " ++ Catalogue.description k) ::
      (Catalogue.settings k).map Setting.line

/-- The layout that arguments ask for. -/
def Arguments.layout (a : Arguments) : Layout := ⟨a.elements, a.json⟩

variable {κ : Type} [Catalogue κ]

/-- Reads a feed in at most so many steps, pauses where it has to wait, and says the lines of its
records as they come: how the feed ended, or none if it is not at its end by then. -/
@[specialize] def follow {m : Type → Type} [Monad m] (say : String → m Unit)
    (pause : Duration → m Unit) (layout : Layout) : Nat → Feed κ → m (Option Ending)
  | 0, _ => return none
  | steps + 1, f =>
    match f.step with
    | (.again none, f) => follow say pause layout steps f
    | (.again (some delay), f) => do
      pause delay
      follow say pause layout steps f
    | (.delivered result, f) =>
      match layout.print result with
      | .ended ending => return some ending
      | .lines lines => do
        lines.forM say
        follow say pause layout steps f

/-- Sets up and starts a feed. -/
def launch (a : Arguments) (now : Seconds) (f : Feed κ) : Except String (Feed κ) :=
  match a.configure now f with
  | .error e => .error e.message
  | .ok f =>
    match f.start with
    | (.error e, _) => .error e.message
    | (.ok (), f) => .ok f

/-- Does what arguments ask for: lists the catalogues, or sets up and starts a feed and follows it in
at most so many steps. -/
@[specialize] def carryOut {m : Type → Type} [Monad m] (say : String → m Unit)
    (pause : Duration → m Unit) (a : Arguments) (now : Seconds) (steps : Nat) (f : Feed κ) :
    m (Option Ending) := do
  if a.list then
    (listing f.discovery.registry.table).forM say
    return some ⟨none⟩
  else
    match launch a now f with
    | .error message => return some ⟨some message⟩
    | .ok f => follow say pause a.layout steps f

/-! ## Reports -/

/-- What a run prints, and how it ends. -/
structure Report where
  /-- The lines of output. -/
  output : List String
  /-- How it ends. -/
  ending : Ending
deriving DecidableEq, Repr

/-- Writes down what is said, the last line first. -/
def note (line : String) : StateM (List String) Unit := modify (line :: ·)

/-- The report of what has been written down. -/
def reportOf (noted : StateM (List String) (Option Ending)) : Option Report :=
  let (ending?, lines) := noted.run []
  ending?.map fun ending => ⟨lines.reverse, ending⟩

/-- The report of following a feed in at most so many steps. -/
def printAll (layout : Layout) (steps : Nat) (f : Feed κ) : Option Report :=
  reportOf (follow note (fun _ => pure ()) layout steps f)

/-- The report of a whole run in at most so many steps. -/
def run (a : Arguments) (now : Seconds) (steps : Nat) (f : Feed κ) : Option Report :=
  reportOf (carryOut note (fun _ => pure ()) a now steps f)

end RouteFeed
