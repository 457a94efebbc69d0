import RouteFeed.FeedError

/-!
# Settings of a catalogue

A catalogue has a list of settings, each with a name and perhaps a value that holds as long as no
other is given. Some settings must have a value before the catalogue can be used.

## Main definitions

* `Setting`, `Setting.effective?` — one setting, and the value that counts
* `Settings.value?`, `Settings.set` — look-up and change by name
* `Settings.check` — whether every value that is needed is there
-/

namespace RouteFeed

/-- One setting of a catalogue. -/
structure Setting where
  /-- Its name. -/
  name : String
  /-- What it is for. -/
  description : String
  /-- The value as long as none is given. -/
  default? : Option String := none
  /-- The value that was given. -/
  value? : Option String := none
  /-- Whether the catalogue needs a value. -/
  required : Bool := false
deriving DecidableEq, Repr

/-- The value that counts. -/
def Setting.effective? (s : Setting) : Option String := s.value?.or s.default?

/-- The settings of a catalogue. -/
abbrev Settings := List Setting

namespace Settings

/-- The value of the setting of a name that counts. -/
def value? (settings : Settings) (name : String) : Option String :=
  (settings.find? fun s => s.name = name).bind Setting.effective?

/-- Gives a value to the first setting of a name, if there is one. -/
def set? (settings : Settings) (name value : String) : Option Settings :=
  match settings with
  | [] => none
  | s :: rest =>
    if s.name = name then some ({ s with value? := some value } :: rest)
    else (set? rest name value).map (s :: ·)

/-- Gives a value to the setting of a name; `catalogue` is the name that failures mention. -/
def set (catalogue : String) (settings : Settings) (name value : String) :
    Except FeedError Settings :=
  match settings.set? name value with
  | some changed => .ok changed
  | none => .error (.unknownOption catalogue name)

/-- Every setting that needs a value has one. -/
def check (catalogue : String) (settings : Settings) : Except FeedError Unit :=
  match settings.find? fun s => s.required && s.effective?.isNone with
  | some s => .error (.missingOption catalogue s.name)
  | none => .ok ()

/-- The value of a setting that the catalogue cannot do without. -/
def require (catalogue : String) (settings : Settings) (name : String) : Except FeedError String :=
  match settings.value? name with
  | some value => .ok value
  | none => .error (.missingOption catalogue name)

end Settings

end RouteFeed
