import Mathlib.Data.List.Basic
import RouteFeed.Catalogue.Source

/-!
# What giving a value changes

A setting of a catalogue is given a value by its name. Of a catalogue of any kind this changes the
value of the first setting of that name, and nothing else; if there is none of that name it fails.

## Main definitions

* `Settings.assign` — one setting is given a value
* `Source.withSettings` — a catalogue with other settings

## Main results

* `Settings.set?_eq` — the setting of a name
* `Source.set_eq` — the setting of a name of a catalogue
-/

namespace RouteFeed

/-- The setting of a name stands at this place; of several the first counts. -/
def Settings.find? (settings : Settings) (name : String) : Option ℕ :=
  settings.findIdx? fun s => s.name = name

/-- The setting at a place is given a value; the others stay as they are. -/
def Settings.assign (settings : Settings) (place : ℕ) (value : String) : Settings :=
  settings.modify place fun s => { s with value? := some value }

theorem Settings.set?_eq (settings : Settings) (name value : String) :
    settings.set? name value = (settings.find? name).map (settings.assign · value) := by
  induction settings with
  | nil => rfl
  | cons s rest ih =>
    rw [set?, find?, List.findIdx?_cons]
    by_cases here : s.name = name
    · simp [here, assign]
    · simp only [here, if_false, decide_false, Bool.false_eq_true, ih, Option.map_map]
      rfl

/-- Settings that are assigned a value by name. -/
theorem Settings.set_eq (catalogue : String) (settings : Settings) (name value : String) :
    settings.set catalogue name value =
      match settings.find? name with
      | some place => .ok (settings.assign place value)
      | none => .error (.unknownOption catalogue name) := by
  rw [set, set?_eq]
  cases settings.find? name <;> rfl

namespace Source

/-- The catalogue with other settings. -/
def withSettings (settings : Settings) : Source → Source
  | broker b => broker { b with settings := settings }
  | database d => database { d with settings := settings }
  | table t => table { t with settings := settings }
  | singleFile _ => singleFile ⟨settings⟩
  | replay r => replay { r with settings := settings }

/-- Giving a value changes one setting of a catalogue and nothing else of it, or fails. -/
theorem set_eq (source : Source) (name value : String) :
    Catalogue.set source name value =
      match Settings.find? (Catalogue.settings source) name with
      | some place => .ok (source.withSettings ((Catalogue.settings source).assign place value))
      | none => .error (.unknownOption (Catalogue.name source) name) := by
  have each : Catalogue.set source name value =
      (Settings.set (Catalogue.name source) (Catalogue.settings source) name value).map
        source.withSettings := by
    cases source <;> dsimp only [Catalogue.set] <;> cases Settings.set _ _ name value <;> rfl
  rw [each, Settings.set_eq]
  cases Settings.find? (Catalogue.settings source) name <;> rfl

end Source

end RouteFeed
