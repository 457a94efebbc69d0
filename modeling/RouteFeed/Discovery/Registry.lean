import RouteFeed.Catalogue.Basic

/-!
# The registry of catalogues

A feed knows several catalogues by number, from zero on in the order in which they were registered,
and reads from the one that is active. No two catalogues that are registered have the same name.

## Main definitions

* `Registry` — the catalogues and the active one
* `Registry.register`, `Registry.select`, `Registry.set` — changes
* `Registry.get`, `Registry.find?` — look-up by number and by name
-/

namespace RouteFeed

/-- The catalogues of a feed. -/
structure Registry (κ : Type) where
  /-- The catalogues; the number of each is its place. -/
  table : List κ
  /-- The number of the active one. -/
  active? : Option Nat

namespace Registry

variable {κ : Type}

/-- Catalogues of which the first is active. -/
def ofList (table : List κ) : Registry κ := ⟨table, if table.isEmpty then none else some 0⟩

/-- The numbers of all catalogues. -/
def numbers (r : Registry κ) : List Nat := List.range r.table.length

/-- The catalogue of a number. -/
def get (r : Registry κ) (number : Nat) : Except FeedError κ :=
  match r.table[number]? with
  | some k => .ok k
  | none => .error (.unknownCatalogue (Numeral.printNat number))

/-- The catalogue that is active. -/
def current? (r : Registry κ) : Option κ := r.active?.bind fun number => r.table[number]?

/-- Puts a catalogue into the place of the active one. -/
def replaceCurrent (r : Registry κ) (k : κ) : Registry κ :=
  match r.active? with
  | some number => { r with table := r.table.set number k }
  | none => r

/-- Makes another catalogue active. -/
def select (r : Registry κ) (number : Nat) : Except FeedError (Registry κ) :=
  (r.get number).map fun _ => { r with active? := some number }

variable [Catalogue κ]

/-- The number of the first catalogue of a name. -/
def find? (r : Registry κ) (name : String) : Option Nat :=
  r.table.findIdx? fun k => Catalogue.name k = name

/-- Adds a catalogue, unless its name is taken; the first one becomes active. -/
def register (r : Registry κ) (k : κ) : Except FeedError (Nat × Registry κ) :=
  match r.find? (Catalogue.name k) with
  | some _ =>
    .error (.misconfigured ("data interface " ++ Catalogue.name k ++ " already registered"))
  | none =>
    let number := r.table.length
    .ok (number, ⟨r.table ++ [k], r.active?.or (some number)⟩)

/-- Gives a value to a setting of a catalogue. -/
def set (r : Registry κ) (number : Nat) (name value : String) : Except FeedError (Registry κ) := do
  let k ← Catalogue.set (← r.get number) name value
  .ok { r with table := r.table.set number k }

end Registry

end RouteFeed
