import RouteFeed.Catalogue.Setting
import RouteFeed.Criteria.Basic
import RouteFeed.Cursor

/-!
# Catalogues

A catalogue knows which chunks there are. It is set up by settings, started, and then asked, again
and again, which chunks meet the criteria and come after a cursor. The class says what the machinery
of a feed needs of a catalogue; nothing else about catalogues is used there, so all that is shown of
the machinery holds for every catalogue.

## Main definitions

* `Answer` — the chunks that a catalogue lists, and the cursor behind them
* `Catalogue` — what a catalogue can do
-/

namespace RouteFeed

/-- What a catalogue answers. -/
structure Answer where
  /-- The chunks. -/
  chunks : List Chunk
  /-- The place to go on from. -/
  next : Cursor
deriving DecidableEq, Repr

/-- What a catalogue can do. The type holds its settings and whatever else it keeps between
questions. -/
class Catalogue (κ : Type) where
  /-- The name that it is found by. -/
  name : κ → String
  /-- What it is. -/
  description : κ → String
  /-- Its settings. -/
  settings : κ → Settings
  /-- Gives a value to a setting. -/
  set : κ → String → String → Except FeedError κ
  /-- Checks that it is set up. -/
  validate : κ → Except FeedError Unit := fun k => Settings.check (name k) (settings k)
  /-- Gets what is needed to answer. -/
  start : κ → Except FeedError Unit × κ := fun k => (.ok (), k)
  /-- Lists the chunks that meet the criteria and come after a cursor. -/
  query : κ → Criteria → Cursor → Except FeedError Answer × κ

end RouteFeed
