import RouteFeed.CommandLine.Render

/-!
# What a line tells

Lines are told here by what stands in them. The line of a record holds its eight values, and the line
of an element holds the collector of its record and all of the element: with bars between them, or as
the fields of an object. So what a line is about can be seen from the line.

## Main definitions

* `Layout.TellsRecord`, `Layout.TellsElement` — what stands in a line

## Main results

* `Layout.tellsRecord_recordLine`, `Layout.tellsElement_elementLine` — the lines that are printed
* `Layout.TellsElement.collector_eq` — the collector stands before the first bar
-/

namespace RouteFeed.Layout

variable {l : Layout} {r : Record} {collector line : String} {e : Element}

/-- A line tells a record: its values with bars between them, or an object of them. -/
structure TellsRecord (l : Layout) (r : Record) (line : String) : Prop where
  bars : l.asJson = false → line = r.project ++ "|" ++ r.collector ++ "|" ++ r.kind.plural ++ "|" ++
    Numeral.print r.dumpTime.toInt ++ "|" ++ r.time.fixed 6 ++ "|" ++ r.position.name ++ "|" ++
    r.locator ++ "|" ++ Numeral.printNat r.elements.length
  object : l.asJson → line =
    "\x7b\"collector\":" ++ Json.quoted r.collector ++
    ",\"dump_time\":" ++ Numeral.print r.dumpTime.toInt ++
    ",\"dump_type\":" ++ Json.quoted r.kind.name ++
    ",\"elems\":[" ++ ",".intercalate (r.elements.map fun e => e.toJson.write) ++
    "],\"locator\":" ++ Json.quoted r.locator ++
    ",\"position\":" ++ Json.quoted (lowerLatin r.position.name) ++
    ",\"project\":" ++ Json.quoted r.project ++
    ",\"timestamp\":" ++ (Json.ofTimestamp r.time).write ++ "\x7d"

/-- A line tells an element and the collector of its record: the collector before the first bar and
the element behind it, or an object of both. -/
structure TellsElement (l : Layout) (collector : String) (e : Element) (line : String) : Prop where
  bars : l.asJson = false → line = collector ++ "|" ++ e.line
  object : l.asJson → line =
    "\x7b\"collector\":" ++ Json.quoted collector ++ ",\"elem\":" ++ e.toJson.write ++ "\x7d"

theorem writeItems_map {α : Type} (f : α → Json) (xs : List α) :
    Json.writeItems (xs.map f) = xs.map fun x => (f x).write := by
  induction xs with
  | nil => rfl
  | cons x xs ih => rw [List.map_cons, Json.writeItems, ih, List.map_cons]

theorem tellsRecord_recordLine (l : Layout) (r : Record) : l.TellsRecord r (l.recordLine r) where
  bars plain := by
    rw [recordLine, if_neg (by simp [plain]), Record.line]
    simp only [String.intercalate_cons_cons, String.intercalate_singleton, String.append_assoc]
  object json := by
    rw [recordLine, if_pos json, Record.toJson]
    -- the names of the fields hold nothing that has to be escaped
    have names : Json.quoted "collector" = "\"collector\"" ∧
        Json.quoted "dump_time" = "\"dump_time\"" ∧ Json.quoted "dump_type" = "\"dump_type\"" ∧
        Json.quoted "elems" = "\"elems\"" ∧ Json.quoted "locator" = "\"locator\"" ∧
        Json.quoted "position" = "\"position\"" ∧ Json.quoted "project" = "\"project\"" ∧
        Json.quoted "timestamp" = "\"timestamp\"" := by
      decide
    simp only [Json.write, Json.writeFields, names, writeItems_map, Json.ofInt,
      String.intercalate_cons_cons, String.intercalate_singleton, String.append_assoc]
    rfl

/-- The line of a record with one element. -/
example : recordLine ⟨false, false⟩ ⟨"ris", "rrc00", .rib, -5, ⟨0⟩, .last, "a", [{}]⟩ =
    "ris|rrc00|ribs|-5|0.000000|End|a|1" := by decide +kernel

theorem tellsElement_elementLine (l : Layout) (collector : String) (e : Element) :
    l.TellsElement collector e (l.elementLine collector e) where
  bars plain := by rw [elementLine, if_neg (by simp [plain])]
  object json := by
    have names : Json.quoted "collector" = "\"collector\"" ∧ Json.quoted "elem" = "\"elem\"" := by
      decide
    rw [elementLine, if_pos json]
    simp only [Json.write, Json.writeFields, names, String.intercalate_cons_cons,
      String.intercalate_singleton, String.append_assoc]
    rfl

/-- The collector can be seen from a line with bars, if there is none in its name. -/
theorem TellsElement.collector_eq (tells : l.TellsElement collector e line)
    (plain : l.asJson = false) (noBar : '|' ∉ collector.toList) :
    line.toList.takeWhile (· ≠ '|') = collector.toList := by
  have all : ∀ c ∈ collector.toList, decide (c ≠ '|') = true := fun c here =>
    decide_eq_true fun bar => noBar (bar ▸ here)
  rw [tells.bars plain, String.toList_append, String.toList_append, List.append_assoc,
    List.takeWhile_append_of_pos all]
  simp

end RouteFeed.Layout
