import RouteFeed.Json.Basic
import RouteFeed.Record
import RouteFeed.Timestamp.Text

/-!
# Lines of output

A record is printed as one line, or as one line for each of its elements. A line is a list of values
with bars between them, or a value of JSON whose fields are in alphabetical order.

## Main definitions

* `Record.line`, `Element.line` — the lines with bars
* `Record.toJson`, `Element.toJson` — the values of JSON
* `Layout`, `Layout.render` — the lines of a record in a layout
-/

namespace RouteFeed

/-- An optional value, or nothing. -/
def printOption {α : Type} (print : α → String) (a? : Option α) : String := a?.elim "" print

/-! ## Lines with bars -/

/-- The line of a record. -/
def Record.line (r : Record) : String :=
  "|".intercalate
    [r.project, r.collector, r.kind.plural, Numeral.print r.dumpTime.toInt, r.time.fixed 6,
     r.position.name, r.locator, Numeral.printNat r.elements.length]

/-- The letter of an action. -/
def Action.letter : Action → String
  | announce => "A"
  | withdraw => "W"

/-- The line of an element. The values that no element of this library has stay empty. -/
def Element.line (e : Element) : String :=
  "|".intercalate
    [e.action.letter, e.time.plain, e.peerAddress.print, printAsn e.peer, e.block.print,
     printOption AsPath.print e.path?, printOption Origin.name e.origin?,
     printOption Address.print e.nextHop?, printOption printAsn e.localPreference?,
     printOption printAsn e.discriminator?, "", "false", "", ""]

/-! ## JSON -/

/-- An unsigned number. -/
def Json.ofWord (n : UInt32) : Json := .ofNat n.toNat

/-- A timestamp; what is no number is nothing. -/
def Json.ofTimestamp (t : Timestamp) : Json :=
  if t.isFinite then .number t.exponential else .null

/-- The name of a kind of segment. -/
def SegmentKind.tag : SegmentKind → String
  | sequence => "AS_SEQUENCE"
  | set => "AS_SET"
  | confederationSequence => "AS_CONFED_SEQUENCE"
  | confederationSet => "AS_CONFED_SET"

/-- Whether the path can be told from one flat list: no confederations, and no two sequences in
succession. -/
def AsPath.isFlat (path : AsPath) : Bool :=
  path.all (fun s => !s.kind.isConfederation) &&
    (path.zip (path.drop 1)).all fun (s, t) => s.kind.isSet || t.kind.isSet

/-- The numbers of a segment. -/
def Segment.numbers (s : Segment) : List Json := s.members.map Json.ofWord

/-- A path: one list in which sets are lists of their own, or else a list of segments. -/
def AsPath.toJson (path : AsPath) : Json :=
  if path.isFlat then
    .array (path.flatMap fun s => if s.kind.isSet then [.array s.numbers] else s.numbers)
  else
    .array <| path.map fun s =>
      .object [("ty", .string s.kind.tag), ("values", .array s.numbers)]

/-- The name of an action. -/
def Action.name : Action → String
  | announce => "ANNOUNCE"
  | withdraw => "WITHDRAW"

/-- The value of an element. -/
def Element.toJson (e : Element) : Json :=
  .object
    [("aggr_asn", .null), ("aggr_ip", .null), ("as_path", .ofOption AsPath.toJson e.path?),
     ("atomic", .bool false), ("communities", .null), ("deprecated", .null),
     ("local_pref", .ofOption Json.ofWord e.localPreference?),
     ("med", .ofOption Json.ofWord e.discriminator?),
     ("next_hop", .ofOption (fun a => .string a.print) e.nextHop?), ("only_to_customer", .null),
     ("origin", .ofOption (fun o => .string o.name) e.origin?),
     ("origin_asns", .ofOption (fun asns => .array (asns.map Json.ofWord)) e.origins?),
     ("peer_asn", .ofWord e.peer), ("peer_bgp_id", .null),
     ("peer_ip", .string e.peerAddress.print), ("prefix", .string e.block.print),
     ("timestamp", .ofTimestamp e.time), ("type", .string e.action.name), ("unknown", .null)]

/-- The value of a record. -/
def Record.toJson (r : Record) : Json :=
  .object
    [("collector", .string r.collector), ("dump_time", .ofInt r.dumpTime.toInt),
     ("dump_type", .string r.kind.name), ("elems", .array (r.elements.map Element.toJson)),
     ("locator", .string r.locator), ("position", .string (lowerLatin r.position.name)),
     ("project", .string r.project), ("timestamp", .ofTimestamp r.time)]

/-! ## Layouts -/

/-- How records are printed. -/
structure Layout where
  /-- One line for each element instead of one for each record. -/
  perElement : Bool
  /-- Values of JSON instead of lines with bars. -/
  asJson : Bool
deriving DecidableEq, Repr

namespace Layout

/-- The line of a record. -/
def recordLine (l : Layout) (r : Record) : String := if l.asJson then r.toJson.write else r.line

/-- The line of an element of a dump of a collector. -/
def elementLine (l : Layout) (collector : String) (e : Element) : String :=
  if l.asJson then (Json.object [("collector", .string collector), ("elem", e.toJson)]).write
  else collector ++ "|" ++ e.line

/-- The lines of a record. -/
def render (l : Layout) (r : Record) : List String :=
  if l.perElement then r.elements.map (l.elementLine r.collector) else [l.recordLine r]

end Layout

end RouteFeed
