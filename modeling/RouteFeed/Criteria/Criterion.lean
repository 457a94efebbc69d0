import RouteFeed.FeedError
import RouteFeed.Pattern.Reader
import RouteFeed.Record

/-!
# Criteria

A criterion is one condition on the data of a feed, given by a kind and a value. Three kinds choose
dumps, by project, collector and kind of dump; the others choose elements.

## Main definitions

* `BlockRelation`, `BlockRelation.holds` — how the block of an element may lie to a given block
* `Criterion` — one condition
* `Criterion.read` — the condition that a kind and a value write
-/

namespace RouteFeed

/-- How the block of an element may lie to the block of a criterion. -/
inductive BlockRelation where
  /-- They are the same, host bits included. -/
  | exact
  /-- That of the element covers that of the criterion. -/
  | covering
  /-- That of the element is covered by that of the criterion. -/
  | covered
  /-- Either covers the other. -/
  | either
deriving DecidableEq, Repr

namespace BlockRelation

/-- Whether the block of an element lies as it should. -/
def holds (relation : BlockRelation) (wanted found : Block) : Bool :=
  match relation with
  | exact => found = wanted
  | covering => found.covers wanted
  | covered => wanted.covers found
  | either => found.covers wanted || wanted.covers found

/-- The relation in which larger blocks count, smaller blocks count, both or none. -/
def ofFlags (larger smaller : Bool) : BlockRelation :=
  match larger, smaller with
  | false, false => exact
  | true, false => covering
  | false, true => covered
  | true, true => either

/-- The kind of criterion that asks for the relation. -/
def kindName : BlockRelation → String
  | exact => "prefix"
  | covering => "prefix_super"
  | covered => "prefix_sub"
  | either => "prefix_super_sub"

end BlockRelation

/-- One condition on the data of a feed. -/
inductive Criterion where
  /-- The dump belongs to a project. -/
  | project (name : String)
  /-- The dump was written by a collector. -/
  | collector (name : String)
  /-- The dump is of a kind. -/
  | kind (kind : DumpKind)
  /-- The peer of an element belongs to a system. -/
  | peer (asn : UInt32)
  /-- The route of an element starts from a system. -/
  | origin (asn : UInt32)
  /-- The block of an element lies in a certain way to a given one. -/
  | block (block : Block) (relation : BlockRelation)
  /-- The element is an announcement, or a withdrawal. -/
  | action (action : Action)
  /-- The path of an element matches a pattern. -/
  | path (pattern : Pattern)

namespace Criterion

/-- The action that a word names. -/
def readAction? (word : String) : Option Action :=
  if ["w", "withdraw", "withdrawal"].contains word then some .withdraw
  else if ["a", "announce", "announcement"].contains word then some .announce
  else none

/-- The failure to read a value. -/
def unreadable (what value : String) : FeedError :=
  .invalidFilter ("cannot parse " ++ what ++ " from " ++ value)

/-- A value that was read, or the failure to read it. -/
def orUnreadable (what value : String) (result : Option Criterion) : Except FeedError Criterion :=
  match result with
  | some criterion => .ok criterion
  | none => .error (unreadable what value)

/-- The kind of dump that a text names. -/
def readDumpKind (text : String) : Except FeedError DumpKind :=
  match DumpKind.read? text with
  | some found => .ok found
  | none => .error (unreadable "dump type" text)

/-- The relation of blocks that a kind of criterion asks for. -/
def relation? (kind : String) : Option BlockRelation :=
  [BlockRelation.exact, .covering, .covered, .either].find? fun r => r.kindName = kind

/-- The condition that a kind and a value write. Blanks around the value do not count, except in
patterns. -/
def read (kind value : String) : Except FeedError Criterion :=
  let word := trim value
  match kind with
  | "project" => .ok (.project word)
  | "collector" => .ok (.collector word)
  | "type" | "record_type" => (readDumpKind word).map Criterion.kind
  | "peer_asn" => orUnreadable "peer asn" value ((Numeral.word? word).map .peer)
  | "origin_asn" => orUnreadable "origin asn" value ((Numeral.word? word).map .origin)
  | "elem_type" => orUnreadable "elem type" value ((readAction? word).map .action)
  | "as_path" => orUnreadable "AS path regex" value ((Pattern.read? value).map .path)
  | _ =>
    match relation? kind with
    | some r => orUnreadable "prefix" value ((Block.read? word).map (.block · r))
    | none => .error (.invalidFilter ("unknown filter type: " ++ kind))

end Criterion

end RouteFeed
