/-!
# Parts of texts

A mark divides a text into parts: those of a path stand between slashes, for instance. There is
always one part more than there are marks, and a part may be empty.

## Main definitions

* `partsBetween` — the parts of a text between all marks
* `cutAt` — the two parts of a text around the first mark
-/

namespace RouteFeed

/-- The parts of a text between the places where a mark stands. -/
def partsBetween (mark : Char) : List Char → List (List Char)
  | [] => [[]]
  | c :: rest =>
    if c = mark then [] :: partsBetween mark rest
    else
      match partsBetween mark rest with
      | [] => [[c]]
      | part :: parts => (c :: part) :: parts

/-- The parts of a text before and behind the first place where a mark stands; without any mark, the
second one is empty. -/
def cutAt (mark : Char) (cs : List Char) : List Char × List Char :=
  (cs.takeWhile (· ≠ mark), (cs.dropWhile (· ≠ mark)).drop 1)

end RouteFeed
