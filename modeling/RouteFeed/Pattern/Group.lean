import RouteFeed.Pattern.Flags
import RouteFeed.Text.Letter

/-!
# Openings of groups

What follows the opening bracket of a group decides what the group is: one whose match is recorded,
with a name or without, or one that only holds its parts together. A change of the way of reading
looks like a group too. There is no look-around.

## Main definitions

* `isNameChar` — the characters in the names of groups
* `GroupStart`, `GroupStart.read?` — what follows the opening bracket of a group
-/

namespace RouteFeed

/-- Whether a character may stand in the name of a group, in front or behind the first. -/
def isNameChar (first : Bool) (c : Char) : Bool :=
  c = '_' || if first then isLetter c else isLetter c || isNumber c || ['.', '[', ']'].contains c

/-- What follows the opening bracket of a group. -/
inductive GroupStart where
  /-- A group whose match is recorded. -/
  | captured
  /-- A group whose match is recorded under a name. -/
  | named (name : List Char)
  /-- A group with the way in which it is read. -/
  | plain (flags : Flags)
  /-- No group: the rest of the present group is read in another way. -/
  | setFlags (flags : Flags)

namespace GroupStart

/-- Reads the name of a group up to the bracket that ends it. -/
def name? (cs : List Char) : Option (List Char × List Char) :=
  let name := cs.takeWhile (· ≠ '>')
  match name, cs.drop name.length with
  | c :: more, _ :: behind =>
    if isNameChar true c ∧ more.all (isNameChar false) then some (name, behind) else none
  | _, _ => none

/-- Reads letters that set the way of reading, and behind a dash letters that unset it. No letter
comes twice, there is at most one dash, and a letter follows it. -/
def flags? (flags : Flags) (seen : List Char) : List Char → Option (Flags × List Char × List Char)
  | [] => none
  | c :: rest =>
    if c = ':' ∨ c = ')' then
      if seen.head? = some '-' then none else some (flags, seen, c :: rest)
    else if seen.contains c then none
    else
      let on := !seen.contains '-'
      match c with
      | '-' => flags? flags ('-' :: seen) rest
      | 'x' => flags? { flags with spaced := on } (c :: seen) rest
      | 'u' => flags? { flags with wide := on } (c :: seen) rest
      | 'i' => flags? { flags with anyCase := on } (c :: seen) rest
      | 's' => flags? { flags with anyLine := on } (c :: seen) rest
      | 'm' | 'U' | 'R' => flags? flags (c :: seen) rest
      | _ => none

/-- Reads what follows the opening bracket of a group. -/
def read? (flags : Flags) (cs : List Char) : Option (GroupStart × List Char) :=
  match flags.skip cs with
  | '?' :: '=' :: _ | '?' :: '!' :: _ => none
  | '?' :: '<' :: '=' :: _ | '?' :: '<' :: '!' :: _ => none
  | '?' :: 'P' :: '<' :: rest | '?' :: '<' :: rest =>
    (name? rest).map fun (name, behind) => (named name, behind)
  | '?' :: rest =>
    match flags? flags [] rest with
    | some (inner, _, ':' :: behind) => some (plain inner, behind)
    | some (inner, seen, ')' :: behind) =>
      if seen.isEmpty then none else some (setFlags inner, behind)
    | _ => none
  | rest => some (captured, rest)

end GroupStart

end RouteFeed
