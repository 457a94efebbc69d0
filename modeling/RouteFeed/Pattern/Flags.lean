import RouteFeed.Text.Blank

/-!
# Ways of reading a pattern

Letters in a pattern set and unset the way in which the rest of a group is read. The most visible
one lets blanks and comments stand between the parts of a pattern, and also inside of most parts:
between the digits of a number, for instance.

## Main definitions

* `Flags` — the way in which a stretch of a pattern is read
* `Flags.skip` — drops what does not count
* `Flags.collect` — reads characters between which some do not count
-/

namespace RouteFeed

/-- How a stretch of a pattern is read. -/
structure Flags where
  /-- Blanks do not count, nor does anything from a number sign to the end of its line. -/
  spaced : Bool := false
  /-- Classes may hold characters beyond ASCII. -/
  wide : Bool := true
  /-- Small and capital letters are the same. -/
  anyCase : Bool := false
  /-- A dot stands for the end of a line too. -/
  anyLine : Bool := false
deriving DecidableEq, Repr

/-- Drops blanks and comments in front, inside of a comment or not. -/
def skipBlanks : Bool → List Char → List Char
  | _, [] => []
  | true, c :: rest => skipBlanks (c != '\n') rest
  | false, c :: rest =>
    if isBlank c then skipBlanks false rest
    else if c = '#' then skipBlanks true rest
    else c :: rest

theorem length_skipBlanks_le (inComment : Bool) (cs : List Char) :
    (skipBlanks inComment cs).length ≤ cs.length := by
  induction cs generalizing inComment with
  | nil => simp [skipBlanks]
  | cons c rest ih =>
    cases inComment with
    | true => exact Nat.le_succ_of_le (ih _)
    | false =>
      unfold skipBlanks
      split
      · exact Nat.le_succ_of_le (ih _)
      · split
        · exact Nat.le_succ_of_le (ih _)
        · exact Nat.le_refl _

namespace Flags

/-- Drops blanks and comments in front, if they do not count. -/
def skip (flags : Flags) (cs : List Char) : List Char :=
  if flags.spaced then skipBlanks false cs else cs

theorem length_skip_le (flags : Flags) (cs : List Char) : (flags.skip cs).length ≤ cs.length := by
  unfold skip
  split
  · exact length_skipBlanks_le _ _
  · exact Nat.le_refl _

/-- Reads characters as long as they pass a test; what does not count behind a character is dropped
with it. -/
def collect (flags : Flags) (test : Char → Bool) (cs : List Char) : List Char × List Char :=
  match cs with
  | [] => ([], [])
  | c :: rest =>
    if test c then
      let (taken, behind) := flags.collect test (flags.skip rest)
      (c :: taken, behind)
    else ([], c :: rest)
termination_by cs.length
decreasing_by exact Nat.lt_succ_of_le (length_skip_le flags rest)

/-- The next character that counts, where a number sign counts only as far as it hides the blanks
behind it. -/
def peek? (flags : Flags) (cs : List Char) : Option Char :=
  if flags.spaced then
    match cs.dropWhile isBlank with
    | '#' :: rest => (rest.dropWhile isBlank).head?
    | rest => rest.head?
  else cs.head?

end Flags

end RouteFeed
