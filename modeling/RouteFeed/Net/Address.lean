import RouteFeed.Numeral
import RouteFeed.Power

/-!
# Network addresses

An address is a number of 32 or 128 bits. The shorter ones are written as four decimal numbers,
the longer ones as eight hexadecimal groups, where the longest run of at least two zero groups is
left out, and of two runs of equal length the first. A long address that stands for a short one ends
in four decimal numbers.

## Main definitions

* `Family`, `Address` — the two kinds of addresses
* `Address.print` — the canonical text
* `Address.read?` — the address that a text writes
-/

namespace RouteFeed

/-- The two kinds of addresses. -/
inductive Family where
  /-- Addresses of 32 bits. -/
  | v4
  /-- Addresses of 128 bits. -/
  | v6
deriving DecidableEq, Repr

/-- The number of bits of an address. -/
def Family.width : Family → Nat
  | v4 => 32
  | v6 => 128

/-- An address of one of the two kinds. -/
structure Address where
  /-- The kind. -/
  family : Family
  /-- The bits, the first being the most significant. -/
  value : Nat
  /-- The bits fit in the width of the kind. -/
  value_lt : value < twoTo family.width
deriving DecidableEq

namespace Address

/-- An address from its bits; bits that do not fit are dropped. -/
def ofNat (family : Family) (value : Nat) : Address :=
  ⟨family, value % twoTo family.width, Nat.mod_lt _ (twoTo_pos _)⟩

/-- The address whose bits are all zero. -/
def unspecified : Address := ofNat .v4 0

/-! ## Text -/

/-- Four decimal numbers with points between them. -/
def printQuad (value : Nat) : String :=
  ".".intercalate <| [24, 16, 8, 0].map fun shift => Numeral.printNat (value / twoTo shift % 256)

/-- A group in hexadecimal without leading zeros. -/
def printGroup (group : Nat) : String :=
  let ds := [group / 4096 % 16, group / 256 % 16, group / 16 % 16].dropWhile (· = 0)
  String.ofList ((ds ++ [group % 16]).map Numeral.hexDigit)

/-- The eight groups of a long address. -/
def groups (value : Nat) : List Nat :=
  [112, 96, 80, 64, 48, 32, 16, 0].map fun shift => value / twoTo shift % 65536

/-- Groups with colons between them. -/
def printGroups (gs : List Nat) : String := ":".intercalate (gs.map printGroup)

/-- The length of the run of zeros at the start. -/
def zeroRun (gs : List Nat) : Nat := (gs.takeWhile (· = 0)).length

/-- The start and the length of the longest run of zeros, the first of several. -/
def longestZeroRun : List Nat → Nat × Nat
  | [] => (0, 0)
  | g :: rest =>
    let here := zeroRun (g :: rest)
    let (start, length) := longestZeroRun rest
    if length ≤ here then (0, here) else (start + 1, length)

/-- The canonical text of an address. -/
def print (a : Address) : String :=
  match a.family with
  | .v4 => printQuad a.value
  | .v6 =>
    if a.value / twoTo 32 = 0xFFFF then "::ffff:" ++ printQuad (a.value % twoTo 32)
    else
      let gs := groups a.value
      let (start, length) := longestZeroRun gs
      if 2 ≤ length then
        printGroups (gs.take start) ++ "::" ++ printGroups (gs.drop (start + length))
      else printGroups gs

/-- Reads one to `most` digits, as many as there are, in a base; none if one more digit follows. -/
def readDigits? (digit? : Char → Option Nat) (base most : Nat) (cs : List Char) :
    Option (Nat × List Char) :=
  let ds := cs.takeWhile fun c => (digit? c).isSome
  if ds.isEmpty ∨ most < ds.length then none
  else some (ds.foldl (fun acc c => acc * base + (digit? c).getD 0) 0, cs.drop ds.length)

/-- Reads one to three decimal digits of a number below 256. -/
def readByte? (cs : List Char) : Option (Nat × List Char) :=
  (readDigits? Numeral.digit? 10 3 cs).bind fun (n, rest) =>
    if n < 256 then some (n, rest) else none

/-- Reads what follows a given character. -/
def readMark? (mark : Char) : List Char → Option (List Char)
  | c :: rest => if c = mark then some rest else none
  | [] => none

/-- Reads four decimal numbers with points between them. -/
def readQuad? (cs : List Char) : Option (Nat × List Char) := do
  let (a, cs) ← readByte? cs
  let (b, cs) ← readByte? (← readMark? '.' cs)
  let (c, cs) ← readByte? (← readMark? '.' cs)
  let (d, cs) ← readByte? (← readMark? '.' cs)
  some (a * twoTo 24 + b * twoTo 16 + c * twoTo 8 + d, cs)

/-- Groups that were read, whether they end in four decimal numbers, and what follows them. -/
structure GroupRun where
  /-- The groups. -/
  groups : List Nat
  /-- Whether the last two of them were written as four decimal numbers. -/
  endsInQuad : Bool
  /-- What follows them. -/
  rest : List Char

/-- Reads at most `room` groups with colons between them, as many as there are. The last two may be
written as four decimal numbers. `first` says that no colon stands in front of the next group. -/
def readGroups (first : Bool) : Nat → List Char → GroupRun
  | 0, cs => ⟨[], false, cs⟩
  | room + 1, cs =>
    match if first then some cs else readMark? ':' cs with
    | none => ⟨[], false, cs⟩
    | some start =>
      let quad? := if 1 ≤ room then readQuad? start else none
      match quad? with
      | some (n, rest) => ⟨[n / 65536, n % 65536], true, rest⟩
      | none =>
        match readDigits? Numeral.hexDigit? 16 4 start with
        | none => ⟨[], false, cs⟩
        | some (g, rest) =>
          let run := readGroups false room rest
          ⟨g :: run.groups, run.endsInQuad, run.rest⟩

/-- The bits of eight groups. -/
def ofGroups (gs : List Nat) : Nat := gs.foldl (fun acc g => acc * 65536 + g) 0

/-- Reads eight groups, or fewer with a double colon for the zeros that are left out. The double
colon may also stand for no group at all. -/
def readLong? (cs : List Char) : Option (Nat × List Char) :=
  let head := readGroups true 8 cs
  if head.groups.length = 8 then some (ofGroups head.groups, head.rest)
  else if head.endsInQuad then none
  else do
    let cs ← (readMark? ':' head.rest).bind (readMark? ':')
    let tail := readGroups true (8 - head.groups.length) cs
    let zeros := List.replicate (8 - head.groups.length - tail.groups.length) 0
    some (ofGroups (head.groups ++ zeros ++ tail.groups), tail.rest)

/-- Reads an address of either kind from the start of a text. -/
def readLeading? (cs : List Char) : Option (Address × List Char) :=
  match readQuad? cs with
  | some (n, rest) => some (ofNat .v4 n, rest)
  | none => (readLong? cs).map fun (n, rest) => (ofNat .v6 n, rest)

/-- The address that a text writes. -/
def read? (text : String) : Option Address :=
  match readLeading? text.toList with
  | some (a, []) => some a
  | _ => none

end Address

end RouteFeed
