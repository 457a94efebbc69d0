import RouteFeed.Pattern.Automaton
import RouteFeed.Pattern.Bracket
import RouteFeed.Pattern.Group

/-!
# Reading patterns

A pattern is read from left to right. The groups that are open form a stack; each holds the
alternatives that are complete and the items of the present one, last first. An item that may be
repeated is a character, a class, a condition or a group; a repetition may be repeated again.

How deeply the parts of a pattern are nested is limited: a group, a repetition, a sequence of
several items, a choice between alternatives and the parts of a class count one each. The size of
the automatons is limited as well.

## Main definitions

* `Repetition.read?` — a repetition with limits in braces
* `Item`, `Level` — a part of a sequence, and an open group
* `Progress`, `Progress.step?` — what has been read, and one step more
* `Pattern.read?` — the pattern that a text writes
-/

namespace RouteFeed

namespace Repetition

/-- Reads a number with blanks around it. -/
def number? (flags : Flags) (cs : List Char) : Option (Nat × List Char) := do
  let (ds, rest) := flags.collect (fun c => (Numeral.digit? c).isSome) (cs.dropWhile isBlank)
  let n ← Numeral.nat? ds
  if n < UInt32.size then some (n, rest.dropWhile isBlank) else none

/-- Reads the limits of a repetition behind the opening brace. -/
def read? (flags : Flags) (cs : List Char) : Option ((Nat × Option Nat) × List Char) := do
  let (least, cs) ← number? flags (flags.skip cs)
  match cs with
  | '\x7d' :: rest => some ((least, some least), rest)
  | ',' :: rest =>
    match flags.skip rest with
    | '\x7d' :: behind => some ((least, none), behind)
    | rest =>
      let (most, rest) ← number? flags rest
      match rest with
      | '\x7d' :: behind => if least ≤ most then some ((least, some most), behind) else none
      | _ => none
  | _ => none

/-- Drops the sign that makes a repetition prefer fewer rounds; a search does not depend on it. -/
def dropLazy : List Char → List Char
  | '?' :: rest => rest
  | cs => cs

end Repetition

/-- An item of a sequence. -/
structure Item where
  /-- What it means. -/
  tree : Tree
  /-- How deeply its parts are nested. -/
  depth : Nat
  /-- Whether it may be repeated. -/
  repeatable : Bool

/-- A group that is open; the outermost one is the pattern as a whole. -/
structure Level where
  /-- The alternatives that are complete, and how deeply their parts are nested. -/
  alternatives? : Option (Tree × Nat)
  /-- The items of the present alternative, last first. -/
  items : List Item
  /-- How the pattern is read behind the group. -/
  outerFlags : Flags
  /-- Whether it is recorded where the group matched. -/
  captured : Bool

namespace Level

/-- A group in which nothing has been read. -/
def opened (outerFlags : Flags) (captured : Bool) : Level := ⟨none, [], outerFlags, captured⟩

/-- The present alternative, and how deeply its parts are nested. -/
def sequence (l : Level) : Tree × Nat :=
  match l.items with
  | [item] => (item.tree, item.depth)
  | items =>
    (items.foldr (fun item t => .seq t item.tree) .blank,
      if items.isEmpty then 0 else items.foldl (fun d item => max d item.depth) 0 + 1)

/-- The alternatives together, and how deeply the parts of one are nested at most. -/
def joined (l : Level) : Tree × Nat :=
  match l.alternatives? with
  | none => l.sequence
  | some (t, depth) => (.alt t l.sequence.1, max depth l.sequence.2)

/-- All that has been read, and how deeply its parts are nested. -/
def whole (l : Level) : Tree × Nat :=
  (l.joined.1, if l.alternatives?.isSome then l.joined.2 + 1 else l.joined.2)

/-- Starts a further alternative. -/
def alternate (l : Level) : Level := { l with alternatives? := some l.joined, items := [] }

/-- Adds an item. -/
def push (l : Level) (item : Item) : Level := { l with items := item :: l.items }

/-- Repeats the last item. -/
def repeatLast? (l : Level) (least : Nat) (most? : Option Nat) : Option Level :=
  match l.items with
  | [] => none
  | item :: rest =>
    if item.repeatable then
      some { l with items := ⟨.repeated item.tree least most?, item.depth + 1, true⟩ :: rest }
    else none

/-- The group as an item, once it is closed. -/
def closed (l : Level) : Item :=
  let (tree, depth) := l.whole
  ⟨if l.captured then .captured tree else tree, depth + 1, true⟩

end Level

/-- What has been read of a pattern. -/
structure Progress where
  /-- How the pattern is read at present. -/
  flags : Flags
  /-- The innermost open group. -/
  level : Level
  /-- The groups around it, from inside to outside. -/
  outer : List Level
  /-- The names of groups so far. -/
  names : List (List Char)

/-- The class of a character in small and in capital letters. Two letters have a third form that is
not in ASCII. -/
def bothCases (c : Char) : CharSet :=
  if c.isAlpha then
    let forms : CharSet := .union (.single c.toLower) (.single c.toUpper)
    if c.toLower = 'k' then .union forms (.single (Char.ofNat 0x212A))
    else if c.toLower = 's' then .union forms (.single (Char.ofNat 0x17F))
    else forms
  else .single c

/-- The characters that a dot stands for. There is no such class where classes are narrow. -/
def Flags.dot? (flags : Flags) : Option CharSet :=
  if ¬ flags.wide then none
  else if flags.anyLine then some .all
  else some (.complement (.single '\n'))

namespace Progress

/-- What has been read of a pattern before its first character. -/
def start : Progress := ⟨{}, Level.opened {} false, [], []⟩

/-- Adds an item to the innermost group. -/
def push (p : Progress) (item : Item) : Progress := { p with level := p.level.push item }

/-- Adds the smallest unit of a pattern. -/
def pushAtom (p : Progress) : Atom → Progress
  | .char c => p.push ⟨.one (if p.flags.anyCase then bothCases c else .single c), 0, true⟩
  | .set s => p.push ⟨.one s, 0, true⟩
  | .condition condition => p.push ⟨.here condition, 0, true⟩

/-- Opens a group. -/
def openGroup (p : Progress) (flags : Flags) (captured : Bool) : Progress :=
  { p with flags := flags, level := Level.opened p.flags captured, outer := p.level :: p.outer }

/-- Closes the innermost group. -/
def closeGroup? (p : Progress) : Option Progress :=
  match p.outer with
  | [] => none
  | parent :: outer =>
    some { p with
      flags := p.level.outerFlags
      level := parent.push p.level.closed
      outer := outer }

/-- Repeats the last item. -/
def repeatLast? (p : Progress) (least : Nat) (most? : Option Nat) : Option Progress :=
  (p.level.repeatLast? least most?).map fun level => { p with level := level }

/-- Reads what follows the opening bracket of a group. -/
def readGroup? (p : Progress) (cs : List Char) : Option (Progress × List Char) := do
  let (start, rest) ← GroupStart.read? p.flags cs
  match start with
  | .captured => some (p.openGroup p.flags true, rest)
  | .named name =>
    if p.names.contains name then none
    else some ({ p with names := name :: p.names }.openGroup p.flags true, rest)
  | .plain flags => some (p.openGroup flags false, rest)
  | .setFlags flags => some ({ p.push ⟨.blank, 0, false⟩ with flags := flags }, rest)

/-- Reads one item, sign or repetition, which starts with the character `c`. -/
def step? (p : Progress) (c : Char) (rest : List Char) : Option (Progress × List Char) :=
  match c with
  | '(' => p.readGroup? rest
  | ')' => p.closeGroup?.map (·, rest)
  | '|' => some ({ p with level := p.level.alternate }, rest)
  | '[' => (readBracket? p.flags rest).map fun (s, behind) =>
      (p.push ⟨.one s.set, s.depth, true⟩, behind)
  | '?' => (p.repeatLast? 0 (some 1)).map (·, Repetition.dropLazy rest)
  | '*' => (p.repeatLast? 0 none).map (·, Repetition.dropLazy rest)
  | '+' => (p.repeatLast? 1 none).map (·, Repetition.dropLazy rest)
  | '\x7b' => do
    let ((least, most?), behind) ← Repetition.read? p.flags rest
    (p.repeatLast? least most?).map (·, Repetition.dropLazy (p.flags.skip behind))
  | '^' => some (p.pushAtom (.condition .start), rest)
  | '$' => some (p.pushAtom (.condition .stop), rest)
  | '.' => p.flags.dot?.map fun s => (p.pushAtom (.set s), rest)
  | '\\' => (Atom.escape? p.flags rest).map fun (atom, behind) => (p.pushAtom atom, behind)
  | _ => some (p.pushAtom (.char c), rest)

end Progress

namespace Pattern

/-- How deeply the parts of a pattern may be nested. -/
def nestingLimit : Nat := 250

/-- How many bytes an automaton of a pattern may take. -/
def sizeLimit : Nat := 10485760

/-- Reads on to the end of the pattern. Every round takes at least one character. -/
def readFrom? : Nat → Progress → List Char → Option (Tree × Nat)
  | 0, _, _ => none
  | fuel + 1, p, cs =>
    match p.flags.skip cs with
    | [] => if p.outer.isEmpty then some p.level.whole else none
    | c :: rest => (p.step? c rest).bind fun (p, rest) => readFrom? fuel p rest

/-- The pattern that a text writes. -/
def read? (text : String) : Option Pattern := do
  let cs := text.toList
  let (tree, depth) ← readFrom? (cs.length + 1) .start cs
  if depth ≤ nestingLimit ∧ tree.size.fits sizeLimit then some ⟨text, tree⟩ else none

end Pattern

end RouteFeed
