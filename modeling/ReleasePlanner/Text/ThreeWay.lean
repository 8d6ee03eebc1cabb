/-!
# Merging three texts

Two texts that come from one are merged line by line.  Each of the two is
aligned with the common base along a longest common subsequence.  The lines of
the base that both kept cut the texts into chunks, and each chunk is settled on
its own: where only one side changed it, that side counts, and where both
changed it in the same way, so do they.  Anything else is a conflict.

Everything is said of lists of any kind of line.  The lines of a text are
taken with their line ends, so a missing one at the end is a difference.
-/

namespace ReleasePlanner.Text.ThreeWay

variable {α : Type} [DecidableEq α]

/-! ## Aligning two lists -/

/-- The lengths of the longest common subsequences of `x :: xs` and every end of `ys`, longest
end first.  Those of `xs` are given. -/
def nextLengths (x : α) : List α → List Nat → List Nat
  | [], _ => [0]
  | y :: ys, below =>
    let right := nextLengths x ys (below.drop 1)
    (if x = y then (below.drop 1).headD 0 + 1 else max (below.headD 0) (right.headD 0)) :: right

/-- The lengths for every end of the base. -/
def lengths (base side : List α) : List (List Nat) :=
  base.foldr (fun x rows => nextLengths x side (rows.headD []) :: rows)
    [List.replicate (side.length + 1) 0]

/-- Splits a side at the first line that is `x` and after which a common subsequence of length
`rest` is left. -/
def splitAt? (x : α) (rest : Nat) : List α → List Nat → Option (List α × List α)
  | [], _ => none
  | y :: ys, below =>
    if x = y ∧ (below.drop 1).headD 0 = rest then some ([], ys)
    else (splitAt? x rest ys (below.drop 1)).map fun parts => (y :: parts.1, parts.2)

/-- What became of a line of the base. -/
structure Slot (α : Type) where
  /-- The lines that were put before it. -/
  before : List α
  /-- Whether it is still there. -/
  kept : Bool
  deriving DecidableEq, Repr

/-- Aligns a side with the base, with the lengths for the ends of both.  A line that does not come
next is given up where that loses nothing.  The result is what became of each line, and what was
put after the last one. -/
def alignWith : List α → List α → List (List Nat) → List (Slot α) × List α
  | [], side, _ => ([], side)
  | x :: xs, side, rows =>
    let here := rows.headD []
    let below := (rows.drop 1).headD []
    let gone := here.length - (side.length + 1)
    let longest := (here.drop gone).headD 0
    let isLoss := (below.drop gone).headD 0 < longest
    let match? :=
      if side.head? = some x || isLoss then splitAt? x (longest - 1) side (below.drop gone)
      else none
    match match? with
    | some (before, after) =>
      let (slots, last) := alignWith xs after (rows.drop 1)
      (⟨before, true⟩ :: slots, last)
    | none =>
      let (slots, last) := alignWith xs side (rows.drop 1)
      (⟨[], false⟩ :: slots, last)

/-- How many lines two lists have in common at the start. -/
def commonStart : List α → List α → Nat
  | x :: xs, y :: ys => if x = y then commonStart xs ys + 1 else 0
  | _, _ => 0

/-- Puts lines of the base that are still there after others that were aligned. -/
def close (aligned : List (Slot α) × List α) : Nat → List (Slot α) × List α
  | 0 => aligned
  | n + 1 => (aligned.1 ++ ⟨aligned.2, true⟩ :: List.replicate n ⟨[], true⟩, [])

/-- Aligns a side with the base.  What both have in common at the start and at the end is still
there. -/
def align (base side : List α) : List (Slot α) × List α :=
  let start := commonStart base side
  let base := base.drop start
  let side := side.drop start
  let ending := commonStart base.reverse side.reverse
  let base := base.take (base.length - ending)
  let side := side.take (side.length - ending)
  let (slots, last) := close (alignWith base side (lengths base side)) ending
  (List.replicate start ⟨[], true⟩ ++ slots, last)

example : align [1, 2, 3] [0, 1, 3, 4] = ([⟨[0], true⟩, ⟨[], false⟩, ⟨[], true⟩], [4]) := by
  decide

/-! ## Chunks -/

/-- Lines of the base together with what each side made of them. -/
structure Chunk (α : Type) where
  /-- The lines of the base. -/
  base : List α
  /-- The lines of one side. -/
  ours : List α
  /-- The lines of the other side. -/
  theirs : List α
  deriving DecidableEq, Repr

namespace Chunk

/-- The chunk without lines. -/
def empty : Chunk α :=
  ⟨[], [], []⟩

/-- The chunk with more lines on both sides. -/
def add (c : Chunk α) (ours theirs : List α) : Chunk α :=
  { c with ours := c.ours ++ ours, theirs := c.theirs ++ theirs }

/-- The chunk with a line of the base, which at most one side kept. -/
def addBase (c : Chunk α) (x : α) (inOurs inTheirs : Bool) : Chunk α :=
  { c.add (if inOurs then [x] else []) (if inTheirs then [x] else []) with base := c.base ++ [x] }

/-- The lines to take, unless both sides changed the chunk in different ways. -/
def settle? (c : Chunk α) : Option (List α) :=
  if c.ours = c.base then some c.theirs
  else if c.theirs = c.base then some c.ours
  else if c.ours = c.theirs then some c.ours
  else none

end Chunk

/-! ## Merging -/

/-- Merges what is left of the base after a chunk was begun. -/
def mergeFrom? (c : Chunk α) : List α → List (Slot α) × List α → List (Slot α) × List α →
    Option (List α)
  | x :: xs, (a :: as, lastOurs), (b :: bs, lastTheirs) =>
    let c := c.add a.before b.before
    if a.kept && b.kept then do
      let settled ← c.settle?
      let rest ← mergeFrom? Chunk.empty xs (as, lastOurs) (bs, lastTheirs)
      return settled ++ x :: rest
    else mergeFrom? (c.addBase x a.kept b.kept) xs (as, lastOurs) (bs, lastTheirs)
  | _, (_, lastOurs), (_, lastTheirs) => (c.add lastOurs lastTheirs).settle?

/-- Merges two lists that come from one, unless they are in conflict. -/
def merge? (base ours theirs : List α) : Option (List α) :=
  mergeFrom? Chunk.empty base (align base ours) (align base theirs)

example : merge? [1, 2, 3] [0, 2, 3] [1, 2, 4] = some [0, 2, 4] := by decide

example : merge? [1, 2] [0, 2] [1, 3] = none := by decide

/-! ## Texts -/

/-- The lines of a text with their line ends. -/
def fullLines : List Char → List (List Char)
  | [] => []
  | c :: cs =>
    if c = '\n' then ['\n'] :: fullLines cs
    else
      match fullLines cs with
      | [] => [[c]]
      | l :: ls => (c :: l) :: ls

example : fullLines ['a', '\n', '\n', 'b'] = [['a', '\n'], ['\n'], ['b']] := by decide

/-- Merges two texts that come from one, unless they are in conflict. -/
def mergeTexts? (base ours theirs : String) : Option String :=
  let merged := merge? (fullLines base.toList) (fullLines ours.toList) (fullLines theirs.toList)
  merged.map fun ls => String.ofList ls.flatten

end ReleasePlanner.Text.ThreeWay
