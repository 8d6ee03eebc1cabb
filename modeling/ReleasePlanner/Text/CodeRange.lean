/-!
# Sets of code points

A set of code points is a sorted array of disjoint ranges, each from a first
to a last member.  The ranges of a property are written as text: hexadecimal
numbers, a range as two of them with a hyphen, and blanks between the ranges.
`CodeRanges.ofLines` reads that text and `CodeRanges.contains` searches the
array by halving.
-/

namespace ReleasePlanner.Text

/-- The value of a hexadecimal digit, lower or upper case. -/
def hexValue? (c : Char) : Option Nat :=
  if c.isDigit then some (c.toNat - 48)
  else if 'a' ≤ c ∧ c ≤ 'f' then some (c.toNat - 87)
  else if 'A' ≤ c ∧ c ≤ 'F' then some (c.toNat - 55)
  else none

/-- Sorted disjoint ranges of code points. -/
structure CodeRanges where
  /-- First and last member of each range. -/
  bounds : Array (Nat × Nat)
  deriving DecidableEq

/-- What has been read of a line of ranges. -/
structure RangeReader where
  /-- The finished ranges. -/
  done : Array (Nat × Nat)
  /-- The first number of the range being read, once a hyphen came. -/
  first : Option Nat
  /-- The number being read. -/
  value : Nat

/-- Finishes the range being read. -/
def RangeReader.close (r : RangeReader) : RangeReader :=
  ⟨r.done.push (r.first.getD r.value, r.value), none, 0⟩

/-- Reads one more character. -/
def RangeReader.step (r : RangeReader) (c : Char) : RangeReader :=
  if c = ' ' then r.close
  else if c = '-' then { r with first := some r.value, value := 0 }
  else { r with value := r.value * 16 + (hexValue? c).getD 0 }

/-- Reads one line, which holds at least one range. -/
def RangeReader.line (done : Array (Nat × Nat)) (text : String) : Array (Nat × Nat) :=
  (text.toList.foldl RangeReader.step ⟨done, none, 0⟩).close.done

/-- The set written on some lines. -/
def CodeRanges.ofLines (ls : List String) : CodeRanges :=
  ⟨ls.foldl RangeReader.line #[]⟩

/-- The range among those from index `lo` up to `hi` that may hold `n`, by halving. -/
def CodeRanges.search (r : CodeRanges) (n : Nat) : Nat → Nat → Nat → Bool
  | 0, _, _ => false
  | fuel + 1, lo, hi =>
    if hi ≤ lo then false
    else
      let mid := (lo + hi) / 2
      match r.bounds[mid]? with
      | none => false
      | some (first, last) =>
        if n < first then r.search n fuel lo mid
        else if last < n then r.search n fuel (mid + 1) hi
        else true

/-- Whether a code point is in the set. -/
def CodeRanges.contains (r : CodeRanges) (n : Nat) : Bool :=
  r.search n (r.bounds.size.log2 + 2) 0 r.bounds.size

example : (CodeRanges.ofLines ["41-5a 61-7a", "aa"]).bounds
    = #[(0x41, 0x5a), (0x61, 0x7a), (0xaa, 0xaa)] := by
  decide

end ReleasePlanner.Text
