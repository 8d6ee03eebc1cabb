import ReleasePlanner.Text.Lines
import ReleasePlanner.Version.Basic

/-!
# The order of versions

Versions are compared by their three numbers first.  Below a stable version
come its pre-releases.  Two pre-releases are compared identifier by
identifier, where the identifiers of `rc.2` are `rc` and `2`: numeric ones by
value and below the others, the others by their characters, and a proper
beginning below the whole.

A pre-release whose text is not legal, one with an empty identifier or with
leading zeros in a numeric one, has no rank of its own and stands level with
the stable version.
-/

namespace ReleasePlanner

/-- One identifier of a pre-release, as precedence sees it. -/
inductive Identifier where
  | number (value : Nat)
  | word (chars : List Char)
  deriving DecidableEq, Repr

namespace Identifier

/-- Characters that identifiers are made of. -/
def allows (c : Char) : Bool :=
  c.isAlphanum || c == '-'

/-- The identifier a text stands for. -/
def ofChars (cs : List Char) : Identifier :=
  if cs.all Char.isDigit then .number (Text.digitsValue 0 cs) else .word cs

/-- Whether a text is a legal identifier: not empty, of allowed characters, and without leading
zeros when it is numeric. -/
def legal (cs : List Char) : Bool :=
  !cs.isEmpty && cs.all allows
    && !(cs.all Char.isDigit && decide (1 < cs.length) && cs.head? == some '0')

/-- Compares two texts character by character. -/
def compareChars : List Char → List Char → Ordering
  | [], [] => .eq
  | [], _ :: _ => .lt
  | _ :: _, [] => .gt
  | a :: as, b :: bs => (compare a.toNat b.toNat).then (compareChars as bs)

/-- Compares two identifiers. -/
def compare : Identifier → Identifier → Ordering
  | .number m, .number n => Ord.compare m n
  | .number _, .word _ => .lt
  | .word _, .number _ => .gt
  | .word a, .word b => compareChars a b

/-- Compares identifiers one after the other. -/
def compareAll : List Identifier → List Identifier → Ordering
  | [], [] => .eq
  | [], _ :: _ => .lt
  | _ :: _, [] => .gt
  | a :: as, b :: bs => (a.compare b).then (compareAll as bs)

end Identifier

namespace PreRelease

/-- The texts between the points of a pre-release. -/
def pieces (p : PreRelease) : List (List Char) :=
  Text.splitOn '.' p.chars

/-- What a pre-release is ranked by; nothing when its text is not legal. -/
def rank? (p : PreRelease) : Option (List Identifier) :=
  if p.pieces.all Identifier.legal then some (p.pieces.map Identifier.ofChars) else none

end PreRelease

namespace Version

/-- What the part after the numbers is ranked by; nothing for a stable version. -/
def rank? (v : Version) : Option (List Identifier) :=
  v.pre.bind PreRelease.rank?

/-- Compares ranks.  A missing rank is the greatest. -/
def compareRanks : Option (List Identifier) → Option (List Identifier) → Ordering
  | none, none => .eq
  | none, some _ => .gt
  | some _, none => .lt
  | some a, some b => Identifier.compareAll a b

/-- Compares two versions by precedence. -/
def compare (v w : Version) : Ordering :=
  (Ord.compare v.major w.major).then <|
    (Ord.compare v.minor w.minor).then <|
      (Ord.compare v.patch w.patch).then <|
        compareRanks v.rank? w.rank?

/-- Comes before in precedence. -/
def below (v w : Version) : Bool :=
  v.compare w == .lt

/-- Does not come after in precedence. -/
def upTo (v w : Version) : Bool :=
  v.compare w != .gt

/-- Versions in ascending order.  Versions of the same precedence keep their order. -/
def sort (vs : List Version) : List Version :=
  vs.mergeSort upTo

/-- The last of the greatest versions. -/
def last? : List Version → Option Version
  | [] => none
  | v :: vs =>
    match last? vs with
    | none => some v
    | some w => if w.below v then some v else some w

example : below ⟨1, 3, 0, some ⟨"rc", 2⟩⟩ ⟨1, 3, 0, some ⟨"rc", 10⟩⟩ = true := by decide

example : below ⟨1, 3, 0, some ⟨"rc", 1⟩⟩ (stable 1 3 0) = true := by decide

end Version

end ReleasePlanner
