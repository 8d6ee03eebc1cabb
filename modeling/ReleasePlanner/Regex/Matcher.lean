import ReleasePlanner.Regex.Syntax

/-!
# Matching

A text of `n` characters has `n + 1` places.  A list of marks says which
places can be reached.  `Re.run` takes the places where a match may start to
those where it may end, all at once.  So an expression is matched by passing
marks through its tree, and nothing is ever tried twice.

A repetition without a bound adds the places its body reaches until there are
no new ones.  Every round but the last adds a place, so `n + 1` rounds are
enough.
-/

namespace ReleasePlanner.Regex

/-- The characters around every place of a text, `before` standing in front of it. -/
def places (before : Option Char) : List Char → List (Option Char × Option Char)
  | [] => [(before, none)]
  | c :: text => (before, some c) :: places (some c) text

/-- The places that either list marks. -/
def orMarks (a b : List Bool) : List Bool :=
  List.zipWith or a b

/-- Adds the places `step` reaches, at most `rounds` times, until there are no new ones. -/
def grow (step : List Bool → List Bool) : Nat → List Bool → List Bool
  | 0, marks => marks
  | rounds + 1, marks =>
    let more := orMarks marks (step marks)
    if more == marks then marks else grow step rounds more

/-- Takes `step` a number of times, or until no place is left. -/
def times (step : List Bool → List Bool) : Nat → List Bool → List Bool
  | 0, marks => marks
  | n + 1, marks => if marks.any id then times step n (step marks) else marks

namespace Re

/-- The places where a match may end that starts at one of the marked places. -/
def run (text : List Char) : Re → List Bool → List Bool
  | empty, marks => marks
  | set s, marks =>
    false :: List.zipWith (fun mark c => mark && s.contains c.toNat) marks text
  | look ascii a, marks =>
    List.zipWith (fun mark around => mark && a.holds (inWord ascii) around.1 around.2) marks
      (places none text)
  | cat a b, marks => b.run text (a.run text marks)
  | alt a b, marks => orMarks (a.run text marks) (b.run text marks)
  | rep min max a, marks =>
    let reached := times (fun m => a.run text m) min marks
    match max with
    | none => grow (fun m => a.run text m) (text.length + 1) reached
    | some n => grow (fun m => a.run text m) (n - min) reached

/-- Whether an expression matches somewhere in a text. -/
def matchesIn (a : Re) (text : List Char) : Bool :=
  (a.run text (true :: text.map fun _ => true)).any id

example : (rep 0 none (set (.single 'a'))).run ['a', 'a', 'b'] [true, false, false, false]
    = [true, true, true, false] := by decide

end Re

end ReleasePlanner.Regex
