import ReleasePlanner.FileTree
import ReleasePlanner.Git.PathPattern

/-!
# Ignored files

A file `.gitignore` lists what is ignored in its directory and below.  The last
pattern of the deepest such file that says anything about a path counts, and a
path that nothing is said of is ignored if its directory is.

A directory that is ignored is not looked into, unless it holds a file that is
already tracked.
-/

namespace ReleasePlanner.Git.Ignore

/-- The patterns of a directory, last one first. -/
def patternsIn (t : FileTree) (dir : Place) : List PathPattern :=
  match t.node? (dir ++ [".gitignore"]) with
  | some (.file text) => ((Text.splitOn '\n' text.toList).filterMap PathPattern.read?).reverse
  | _ => []

/-- Whether a pattern is about a place, given from the directory of the pattern. -/
def isAbout (isDirectory : Bool) (place : Place) (p : PathPattern) : Bool :=
  let text := if p.isPath then FileTree.pathText place else place.getLastD ""
  (!p.onlyDirectories || isDirectory) && p.glob false text.toList

/-- What the patterns of a directory say of a place below it, if anything. -/
def verdictIn? (t : FileTree) (isDirectory : Bool) (place : Place) (depth : Nat) : Option Bool :=
  let p := (patternsIn t (place.take depth)).find? (isAbout isDirectory (place.drop depth))
  p.map fun p => !p.isNegative

/-- What is said of a place in its directory and those above, if anything. -/
def verdict? (t : FileTree) (isDirectory : Bool) (place : Place) : Option Bool :=
  (List.range place.length).reverse.findSome? (verdictIn? t isDirectory place)

/-- Goes down to a place.  What is known of the directory above is given. -/
def hidesBelow (t : FileTree) (holdsTracked : Place → Bool) (isIgnored : Bool) (above : Place) :
    List String → Bool
  | [] => isIgnored
  | name :: names =>
    let place := above ++ [name]
    let isDirectory := !names.isEmpty
    let isIgnored := (verdict? t isDirectory place).getD isIgnored
    if isDirectory && isIgnored && !holdsTracked place then true
    else hidesBelow t holdsTracked isIgnored place names

/-- Whether a file is ignored. -/
def hides (t : FileTree) (holdsTracked : Place → Bool) (place : Place) : Bool :=
  hidesBelow t holdsTracked false [] place

example :
    let t := FileTree.ofFiles
      [([".gitignore"], "*.log\nout/\n"), (["a.log"], ""), (["out", "b"], "")]
    hides t (fun _ => false) ["a.log"] = true ∧ hides t (fun _ => false) ["out", "b"] = true
      ∧ hides t (fun _ => false) ["a"] = false := by decide +kernel

end ReleasePlanner.Git.Ignore
