import ReleasePlanner.Text.Glob
import ReleasePlanner.Text.Lines

/-!
# Patterns of paths

How a repository is told of paths, in lists of what to commit and in lists of
what to ignore.  An exclamation mark in front turns a pattern around, a slash
at the end leaves only directories, and the first slash is not part of the
pattern.  Patterns that start with a hash are comments.

Where stars do not cross slashes, two stars that are a whole part of the
pattern stand for any number of directories.
-/

namespace ReleasePlanner.Git

/-- A pattern of paths. -/
structure PathPattern where
  /-- The pattern itself. -/
  text : List Char
  /-- Whether it is turned around. -/
  isNegative : Bool
  /-- Whether it has a slash, so that it is about whole paths. -/
  isPath : Bool
  /-- Whether it is about directories only. -/
  onlyDirectories : Bool
  /-- Whether it has a wildcard. -/
  hasWildcard : Bool
  /-- Whether it stands for everything. -/
  isEverything : Bool
  deriving DecidableEq, Repr

namespace PathPattern

/-! ## Reading -/

/-- The part of a text before the first character that ends a pattern. -/
def upToEnd : List Char → List Char
  | '\\' :: c :: cs => '\\' :: c :: upToEnd cs
  | c :: cs => if c.toNat = 10 || c.toNat = 11 || c.toNat = 12 then [] else c :: upToEnd cs
  | [] => []

/-- Whether a text has a wildcard without a backslash before it. -/
def hasFreeWildcard : List Char → Bool
  | '\\' :: _ :: cs => hasFreeWildcard cs
  | c :: cs => c == '*' || c == '?' || c == '[' || hasFreeWildcard cs
  | [] => false

/-- A text, last character first, without the blanks at its end.  A blank after an odd number of
backslashes stays. -/
def dropBlanks : List Char → List Char
  | [] => []
  | c :: cs =>
    if (c == ' ' || c == '\t') && ((cs.takeWhile (· == '\\')).length % 2 == 0) then dropBlanks cs
    else c :: cs

/-- A text without the backslashes in front of blanks. -/
def bareBlanks : List Char → List Char
  | '\\' :: c :: cs =>
    if c == ' ' || (9 ≤ c.toNat && c.toNat ≤ 13) then c :: bareBlanks cs
    else '\\' :: bareBlanks (c :: cs)
  | c :: cs => c :: bareBlanks cs
  | [] => []

/-- A text without one carriage return at its end. -/
def dropLastReturn (cs : List Char) : List Char :=
  if cs.getLast? = some '\r' then cs.dropLast else cs

/-- Reads a pattern, unless it is empty or a comment. -/
def read? (cs : List Char) : Option PathPattern :=
  if cs = ['*'] || cs = ['.'] then some ⟨cs, false, false, false, false, true⟩
  else if cs.head? = some '#' then none
  else
    let isNegative := cs.head? = some '!'
    let whole := upToEnd (if isNegative then cs.drop 1 else cs)
    let body := if whole.head? = some '/' then whole.drop 1 else whole
    let body := (dropBlanks (dropLastReturn body).reverse).reverse
    if body.isEmpty then none
    else
      let onlyDirectories := body.getLast? = some '/'
      let slashes := whole.count '/'
      let isPath := if onlyDirectories then 1 < slashes else 0 < slashes
      let body := if onlyDirectories then body.dropLast else body
      some ⟨bareBlanks body, isNegative, isPath, onlyDirectories, hasFreeWildcard whole, false⟩

example :
    read? ['/', 'd', 'o', 'c', '/'] = some ⟨['d', 'o', 'c'], false, true, true, false, false⟩ := by
  decide

/-! ## Wildcards -/

/-- Reads wildcards.  Whether they may stand for slashes is given.  A bracket that is never closed
and a backslash at the end stand for nothing. -/
def wildcards (crossing : Bool) : Nat → (isPartStart : Bool) → List Char → List Text.Glob
  | 0, _, _ => []
  | _ + 1, _, [] => []
  | n + 1, isPartStart, '*' :: '*' :: cs =>
    let rest := cs.dropWhile (· == '*')
    if crossing || (isPartStart && rest.isEmpty) then
      .many (fun _ => true) :: wildcards crossing n false rest
    else if isPartStart && rest.head? = some '/' then
      .directories :: wildcards crossing n true (rest.drop 1)
    else .many (· != '/') :: wildcards crossing n false rest
  | n + 1, _, '*' :: cs => .many (fun c => crossing || c != '/') :: wildcards crossing n false cs
  | n + 1, _, '?' :: cs => .one (fun c => crossing || c != '/') :: wildcards crossing n false cs
  | _ + 1, _, ['\\'] => [.one fun _ => false]
  | n + 1, _, '\\' :: c :: cs => .one (· == c) :: wildcards crossing n false cs
  | n + 1, _, '[' :: cs =>
    match Text.Glob.readSet? cs with
    | some (test, rest) =>
      .one (fun c => (crossing || c != '/') && test c) :: wildcards crossing n false rest
    | none => [.one fun _ => false]
  | n + 1, _, c :: cs => .one (· == c) :: wildcards crossing n (c == '/') cs

/-- Whether a text follows the wildcards of a pattern. -/
def glob (p : PathPattern) (crossing : Bool) (text : List Char) : Bool :=
  Text.Glob.isMatch (wildcards crossing (p.text.length + 1) true p.text) text

/-! ## Choosing paths -/

/-- Whether a pattern is about a path: the path itself, one that follows the wildcards, or one in a
directory that is named without wildcards.  Stars cross slashes. -/
def covers (p : PathPattern) (path : List Char) : Bool :=
  p.isEverything || p.text == path || p.glob true path
    || (!p.hasWildcard && (p.text ++ ['/']).isPrefixOf path)

/-- Whether a pattern is about a path that itself starts with the mark that turns patterns
around. -/
def coversMarked (p : PathPattern) (path : List Char) : Bool :=
  let marked := '!' :: p.text
  p.isNegative && (marked == path || (marked ++ ['/']).isPrefixOf path)

/-- What a pattern says of a path, if anything. -/
def verdict? (p : PathPattern) (path : List Char) : Option Bool :=
  if p.covers path then some !p.isNegative
  else if p.coversMarked path then some true
  else none

/-- Whether patterns choose a path.  The first that says anything counts, and where there are no
patterns everything is chosen. -/
def choose (ps : List PathPattern) (path : String) : Bool :=
  ps.isEmpty || (ps.findSome? fun p => p.verdict? path.toList).getD false

/-- The patterns of a list of texts. -/
def ofTexts (texts : List String) : List PathPattern :=
  texts.filterMap fun t => read? t.toList

example : choose (ofTexts ["doc/*"]) "doc/a/b" = true ∧ choose (ofTexts ["doc"]) "doc/a" = true
    ∧ choose (ofTexts ["!doc/a", "doc"]) "doc/a" = false := by decide +kernel

end PathPattern

end ReleasePlanner.Git
