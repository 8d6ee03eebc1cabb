import ReleasePlanner.Commit.Message
import ReleasePlanner.Config.Validate
import ReleasePlanner.Lint.Rule

/-!
# Linting commits

A linter holds parsed commits against a lint policy.  Headers that match
the ignore pattern, and headers that git writes on its own, are accepted as
they are.  All other commits are held against every rule, and every violation
is kept.
-/

namespace ReleasePlanner

/-! ## Headers of git -/

namespace Header

/-- Whether `word` follows after some characters of the same line. -/
def reaches (word : List Char) : List Char → Bool
  | [] => word.isEmpty
  | c :: text => word.isPrefixOf (c :: text) || (c != '\n' && reaches word text)

/-- Whether `word` follows after at least one character of the same line. -/
def reachesLater (word : List Char) : List Char → Bool
  | [] => false
  | c :: text => c != '\n' && reaches word text

/-- What a fixed beginning of a header git writes asks of the text after it. -/
inductive Continuation where
  /-- Nothing. -/
  | anything
  /-- That a word follows later on the line. -/
  | later (word : List Char)
  /-- That a word follows, at once or later on the line. -/
  | eventually (word : List Char)

/-- Whether a text continues as asked. -/
def Continuation.allows : Continuation → List Char → Bool
  | anything, _ => true
  | later word, text => reachesLater word text
  | eventually word, text => reaches word text

/-- The beginnings of headers that git writes on its own: merges, reverts and marks for a later
squash. -/
def generatedShapes : List (List Char × Continuation) :=
  [("Merge pull request ".toList, .anything),
   ("Merge branch ".toList, .anything),
   ("Merge remote-tracking branch ".toList, .anything),
   ("Merge tag ".toList, .anything),
   ("Merge ".toList, .later " into ".toList),
   ("Revert \"".toList, .eventually ['"']),
   ("fixup! ".toList, .anything),
   ("squash! ".toList, .anything),
   ("amend! ".toList, .anything),
   ("Automatic merge ".toList, .anything),
   ("Auto-merged ".toList, .later " into ".toList)]

/-- Whether git writes such a header on its own. -/
def isGenerated (header : List Char) : Bool :=
  generatedShapes.any fun shape => (Text.dropWord? shape.1 header).any shape.2.allows

end Header

/-! ## The rules -/

namespace Lint

/-- Does not start with a lower-case letter.  What stands before the first letter does not
count. -/
def startsUpper (text : List Char) : Bool :=
  !((text.find? Text.isAlphabetic).any Text.isLowercase)

/-- Ends with a full stop. -/
def endsWithStop (text : List Char) : Bool :=
  (Text.trimEnd text).getLast? == some '.'

/-- The violation `v`, unless `ok`. -/
def require (ok : Bool) (v : Violation) : List Violation :=
  if ok then [] else [v]

/-- The violations of the type. -/
def typeViolations (p : LintPolicy) (r : ParsedCommit) : List Violation :=
  if r.type = "" then [.noType]
  else
    require (!r.type.toList.any Text.changesInLowercase) (.typeNotLower r.type)
      ++ require (r.kind?.any fun t => p.types.contains t) (.typeNotAllowed r.type p.types)

/-- The violations of the scope. -/
def scopeViolations (p : LintPolicy) (r : ParsedCommit) : List Violation :=
  if p.enforceScopes then
    match r.scope? with
    | some scope => require (p.scopes.contains scope) (.scopeNotAllowed scope p.scopes)
    | none => []
  else []

/-- The violations of the subject. -/
def subjectViolations (r : ParsedCommit) : List Violation :=
  let subject := Text.trim r.subject.toList
  if subject.isEmpty then [.noSubject]
  else
    require (startsUpper subject) .subjectNotUpper
      ++ require (endsWithStop subject) .subjectNoFullStop

/-- The violations of the body. -/
def bodyViolations (r : ParsedCommit) : List Violation :=
  match r.body with
  | none => []
  | some body =>
    require (r.bodyBlanks == 1) (.bodyBlanks r.bodyBlanks)
      ++ require (startsUpper body.toList) .bodyNotUpper
      ++ require (endsWithStop body.toList) .bodyNoFullStop

/-- The violations of the footer. -/
def footerViolations (r : ParsedCommit) : List Violation :=
  match r.footer with
  | none => []
  | some _ => require (r.footerBlanks == 1) (.footerBlanks r.footerBlanks)

/-- The violations of the header as a whole. -/
def headerViolations (p : LintPolicy) (r : ParsedCommit) : List Violation :=
  let length := r.header.toList.length
  require (length ≤ p.headerMaxLength) (.headerTooLong length p.headerMaxLength)

/-- All violations, in the order of the rules. -/
def violations (p : LintPolicy) (r : ParsedCommit) : List Violation :=
  typeViolations p r ++ scopeViolations p r ++ subjectViolations r ++ bodyViolations r
    ++ footerViolations r ++ headerViolations p r

end Lint

/-! ## Linters -/

/-- Holds commits against a lint policy. -/
structure Linter where
  /-- The policy. -/
  policy : LintPolicy
  /-- The expression for headers that are accepted as they are. -/
  bypass : Pattern

namespace Linter

/-- The linter of a policy. -/
def ofPolicy (p : LintPolicy) : Except Error Linter :=
  (p.bypass.map fun pattern => ⟨p, pattern⟩).mapError .config

/-- Whether a commit is accepted without looking at the rules. -/
def bypasses (c : Linter) (r : ParsedCommit) : Bool :=
  c.bypass.isMatch r.header
    || (c.policy.ignoreGitGenerated && Header.isGenerated r.header.toList)

/-- What linting says about a commit. -/
def judge (c : Linter) (r : ParsedCommit) : Verdict :=
  if c.bypasses r then .bypassed else .checked (Lint.violations c.policy r)

end Linter

end ReleasePlanner
