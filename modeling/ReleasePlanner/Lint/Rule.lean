import ReleasePlanner.Commit.Kind
import ReleasePlanner.Text.Decimal

/-!
# Lint rules

The rules for commit messages, and what it means to break one.  A violation
carries what its message names, so the words are made in one place.
-/

namespace ReleasePlanner

/-- A rule for commit messages. -/
inductive Rule where
  | typeEmpty
  | typeEnum
  | typeCase
  | scopeEnum
  | subjectEmpty
  | subjectCase
  | subjectFullStop
  | bodyLeadingBlank
  | bodyCase
  | bodyFullStop
  | footerLeadingBlank
  | headerMaxLength
  deriving DecidableEq, Repr

/-- The name of a rule. -/
def Rule.id : Rule → String
  | .typeEmpty => "type-empty"
  | .typeEnum => "type-enum"
  | .typeCase => "type-case"
  | .scopeEnum => "scope-enum"
  | .subjectEmpty => "subject-empty"
  | .subjectCase => "subject-case"
  | .subjectFullStop => "subject-full-stop"
  | .bodyLeadingBlank => "body-leading-blank"
  | .bodyCase => "body-case"
  | .bodyFullStop => "body-full-stop"
  | .footerLeadingBlank => "footer-leading-blank"
  | .headerMaxLength => "header-max-length"

/-- How a commit message breaks a rule. -/
inductive Violation where
  | noType
  | typeNotLower (type : String)
  | typeNotAllowed (type : String) (allowed : List CommitKind)
  | scopeNotAllowed (scope : String) (allowed : List String)
  | noSubject
  | subjectNotUpper
  | subjectNoFullStop
  | bodyBlanks (found : Nat)
  | bodyNotUpper
  | bodyNoFullStop
  | footerBlanks (found : Nat)
  | headerTooLong (length limit : Nat)
  deriving DecidableEq, Repr

namespace Violation

/-- The rule that is broken. -/
def rule : Violation → Rule
  | noType => .typeEmpty
  | typeNotLower _ => .typeCase
  | typeNotAllowed _ _ => .typeEnum
  | scopeNotAllowed _ _ => .scopeEnum
  | noSubject => .subjectEmpty
  | subjectNotUpper => .subjectCase
  | subjectNoFullStop => .subjectFullStop
  | bodyBlanks _ => .bodyLeadingBlank
  | bodyNotUpper => .bodyCase
  | bodyNoFullStop => .bodyFullStop
  | footerBlanks _ => .footerLeadingBlank
  | headerTooLong _ _ => .headerMaxLength

/-- The words for a violation. -/
def message : Violation → String
  | noType => "header must start with 'type: ' or 'type(scope): '"
  | typeNotLower t => "type '" ++ t ++ "' must be lower-case"
  | typeNotAllowed t allowed =>
    "type '" ++ t ++ "' is not one of [" ++ String.intercalate ", " (allowed.map CommitKind.name)
      ++ "]"
  | scopeNotAllowed s [] => "scope '" ++ s ++ "' is not allowed, no scopes are configured"
  | scopeNotAllowed s allowed =>
    "scope '" ++ s ++ "' is not one of [" ++ String.intercalate ", " allowed ++ "]"
  | noSubject => "subject may not be empty"
  | subjectNotUpper => "subject must start with an upper-case letter"
  | subjectNoFullStop => "subject must end with '.'"
  | bodyBlanks n =>
    "body must be separated from the header by one blank line, found " ++ Text.decimalString n
  | bodyNotUpper => "body must start with an upper-case letter"
  | bodyNoFullStop => "body must end with '.'"
  | footerBlanks n =>
    "footer must be separated from the text above by one blank line, found "
      ++ Text.decimalString n
  | headerTooLong n limit =>
    "header is " ++ Text.decimalString n ++ " characters, the maximum is "
      ++ Text.decimalString limit

/-- The words for a violation, with the name of the rule. -/
def text (v : Violation) : String :=
  v.message ++ " [" ++ v.rule.id ++ "]"

end Violation

/-- What linting says about one commit. -/
inductive Verdict where
  /-- Accepted as it is, without looking at the rules. -/
  | bypassed
  /-- Held against the rules, which gave these violations. -/
  | checked (violations : List Violation)
  deriving DecidableEq, Repr

namespace Verdict

/-- The violations, in the order of the rules. -/
def violations : Verdict → List Violation
  | bypassed => []
  | checked vs => vs

/-- Accepted: bypassed, or without violations. -/
def accepted (v : Verdict) : Bool :=
  v.violations.isEmpty

/-- Accepted without looking at the rules. -/
def isBypass : Verdict → Bool
  | bypassed => true
  | checked _ => false

end Verdict

end ReleasePlanner
