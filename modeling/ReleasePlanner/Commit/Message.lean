import ReleasePlanner.Commit.Parsed
import ReleasePlanner.Text.Unicode.Letter

/-!
# Commit messages

Reading a commit message into its parts.  Lines count without the blanks at
their end.  The first line is the header: a type, an optional scope in
parentheses, an optional exclamation mark for a breaking change, a colon, and
after one space the subject.  A header of another shape is all subject.

The last paragraph of the rest is the footer when its first line is a trailer,
`Token: text` or `Token #12`.  Where no body stands above it, only a breaking
change or a reference with `#` makes it a footer.
-/

namespace ReleasePlanner

namespace Header

/-- Characters of a commit type after the first, which is a letter. -/
def inType (c : Char) : Bool :=
  c.isAlpha || c == '-'

/-- The parts of a header. -/
structure Parts where
  /-- The type. -/
  type : List Char
  /-- What stands in the parentheses. -/
  scope : Option (List Char)
  /-- Whether an exclamation mark follows. -/
  breaking : Bool
  /-- The subject. -/
  subject : List Char
  deriving DecidableEq, Repr

/-- The subject after the colon: nothing, or what follows one space. -/
def subject? : List Char → Option (List Char)
  | [] => some []
  | ' ' :: text => some text
  | _ => none

/-- An exclamation mark, if there is one, then the colon and the subject. -/
def afterScope? : List Char → Option (Bool × List Char)
  | '!' :: ':' :: text => (subject? text).map fun s => (true, s)
  | ':' :: text => (subject? text).map fun s => (false, s)
  | _ => none

/-- The scope, if there is one, then the rest of the header. -/
def afterType? (type : List Char) : List Char → Option Parts
  | '(' :: text => do
    let (scope, rest) ← Text.splitAtFirst? ')' text
    let (breaking, subject) ← afterScope? rest
    some ⟨type, some scope, breaking, subject⟩
  | text => (afterScope? text).map fun rest => ⟨type, none, rest.1, rest.2⟩

/-- Reads a header. -/
def read? : List Char → Option Parts
  | [] => none
  | c :: text =>
    if c.isAlpha then afterType? (c :: text.takeWhile inType) (text.dropWhile inType) else none

example : read? "fix(a b)!: Mend it.".toList = some ⟨['f', 'i', 'x'], some ['a', ' ', 'b'], true,
    "Mend it.".toList⟩ := by decide

end Header

/-! ## Paragraphs -/

namespace Message

/-- How a trailer starts. -/
inductive Trailer where
  /-- A note on a breaking change. -/
  | breaking
  /-- A token with a text. -/
  | token
  /-- A token with a reference. -/
  | reference
  deriving DecidableEq, Repr

/-- Characters of a trailer token after the first, which is a letter. -/
def inToken (c : Char) : Bool :=
  Text.isWord c || c == '-'

/-- The trailer a line starts with, if it is one. -/
def trailer? (line : List Char) : Option Trailer :=
  if breakingTokens.any fun token => (token ++ [' ']).isPrefixOf line then some .breaking
  else
    match line with
    | [] => none
    | c :: text =>
      if c.isAlpha then
        match text.dropWhile inToken with
        | ':' :: ' ' :: _ => some .token
        | ' ' :: '#' :: _ => some .reference
        | _ => none
      else none

/-- Blank lines at the start. -/
def blanksBefore (ls : List (List Char)) : Nat :=
  (ls.takeWhile Text.allBlank).length

/-- Blank lines at the end. -/
def blanksAfter (ls : List (List Char)) : Nat :=
  blanksBefore ls.reverse

/-- Lines without the blank ones at either end, joined; nothing when all are blank. -/
def block? (ls : List (List Char)) : Option (List Char) :=
  if ls.all Text.allBlank then none
  else
    let inner := ((ls.dropWhile Text.allBlank).reverse.dropWhile Text.allBlank).reverse
    some (Text.joinLines inner)

/-- The lines before the last paragraph and those from its start on.  The lines are given last
first. -/
def splitLast (reversed : List (List Char)) : List (List Char) × List (List Char) :=
  let blanks := reversed.takeWhile Text.allBlank
  let rest := reversed.dropWhile Text.allBlank
  let paragraph := rest.takeWhile fun l => !Text.allBlank l
  let above := rest.dropWhile fun l => !Text.allBlank l
  (above.reverse, paragraph.reverse ++ blanks.reverse)

/-- Whether a paragraph that starts with `line` is a footer below the lines `above`. -/
def opensFooter (above : List (List Char)) (line : List Char) : Bool :=
  match trailer? line with
  | none => false
  | some .token => !above.all Text.allBlank
  | some _ => true

/-- The lines of the body and those of the footer. -/
def splitFooter (rest : List (List Char)) : List (List Char) × List (List Char) :=
  match splitLast rest.reverse with
  | (above, line :: more) =>
    if opensFooter above line then (above, line :: more) else (rest, [])
  | (_, []) => (rest, [])

/-- Whether a line of a footer announces a breaking change. -/
def announcesBreaking (footer : List Char) : Bool :=
  (Text.lines footer).any fun line => (afterBreakingToken? line).isSome

/-- The lines of a message without the blanks at their ends. -/
def lines (message : List Char) : List (List Char) :=
  (Text.lines message).map Text.trimEnd

/-- The parts that a header and the lines below it give. -/
def ofLines (header : List Char) (rest : List (List Char)) : ParsedCommit :=
  let parts := (Header.read? header).getD ⟨[], none, false, header⟩
  let (bodyLines, footerLines) := splitFooter rest
  let footer := block? footerLines
  { type := String.ofList parts.type
    scope := parts.scope.map String.ofList
    subject := String.ofList parts.subject
    body := (block? bodyLines).map String.ofList
    footer := footer.map String.ofList
    breaking := parts.breaking || footer.any announcesBreaking
    bodyBlanks := blanksBefore bodyLines
    footerBlanks := blanksAfter bodyLines
    rawHeader := some (String.ofList header) }

/-- Reads a message. -/
def parseChars (message : List Char) : ParsedCommit :=
  match lines message with
  | [] => ofLines [] []
  | header :: rest => ofLines header rest

/-- Reads a message. -/
def parse (message : String) : ParsedCommit :=
  parseChars message.toList

/-- A message without the lines that start with `#`. -/
def stripComments (message : String) : String :=
  String.ofList (Text.joinLines ((Text.lines message.toList).filter fun l => l.head? != some '#'))

end Message

end ReleasePlanner
