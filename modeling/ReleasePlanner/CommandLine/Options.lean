/-!
# Options on a command line

How options and their values are told apart from commands.  An option has a
long name after two dashes and may have a letter after one.  Letters can be
put together, and a value follows as the next argument, after an equals sign,
or right after the letter.  After two dashes alone nothing is an option.

A value is settled when the next option begins or the arguments end.  Only
then it is noticed that a value is missing or that an option is repeated, so
an option that does not exist is reported first.
-/

namespace ReleasePlanner.CommandLine

/-- Why arguments cannot be followed. -/
inductive UsageError where
  /-- Help was asked for. -/
  | helpAsked
  /-- The version was asked for. -/
  | versionAsked
  /-- Nothing was given at all. -/
  | nothingGiven
  /-- Options were given and no command. -/
  | commandMissing
  | commandUnknown
  | argumentUnknown
  /-- An option needs a value. -/
  | valueMissing
  /-- An option takes no value. -/
  | valueUnwanted
  /-- Two options exclude each other, or one is repeated. -/
  | conflict
  deriving DecidableEq, Repr

/-- What an option does. -/
inductive OptionKind where
  | help
  | version
  | flag
  | value (mayBeEmpty : Bool)
  deriving DecidableEq, Repr

/-- An option. -/
structure OptionSpec where
  /-- The long name. -/
  name : String
  /-- The letter. -/
  letter : Option Char
  /-- What it does. -/
  kind : OptionKind
  deriving DecidableEq, Repr

/-- Whether an option takes a value. -/
def OptionSpec.takesValue (o : OptionSpec) : Bool :=
  match o.kind with
  | .value _ => true
  | _ => false

/-- What was found in the arguments so far. -/
structure Scan where
  /-- The options with their values. -/
  found : List (String × String)
  /-- The option that is not settled, with its value once it is known. -/
  pending : Option (OptionSpec × Option String)
  deriving DecidableEq, Repr

namespace Scan

/-- Before any argument. -/
def start : Scan :=
  ⟨[], none⟩

/-- The value of an option. -/
def value? (s : Scan) (name : String) : Option String :=
  s.found.lookup name

/-- Whether an option was given. -/
def has (s : Scan) (name : String) : Bool :=
  (s.value? name).isSome

/-- Whether an option waits for its value. -/
def isWaiting (s : Scan) : Bool :=
  match s.pending with
  | some (_, none) => true
  | _ => false

/-- Notes an option, which must be new. -/
def note (s : Scan) (o : OptionSpec) (value : String) : Except UsageError Scan :=
  if s.has o.name then .error .conflict
  else if value = "" && o.kind = .value false then .error .valueMissing
  else .ok { s with found := s.found ++ [(o.name, value)] }

/-- Settles the option that is not settled. -/
def settle (s : Scan) : Except UsageError Scan :=
  match s.pending with
  | none => .ok s
  | some (_, none) => .error .valueMissing
  | some (o, some value) => { s with pending := none }.note o value

/-- Begins an option, which may have a value attached. -/
def begin (s : Scan) (o : OptionSpec) (attached : Option String) : Except UsageError Scan := do
  let s ← s.settle
  match o.kind, attached with
  | .help, _ => throw .helpAsked
  | .version, _ => throw .versionAsked
  | .flag, _ => s.note o ""
  | .value _, some value => s.note o value
  | .value _, none => return { s with pending := some (o, none) }

/-- Gives a value to the option that waits for one. -/
def supply (s : Scan) (value : String) : Scan :=
  { s with pending := s.pending.map fun p => (p.1, some value) }

/-- Takes an option by its long name. -/
def long (specs : List OptionSpec) (s : Scan) (name : String) (attached : Option String) :
    Except UsageError Scan :=
  match specs.find? fun o => o.name == name with
  | none => .error .argumentUnknown
  | some o => if attached.isSome && !o.takesValue then .error .valueUnwanted else s.begin o attached

/-- Takes options by their letters. -/
def letters (specs : List OptionSpec) : List Char → Scan → Except UsageError Scan
  | [], s => .ok s
  | c :: cs, s =>
    match specs.find? fun o => o.letter == some c with
    | none => .error .argumentUnknown
    | some o =>
      if o.takesValue then
        match cs with
        | [] => s.begin o none
        | '=' :: value => s.begin o (some (String.ofList value))
        | value => s.begin o (some (String.ofList value))
      else (s.begin o none) >>= letters specs cs

end Scan

/-- What an argument looks like. -/
inductive Shape where
  | separator
  | long (name : String) (attached : Option String)
  | letters (cs : List Char)
  | plain

/-- The shape of an argument. -/
def shapeOf (argument : String) : Shape :=
  match argument.toList with
  | ['-', '-'] => .separator
  | '-' :: '-' :: cs =>
    let name := cs.takeWhile (· ≠ '=')
    .long (String.ofList name)
      (if name.length < cs.length then some (String.ofList (cs.drop (name.length + 1))) else none)
  | ['-'] => .plain
  | '-' :: cs => .letters cs
  | _ => .plain

/-- The error of an argument that is neither an option nor a value nor a command. -/
def strayError (commands : List String) : UsageError :=
  if commands.isEmpty then .argumentUnknown else .commandUnknown

/-- Scans arguments up to the first command, which is returned with what follows it. -/
def scan (specs : List OptionSpec) (commands : List String) :
    List String → Scan → Except UsageError (Scan × Option (String × List String))
  | [], s => .ok (s, none)
  | a :: rest, s =>
    if !s.isWaiting && commands.contains a then .ok (s, some (a, rest))
    else
      match shapeOf a with
      | .separator =>
        match rest with
        | [] => .ok (s, none)
        | b :: _ => .error (if commands.contains b then .argumentUnknown else strayError commands)
      | .long name attached => s.long specs name attached >>= scan specs commands rest
      | .letters cs => s.letters specs cs >>= scan specs commands rest
      | .plain =>
        if s.isWaiting then scan specs commands rest (s.supply a)
        else .error (strayError commands)

end ReleasePlanner.CommandLine
