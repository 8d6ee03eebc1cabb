import ReleasePlanner.Shell.Condition
import ReleasePlanner.Shell.Format
import ReleasePlanner.Shell.Word

/-!
# Utilities

The commands that scripts are made of: `echo`, `printf` and `test`, and those
on files: `cat`, `cp`, `rm` and `mkdir`.  Each takes its arguments and changes
the session.
-/

namespace ReleasePlanner.Shell.Utility

/-- A name as complaints quote it. -/
def quoted (name : String) : String :=
  "'" ++ name ++ "'"

/-- A complaint of a utility about a name. -/
def fault (s : Session) (text : String) (e : FileError) : Session :=
  (s.complain (text ++ ": " ++ e.message)).finish 1

/-- A complaint about missing operands. -/
def missingOperand (s : Session) (utility what : String) : Session :=
  ((s.complain (utility ++ ": missing " ++ what)).complain
    ("Try '" ++ utility ++ " --help' for more information.")).finish 1

/-- The options, as single letters, and the other arguments. -/
def splitOptions : List String → List Char × List String
  | [] => ([], [])
  | "--" :: rest => ([], rest)
  | "-" :: rest => let (os, names) := splitOptions rest; (os, "-" :: names)
  | a :: rest =>
    let (os, names) := splitOptions rest
    match a.toList with
    | '-' :: '-' :: long => (longOption (String.ofList long) ++ os, names)
    | '-' :: letters => (letters ++ os, names)
    | _ => (os, a :: names)
where
  /-- The letter of a long option. -/
  longOption : String → List Char
    | "recursive" => ['r']
    | "force" => ['f']
    | "parents" => ['p']
    | "archive" => ['a']
    | _ => []

/-! ## Files -/

/-- Writes files to the standard output. -/
def cat (s : Session) (arguments : List String) : Session :=
  let names := (splitOptions arguments).2
  (if names.isEmpty then ["-"] else names).foldl one (s.finish 0)
where
  /-- Writes one file. -/
  one (s : Session) (name : String) : Session :=
    if name = "-" then { s.print s.input with input := "" }
    else if name = "/dev/null" then s
    else
      match (s.locate name).bind s.files.read with
      | .ok text => s.print text
      | .error e => fault s ("cat: " ++ name) e

/-- The tree with everything below a place copied to another place. -/
def copyBelow (t : FileTree) (source target : Place) : FileTree :=
  t.nodes.foldl
    (fun u n => if source.isPrefixOf n.1 then u.put (target ++ n.1.drop source.length) n.2 else u)
    (t.put target .directory)

/-- Copies files and, when asked to, directories. -/
def cp (s : Session) (arguments : List String) : Session :=
  let (options, names) := splitOptions arguments
  let recursive := options.any fun c => c = 'r' || c = 'R' || c = 'a'
  match names with
  | [] => missingOperand s "cp" "file operand"
  | [name] => missingOperand s "cp" ("destination file operand after " ++ quoted name)
  | _ =>
    let sources := names.dropLast
    let target := names.getLast?.getD ""
    let place := s.locate target
    let isDirectory := match place with
      | .ok p => s.files.isDirectory p
      | .error _ => false
    if sources.length > 1 && !isDirectory then
      (s.complain ("cp: target " ++ quoted target ++ match place with
        | .ok p =>
          if (s.files.node? p).isSome then ": Not a directory" else ": No such file or directory"
        | .error e => ": " ++ e.message)).finish 1
    else sources.foldl (one recursive target isDirectory) (s.finish 0)
where
  /-- Copies one file or directory. -/
  one (recursive : Bool) (target : String) (intoDirectory : Bool) (s : Session) (name : String) :
      Session :=
    let goal := if intoDirectory then target ++ "/" ++ lastName name else target
    match s.locate name with
    | .error e => fault s ("cp: cannot stat " ++ quoted name) e
    | .ok source =>
      match s.files.node? source, s.locate goal with
      | none, _ => fault s ("cp: cannot stat " ++ quoted name) .missing
      | some (.file _), .error e =>
        fault s ("cp: cannot create regular file " ++ quoted goal)
          (if e = .isDirectory then .notDirectory else e)
      | some (.file text), .ok place =>
        if place = source then
          (s.complain ("cp: " ++ quoted name ++ " and " ++ quoted goal
            ++ " are the same file")).finish 1
        else
          match s.files.write place text with
          | .ok files => { s with files := files }
          | .error e => fault s ("cp: cannot create regular file " ++ quoted goal) e
      | some .directory, place =>
        if !recursive then
          (s.complain ("cp: -r not specified; omitting directory " ++ quoted name)).finish 1
        else
          match place with
          | .error e => fault s ("cp: cannot create directory " ++ quoted goal) e
          | .ok place =>
            match s.files.node? place, s.files.node? place.dropLast with
            | some (.file _), _ =>
              (s.complain ("cp: cannot overwrite non-directory " ++ quoted goal
                ++ " with directory " ++ quoted name)).finish 1
            | none, none => fault s ("cp: cannot create directory " ++ quoted goal) .missing
            | _, _ => { s with files := copyBelow s.files source place }
  /-- The last name of a path. -/
  lastName (path : String) : String :=
    (FileTree.pathNames path).getLast?.getD path

/-- Removes files and, when asked to, directories. -/
def rm (s : Session) (arguments : List String) : Session :=
  let (options, names) := splitOptions arguments
  let force := options.contains 'f'
  let recursive := options.any fun c => c = 'r' || c = 'R'
  if names.isEmpty then if force then s.finish 0 else missingOperand s "rm" "operand"
  else names.foldl (one force recursive) (s.finish 0)
where
  /-- Removes one file or directory. -/
  one (force recursive : Bool) (s : Session) (name : String) : Session :=
    let node? := (s.locate name).bind fun p =>
      match s.files.node? p with
      | some n => .ok (p, n)
      | none => .error .missing
    match node? with
    | .error e => if force then s else fault s ("rm: cannot remove " ++ quoted name) e
    | .ok (place, .file _) => { s with files := s.files.removeAll place }
    | .ok (place, .directory) =>
      if recursive then { s with files := s.files.removeAll place }
      else fault s ("rm: cannot remove " ++ quoted name) .isDirectory

/-- The tree with all directories on the way to a place.  `made` holds the names that were
passed. -/
def makePath (t : FileTree) (made : List String) (place : Place) :
    List String → Except (List String × FileError) FileTree
  | [] => .ok t
  | name :: names =>
    let path := made ++ [name]
    if name = "." then makePath t path place names
    else if name = ".." then makePath t path place.dropLast names
    else
      let next := place ++ [name]
      match t.node? next with
      | some .directory => makePath t path next names
      | some (.file _) => .error (path, if names.isEmpty then .alreadyThere else .notDirectory)
      | none =>
        match t.makeDirectory next with
        | .ok u => makePath u path next names
        | .error e => .error (path, e)

/-- Makes directories. -/
def mkdir (s : Session) (arguments : List String) : Session :=
  let (options, names) := splitOptions arguments
  if names.isEmpty then missingOperand s "mkdir" "operand"
  else names.foldl (one (options.contains 'p')) (s.finish 0)
where
  /-- Makes one directory. -/
  one (parents : Bool) (s : Session) (name : String) : Session :=
    let names := FileTree.pathNames name
    let made :=
      if parents then
        (makePath s.files [] s.dir names).mapError fun (path, e) => ("/".intercalate path, e)
      else (s.files.walk s.dir names >>= s.files.makeDirectory).mapError fun e => (name, e)
    match made with
    | .ok files => { s with files := files }
    | .error (path, e) => fault s ("mkdir: cannot create directory " ++ quoted path) e

/-! ## In the shell itself -/

/-- Goes to another directory. -/
def cd (s : Session) (line : Nat) (arguments : List String) : Session :=
  match arguments with
  | [] => s.finish 0
  | name :: _ =>
    match s.locate name with
    | .ok place =>
      if s.files.isDirectory place then { s with dir := place, status := 0 } else refused name
    | .error _ => refused name
where
  /-- The directory cannot be entered. -/
  refused (name : String) : Session :=
    (s.report line ("cd: can't cd to " ++ name)).finish 2

/-- Asks a condition. -/
def test (s : Session) (line : Nat) (name : String) (arguments : List String) : Session :=
  let inside :=
    if name = "[" then
      if arguments.getLast? = some "]" then .ok arguments.dropLast else .error "missing ]"
    else .ok arguments
  match inside >>= Condition.truth s with
  | .ok true => s.finish 0
  | .ok false => s.finish 1
  | .error text => (s.report line (name ++ ": " ++ text)).finish 2

/-- Writes its arguments as a line. -/
def echo (s : Session) (arguments : List String) : Session :=
  (s.print (Shell.echo arguments).text).finish 0

/-- Writes its arguments by a format. -/
def printf (s : Session) (line : Nat) (arguments : List String) : Session :=
  match (if arguments.head? = some "--" then arguments.drop 1 else arguments) with
  | [] => (s.report line "printf: usage: printf format [arg ...]").finish 2
  | format :: rest =>
    let p := Shell.printf format rest
    let said := p.complaints.foldl (fun t text => t.report line ("printf: " ++ text))
      (s.print p.written.text)
    said.finish (if p.isRefused then 2 else if p.complaints.isEmpty then 0 else 1)

/-- Sets options: a failing command ends the script, or does not. -/
def setOptions (s : Session) (arguments : List String) : Session :=
  (arguments.foldl
    (fun t a =>
      match a.toList with
      | '-' :: letters => if letters.contains 'e' then { t with isStrict := true } else t
      | '+' :: letters => if letters.contains 'e' then { t with isStrict := false } else t
      | _ => t)
    s).finish 0

/-- Sets the variables that are given values. -/
def exportVariables (s : Session) (arguments : List String) : Session :=
  (arguments.foldl
    (fun t a =>
      let cs := a.toList
      let name := cs.takeWhile Word.isNameChar
      if cs[name.length]? = some '=' then t.assign name (cs.drop (name.length + 1)) else t)
    s).finish 0

/-- Removes variables. -/
def unsetVariables (s : Session) (arguments : List String) : Session :=
  { s with
    assigned := s.assigned.filter fun v => !arguments.contains (String.ofList v.1)
    status := 0 }

/-- Ends the script with an exit code. -/
def exit (s : Session) (line : Nat) (arguments : List String) : Session :=
  match arguments with
  | [] => s.stop s.status
  | code :: _ =>
    match Text.digits? code.toList with
    | some n =>
      if code.toList.isEmpty || 2147483647 < n then illegal code else s.stop (n % 256)
    | none => illegal code
where
  /-- The exit code cannot be read. -/
  illegal (code : String) : Session :=
    (s.report line ("exit: Illegal number: " ++ code)).stop 2

/-- Runs a utility by its name. -/
def run (line : Nat) (name : String) (arguments : List String) (s : Session) : Session :=
  match name with
  | ":" | "true" => s.finish 0
  | "false" => s.finish 1
  | "echo" => echo s arguments
  | "printf" => printf s line arguments
  | "cat" => cat s arguments
  | "cp" => cp s arguments
  | "rm" => rm s arguments
  | "mkdir" => mkdir s arguments
  | "test" | "[" => test s line name arguments
  | "cd" => cd s line arguments
  | "exit" => exit s line arguments
  | "set" => setOptions s arguments
  | "export" => exportVariables s arguments
  | "unset" => unsetVariables s arguments
  | _ => (s.report line (name ++ ": not found")).finish 127

/-- Whether a utility is part of the shell in such a way that its failures end the script. -/
def isSpecial (name : String) : Bool :=
  [":", "exit", "set", "export", "unset"].contains name

end ReleasePlanner.Shell.Utility
