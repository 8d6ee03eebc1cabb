/-!
# Lines

A line ends with a line feed, or with a carriage return and a line feed.  The
ends are not part of the lines.  A text that stops right after a line end has
no further, empty line, and a carriage return that no line feed follows is an
ordinary character of its line.

`joinLines` puts single line feeds between lines.
-/

namespace ReleasePlanner.Text

/-- The pieces between the occurrences of `sep`.  There is always one more piece than
occurrences, so the result is never empty. -/
def splitOn (sep : Char) : List Char → List (List Char)
  | [] => [[]]
  | c :: cs =>
    if c = sep then [] :: splitOn sep cs
    else
      match splitOn sep cs with
      | [] => [[c]]
      | piece :: pieces => (c :: piece) :: pieces

/-- The parts before and after the first `sep`, if there is one. -/
def splitAtFirst? (sep : Char) : List Char → Option (List Char × List Char)
  | [] => none
  | c :: cs =>
    if c = sep then some ([], cs)
    else (splitAtFirst? sep cs).map fun parts => (c :: parts.1, parts.2)

/-- A line without the carriage return of its line end. -/
def dropReturn : List Char → List Char
  | [] => []
  | ['\r'] => []
  | c :: cs => c :: dropReturn cs

/-- Drops the line ends of pieces that a line feed follows, all but the last, and the last piece
when it is empty. -/
def closeLines : List (List Char) → List (List Char)
  | [] => []
  | [last] => if last.isEmpty then [] else [last]
  | piece :: pieces => dropReturn piece :: closeLines pieces

/-- The lines of a text. -/
def lines (text : List Char) : List (List Char) :=
  closeLines (splitOn '\n' text)

/-- The first line, empty when there is none. -/
def firstLine (text : List Char) : List Char :=
  (lines text).headD []

/-- Lines put together with single line feeds between them. -/
def joinLines (ls : List (List Char)) : List Char :=
  List.intercalate ['\n'] ls

example : lines ['a', '\r', '\n', '\n', 'b', '\r'] = [['a'], [], ['b', '\r']] := by decide

example : lines ['a', '\n'] = [['a']] ∧ lines [] = [] ∧ lines ['\n'] = [[]] := by decide

end ReleasePlanner.Text
