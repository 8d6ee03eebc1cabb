import ReleasePlanner.Text.Blank

/-!
# The confirmation prompt

A question that is answered with a line of input.  Only `y` and `yes`, in any
case and with any blanks around, confirm.
-/

namespace ReleasePlanner.Prompt

/-- The question as it is shown. -/
def question (text : String) : String :=
  "\n" ++ text ++ " (y/N): "

/-- Whether a line confirms. -/
def confirms (line : List Char) : Bool :=
  let answer := (Text.trim line).map Char.toLower
  answer == ['y'] || answer == ['y', 'e', 's']

/-- Whether the first line of some input confirms. -/
def confirmedBy (input : String) : Bool :=
  confirms (input.toList.takeWhile (· != '\n'))

end ReleasePlanner.Prompt
