/-!
# Terminal styling

A style is a colour, an emphasis, or both.  A styled text starts with the
escape sequence of its colour, then that of its emphasis, and ends with the
reset sequence.  A *palette* says whether styles are applied at all; when they
are not, a styled text is just the text.
-/

namespace ReleasePlanner.Text

/-- Foreground colours. -/
inductive Colour where
  | red
  | green
  | yellow
  | cyan
  deriving DecidableEq

/-- The number a colour has in an escape sequence. -/
def Colour.code : Colour → String
  | .red => "31"
  | .green => "32"
  | .yellow => "33"
  | .cyan => "36"

/-- Ways to set off a text that are not colours. -/
inductive Emphasis where
  | bold
  | dim
  deriving DecidableEq

/-- The number an emphasis has in an escape sequence. -/
def Emphasis.code : Emphasis → String
  | .bold => "1"
  | .dim => "2"

/-- How a piece of text is set off. -/
structure Style where
  /-- Its colour. -/
  colour : Option Colour
  /-- Its emphasis. -/
  emphasis : Option Emphasis

/-- A colour alone. -/
def Style.plain (c : Colour) : Style := ⟨some c, none⟩

/-- An emphasis alone. -/
def Style.accent (e : Emphasis) : Style := ⟨none, some e⟩

/-- An escape sequence that switches something on or off. -/
def escape (code : String) : String :=
  "\x1b[" ++ code ++ "m"

/-- Whether styles are applied. -/
inductive Palette where
  | plain
  | coloured
  deriving DecidableEq

/-- `text` set off by `style`, where the palette applies styles. -/
def Palette.paint (palette : Palette) (style : Style) (text : String) : String :=
  match palette with
  | .plain => text
  | .coloured =>
    let colour := (style.colour.map fun c => escape c.code).getD ""
    let emphasis := (style.emphasis.map fun e => escape e.code).getD ""
    if style.colour.isNone && style.emphasis.isNone then text
    else colour ++ emphasis ++ text ++ escape "0"

end ReleasePlanner.Text
