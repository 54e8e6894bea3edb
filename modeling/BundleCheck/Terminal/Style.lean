/-!
# Styled text

Words on a terminal are set off by escape sequences. A sequence starts the style and another one resets
all styles, so where a styled text holds a reset of its own, the style is started again behind it.
-/

namespace BundleCheck

inductive Style where
  | bold
  | dimmed
  | red
  | green
  | yellow
  | cyan
  | boldRed
  | boldYellow
deriving DecidableEq, Repr

namespace Style

/-- The parameters of the sequence that starts the style. -/
def code : Style → String
  | bold => "1"
  | dimmed => "2"
  | red => "31"
  | green => "32"
  | yellow => "33"
  | cyan => "36"
  | boldRed => "1;31"
  | boldYellow => "1;33"

def escape : Char := '\x1b'

/-- The sequence that starts the style. -/
def start (s : Style) : List Char := escape :: '[' :: s.code.toList ++ ['m']

/-- The sequence that ends all styles. -/
def reset : List Char := [escape, '[', '0', 'm']

/-- Starts a style again behind every reset within the text. -/
def restart (start : List Char) : List Char → List Char
  | [] => []
  | '\x1b' :: '[' :: '0' :: 'm' :: rest => reset ++ start ++ restart start rest
  | c :: rest => c :: restart start rest

/-- The text in the style, if colors are wanted. -/
def paint (s : Style) (color : Bool) (text : String) : String :=
  if color then String.ofList (s.start ++ restart s.start text.toList ++ reset) else text

end Style

end BundleCheck
