/-!
# Styled text

Colors and weights of text on a terminal. Each is switched on before the text and off after it.
-/

namespace Scaffold.Command.Style

def escape : String := "\x1b["

/-- The text between two control sequences. -/
def between (on off text : String) : String :=
  escape ++ on ++ "m" ++ text ++ escape ++ off ++ "m"

def red (text : String) : String := between "31" "39" text

def green (text : String) : String := between "32" "39" text

def yellow (text : String) : String := between "33" "39" text

def blue (text : String) : String := between "34" "39" text

def cyan (text : String) : String := between "36" "39" text

def bold (text : String) : String := between "1" "0" text

def dimmed (text : String) : String := between "2" "0" text

end Scaffold.Command.Style
