import Diagnostics.Text.Raw

/-!
# Terminal styling

`Style.apply` puts the ANSI codes of a style in front of a text and the reset code
behind it. `Ansi.strip` removes control sequences: the escape character, `[`,
parameter characters, intermediate characters and one final character. It scans once
from the left and holds back what may still turn out to be a sequence.
-/

namespace Diagnostics

/-- The terminal colours in use. -/
inductive Color
  | black
  | red
  | green
  | yellow
  | blue
  | brightBlack
  | brightRed
  | brightYellow
  | brightBlue
  | brightCyan
deriving DecidableEq, Repr

/-- The code that selects a colour for the text; the background code is ten more. -/
def Color.code : Color → Nat
  | .black => 30
  | .red => 31
  | .green => 32
  | .yellow => 33
  | .blue => 34
  | .brightBlack => 90
  | .brightRed => 91
  | .brightYellow => 93
  | .brightBlue => 94
  | .brightCyan => 96

/-- How a text is styled. -/
structure Style where
  foreground : Option Color := none
  background : Option Color := none
  bold : Bool := false
  dim : Bool := false
  underline : Bool := false
deriving DecidableEq, Repr

namespace Ansi

/-- The escape character. -/
def esc : Char := '\x1b'

/-- The sequence that selects a rendition. -/
def select (code : Nat) : List Char :=
  esc :: '[' :: Nat.toDigits 10 code ++ ['m']

end Ansi

/-- The rendition codes of a style in the order in which they are written. -/
def Style.codes (s : Style) : List Nat :=
  s.foreground.toList.map Color.code ++ s.background.toList.map (Color.code · + 10)
    ++ (if s.bold then [1] else []) ++ (if s.dim then [2] else []) ++ (if s.underline then [4] else [])

/-- The characters of a styled text. -/
def Style.applyChars (s : Style) (cs : List Char) : List Char :=
  s.codes.flatMap Ansi.select ++ cs ++ Ansi.select 0

/-- The text with the codes of the style in front and the reset code behind. -/
def Style.apply (s : Style) (text : String) : String :=
  String.ofList (s.applyChars text.toList)

/-- The raw text with the codes of the style in front and the reset code behind. -/
def Style.applyRaw (s : Style) (text : RawText) : RawText :=
  String.ofList (s.codes.flatMap Ansi.select) ++ text ++ String.ofList (Ansi.select 0)

namespace Ansi

/-- How far a control sequence has been recognised. -/
inductive Phase
  /-- Outside of any sequence. -/
  | plain
  /-- Behind the escape character. -/
  | escape
  /-- Behind `[` and perhaps parameters. -/
  | parameters
  /-- Behind an intermediate character. -/
  | intermediates
deriving DecidableEq, Repr

/-- A parameter character of a sequence. -/
def isParameter (c : Char) : Bool :=
  '0' ≤ c && c ≤ '?'

/-- An intermediate character of a sequence. -/
def isIntermediate (c : Char) : Bool :=
  ' ' ≤ c && c ≤ '/'

/-- The character ends a sequence. -/
def isFinal (c : Char) : Bool :=
  '@' ≤ c && c ≤ '~'

/-- What one more character makes of a scan: the next phase with what it holds back, or `none` when
a sequence is complete or there is none. -/
def Phase.next? : Phase → Char → Option Phase
  | .plain, c => if c = esc then some .escape else none
  | .escape, c => if c = '[' then some .parameters else none
  | .parameters, c =>
    if isParameter c then some .parameters
    else if isIntermediate c then some .intermediates
    else none
  | .intermediates, c => if isIntermediate c then some .intermediates else none

/-- The character completes the sequence that is being scanned. -/
def Phase.completes : Phase → Char → Bool
  | .parameters, c | .intermediates, c => isFinal c
  | _, _ => false

/-- Strips the rest of a text; `held` is what has been read of a possible sequence. A character
that breaks off a sequence releases what was held and may itself start another. -/
def stripFrom : Phase → List Char → List Char → List Char
  | _, held, [] => held
  | phase, held, c :: cs =>
    match phase.next? c with
    | some next => stripFrom next (held ++ [c]) cs
    | none =>
      if phase.completes c then stripFrom .plain [] cs
      else if c = esc then held ++ stripFrom .escape [c] cs
      else held ++ c :: stripFrom .plain [] cs

/-- The characters without their control sequences. -/
def stripChars (cs : List Char) : List Char :=
  stripFrom .plain [] cs

/-- The text without its control sequences. -/
def strip (text : String) : String :=
  String.ofList (stripChars text.toList)

end Ansi

end Diagnostics
