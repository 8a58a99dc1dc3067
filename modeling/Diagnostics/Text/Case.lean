/-!
# Letter case

`upper` and `lower` are the full case mappings of the Unicode standard as far as
keywords can tell: they are exact on every character whose image consists of ASCII
letters, so a mapped text equals an ASCII keyword exactly when the full mapping
does. A character with any other image is left as it is.
-/

namespace Diagnostics.Text

/-- The characters outside ASCII whose upper-case image consists of ASCII letters. -/
def upperImages : List (Char × List Char) :=
  [('ß', ['S', 'S']), ('ı', ['I']), ('ſ', ['S']), ('ﬀ', ['F', 'F']), ('ﬁ', ['F', 'I']),
    ('ﬂ', ['F', 'L']), ('ﬃ', ['F', 'F', 'I']), ('ﬄ', ['F', 'F', 'L']), ('ﬅ', ['S', 'T']),
    ('ﬆ', ['S', 'T'])]

/-- The characters outside ASCII whose lower-case image is an ASCII letter: the Kelvin sign. -/
def lowerImages : List (Char × List Char) :=
  [('\u212a', ['k'])]

/-- The upper-case image of one character. -/
def upperChar (c : Char) : List Char :=
  (upperImages.lookup c).getD [c.toUpper]

/-- The lower-case image of one character. -/
def lowerChar (c : Char) : List Char :=
  (lowerImages.lookup c).getD [c.toLower]

/-- The text in upper case. -/
def upper (s : String) : String :=
  String.ofList (s.toList.flatMap upperChar)

/-- The text in lower case. -/
def lower (s : String) : String :=
  String.ofList (s.toList.flatMap lowerChar)

end Diagnostics.Text
