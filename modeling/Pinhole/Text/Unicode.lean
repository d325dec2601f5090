/-!
# White space and lower case

White space is what Unicode counts as such.  Lower case is taken only as far as
ASCII letters can come from it: from the capital ASCII letters, from the kelvin
sign and from the capital letter I with a dot.  So a text in lower case is
compared correctly with a word of ASCII letters.
-/

namespace Pinhole.Unicode

def isWhiteSpace (char : Char) : Bool :=
  let number := char.toNat
  (0x09 ≤ number && number ≤ 0x0d) || number = 0x20 || number = 0x85 ||
    number = 0xa0 || number = 0x1680 ||
    (0x2000 ≤ number && number ≤ 0x200a) || number = 0x2028 ||
    number = 0x2029 || number = 0x202f || number = 0x205f || number = 0x3000

/-- Drops white space at both ends. -/
def trim (text : List Char) : List Char :=
  ((text.dropWhile isWhiteSpace).reverse.dropWhile isWhiteSpace).reverse

def lowerChar (char : Char) : List Char :=
  if char = '\u212a' then ['k']
  else if char = '\u0130' then ['i', '\u0307']
  else [char.toLower]

def lower (text : String) : String :=
  String.ofList (text.toList.flatMap lowerChar)

end Pinhole.Unicode
