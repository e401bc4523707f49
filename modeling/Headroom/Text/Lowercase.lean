/-!
# Lower case

The lower case of names that are compared with names of ASCII letters.  Beyond
ASCII the Kelvin sign is the only character whose lower case is an ASCII letter,
so every other character can be left as it is: a name that holds one is none of
the names that it is compared with, whatever its case.
-/

namespace Headroom.Text

/-- A character of a name in lower case. -/
def lowerChar (char : Char) : Char := if char = '\u212A' then 'k' else char.toLower

def lowerName (name : String) : String := String.ofList (name.toList.map lowerChar)

end Headroom.Text
