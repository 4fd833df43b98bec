/-!
# Lower case of names

The names of settings are written in ASCII, and their case does not matter.  Besides the capital
letters of ASCII there is one letter whose lower case belongs to ASCII, the sign of the unit kelvin;
every other letter stays outside ASCII whatever its case, so it may be left alone.

Main definitions: `Lower.char`, `Lower.text`.
-/

namespace Orchestration
namespace Lower

/-- The sign of the unit kelvin, a capital letter outside ASCII. -/
def kelvin : Char :=
  '\u212a'

/-- The lower case of a character, as far as it belongs to ASCII. -/
def char (c : Char) : Char :=
  if c = kelvin then 'k' else c.toLower

/-- The lower case of a text, as far as it belongs to ASCII. -/
def text (s : String) : String :=
  String.ofList (s.toList.map char)

end Lower
end Orchestration
