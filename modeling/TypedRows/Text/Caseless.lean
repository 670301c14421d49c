import TypedRows.Text.LetterCase
/-!
# Characters that differ in case only

Two characters differ in case only if they have the same lower case form, or lower case forms that share an upper case
form: the long s and the s, the two lower case sigmas. `caseMates` gives the code points that differ from a character
in case only, the character among them.
-/

namespace TypedRows.Text

/-- The lower case letters that share an upper case form. -/
def sharedUpper : List (List Nat) :=
  [[0x69, 0x131], [0x73, 0x17F], [0xB5, 0x3BC], [0x345, 0x3B9, 0x1FBE], [0x390, 0x1FD3],
   [0x3B0, 0x1FE3], [0x3B2, 0x3D0], [0x3B5, 0x3F5], [0x3B8, 0x3D1], [0x3BA, 0x3F0], [0x3C0, 0x3D6],
   [0x3C1, 0x3F1], [0x3C2, 0x3C3], [0x3C6, 0x3D5], [0x432, 0x1C80], [0x434, 0x1C81], [0x43E, 0x1C82],
   [0x441, 0x1C83], [0x442, 0x1C84, 0x1C85], [0x44A, 0x1C86], [0x463, 0x1C87], [0x1C88, 0xA64B],
   [0x1E61, 0x1E9B], [0xFB05, 0xFB06]]

/-- The first character of the lower case form. -/
def plainLower (c : Char) : Char := (lowerChar c).headD c

/-- The code points whose lower case form begins with the given one. -/
def loweredTo (codePoint : Nat) : List Nat :=
  let shifted := lowerRuns.filterMap fun run =>
    let letter := ((codePoint : Int) - run.shift).toNat
    if run.has letter then some letter else none
  let expanded := lowerExpansions.filterMap fun entry =>
    if entry.2.head? == some codePoint then some entry.1 else none
  codePoint :: (shifted ++ expanded)

/-- The code points that differ from a character in case only, and its own. -/
def caseMates (c : Char) : List Nat :=
  let lower := (plainLower c).toNat
  ((sharedUpper.find? fun letters => letters.contains lower).getD [lower]).flatMap loweredTo

/-- The same within ASCII. -/
def asciiCaseMates (c : Char) : List Nat := [c.toNat, c.toLower.toNat, c.toUpper.toNat]

end TypedRows.Text
