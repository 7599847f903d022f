import RemoteBindings.Decimal.Notation
import RemoteBindings.Text.Case
import RemoteBindings.Text.Digits

/-!
# Colors of the console

A color is given by a name, by six hexadecimal digits (`#ff8800`), by its number (`color(208)`) or
by its components (`rgb(255,136,0)`). `colorName` gives the name under which it is known, which is
its text in lower case.
-/

namespace RemoteBindings.Console

/-- Why a word gives no color. -/
inductive ColorFault where
  | unknown
  /-- A component is empty or too long to be a number. -/
  | noNumber
deriving Repr, DecidableEq

/-- The names of colors, grays apart. -/
def namedColors : List String :=
  ["black red green yellow blue magenta cyan white bright_black bright_red bright_green",
   "bright_yellow bright_blue bright_magenta bright_cyan bright_white navy_blue dark_blue",
   "blue3 blue1 dark_green deep_sky_blue4 dodger_blue3 dodger_blue2 green4 spring_green4",
   "turquoise4 deep_sky_blue3 dodger_blue1 green3 spring_green3 dark_cyan light_sea_green",
   "deep_sky_blue2 deep_sky_blue1 spring_green2 cyan3 dark_turquoise turquoise2 green1",
   "spring_green1 medium_spring_green cyan2 cyan1 dark_red deep_pink4 purple4 purple3",
   "blue_violet orange4 medium_purple4 slate_blue3 royal_blue1 chartreuse4 dark_sea_green4",
   "pale_turquoise4 steel_blue steel_blue3 cornflower_blue chartreuse3 cadet_blue",
   "sky_blue3 steel_blue1 pale_green3 sea_green3 aquamarine3 medium_turquoise chartreuse2",
   "sea_green2 sea_green1 aquamarine1 dark_slate_gray2 dark_magenta dark_violet purple",
   "light_pink4 plum4 medium_purple3 slate_blue1 yellow4 wheat4 light_slate_grey",
   "light_slate_gray medium_purple light_slate_blue dark_olive_green3 dark_sea_green",
   "light_sky_blue3 sky_blue2 dark_sea_green3 dark_slate_gray3 sky_blue1 chartreuse1",
   "light_green pale_green1 dark_slate_gray1 red3 medium_violet_red magenta3 dark_orange3",
   "indian_red hot_pink3 medium_orchid3 medium_orchid medium_purple2 dark_goldenrod",
   "light_salmon3 rosy_brown medium_purple1 gold3 dark_khaki navajo_white3",
   "light_steel_blue3 light_steel_blue yellow3 dark_sea_green2 light_cyan3 light_sky_blue1",
   "green_yellow dark_olive_green2 dark_sea_green1 pale_turquoise1 deep_pink3 magenta2",
   "hot_pink2 orchid medium_orchid1 orange3 light_pink3 pink3 plum3 violet",
   "light_goldenrod3 tan misty_rose3 thistle3 plum2 khaki3 light_goldenrod2 light_yellow3",
   "light_steel_blue1 yellow2 dark_olive_green1 honeydew2 light_cyan1 red1 deep_pink2",
   "deep_pink1 magenta1 orange_red1 indian_red1 hot_pink dark_orange salmon1 light_coral",
   "pale_violet_red1 orchid2 orchid1 orange1 sandy_brown light_salmon1 light_pink1 pink1",
   "plum1 gold1 navajo_white1 misty_rose1 thistle1 yellow1 light_goldenrod1 khaki1 wheat1",
   "cornsilk1"].flatMap
    Text.splitBlank

/-- The grays that have a name, by how light they are. -/
def grayLevels : List Nat :=
  [0, 3, 7, 11, 15, 19, 23, 27, 30, 35, 37, 39, 42, 46, 50, 53, 54, 58, 62, 63, 66, 69, 70, 74, 78,
   82, 84, 85, 89, 93, 100]

def grayNames : List String :=
  grayLevels.flatMap fun n => ["grey" ++ toString n, "gray" ++ toString n]

def isNamedColor (word : String) : Bool :=
  word == "default" || namedColors.contains word || grayNames.contains word

/-- What stands between an opening text and a closing parenthesis. -/
def inside? (opening : String) (word : List Char) : Option (List Char) :=
  if opening.toList.isPrefixOf word && word.getLast? == some ')' then
    some (word.drop opening.length).dropLast
  else none

def isHexColor : List Char → Bool
  | '#' :: ds => ds.length == 6 && ds.all Text.isHexDigit
  | _ => false

/-- The number of a color in the palette; it need not be in range. -/
def paletteNumber? (word : List Char) : Option Nat :=
  match inside? "color(" word with
  | none => none
  | some ds =>
    if 1 ≤ ds.length && ds.length ≤ 3 && ds.all Char.isDigit then some (Text.digitsValue 10 ds)
    else none

/-- The components of a color as they are written. -/
def components? (word : List Char) : Option (List (List Char)) :=
  match inside? "rgb(" word with
  | none => none
  | some cs =>
    if !cs.isEmpty && cs.all fun c => c == ',' || (Text.decimalValue? c).isSome then
      some (Text.splitAtChars (· == ',') cs)
    else none

def isComponent (ds : List Char) : Bool := !ds.isEmpty && ds.length ≤ Decimal.maxDigits

def componentValue (ds : List Char) : Nat :=
  ds.foldl (fun n d => 10 * n + (Text.decimalValue? d).getD 0) 0

/-- Whether components make a color: three numbers of eight bits each. -/
def checkComponents (parts : List (List Char)) : Except ColorFault Unit :=
  if parts.length ≠ 3 then .error .unknown
  else if !parts.all isComponent then .error .noNumber
  else if parts.all fun ds => componentValue ds ≤ 255 then .ok ()
  else .error .unknown

/-- The name of the color that a word gives. -/
def colorName (word : String) : Except ColorFault String :=
  let name := Text.lower word
  if isNamedColor name || isHexColor name.toList then .ok name
  else match paletteNumber? name.toList, components? name.toList with
    | some n, _ => if n ≤ 255 then .ok name else .error .unknown
    | none, some parts => (checkComponents parts).map fun _ => name
    | none, none => .error .unknown

end RemoteBindings.Console
