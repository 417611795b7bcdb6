import BundleWright.Text.Blank
import BundleWright.Text.Digit
import BundleWright.Text.Lower
import BundleWright.Text.Split
/-!
Styles of console text by their definitions: words for properties, colors and links. Two definitions
of one style have the same normal form.
-/
namespace BundleWright.Text

structure Style where
  properties : List (String × Bool) := []
  color : Option String := none
  background : Option String := none
  link : Option String := none

namespace Style

inductive Fault where
  | unknown
  | unreadableNumber
  deriving DecidableEq, Repr

def propertyNames : List (String × Option String) :=
  [("bold", some "b"), ("dim", some "d"), ("italic", some "i"), ("underline", some "u"),
    ("blink", none), ("blink2", none), ("reverse", some "r"), ("conceal", some "c"),
    ("strike", some "s"), ("underline2", some "uu"), ("frame", none), ("encircle", none),
    ("overline", some "o")]

def property? (word : String) : Option String :=
  (propertyNames.find? fun p => p.1 = word || p.2 = some word).map (·.1)

def colorRows : List String := [
  "black red green yellow blue magenta cyan white bright_black bright_red bright_green",
  "bright_yellow bright_blue bright_magenta bright_cyan bright_white grey0 gray0 navy_blue",
  "dark_blue blue3 blue1 dark_green deep_sky_blue4 dodger_blue3 dodger_blue2 green4",
  "spring_green4 turquoise4 deep_sky_blue3 dodger_blue1 green3 spring_green3 dark_cyan",
  "light_sea_green deep_sky_blue2 deep_sky_blue1 spring_green2 cyan3 dark_turquoise turquoise2",
  "green1 spring_green1 medium_spring_green cyan2 cyan1 dark_red deep_pink4 purple4 purple3",
  "blue_violet orange4 grey37 gray37 medium_purple4 slate_blue3 royal_blue1 chartreuse4",
  "dark_sea_green4 pale_turquoise4 steel_blue steel_blue3 cornflower_blue chartreuse3",
  "cadet_blue sky_blue3 steel_blue1 pale_green3 sea_green3 aquamarine3 medium_turquoise",
  "chartreuse2 sea_green2 sea_green1 aquamarine1 dark_slate_gray2 dark_magenta dark_violet",
  "purple light_pink4 plum4 medium_purple3 slate_blue1 yellow4 wheat4 grey53 gray53",
  "light_slate_grey light_slate_gray medium_purple light_slate_blue dark_olive_green3",
  "dark_sea_green light_sky_blue3 sky_blue2 dark_sea_green3 dark_slate_gray3 sky_blue1",
  "chartreuse1 light_green pale_green1 dark_slate_gray1 red3 medium_violet_red magenta3",
  "dark_orange3 indian_red hot_pink3 medium_orchid3 medium_orchid medium_purple2 dark_goldenrod",
  "light_salmon3 rosy_brown grey63 gray63 medium_purple1 gold3 dark_khaki navajo_white3 grey69",
  "gray69 light_steel_blue3 light_steel_blue yellow3 dark_sea_green2 light_cyan3",
  "light_sky_blue1 green_yellow dark_olive_green2 dark_sea_green1 pale_turquoise1 deep_pink3",
  "magenta2 hot_pink2 orchid medium_orchid1 orange3 light_pink3 pink3 plum3 violet",
  "light_goldenrod3 tan misty_rose3 thistle3 plum2 khaki3 light_goldenrod2 light_yellow3 grey84",
  "gray84 light_steel_blue1 yellow2 dark_olive_green1 honeydew2 light_cyan1 red1 deep_pink2",
  "deep_pink1 magenta1 orange_red1 indian_red1 hot_pink dark_orange salmon1 light_coral",
  "pale_violet_red1 orchid2 orchid1 orange1 sandy_brown light_salmon1 light_pink1 pink1 plum1",
  "gold1 navajo_white1 misty_rose1 thistle1 yellow1 light_goldenrod1 khaki1 wheat1 cornsilk1",
  "grey100 gray100 grey3 gray3 grey7 gray7 grey11 gray11 grey15 gray15 grey19 gray19 grey23",
  "gray23 grey27 gray27 grey30 gray30 grey35 gray35 grey39 gray39 grey42 gray42 grey46 gray46",
  "grey50 gray50 grey54 gray54 grey58 gray58 grey62 gray62 grey66 gray66 grey70 gray70 grey74",
  "gray74 grey78 gray78 grey82 gray82 grey85 gray85 grey89 gray89 grey93 gray93"]

def isNamedColor (name : List Char) : Bool :=
  colorRows.any fun row => (splitOn ' ' row.toList).contains name

/-- What stands between a word with its parenthesis and the parenthesis that closes it. -/
def argument? (word : String) (cs : List Char) : Option (List Char) :=
  let inside := (cs.drop (word.length + 1)).dropLast
  if cs = word.toList ++ '(' :: inside ++ [')'] then some inside else none

def isHexDigit (c : Char) : Bool := c.isDigit || ('a' ≤ c && c ≤ 'f')

def numberOf (digits : List Nat) : Nat := digits.foldl (10 * · + ·) 0

def mostLight : Nat := 255

def mostDigits : Nat := 4300

def lightOf (cs : List Char) : Except Fault Nat :=
  let digits := cs.filterMap digitValue?
  if digits.isEmpty || mostDigits < digits.length then .error .unreadableNumber
  else .ok (numberOf digits)

/-- A color is named, numbered, or made of three parts; its name is in small letters. -/
def readColor (word : String) : Except Fault String :=
  let name := lower word
  let cs := name.toList
  let isHex := cs.head? = some '#' && cs.length = 7 && cs.tail.all isHexDigit
  if name = "default" || isNamedColor cs || isHex then .ok name
  else
    match argument? "color" cs, argument? "rgb" cs with
    | some digits, _ =>
      let isShort := !digits.isEmpty && digits.length ≤ 3 && digits.all Char.isDigit
      if isShort && numberOf (digits.filterMap digitValue?) ≤ mostLight then .ok name
      else .error .unknown
    | none, some parts => do
      if parts.isEmpty || !parts.all fun c => c = ',' || (digitValue? c).isSome then
        throw .unknown
      match splitOn ',' parts with
      | [red, green, blue] =>
        let lights ← [red, green, blue].mapM lightOf
        if lights.all (· ≤ mostLight) then return name else throw .unknown
      | _ => throw .unknown
    | none, none => .error .unknown

def setProperty (name : String) (value : Bool) (s : Style) : Style :=
  { s with properties := (name, value) :: s.properties.filter (·.1 ≠ name) }

def ofWords (s : Style) : List String → Except Fault Style
  | [] => .ok s
  | w :: rest =>
    let word := lower w
    if word = "on" then
      match rest with
      | [] => .error .unknown
      | color :: rest => do ofWords { s with background := some (← readColor color) } rest
    else if word = "not" then
      match rest with
      | [] => .error .unknown
      | name :: rest =>
        match property? name with
        | some name => ofWords (s.setProperty name false) rest
        | none => .error .unknown
    else if word = "link" then
      match rest with
      | [] => .error .unknown
      | target :: rest => ofWords { s with link := some target } rest
    else
      match property? word with
      | some name => ofWords (s.setProperty name true) rest
      | none => do ofWords { s with color := some (← readColor word) } rest

def words (cs : List Char) : List String :=
  let words := splitOn ' ' (cs.map fun c => if isBlank c then ' ' else c)
  (words.filter (!·.isEmpty)).map String.ofList

def read (text : String) : Except Fault Style :=
  if strip text = "none" then .ok {} else ofWords {} (words text.toList)

def normalWords (s : Style) : List String :=
  propertyNames.filterMap (fun p => (s.properties.lookup p.1).map fun given =>
    if given then p.1 else "not " ++ p.1) ++
  s.color.toList ++ (s.background.map ("on " ++ ·)).toList ++ (s.link.map ("link " ++ ·)).toList

def normalText (s : Style) : String :=
  match s.normalWords with
  | [] => "none"
  | words => String.intercalate " " words

/-- The normal form of a definition; a text that defines no style is its own in small letters. -/
def normal (text : String) : Except Fault String :=
  match read text with
  | .ok s => .ok s.normalText
  | .error .unknown => .ok (lower (strip text))
  | .error fault => .error fault

end Style

end BundleWright.Text
