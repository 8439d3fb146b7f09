/-
# Styles of marked-up text

A style is named by words: attributes such as `bold`, each with a short form and each negated by
`not`; a colour for the text; one for the background, behind `on`; and an address, behind `link`.
Names that say the same in other words or in another order are names of one style, so that the end
of a style need not repeat the words of its start.

A colour may be mixed from the numbers of its three parts.  Leaving one of them out is not just a
colour that is not known: it is a fault, and there is no style then.
-/
import CrateSync.Text.Blank
import CrateSync.Text.Case
import CrateSync.Text.Identifier

namespace CrateSync.Style

/-! ## Colours -/

/-- The colours that have a name. -/
def colourNames : List Text := List.map String.toList
  ["default", "black", "red", "green", "yellow", "blue", "magenta", "cyan", "white",
    "bright_black", "bright_red", "bright_green", "bright_yellow", "bright_blue",
    "bright_magenta", "bright_cyan", "bright_white", "grey0", "gray0", "navy_blue", "dark_blue",
    "blue3", "blue1", "dark_green", "deep_sky_blue4", "dodger_blue3", "dodger_blue2", "green4",
    "spring_green4", "turquoise4", "deep_sky_blue3", "dodger_blue1", "green3", "spring_green3",
    "dark_cyan", "light_sea_green", "deep_sky_blue2", "deep_sky_blue1", "spring_green2", "cyan3",
    "dark_turquoise", "turquoise2", "green1", "spring_green1", "medium_spring_green", "cyan2",
    "cyan1", "dark_red", "deep_pink4", "purple4", "purple3", "blue_violet", "orange4", "grey37",
    "gray37", "medium_purple4", "slate_blue3", "royal_blue1", "chartreuse4", "dark_sea_green4",
    "pale_turquoise4", "steel_blue", "steel_blue3", "cornflower_blue", "chartreuse3",
    "cadet_blue", "sky_blue3", "steel_blue1", "pale_green3", "sea_green3", "aquamarine3",
    "medium_turquoise", "chartreuse2", "sea_green2", "sea_green1", "aquamarine1",
    "dark_slate_gray2", "dark_magenta", "dark_violet", "purple", "light_pink4", "plum4",
    "medium_purple3", "slate_blue1", "yellow4", "wheat4", "grey53", "gray53", "light_slate_grey",
    "light_slate_gray", "medium_purple", "light_slate_blue", "dark_olive_green3",
    "dark_sea_green", "light_sky_blue3", "sky_blue2", "dark_sea_green3", "dark_slate_gray3",
    "sky_blue1", "chartreuse1", "light_green", "pale_green1", "dark_slate_gray1", "red3",
    "medium_violet_red", "magenta3", "dark_orange3", "indian_red", "hot_pink3", "medium_orchid3",
    "medium_orchid", "medium_purple2", "dark_goldenrod", "light_salmon3", "rosy_brown", "grey63",
    "gray63", "medium_purple1", "gold3", "dark_khaki", "navajo_white3", "grey69", "gray69",
    "light_steel_blue3", "light_steel_blue", "yellow3", "dark_sea_green2", "light_cyan3",
    "light_sky_blue1", "green_yellow", "dark_olive_green2", "dark_sea_green1", "pale_turquoise1",
    "deep_pink3", "magenta2", "hot_pink2", "orchid", "medium_orchid1", "orange3", "light_pink3",
    "pink3", "plum3", "violet", "light_goldenrod3", "tan", "misty_rose3", "thistle3", "plum2",
    "khaki3", "light_goldenrod2", "light_yellow3", "grey84", "gray84", "light_steel_blue1",
    "yellow2", "dark_olive_green1", "honeydew2", "light_cyan1", "red1", "deep_pink2",
    "deep_pink1", "magenta1", "orange_red1", "indian_red1", "hot_pink", "dark_orange", "salmon1",
    "light_coral", "pale_violet_red1", "orchid2", "orchid1", "orange1", "sandy_brown",
    "light_salmon1", "light_pink1", "pink1", "plum1", "gold1", "navajo_white1", "misty_rose1",
    "thistle1", "yellow1", "light_goldenrod1", "khaki1", "wheat1", "cornsilk1", "grey100",
    "gray100", "grey3", "gray3", "grey7", "gray7", "grey11", "gray11", "grey15", "gray15",
    "grey19", "gray19", "grey23", "gray23", "grey27", "gray27", "grey30", "gray30", "grey35",
    "gray35", "grey39", "gray39", "grey42", "gray42", "grey46", "gray46", "grey50", "gray50",
    "grey54", "gray54", "grey58", "gray58", "grey62", "gray62", "grey66", "gray66", "grey70",
    "gray70", "grey74", "gray74", "grey78", "gray78", "grey82", "gray82", "grey85", "gray85",
    "grey89", "gray89", "grey93", "gray93"]

/-- What a text means where a colour is expected. -/
inductive ColourReading where
  | colour
  | noColour
  /-- A mixed colour with a part left out. -/
  | missingPart
  deriving DecidableEq, Repr

/-- The number that decimal digits write, if they are digits and at least one. -/
def number? (t : Text) : Option Nat :=
  if t.isEmpty then none
  else (t.mapM Text.decimalDigit?).map fun digits => digits.foldl (fun n d => n * 10 + d) 0

/-- What stands between a word with an opening bracket and a closing bracket at the end. -/
def arguments? (word t : Text) : Option Text :=
  (Text.after? word t).bind fun rest =>
    if rest.getLast? = some ')' then some rest.dropLast else none

/-- Whether a colour is given by six hexadecimal digits. -/
def isHexColour (t : Text) : Bool :=
  match t with
  | '#' :: digits => digits.length = 6 && digits.all fun c => c.isDigit || ('a' ≤ c && c ≤ 'f')
  | _ => false

/-- Whether a colour is given by its number in the table of 256 colours. -/
def isNumberedColour (t : Text) : Bool :=
  match arguments? "color(" t with
  | some digits =>
    1 ≤ digits.length && digits.length ≤ 3 && digits.all Char.isDigit
      && Text.digitsValue 10 digits ≤ 255
  | none => false

/-- Whether a text lists numbers, some of which may be left out. -/
def isNumberList (t : Text) : Bool :=
  !t.isEmpty && t.all fun c => c = ',' || (Text.decimalDigit? c).isSome

/-- What a text means as a colour given by its three parts. -/
def readMixedColour (t : Text) : ColourReading :=
  match arguments? "rgb(" t with
  | none => .noColour
  | some list =>
    if isNumberList list then
      match Text.splitOn ',' list with
      | [red, green, blue] =>
        match number? red, number? green, number? blue with
        | some red, some green, some blue =>
          if red ≤ 255 ∧ green ≤ 255 ∧ blue ≤ 255 then .colour else .noColour
        | _, _, _ => .missingPart
      | _ => .noColour
    else .noColour

/-- What a word in lower case means as a colour. -/
def readColour (t : Text) : ColourReading :=
  if colourNames.contains t || isHexColour t || isNumberedColour t then .colour
  else readMixedColour t

/-! ## Attributes -/

/-- The attributes, in the order in which a style names them. -/
def attributes : List Text :=
  ["bold", "dim", "italic", "underline", "blink", "blink2", "reverse", "conceal", "strike",
    "underline2", "frame", "encircle", "overline"]

/-- The short forms of attributes. -/
def shortForms : List (Text × Text) :=
  [("b", "bold"), ("d", "dim"), ("i", "italic"), ("u", "underline"), ("r", "reverse"),
    ("c", "conceal"), ("s", "strike"), ("uu", "underline2"), ("o", "overline")]

/-- The attribute that a word names. -/
def attribute? (word : Text) : Option Text :=
  if attributes.contains word then some word else shortForms.lookup word

/-! ## Names of styles -/

/-- What the words of a style say. -/
structure Description where
  attributes : List (Text × Bool)
  colour : Option Text
  background : Option Text
  address : Option Text
  deriving Repr

/-- A style about which nothing has been said. -/
def Description.plain : Description :=
  ⟨[], none, none, none⟩

/-- Why a style cannot be made out. -/
inductive Fault where
  /-- A mixed colour has a part left out. -/
  | missingPart
  deriving DecidableEq, Repr

/-- The wording of a fault. -/
def Fault.message : Fault → Text
  | .missingPart => "invalid literal for int() with base 10: ''"

/-- Whether a word names a colour. -/
def checkColour (word : Text) : Except Fault Bool :=
  match readColour (Text.lower word) with
  | .colour => .ok true
  | .noColour => .ok false
  | .missingPart => .error .missingPart

/-- What words say in addition to a description; none if one of them says nothing. -/
def describe? : Description → List Text → Except Fault (Option Description)
  | d, [] => .ok (some d)
  | d, word :: rest =>
    let small := Text.lower word
    if small = "on" then
      match rest with
      | colour :: rest => do
        if ← checkColour colour then
          describe? { d with background := some (Text.lower colour) } rest
        else return none
      | [] => .ok none
    else if small = "not" then
      match rest with
      | word :: rest =>
        match attribute? word with
        | some a => describe? { d with attributes := (a, false) :: d.attributes } rest
        | none => .ok none
      | [] => .ok none
    else if small = "link" then
      match rest with
      | address :: rest => describe? { d with address := some address } rest
      | [] => .ok none
    else
      match attribute? small with
      | some a => describe? { d with attributes := (a, true) :: d.attributes } rest
      | none => do
        if ← checkColour small then describe? { d with colour := some small } rest
        else return none

/-- The words of a text, between blanks. -/
def words (t : Text) : List Text :=
  (Text.splitOn ' ' (t.map fun c => if Text.isBlank c then ' ' else c)).filter fun w =>
    !w.isEmpty

/-- The style that a text names. -/
def named? (t : Text) : Except Fault (Option Description) :=
  if Text.trim t = "none" then .ok (some .plain) else describe? .plain (words t)

/-- The words of a description, in a fixed order. -/
def Description.words (d : Description) : List Text :=
  let attributeWords : List Text := Style.attributes.filterMap fun a =>
    (d.attributes.lookup a).map fun set => if set then a else 'n' :: 'o' :: 't' :: ' ' :: a
  let named (word : Text) (value : Option Text) : List Text :=
    (value.map fun v => word ++ [' '] ++ v).toList
  attributeWords ++ d.colour.toList ++ named "on" d.background ++ named "link" d.address

/-- The one name of a description. -/
def Description.name (d : Description) : Text :=
  if d.words.isEmpty then "none" else Text.joinWith [' '] d.words

/-- The one name of the style that a text names; a text that names none stands for itself in
lower case. -/
def normalName (t : Text) : Except Fault Text :=
  (named? t).map fun
    | some d => d.name
    | none => Text.lower (Text.trim t)

end CrateSync.Style
