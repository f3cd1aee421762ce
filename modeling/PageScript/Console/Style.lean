import PageScript.Script.Expression
import PageScript.Text.LowerCase
import PageScript.Text.Search

namespace PageScript.Console

/-!
# Styles

A style is written by words: attributes, the name of a colour, a colour behind the
word for a background, and an address behind the word for a link.  Two ways to write
one style have the same normal form, and what is no style is compared by its small
letters.  A colour of three parts whose parts are no numbers is a fault.
-/

/-- The attributes of a style, in the order of the normal form. -/
def attributeNames : List String :=
  ["bold", "dim", "italic", "underline", "blink", "blink2", "reverse", "conceal", "strike",
   "underline2", "frame", "encircle", "overline"]

/-- Short words for attributes. -/
def attributeWords : List (String × String) :=
  [("d", "dim"), ("b", "bold"), ("i", "italic"), ("u", "underline"), ("r", "reverse"),
   ("c", "conceal"), ("s", "strike"), ("uu", "underline2"), ("o", "overline")]

/-- The names of colours. -/
def colourNames : List String :=
  ["black", "red", "green", "yellow", "blue", "magenta", "cyan", "white", "bright_black",
   "bright_red", "bright_green", "bright_yellow", "bright_blue", "bright_magenta", "bright_cyan",
   "bright_white", "grey0", "gray0", "navy_blue", "dark_blue", "blue3", "blue1", "dark_green",
   "deep_sky_blue4", "dodger_blue3", "dodger_blue2", "green4", "spring_green4", "turquoise4",
   "deep_sky_blue3", "dodger_blue1", "green3", "spring_green3", "dark_cyan", "light_sea_green",
   "deep_sky_blue2", "deep_sky_blue1", "spring_green2", "cyan3", "dark_turquoise", "turquoise2",
   "green1", "spring_green1", "medium_spring_green", "cyan2", "cyan1", "dark_red", "deep_pink4",
   "purple4", "purple3", "blue_violet", "orange4", "grey37", "gray37", "medium_purple4",
   "slate_blue3", "royal_blue1", "chartreuse4", "dark_sea_green4", "pale_turquoise4",
   "steel_blue", "steel_blue3", "cornflower_blue", "chartreuse3", "cadet_blue", "sky_blue3",
   "steel_blue1", "pale_green3", "sea_green3", "aquamarine3", "medium_turquoise", "chartreuse2",
   "sea_green2", "sea_green1", "aquamarine1", "dark_slate_gray2", "dark_magenta", "dark_violet",
   "purple", "light_pink4", "plum4", "medium_purple3", "slate_blue1", "yellow4", "wheat4",
   "grey53", "gray53", "light_slate_grey", "light_slate_gray", "medium_purple",
   "light_slate_blue", "dark_olive_green3", "dark_sea_green", "light_sky_blue3", "sky_blue2",
   "dark_sea_green3", "dark_slate_gray3", "sky_blue1", "chartreuse1", "light_green",
   "pale_green1", "dark_slate_gray1", "red3", "medium_violet_red", "magenta3", "dark_orange3",
   "indian_red", "hot_pink3", "medium_orchid3", "medium_orchid", "medium_purple2",
   "dark_goldenrod", "light_salmon3", "rosy_brown", "grey63", "gray63", "medium_purple1",
   "gold3", "dark_khaki", "navajo_white3", "grey69", "gray69", "light_steel_blue3",
   "light_steel_blue", "yellow3", "dark_sea_green2", "light_cyan3", "light_sky_blue1",
   "green_yellow", "dark_olive_green2", "dark_sea_green1", "pale_turquoise1", "deep_pink3",
   "magenta2", "hot_pink2", "orchid", "medium_orchid1", "orange3", "light_pink3", "pink3",
   "plum3", "violet", "light_goldenrod3", "tan", "misty_rose3", "thistle3", "plum2", "khaki3",
   "light_goldenrod2", "light_yellow3", "grey84", "gray84", "light_steel_blue1", "yellow2",
   "dark_olive_green1", "honeydew2", "light_cyan1", "red1", "deep_pink2", "deep_pink1",
   "magenta1", "orange_red1", "indian_red1", "hot_pink", "dark_orange", "salmon1", "light_coral",
   "pale_violet_red1", "orchid2", "orchid1", "orange1", "sandy_brown", "light_salmon1",
   "light_pink1", "pink1", "plum1", "gold1", "navajo_white1", "misty_rose1", "thistle1",
   "yellow1", "light_goldenrod1", "khaki1", "wheat1", "cornsilk1", "grey100", "gray100", "grey3",
   "gray3", "grey7", "gray7", "grey11", "gray11", "grey15", "gray15", "grey19", "gray19",
   "grey23", "gray23", "grey27", "gray27", "grey30", "gray30", "grey35", "gray35", "grey39",
   "gray39", "grey42", "gray42", "grey46", "gray46", "grey50", "gray50", "grey54", "gray54",
   "grey58", "gray58", "grey62", "gray62", "grey66", "gray66", "grey70", "gray70", "grey74",
   "gray74", "grey78", "gray78", "grey82", "gray82", "grey85", "gray85", "grey89", "gray89",
   "grey93", "gray93"]

/-- A style, with its attributes switched on or off. -/
structure Style where
  attributes : List (String × Bool) := []
  colour : Option String := none
  background : Option String := none
  link : Option String := none

/-- The attribute that a word stands for. -/
def attributeOf? (word : String) : Option String :=
  if attributeNames.contains word then
    some word
  else
    (attributeWords.find? fun entry => entry.1 == word).map (·.2)

/-- Whether a character is a digit of the basic block. -/
def isColourDigit (c : Char) : Bool :=
  '0' ≤ c && c ≤ '9'

/-- The text between a word with an opening bracket and a closing bracket at the end. -/
def bracketed? (word : String) (s : List Char) : Option (List Char) :=
  let start := word.toList ++ ['(']
  if start.isPrefixOf s && s.getLast? == some ')' then
    some ((s.drop start.length).dropLast)
  else
    none

/-- Why a part of a colour is no number. -/
inductive NumberFault where
  /-- The part is missing. -/
  | missing
  /-- The part has too many digits. -/
  | tooManyDigits (count : Nat)
  deriving Repr, DecidableEq

/-- The text of a fault. -/
def NumberFault.message : NumberFault → String
  | missing => "invalid literal for int() with base 10: ''"
  | tooManyDigits count => Script.tooManyDigitsMessage count

/-- The greatest number in a colour. -/
def colourLimit : Nat :=
  255

/-- The number that the digits of a part of a colour write. -/
def colourPart (digits : List Char) : Except NumberFault Nat :=
  if digits.isEmpty then .error .missing
  else if Decimal.digitLimit < digits.length then .error (.tooManyDigits digits.length)
  else .ok (Text.digitsValue digits)

/-- Whether digits write the number of a colour. -/
def isColourNumber (s : List Char) : Bool :=
  !s.isEmpty && s.length ≤ 3 && s.all isColourDigit && Text.digitsValue s ≤ colourLimit

/-- Whether a text is three numbers of a colour with commas between them. -/
def isColourTriple (s : List Char) : Except NumberFault Bool :=
  let parts := Text.splitAt ',' s
  if parts.length = 3 && s.all fun c => c = ',' || Text.isDecimalDigit c then
    (parts.mapM colourPart).map fun numbers => numbers.all fun number => number ≤ colourLimit
  else
    .ok false

/-- Whether a word in small letters names a colour. -/
def isColour (word : String) : Except NumberFault Bool :=
  let s := word.toList
  if word == "default" || colourNames.contains word then
    .ok true
  else
    match s with
    | '#' :: digits =>
        .ok (digits.length = 6 && digits.all fun c => isColourDigit c || ('a' ≤ c && c ≤ 'f'))
    | _ =>
        match bracketed? "color" s, bracketed? "rgb" s with
        | some number, _ => .ok (isColourNumber number)
        | none, some numbers => isColourTriple numbers
        | none, none => .ok false

/-- A word in small letters. -/
def smallWord (word : String) : String :=
  String.ofList (Text.lower word.toList)

namespace Style

/-- Switch an attribute on or off. -/
def withAttribute (style : Style) (name : String) (on : Bool) : Style :=
  { style with attributes := (name, on) :: style.attributes.filter fun entry => entry.1 != name }

/-- A style with a colour behind the text, if the word names one. -/
def withBackground? (style : Style) (word : String) : Except NumberFault (Option Style) :=
  let colour := smallWord word
  (isColour colour).map fun named =>
    if named then some { style with background := some colour } else none

/-- A style with an attribute switched off, if the word stands for one. -/
def without? (style : Style) (word : String) : Option Style :=
  (attributeOf? word).map fun name => style.withAttribute name false

/-- A style with an attribute switched on or a colour, if the word stands for one. -/
def with? (style : Style) (word : String) : Except NumberFault (Option Style) :=
  match attributeOf? word with
  | some name => .ok (some (style.withAttribute name true))
  | none =>
      (isColour word).map fun named =>
        if named then some { style with colour := some word } else none

/-- Read the words of a style; some words belong to the word before them. -/
def ofWords? (style : Style) : List String → Except NumberFault (Option Style)
  | [] => .ok (some style)
  | [only] => style.with? (smallWord only)
  | first :: second :: rest => do
      match smallWord first with
      | "on" =>
          match ← style.withBackground? second with
          | some next => ofWords? next rest
          | none => pure none
      | "not" =>
          match style.without? second with
          | some next => ofWords? next rest
          | none => pure none
      | "link" => ofWords? { style with link := some second } rest
      | word =>
          match ← style.with? word with
          | some next => ofWords? next (second :: rest)
          | none => pure none

/-- Read a style. -/
def ofText? (s : List Char) : Except NumberFault (Option Style) :=
  if Text.trim s = "none".toList then .ok (some {})
  else ofWords? {} ((Text.words s).map String.ofList)

/-- The words of a style in the order of the normal form. -/
def words (style : Style) : List String :=
  let attributes :=
    attributeNames.filterMap fun name =>
      (style.attributes.find? fun entry => entry.1 == name).map fun entry =>
        if entry.2 then name else "not " ++ name
  attributes ++ style.colour.toList ++
    (style.background.map fun colour => "on " ++ colour).toList ++
    (style.link.map fun address => "link " ++ address).toList

/-- The text of the normal form. -/
def text (style : Style) : String :=
  if style.words.isEmpty then "none" else String.intercalate " " style.words

end Style

/-- The normal form of the name of a style. -/
def normalStyle (name : List Char) : Except NumberFault String :=
  (Style.ofText? name).map fun style =>
    match style with
    | some known => known.text
    | none => smallWord (String.ofList (Text.trim name))

end PageScript.Console
