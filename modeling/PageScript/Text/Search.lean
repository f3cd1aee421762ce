import PageScript.Text.Blank

namespace PageScript.Text

/-!
# Searching and replacing

A token is looked for from the left, and occurrences that are replaced do not
overlap.  Replacement text is not searched again.
-/

/-- Whether `token` occurs in a text. -/
def occursIn (token : List Char) : List Char → Bool
  | [] => token.isEmpty
  | c :: rest => token.isPrefixOf (c :: rest) || occursIn token rest

/--
Replace the occurrences of `token` by `text`, after `skip` characters of an
occurrence that has been replaced already.
-/
def replaceSkipping
    (token text : List Char) :
    Nat → List Char → List Char
  | _, [] => []
  | skip + 1, _ :: rest => replaceSkipping token text skip rest
  | 0, c :: rest =>
      if token.isPrefixOf (c :: rest) then
        text ++ replaceSkipping token text (token.length - 1) rest
      else
        c :: replaceSkipping token text 0 rest

/--
Replace every occurrence of `token` by `text`, from the left.  The empty token
occurs before each character and at the end.
-/
def replaceAll
    (token text : List Char)
    (s : List Char) :
    List Char :=
  if token.isEmpty then
    s.foldr (fun c rest => text ++ c :: rest) text
  else
    replaceSkipping token text 0 s

/-- The pieces of a text between the occurrences of one character. -/
def splitAt (separator : Char) : List Char → List (List Char)
  | [] => [[]]
  | c :: rest =>
      if c = separator then
        [] :: splitAt separator rest
      else
        match splitAt separator rest with
        | [] => [[c]]
        | first :: others => (c :: first) :: others

/-- The text before the first occurrence of a character and the text after it. -/
def cutAt? (separator : Char) : List Char → Option (List Char × List Char)
  | [] => none
  | c :: rest =>
      if c = separator then
        some ([], rest)
      else
        (cutAt? separator rest).map fun parts => (c :: parts.1, parts.2)

/-- Join pieces with a separator between neighbours. -/
def joinWith (separator : List Char) (pieces : List (List Char)) : List Char :=
  List.intercalate separator pieces

end PageScript.Text
