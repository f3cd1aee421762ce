import PageScript.Text.LowerCase

namespace PageScript.Text

/-!
# Letters that differ in case only

Two characters are the same letter when their small letters agree, or are
variants of one letter, such as the long s, the dotless i or the final sigma.
-/

/-- Variants of a small letter, each with the letter that stands for its class. -/
def letterVariants : List (Nat × Nat) :=
  [(0x0131, 0x0069), (0x017F, 0x0073), (0x03BC, 0x00B5), (0x03B9, 0x0345), (0x1FBE, 0x0345),
   (0x1FD3, 0x0390), (0x1FE3, 0x03B0), (0x03D0, 0x03B2), (0x03F5, 0x03B5), (0x03D1, 0x03B8),
   (0x03F0, 0x03BA), (0x03D6, 0x03C0), (0x03F1, 0x03C1), (0x03C3, 0x03C2), (0x03D5, 0x03C6),
   (0x1C80, 0x0432), (0x1C81, 0x0434), (0x1C82, 0x043E), (0x1C83, 0x0441), (0x1C84, 0x0442),
   (0x1C85, 0x0442), (0x1C86, 0x044A), (0x1C87, 0x0463), (0xA64B, 0x1C88), (0x1E9B, 0x1E61),
   (0xFB06, 0xFB05)]

/-- The letter that stands for all characters which differ from `c` in case only. -/
def letterOf (c : Char) : Char :=
  let small := if c = 'İ' then 'i' else lowerChar c
  if small.toNat < 0x80 then
    small
  else
    match letterVariants.lookup small.toNat with
    | some code => Char.ofNat code
    | none => small

/-- Whether two characters differ in case only. -/
def sameLetter (a b : Char) : Bool :=
  letterOf a == letterOf b

/-- The rest of a text after `expected`, compared letter by letter without regard to case. -/
def afterLetters? : List Char → List Char → Option (List Char)
  | [], s => some s
  | _ :: _, [] => none
  | e :: expected, c :: rest => if sameLetter e c then afterLetters? expected rest else none

end PageScript.Text
