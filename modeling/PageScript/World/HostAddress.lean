import PageScript.Text.Search

namespace PageScript.World.HostAddress

/-!
# Numeric host addresses

An address of version 4 is four octets in base ten.  An address of version 6 is eight
groups of up to four digits in base sixteen; one run of zero groups may be left out,
the last two groups may be written as an address of version 4, and a zone may follow.
-/

/-- Whether a character is a digit in base ten. -/
def isDigit (c : Char) : Bool :=
  '0' ≤ c && c ≤ '9'

/-- Whether a character is a digit in base sixteen. -/
def isHexDigit (c : Char) : Bool :=
  isDigit c || ('a' ≤ c && c ≤ 'f') || ('A' ≤ c && c ≤ 'F')

/-- Whether a text writes a number from 0 to 255 without needless zeros. -/
def isOctet (s : List Char) : Bool :=
  !s.isEmpty && s.all isDigit && s.length ≤ 3 && (s.length = 1 || s.head? != some '0') &&
    s.foldl (fun value c => value * 10 + (c.toNat - 0x30)) 0 ≤ 255

/-- Whether a text is an address of version 4. -/
def isVersion4 (s : List Char) : Bool :=
  let octets := Text.splitAt '.' s
  octets.length = 4 && octets.all isOctet

/-- Whether a text is a group of an address of version 6. -/
def isGroup (s : List Char) : Bool :=
  !s.isEmpty && s.length ≤ 4 && s.all isHexDigit

/-- The groups of an address, where an address of version 4 at the end counts as two. -/
def groups? (s : List Char) : Option (List (List Char)) :=
  let groups := Text.splitAt ':' s
  let last := groups.getLast?.getD []
  if groups.length < 3 then
    none
  else if !last.contains '.' then
    some groups
  else if isVersion4 last then
    some (groups.dropLast ++ [['0'], ['0']])
  else
    none

/--
The groups on one side of the run that is left out, where `outer` is the one farthest from
it.
-/
def sideGroups? (outer : Option (List Char)) (side : List (List Char)) :
    Option (List (List Char)) :=
  if outer != some [] then some side
  else if side.length = 1 then some []
  else none

/--
Whether groups are those of an address; an empty group inside stands for a run that is left
out.
-/
def areGroups (groups : List (List Char)) : Bool :=
  let inner := groups.dropLast.drop 1
  match (inner.filter List.isEmpty).length with
  | 0 => groups.length = 8 && groups.all isGroup
  | 1 =>
      let place := inner.findIdx List.isEmpty + 1
      let before := groups.take place
      let behind := groups.drop (place + 1)
      match sideGroups? before.head? before, sideGroups? behind.getLast? behind with
      | some high, some low => high.length + low.length ≤ 7 && (high ++ low).all isGroup
      | _, _ => false
  | _ => false

/-- An address without its zone; a zone is not empty and holds no second sign for a zone. -/
def withoutZone? (s : List Char) : Option (List Char) :=
  match Text.cutAt? '%' s with
  | none => some s
  | some (address, zone) => if zone.isEmpty || zone.contains '%' then none else some address

/-- Whether a text is an address of version 6. -/
def isVersion6 (s : List Char) : Bool :=
  !s.contains '/' && (((withoutZone? s).bind groups?).map areGroups).getD false

end PageScript.World.HostAddress
