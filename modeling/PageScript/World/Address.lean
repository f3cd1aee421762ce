import PageScript.Text.Quoted
import PageScript.World.HostAddress

namespace PageScript.World

/-!
# Addresses of pages

An address has a scheme, a server and a path.  Control characters and blanks in front
of it and line ends inside it do not count.  A server in brackets has to be a numeric
host address, and no character of a server may stand for a sign that divides addresses.
-/

/-- Why an address is refused. -/
inductive AddressError where
  /-- Brackets are not balanced, or they do not hold the whole host. -/
  | misplacedBrackets
  /-- A host of a later version has no such form. -/
  | unknownVersion
  /-- Brackets hold an address of version 4. -/
  | bracketedVersion4
  /-- Brackets hold no numeric address. -/
  | notNumeric (host : String)
  /-- A character of the server stands for a sign that divides addresses. -/
  | hiddenDivider (server : String)
  deriving Repr, DecidableEq

/-- The text of an error. -/
def AddressError.message : AddressError → String
  | misplacedBrackets => "Invalid IPv6 URL"
  | unknownVersion => "IPvFuture address is invalid"
  | bracketedVersion4 => "An IPv4 address cannot be in brackets"
  | notNumeric host =>
      Text.quotedString host ++ " does not appear to be an IPv4 or IPv6 address"
  | hiddenDivider server =>
      "netloc '" ++ server ++ "' contains invalid characters under NFKC normalization"

/-- The parts of an address that decide where its text is read. -/
structure Address where
  scheme : String
  path : List Char
  deriving Repr, DecidableEq

/-- Whether a character is a letter of the basic block. -/
def isSchemeLetter (c : Char) : Bool :=
  ('a' ≤ c && c ≤ 'z') || ('A' ≤ c && c ≤ 'Z')

/-- Whether a character may stand in a scheme. -/
def isSchemeChar (c : Char) : Bool :=
  isSchemeLetter c || ('0' ≤ c && c ≤ '9') || c = '+' || c = '-' || c = '.'

/-- The text before the first of some characters, and the rest from there. -/
def spanUntil (stops : List Char) (s : List Char) : List Char × List Char :=
  s.span fun c => !stops.contains c

/--
The scheme at the start of an address in small letters, and the rest; a scheme starts with a
letter.
-/
def splitScheme (s : List Char) : List Char × List Char :=
  match Text.cutAt? ':' s with
  | some (before, rest) =>
      if (before.head?.map isSchemeLetter).getD false && before.all isSchemeChar then
        (before.map Char.toLower, rest)
      else
        ([], s)
  | none => ([], s)

/-- The text behind the last occurrence of a character, and the whole text without one. -/
def afterLast (c : Char) (s : List Char) : List Char :=
  (s.reverse.takeWhile (· ≠ c)).reverse

/--
Whether a host names a later version of addresses: a number in base sixteen, a point and
more.
-/
def isLaterVersion (host : List Char) : Bool :=
  let version := (host.drop 1).takeWhile HostAddress.isHexDigit
  match host.drop (version.length + 1) with
  | '.' :: rest => !version.isEmpty && !rest.isEmpty
  | _ => false

/-- Check a host that stands in brackets. -/
def checkBracketedHost (host : List Char) : Except AddressError Unit :=
  if host.head? == some 'v' then
    if isLaterVersion host then .ok () else .error .unknownVersion
  else if HostAddress.isVersion4 host then
    .error .bracketedVersion4
  else if HostAddress.isVersion6 host then
    .ok ()
  else
    .error (.notNumeric (String.ofList host))

/-- Check a server with both brackets; a user before it and a port behind it are left out. -/
def checkBracketedServer (server : List Char) : Except AddressError Unit :=
  let host := afterLast '@' server
  match Text.cutAt? '[' host with
  | none => checkBracketedHost (host.takeWhile (· ≠ ':'))
  | some (before, behind) =>
      let port := (behind.dropWhile (· ≠ ']')).drop 1
      if before.isEmpty && (port.isEmpty || port.head? == some ':') then
        checkBracketedHost (behind.takeWhile (· ≠ ']'))
      else
        .error .misplacedBrackets

/-- Check the brackets of a server. -/
def checkBrackets (server : List Char) : Except AddressError Unit :=
  match server.contains '[', server.contains ']' with
  | true, true => checkBracketedServer server
  | false, false => .ok ()
  | _, _ => .error .misplacedBrackets

/--
Code points whose compatibility form has a slash, a question mark, a number sign, an at sign
or a colon.
-/
def hiddenDividers : List Nat :=
  [0x2047, 0x2048, 0x2049, 0x2100, 0x2101, 0x2105, 0x2106, 0x2A74, 0xFE13, 0xFE16, 0xFE55,
   0xFE56, 0xFE5F, 0xFE6B, 0xFF03, 0xFF0F, 0xFF1A, 0xFF1F, 0xFF20]

/-- Check the server of an address. -/
def checkServer (server : List Char) : Except AddressError Unit :=
  match checkBrackets server with
  | .error error => .error error
  | .ok () =>
      if server.any fun c => hiddenDividers.contains c.toNat then
        .error (.hiddenDivider (String.ofList server))
      else
        .ok ()

/-- The part of a text that counts as an address. -/
def addressText (url : String) : List Char :=
  (url.toList.dropWhile fun c => c ≤ ' ').filter fun c => !(c = '\t' || c = '\r' || c = '\n')

/-- Take an address apart. -/
def Address.ofString (url : String) : Except AddressError Address :=
  let parts := splitScheme (addressText url)
  let located : List Char × List Char :=
    match parts.2 with
    | '/' :: '/' :: rest => spanUntil ['/', '?', '#'] rest
    | rest => ([], rest)
  (checkServer located.1).map fun _ =>
    ⟨String.ofList parts.1, (spanUntil ['?', '#'] located.2).1⟩

end PageScript.World
