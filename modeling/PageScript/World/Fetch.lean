import PageScript.World.Access
import PageScript.World.Address

namespace PageScript.World

/-!
# Fetching pages

An address with a web scheme is asked of a server, an address with the file
scheme names a file with its special characters escaped, and everything else is
the path of a file.
-/

/-- The value of a digit in base sixteen. -/
def hexValue? (c : Char) : Option Nat :=
  if '0' ≤ c ∧ c ≤ '9' then some (c.toNat - 0x30)
  else if 'a' ≤ c ∧ c ≤ 'f' then some (c.toNat - 0x57)
  else if 'A' ≤ c ∧ c ≤ 'F' then some (c.toNat - 0x37)
  else none

/-- The bytes of a text in which escapes stand for bytes. -/
def unescapedBytes : List Char → List UInt8
  | [] => []
  | '%' :: a :: b :: rest =>
      match hexValue? a, hexValue? b with
      | some high, some low => UInt8.ofNat (high * 16 + low) :: unescapedBytes rest
      | _, _ => 0x25 :: unescapedBytes (a :: b :: rest)
  | c :: rest => UInt8.ofNat c.toNat :: unescapedBytes rest

/-- How many continuation bytes follow a first byte, and the bounds of the first of them. -/
def continuation? (byte : UInt8) : Option (Nat × UInt8 × UInt8) :=
  if 0xC2 ≤ byte && byte ≤ 0xDF then some (1, 0x80, 0xBF)
  else if byte = 0xE0 then some (2, 0xA0, 0xBF)
  else if byte = 0xED then some (2, 0x80, 0x9F)
  else if 0xE1 ≤ byte && byte ≤ 0xEF then some (2, 0x80, 0xBF)
  else if byte = 0xF0 then some (3, 0x90, 0xBF)
  else if 0xF1 ≤ byte && byte ≤ 0xF3 then some (3, 0x80, 0xBF)
  else if byte = 0xF4 then some (3, 0x80, 0x8F)
  else none

/--
Read continuation bytes of a character: the character, or nothing where the
bytes break off, and the rest.
-/
def readContinuation :
    Nat → UInt8 → UInt8 → Nat → List UInt8 → Option Char × List UInt8
  | 0, _, _, code, rest => (some (Char.ofNat code), rest)
  | _ + 1, _, _, _, [] => (none, [])
  | count + 1, low, high, code, byte :: rest =>
      if low ≤ byte && byte ≤ high then
        readContinuation count 0x80 0xBF (code * 64 + byte.toNat % 64) rest
      else
        (none, byte :: rest)

/--
The character at the start of some bytes, and the rest; broken bytes give the replacement
character.
-/
def readCharacter (byte : UInt8) (rest : List UInt8) : Char × List UInt8 :=
  if byte < 0x80 then
    (Char.ofNat byte.toNat, rest)
  else
    match continuation? byte with
    | none => ('\ufffd', rest)
    | some (count, low, high) =>
        let first := byte.toNat % Nat.pow 2 (6 - count)
        let read := readContinuation count low high first rest
        (read.1.getD '\ufffd', read.2)

/-- Decode bytes, with `fuel` bounding their number. -/
def decodeBytes : Nat → List UInt8 → List Char
  | 0, _ => []
  | _ + 1, [] => []
  | fuel + 1, byte :: rest =>
      let read := readCharacter byte rest
      read.1 :: decodeBytes fuel read.2

/-- Decode the escapes of a run of characters of the basic block. -/
def unescapeRun (run : List Char) : List Char :=
  let bytes := unescapedBytes run
  decodeBytes bytes.length bytes

/--
Decode the escapes of a text; `run` holds characters of the basic block read so far, last
first.
-/
def unescapeAfter (run : List Char) : List Char → List Char
  | [] => unescapeRun run.reverse
  | c :: rest =>
      if c.toNat < 0x80 then
        unescapeAfter (c :: run) rest
      else
        unescapeRun run.reverse ++ c :: unescapeAfter [] rest

/-- Decode the escapes of the path of an address. -/
def unescapePath (s : List Char) : List Char :=
  unescapeAfter [] s

/-- The file that an address names, unless a server is asked for its page. -/
def Address.file? (address : Address) (url : String) : Option Path :=
  if address.scheme == "http" || address.scheme == "https" then none
  else if address.scheme == "file" then
    some (Path.ofString (String.ofList (unescapePath address.path)))
  else some (Path.ofString url)

namespace Surroundings

/-- What the server of a page answers. -/
def served (surroundings : Surroundings) (url : String) : Except Fault String :=
  match surroundings.pages.get? url with
  | none => .error (.unreachable url)
  | some response =>
      if 400 ≤ response.status ∧ response.status < 600 then
        .error (.errorStatus response.status response.reason url)
      else
        .ok response.text

/-- Ask a server for the text of a page. -/
def ask (surroundings : Surroundings) (url : String) (timeout : Value) :
    Surroundings × Except Fault String :=
  ((surroundings.report ⟨.debug, "hsxctl.infrastructure.fetch", "Fetching " ++ url, []⟩).record
      (.fetch url timeout),
    surroundings.served url)

/-- The text of the page in a file. -/
def readPage (surroundings : Surroundings) (path : Path) : Except Fault String :=
  match surroundings.isFile path with
  | .error fault => .error fault
  | .ok false => .error (.documentNotFound path.toString)
  | .ok true => surroundings.readText path

/-- The text of the page at an address. -/
def fetch (surroundings : Surroundings) (url : String) (timeout : Value) :
    Surroundings × Except Fault String :=
  match Address.ofString url with
  | .error error => (surroundings, .error (.address error))
  | .ok address =>
      match address.file? url with
      | none => surroundings.ask url timeout
      | some path => (surroundings, surroundings.readPage path)

end Surroundings

end PageScript.World
