import PageScript.Json.Reader
import PageScript.Record
import PageScript.World.Access

namespace PageScript.World

/-!
# Surroundings from a description

A record describes surroundings: the files below a top directory with their texts
or bytes, further directories, the working directory, the environment, and the
answers of servers.  After a run, the files that differ from the first ones can be
listed.
-/

/-- The bytes that pairs of digits of base sixteen write, up to the first pair that is none. -/
def bytesOfDigits : List Char → List UInt8
  | high :: low :: rest =>
      match Json.hexDigit? high, Json.hexDigit? low with
      | some x, some y => UInt8.ofNat (x * 16 + y) :: bytesOfDigits rest
      | _, _ => []
  | _ => []

/-- The bytes that a description gives: a text, or digits of base sixteen. -/
def describedBytes : Value → ByteArray
  | .text text => text.toUTF8
  | value => ⟨(bytesOfDigits (value.textField "hex" "").toList).toArray⟩

/-- The description of bytes: their text if they are one, and digits of base sixteen otherwise. -/
def bytesDescription (bytes : ByteArray) : Value :=
  match String.fromUTF8? bytes with
  | some text => .text text
  | none =>
      Value.record
        [("hex",
          .text (String.ofList (bytes.toList.flatMap fun byte => Text.hexDigits 2 byte.toNat)))]

/-- A file, with the directories above it. -/
def FileTree.putFile (tree : FileTree) (location : Location) (bytes : ByteArray) : FileTree :=
  (tree.putDirectories location.dropLast).put location (.file bytes)

/-- The location of a written path seen from a location. -/
def Location.below (top : Location) (path : String) : Location :=
  (Path.ofString path).locate top

/-- The described answer of a server. -/
def Response.ofDescription (value : Value) : Response :=
  ⟨(value.integerField "status" 200).toNat, value.textField "reason" "OK",
    value.textField "text" ""⟩

/-- The files and directories that a record describes. -/
def FileTree.ofDescription (top : Location) (description : Value) : FileTree :=
  let withTop := (FileTree.mk ⟨[]⟩).putDirectories top
  let withDirectories :=
    (description.itemsOf "dirs").foldl
      (fun tree path => tree.putDirectories (Location.below top path.asText)) withTop
  (description.fieldsOf "files").foldl
    (fun tree file => tree.putFile (Location.below top file.1) (describedBytes file.2))
    withDirectories

/--
The surroundings that a record describes, with the top directory as home unless the
environment names one.
-/
def Surroundings.ofDescription (top : Location) (description : Value) : Surroundings :=
  let directory := Location.below top (description.textField "cwd" "")
  let environment : Table String String :=
    Table.ofList ((description.fieldsOf "env").map fun entry => (entry.1, entry.2.asText))
  { files := (FileTree.ofDescription top description).putDirectories directory
    directory := directory
    home := (environment.get? "HOME").getD (Surroundings.locationText top)
    environment := environment
    pages :=
      Table.ofList ((description.fieldsOf "http").map fun entry =>
        (entry.1, Response.ofDescription entry.2)) }

/-- Whether a file is new or has other bytes than before. -/
def isChanged (before : FileTree) (top : Location) (path : Path) (bytes : ByteArray) : Bool :=
  match before.entry? (top ++ path.parts) with
  | some (.file earlier) => earlier.toList != bytes.toList
  | _ => true

/-- The files below a directory that are new or changed, in the order of their paths. -/
def changedFiles (top : Location) (before after : FileTree) : List (String × Value) :=
  let changed :=
    (after.filesBelow top).filter fun file => isChanged before top file.1 file.2
  (changed.map fun file => (file.1.toString, bytesDescription file.2)).mergeSort
    fun a b => decide (a.1 ≤ b.1)

/-- A call as a list of its parts. -/
def Call.listing : Call → Value
  | .backend name baseDirectory => .list [.text "backend", .text name, .text baseDirectory]
  | .framework name version => .list [.text "framework", .text name, .text version]
  | .function name arguments => .list [.text "function", .text name, .list arguments]
  | .hook owner event arguments => .list [.text "hook", .text owner, .text event, .list arguments]
  | .fetch url timeout => .list [.text "http", .text url, timeout]
  | .subscriber label value => .list [.text "subscriber", .text label, value]

/-- The calls so far. -/
def Surroundings.callListing (surroundings : Surroundings) : Value :=
  .list (surroundings.calls.map Call.listing)

/-- Forget the calls and the log events so far. -/
def Surroundings.forget (surroundings : Surroundings) : Surroundings :=
  { surroundings with calls := [], log := [] }

end PageScript.World
