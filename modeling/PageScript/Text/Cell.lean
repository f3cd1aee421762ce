import PageScript.Text.CellRanges

namespace PageScript.Text

/-!
# Cells

A character takes no cell, one cell or two cells of a line: control characters and
combining marks take none, and the characters of East Asian scripts and pictures
take two.  Two characters change what stands beside them: a joiner hides itself and
the character behind it, and a picture mark widens a character of one cell that has
a picture form.  What is shown in one place is a cluster.
-/

/-- The character that joins the next one to what stands before it. -/
def joiner : Char :=
  Char.ofNat 0x200D

/-- The character that asks for the picture form of the one before it. -/
def pictureMark : Char :=
  Char.ofNat 0xFE0F

/-- The number of cells that a character takes by itself. -/
def cellWidth (c : Char) : Nat :=
  if ' ' ≤ c ∧ c ≤ '~' then 1
  else if c.toNat < 0xA0 then 0
  else if c.toNat < 0x300 then 1
  else if covers combiningRanges c then 0
  else if covers wideRanges c then 2
  else 1

/-- The number of cells that a picture mark adds behind the last character that took any. -/
def pictureCells (measured : Option Char) : Nat :=
  if (measured.map (covers pictureFormRanges)).getD false then 1 else 0

/-- A text that is being measured. -/
structure Measure where
  /-- The cells so far. -/
  cells : Nat := 0
  /-- The last character that took a cell, unless a picture mark came behind it. -/
  measured : Option Char := none
  /-- Whether the next character is hidden by a joiner. -/
  hides : Bool := false

/-- Measure a further character. -/
def Measure.add (measure : Measure) (c : Char) : Measure :=
  if measure.hides then
    { measure with hides := false }
  else if c = joiner then
    { measure with hides := true }
  else if c = pictureMark then
    { measure with cells := measure.cells + pictureCells measure.measured, measured := none }
  else
    match cellWidth c with
    | 0 => measure
    | width => { measure with cells := measure.cells + width, measured := some c }

/-- The number of cells that a text takes. -/
def cellLength (s : List Char) : Nat :=
  (s.foldl Measure.add {}).cells

/-- Characters that are shown in one place, and the number of cells they take. -/
structure Cluster where
  characters : List Char
  cells : Nat
  deriving Repr, DecidableEq

/-- A cluster to which characters may still be added; they are kept last first. -/
structure OpenCluster where
  taken : List Char
  cells : Nat
  measured : Option Char
  hides : Bool

namespace OpenCluster

/-- A cluster that starts with a character. -/
def start (c : Char) (width : Nat) : OpenCluster :=
  ⟨[c], width, if width = 0 then none else some c, false⟩

/-- The cluster when nothing more is added. -/
def closed (cluster : OpenCluster) : Cluster :=
  ⟨cluster.taken.reverse, cluster.cells⟩

/-- The cluster with a further character, unless the character starts a cluster of its own. -/
def add? (cluster : OpenCluster) (c : Char) : Option OpenCluster :=
  if cluster.hides then
    some { cluster with taken := c :: cluster.taken, hides := false }
  else if c = joiner then
    some { cluster with taken := c :: cluster.taken, hides := true }
  else if c = pictureMark then
    some
      { cluster with
        taken := c :: cluster.taken
        cells := cluster.cells + pictureCells cluster.measured
        measured := none }
  else if cellWidth c = 0 then
    some { cluster with taken := c :: cluster.taken }
  else
    none

end OpenCluster

/-- The clusters of a text behind an open one. -/
def clustersBehind (cluster : OpenCluster) : List Char → List Cluster
  | [] => [cluster.closed]
  | c :: rest =>
      match cluster.add? c with
      | some longer => clustersBehind longer rest
      | none => cluster.closed :: clustersBehind (OpenCluster.start c (cellWidth c)) rest

/-- The clusters of a text; a joiner or a mark with nothing before it starts one without cells. -/
def clusters : List Char → List Cluster
  | [] => []
  | c :: rest => clustersBehind (OpenCluster.start c (cellWidth c)) rest

end PageScript.Text
