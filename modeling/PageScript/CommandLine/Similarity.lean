namespace PageScript.CommandLine

/-!
# Similar words

Two words are as similar as the characters that they share in order: the longest
common block first, then the blocks on both sides of it.  Words that share at least
six tenths of their characters are close, and the three closest ones are suggested.
-/

/-- The length of the common start of two words. -/
def commonLength : List Char → List Char → Nat
  | a :: as, b :: bs => if a = b then commonLength as bs + 1 else 0
  | _, _ => 0

/-- A block of characters that two words have in common. -/
structure Block where
  first : Nat
  second : Nat
  length : Nat
  deriving Repr, DecidableEq

/-- The common blocks of two words, in the order of their places. -/
def blocks (left right : List Char) : List Block :=
  (List.range left.length).flatMap fun i =>
    (List.range right.length).map fun j => ⟨i, j, commonLength (left.drop i) (right.drop j)⟩

/-- The longest common block of two words, the first of several. -/
def longestBlock (left right : List Char) : Block :=
  (blocks left right).foldl
    (fun best block => if best.length < block.length then block else best) ⟨0, 0, 0⟩

/-- The number of characters in common blocks; the length of a word is fuel enough. -/
def sharedWithin : Nat → List Char → List Char → Nat
  | 0, _, _ => 0
  | fuel + 1, left, right =>
      let block := longestBlock left right
      if block.length = 0 then
        0
      else
        sharedWithin fuel (left.take block.first) (right.take block.second) + block.length +
          sharedWithin fuel (left.drop (block.first + block.length))
            (right.drop (block.second + block.length))

/-- The similarity of two words: twice the characters in common blocks, out of all characters. -/
structure Similarity where
  shared : Nat
  total : Nat

/-- The similarity of two words. -/
def similarity (left right : String) : Similarity :=
  let a := left.toList
  let b := right.toList
  ⟨2 * sharedWithin a.length a b, a.length + b.length⟩

/-- Whether words are close. -/
def Similarity.isClose (similarity : Similarity) : Bool :=
  6 * similarity.total ≤ 10 * similarity.shared

/-- Whether one candidate comes before another: the more similar one, or the greater word. -/
def isCloser (left right : String × Similarity) : Bool :=
  let a := left.2.shared * right.2.total
  let b := right.2.shared * left.2.total
  b < a || (a = b && right.1 ≤ left.1)

/-- The three candidates that are closest to a word, closest first. -/
def closeMatches (word : String) (candidates : List String) : List String :=
  let measured := candidates.map fun candidate => (candidate, similarity candidate word)
  (((measured.filter fun entry => entry.2.isClose).mergeSort isCloser).take 3).map (·.1)

end PageScript.CommandLine
