import PageScript.Proofs.Document.SlotText
import PageScript.Proofs.Run.Rendering
import PageScript.Proofs.Text.Run
import PageScript.Run.Host

namespace PageScript.Run

open Document Text

/-!
# Texts made of tokens

A text whose braces all belong to tokens of words is a sequence of characters and
tokens.  Replacing the token of a variable in such a text puts in the new text at
exactly these tokens and keeps all others, and when neither the name of the
variable nor the new text has a brace, the result is such a text again.  So a
series of replacements fills every token with the first text that is put in for
it.  In any text, what is put in for a token leaves the token behind only when it has
a brace or is a part of the name.
-/

/-! ## Tokens of variables -/

/-- No brace occurs in a text. -/
def BraceFree (s : List Char) : Prop :=
  '\x7b' ∉ s ∧ '\x7d' ∉ s

instance (s : List Char) : Decidable (BraceFree s) :=
  inferInstanceAs (Decidable (_ ∧ _))

/-- The characters of the token of a variable. -/
def tokenOf (name : List Char) : List Char :=
  '\x7b' :: '\x7b' :: (name ++ ['\x7d', '\x7d'])

theorem toList_placeholder
    (name : String) :
    (placeholder name).toList = tokenOf name.toList := by
  simp [placeholder, tokenOf]

theorem toList_placeholder_ne_nil
    (name : String) :
    (placeholder name).toList ≠ [] := by
  simp [toList_placeholder, tokenOf]

/-- A text without braces that lies inside a token lies inside the name. -/
theorem BraceFree.infix_of_infix_tokenOf
    {text name : List Char}
    (braceFree : BraceFree text)
    (inside : text <:+: tokenOf name) :
    text <:+: name := by
  obtain ⟨noOpening, noClosing⟩ := braceFree
  have behind : text <:+: name ++ ['\x7d'] ++ ['\x7d'] := by
    have behindBoth :=
      Text.infix_of_infix_cons noOpening (Text.infix_of_infix_cons noOpening inside)
    simpa using behindBoth
  exact
    Text.infix_of_infix_concat noClosing
      (Text.infix_of_infix_concat noClosing behind)

/-- What is put in for a token leaves no token behind if it is no part of the name. -/
theorem BraceFree.clears
    {name text : String}
    (braceFree : BraceFree text.toList)
    (notInside : ¬ text.toList <:+: name.toList)
    (s : String) :
    holdsToken (placeholder name) (replaceToken (placeholder name) text s) =
      false := by
  rw [holdsToken, ← Bool.not_eq_true, Text.occursIn_iff_inside,
    toList_replaceToken (toList_placeholder_ne_nil name), toList_placeholder]
  refine Text.not_infix_replaceSkipping ⟨?_, ?_⟩ braceFree.1 0
  · exact fun inside => notInside (braceFree.infix_of_infix_tokenOf inside)
  · have isBrace : (tokenOf name.toList).getLast? = some '\x7d' := by
      simp [tokenOf, List.getLast?_cons]
    intro last isLast
    obtain rfl := Option.some.inj (isBrace.symm.trans isLast)
    exact braceFree.2

/-! ## Pieces -/

/-- A character, or the token of a name. -/
inductive Piece where
  | plain (c : Char)
  | token (name : List Char)

namespace Piece

/-- The characters of a piece. -/
def written : Piece → List Char
  | plain c => [c]
  | token name => tokenOf name

/-- A character of its own is no brace, and a token has a word as its name. -/
def Fits : Piece → Prop
  | plain c => BraceFree [c]
  | token name => isWord name = true

instance : (piece : Piece) → Decidable piece.Fits
  | plain c => inferInstanceAs (Decidable (BraceFree [c]))
  | token name => inferInstanceAs (Decidable (isWord name = true))

/-- What a piece becomes when a text is put in for the token of a name. -/
def put (name text : List Char) : Piece → List Piece
  | plain c => [plain c]
  | token other => if other = name then text.map plain else [token other]

/-- What a piece shows when some names have texts. -/
def filled (values : String → Option String) : Piece → List Char
  | plain c => [c]
  | token name =>
      match values (String.ofList name) with
      | some text => text.toList
      | none => tokenOf name

end Piece

/-- Braces occur in a text only as parts of tokens of words. -/
def TokensOnly (s : String) : Prop :=
  ∃ pieces : List Piece,
    (∀ piece ∈ pieces, piece.Fits) ∧ pieces.flatMap Piece.written = s.toList

/-- The name of the token that a text starts with. -/
def tokenAt? : List Char → Option (List Char)
  | '\x7b' :: '\x7b' :: rest =>
      let name := rest.takeWhile isWordChar
      if !name.isEmpty && ['\x7d', '\x7d'].isPrefixOf (rest.drop name.length) then
        some name
      else
        none
  | _ => none

/-- Fill the tokens of a text, after `skip` characters of a token that was filled. -/
def fillSkipping (values : String → Option String) : Nat → List Char → List Char
  | _, [] => []
  | skip + 1, _ :: rest => fillSkipping values skip rest
  | 0, c :: rest =>
      match tokenAt? (c :: rest) with
      | some name =>
          (Piece.token name).filled values ++
            fillSkipping values (name.length + 3) rest
      | none => c :: fillSkipping values 0 rest

/-- Show texts for the tokens of some names, all at once. -/
def fillTokens (values : String → Option String) (s : String) : String :=
  String.ofList (fillSkipping values 0 s.toList)

/-- The text of the first value that a name is given. -/
def firstText
    (updates : List (String × Value))
    (name : String) :
    Option String :=
  (updates.find? fun update => update.1 = name).map fun update =>
    substitutionText update.2

/-! ## Tokens in pieces -/

section Pieces

variable {name other text rest : List Char}

/-- No brace is a character of a word. -/
theorem braceFree_of_isWord
    (word : isWord name = true) :
    BraceFree name := by
  rw [isWord, Bool.and_eq_true, List.all_eq_true] at word
  constructor
  · intro member
    exact absurd (word.2 _ member) (by decide)
  · intro member
    exact absurd (word.2 _ member) (by decide)

/-- The token of a name without braces starts a token only if the names agree. -/
theorem eq_of_starts_tokenOf
    (braceFree : BraceFree name)
    (otherBraceFree : BraceFree other)
    (starts : tokenOf name <+: tokenOf other ++ rest) :
    name = other := by
  have cut :
      ∀ {run after : List Char},
        BraceFree run →
          (run ++ '\x7d' :: after).takeWhile (fun c => decide (c ≠ '\x7d')) =
            run := by
    intro run after free
    refine takeWhile_run ?_ (by decide)
    intro c member
    refine decide_eq_true ?_
    rintro rfl
    exact free.2 member
  obtain ⟨after, division⟩ := starts
  have names :
      name ++ '\x7d' :: ('\x7d' :: after) =
        other ++ '\x7d' :: ('\x7d' :: rest) := by
    simpa [tokenOf] using division
  rw [← cut braceFree, names, cut otherBraceFree]

/-- A token starts at no other character than an opening brace. -/
theorem not_starts_tokenOf
    {c : Char}
    (different : c ≠ '\x7b') :
    ¬ tokenOf name <+: c :: rest :=
  fun starts => different (List.cons_prefix_cons.mp starts).1.symm

/-- Characters without an opening brace are kept. -/
theorem replaceSkipping_run
    {run : List Char}
    (absent : '\x7b' ∉ run) :
    replaceSkipping (tokenOf name) text 0 (run ++ rest) =
      run ++ replaceSkipping (tokenOf name) text 0 rest := by
  induction run with
  | nil =>
      rfl
  | cons c others inductionHypothesis =>
      obtain ⟨different, othersAbsent⟩ := not_or.mp (mt List.mem_cons.mpr absent)
      rw [List.cons_append,
        replaceSkipping_cons (not_starts_tokenOf (Ne.symm different)),
        inductionHypothesis othersAbsent]
      rfl

/-- The token of another name is kept. -/
theorem replaceSkipping_other
    (braceFree : BraceFree name)
    (word : isWord other = true)
    (different : other ≠ name) :
    replaceSkipping (tokenOf name) text 0 (tokenOf other ++ rest) =
      tokenOf other ++ replaceSkipping (tokenOf name) text 0 rest := by
  have otherFree := braceFree_of_isWord word
  have notFirst :
      ¬ tokenOf name <+:
        '\x7b' :: '\x7b' :: (other ++ ['\x7d', '\x7d'] ++ rest) := by
    intro starts
    exact different (eq_of_starts_tokenOf braceFree otherFree starts).symm
  -- The second brace starts no token, because the name of this one does not
  -- begin with a brace.
  have notSecond :
      ¬ tokenOf name <+:
        '\x7b' :: (other ++ ['\x7d', '\x7d'] ++ rest) := by
    intro starts
    have second := (List.cons_prefix_cons.mp starts).2
    cases other with
    | nil =>
        cases word
    | cons c others =>
        have isBrace := (List.cons_prefix_cons.mp second).1
        exact otherFree.1 (isBrace ▸ List.mem_cons_self)
  have noBrace : '\x7b' ∉ other ++ ['\x7d', '\x7d'] := by
    simpa using otherFree.1
  have kept :
      replaceSkipping (tokenOf name) text 0
          (other ++ ['\x7d', '\x7d'] ++ rest) =
        other ++ ['\x7d', '\x7d'] ++
          replaceSkipping (tokenOf name) text 0 rest :=
    replaceSkipping_run noBrace
  change
    replaceSkipping (tokenOf name) text 0
        ('\x7b' :: '\x7b' :: (other ++ ['\x7d', '\x7d'] ++ rest)) = _
  rw [replaceSkipping_cons notFirst, replaceSkipping_cons notSecond, kept]
  rfl

/-! ## Replacing in pieces -/

variable {pieces : List Piece}

/-- In pieces that fit, a replacement puts in the text at the tokens of the name. -/
theorem replaceSkipping_written
    (braceFree : BraceFree name)
    (fits : ∀ piece ∈ pieces, piece.Fits) :
    replaceSkipping (tokenOf name) text 0 (pieces.flatMap Piece.written) =
      (pieces.flatMap (Piece.put name text)).flatMap Piece.written := by
  induction pieces with
  | nil =>
      rfl
  | cons piece others inductionHypothesis =>
      obtain ⟨first, othersFit⟩ := List.forall_mem_cons.mp fits
      have later := inductionHypothesis othersFit
      cases piece with
      | plain c =>
          have different : c ≠ '\x7b' := by
            rintro rfl
            exact first.1 List.mem_cons_self
          simp only [List.flatMap_cons, Piece.written, Piece.put,
            List.cons_append, List.nil_append]
          rw [replaceSkipping_cons (not_starts_tokenOf different), later]
      | token other =>
          simp only [List.flatMap_cons, Piece.written, Piece.put,
            List.flatMap_append]
          by_cases same : other = name
          · subst same
            rw [if_pos rfl, replaceSkipping_token (by simp [tokenOf]), later]
            simp [List.flatMap_map, Piece.written]
          · rw [if_neg same, replaceSkipping_other braceFree first same, later]
            simp [Piece.written]

/-- Nothing is put in where the name has no token. -/
theorem flatMap_put_of_not_mem
    (absent : .token name ∉ pieces) :
    pieces.flatMap (Piece.put name text) = pieces := by
  induction pieces with
  | nil =>
      rfl
  | cons piece others inductionHypothesis =>
      obtain ⟨different, othersAbsent⟩ := not_or.mp (mt List.mem_cons.mpr absent)
      rw [List.flatMap_cons, inductionHypothesis othersAbsent]
      cases piece with
      | plain c =>
          rfl
      | token other =>
          have notSame : other ≠ name := by
            rintro rfl
            exact different rfl
          simp [Piece.put, notSame]

/-- A name has a token in pieces that fit exactly if the token is a piece. -/
theorem occursIn_written
    (braceFree : BraceFree name)
    (fits : ∀ piece ∈ pieces, piece.Fits) :
    occursIn (tokenOf name) (pieces.flatMap Piece.written) = true ↔
      .token name ∈ pieces := by
  constructor
  · -- Otherwise erasing the token would change nothing, but it shortens the text.
    intro occurs
    by_contra absent
    have shorter :=
      length_replaceSkipping_nil_lt (by simp [tokenOf]) occurs
    rw [replaceSkipping_written braceFree fits,
      flatMap_put_of_not_mem absent] at shorter
    exact Nat.lt_irrefl _ shorter
  · intro member
    obtain ⟨front, back, rfl⟩ := List.append_of_mem member
    rw [occursIn_iff_inside]
    exact
      ⟨front.flatMap Piece.written, back.flatMap Piece.written, by
        simp [Piece.written]⟩

/-- Pieces that fit still fit when a text without braces is put in. -/
theorem fits_put
    (textFree : BraceFree text)
    (fits : ∀ piece ∈ pieces, piece.Fits) :
    ∀ piece ∈ pieces.flatMap (Piece.put name text), piece.Fits := by
  intro piece member
  obtain ⟨origin, listed, isPut⟩ := List.mem_flatMap.mp member
  have originFits := fits origin listed
  cases origin with
  | plain c =>
      rw [List.mem_singleton.mp isPut]
      exact originFits
  | token other =>
      rw [Piece.put] at isPut
      split at isPut
      · obtain ⟨c, inText, rfl⟩ := List.mem_map.mp isPut
        constructor
        · rintro (_ | ⟨_, ⟨⟩⟩)
          exact textFree.1 inText
        · rintro (_ | ⟨_, ⟨⟩⟩)
          exact textFree.2 inText
      · rw [List.mem_singleton.mp isPut]
        exact originFits

/-- No token is new after a text was put in. -/
theorem token_of_mem_put
    (member : .token other ∈ pieces.flatMap (Piece.put name text)) :
    .token other ∈ pieces := by
  obtain ⟨origin, listed, isPut⟩ := List.mem_flatMap.mp member
  cases origin with
  | plain c =>
      cases List.mem_singleton.mp isPut
  | token first =>
      rw [Piece.put] at isPut
      split at isPut
      · obtain ⟨c, -, isPlain⟩ := List.mem_map.mp isPut
        cases isPlain
      · rw [List.mem_singleton.mp isPut]
        exact listed

/-! ## Filling -/

/-- The token of a word is found with its name. -/
theorem tokenAt?_tokenOf
    (word : isWord name = true) :
    tokenAt? (tokenOf name ++ rest) = some name := by
  have isWord := word
  rw [Text.isWord, Bool.and_eq_true, List.all_eq_true] at isWord
  have taken :
      (name ++ '\x7d' :: '\x7d' :: rest).takeWhile isWordChar = name :=
    takeWhile_run isWord.2 (by decide)
  change
    tokenAt? ('\x7b' :: '\x7b' :: (name ++ ['\x7d', '\x7d'] ++ rest)) = _
  have shape :
      name ++ ['\x7d', '\x7d'] ++ rest = name ++ '\x7d' :: '\x7d' :: rest := by
    simp
  rw [shape, tokenAt?, taken]
  simp [isWord.1]

theorem tokenAt?_cons
    {c : Char}
    (different : c ≠ '\x7b') :
    tokenAt? (c :: rest) = none := by
  rw [tokenAt?.eq_def]
  split
  · next shape =>
      cases shape
      exact absurd rfl different
  · rfl

theorem fillSkipping_skip
    (values : String → Option String)
    (front rest : List Char) :
    fillSkipping values front.length (front ++ rest) =
      fillSkipping values 0 rest := by
  induction front with
  | nil =>
      rfl
  | cons c others inductionHypothesis =>
      exact inductionHypothesis

/-- Filling a text fills its pieces. -/
theorem fillSkipping_written
    (values : String → Option String)
    (fits : ∀ piece ∈ pieces, piece.Fits) :
    fillSkipping values 0 (pieces.flatMap Piece.written) =
      pieces.flatMap (Piece.filled values) := by
  induction pieces with
  | nil =>
      rfl
  | cons piece others inductionHypothesis =>
      obtain ⟨first, othersFit⟩ := List.forall_mem_cons.mp fits
      have later := inductionHypothesis othersFit
      rw [List.flatMap_cons, List.flatMap_cons, ← later]
      cases piece with
      | plain c =>
          have different : c ≠ '\x7b' := by
            rintro rfl
            exact first.1 List.mem_cons_self
          rw [Piece.written, List.singleton_append, fillSkipping,
            tokenAt?_cons different]
          rfl
      | token name =>
          have found :=
            @tokenAt?_tokenOf name (others.flatMap Piece.written) first
          have skipped :=
            fillSkipping_skip values
              ('\x7b' :: (name ++ ['\x7d', '\x7d']))
              (others.flatMap Piece.written)
          rw [Piece.written, tokenOf, List.cons_append, fillSkipping]
          rw [tokenOf, List.cons_append] at found
          rw [found]
          simpa using skipped

/-- Filling after a text was put in shows this text for the name. -/
theorem filled_put
    (values : String → Option String)
    (text : String)
    (piece : Piece) :
    (piece.put name text.toList).flatMap (Piece.filled values) =
      piece.filled fun other =>
        if other = String.ofList name then some text else values other := by
  cases piece with
  | plain c =>
      rfl
  | token other =>
      by_cases same : other = name
      · simp [Piece.put, Piece.filled, same, List.flatMap_map]
      · have different : String.ofList other ≠ String.ofList name :=
          fun equal => same (String.ofList_inj.mp equal)
        simp [Piece.put, Piece.filled, same, different]

end Pieces

end PageScript.Run
