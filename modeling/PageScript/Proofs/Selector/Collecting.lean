import PageScript.Proofs.Selector.Part

namespace PageScript.Selector

open List

/-!
# Collecting the tests of a compound

The tests of a compound are found one after the other in the text of its parts.
A part that writes a test gives this test.  Between other brackets the reader
looks for tests all the same and goes on after them, unless it finds a
structural test whose argument goes on past the bracket; no such test is
accepted.
-/

/-! ## Collecting tests -/

section Collecting

variable {s rest : List Char} {part : Part} {test : WrittenTest}

theorem writtenTests_skip
    (skip : Nat)
    (s : List Char) :
    writtenTests skip s = writtenTests 0 (s.drop skip) := by
  induction skip generalizing s with
  | zero =>
      rfl
  | succ skip inductionHypothesis =>
      cases s with
      | nil =>
          rfl
      | cons c rest =>
          rw [writtenTests, inductionHypothesis, List.drop_succ_cons]

/-- A part that writes a test is read as the test. -/
theorem writtenTest?_of_writes
    (shape : part.Shape)
    (writes : part.Writes test)
    (ends : PartEnd rest) :
    writtenTest? (part.text ++ rest) = some (test, part.text.length) := by
  have takeName
      {name rest : List Char}
      (shape : IsName name)
      (ends : ∀ c ∈ rest.head?, isNameChar c = false) :
      (name ++ rest).takeWhile isNameChar = name :=
    Text.takeWhile_run_append shape.all ends
  cases writes with
  | @id name =>
      cases shape with
      | id shape =>
          simp [Part.text, writtenTest?, takeName shape ends.noNameChar,
            shape.filled]
  | @«class» name =>
      cases shape with
      | «class» shape =>
          simp [Part.text, writtenTest?, takeName shape ends.noNameChar,
            shape.filled]
  | @bracket inner name value form =>
      cases shape with
      | bracket filled absent =>
          simp [Part.text, writtenTest?, Text.cutAt?_run absent,
            attributeTest?_of_form form]
  | @pseudo name argument =>
      cases shape with
      | pseudo shape closed =>
          cases argument with
          | none =>
              have noParenthesis :
                  writtenTest? (':' :: (name ++ rest)) =
                    some (.pseudo name [], name.length + 1) := by
                have takes := takeName shape ends.noNameChar
                cases rest with
                | nil =>
                    rw [List.append_nil] at takes ⊢
                    simp [writtenTest?, takes, shape.filled]
                | cons c others =>
                    -- A part starts with a sign of its own, which opens no argument.
                    rcases isPartSign_cases (ends c rfl) with
                      rfl | rfl | rfl | rfl <;>
                      simp [writtenTest?, takes, shape.filled]
              simpa [Part.text, Part.argumentText, Text.trim, Text.trimEnd,
                Text.trimStart] using noParenthesis
          | some inner =>
              have absent : ')' ∉ inner := closed inner rfl
              have takes :
                  (name ++ '(' :: (inner ++ ')' :: rest)).takeWhile isNameChar =
                    name :=
                takeName shape
                  (by simpa using (by decide +kernel : isNameChar '(' = false))
              simp [Part.text, Part.argumentText, writtenTest?, takes,
                shape.filled, Text.cutAt?_run absent]
              omega

theorem writtenTests_of_writes
    (shape : part.Shape)
    (writes : part.Writes test)
    (ends : PartEnd rest) :
    writtenTests 0 (part.text ++ rest) = test :: writtenTests 0 rest := by
  have read := writtenTest?_of_writes shape writes ends
  obtain ⟨sign, others, textShape⟩ :
      ∃ sign others, part.text = sign :: others := by
    cases part <;> exact ⟨_, _, rfl⟩
  rw [textShape, List.cons_append] at read ⊢
  rw [writtenTests, read]
  dsimp only
  rw [writtenTests_skip ((sign :: others).length - 1)]
  simp

/-- A test that goes on past the bracket in which it starts. -/
def WrittenTest.Overruns : WrittenTest → Prop
  | .pseudo _ argument => ']' ∈ argument
  | _ => False

/-- An argument that starts between brackets is closed between them or overruns them. -/
theorem length_of_argument_inside
    {name inner later : List Char}
    (nameLe : name.length ≤ s.length)
    (argument :
      (s ++ ']' :: rest).drop name.length = '(' :: (inner ++ ')' :: later)) :
    name.length + 1 + (inner.length + 2) ≤ s.length + 2 ∨
      (WrittenTest.pseudo name (Text.trim inner)).Overruns := by
  rw [List.drop_append_of_le_length nameLe] at argument
  have dropLength := List.length_drop (i := name.length) (l := s)
  cases afterName : s.drop name.length with
  | nil =>
      rw [afterName] at argument
      cases argument
  | cons sign body =>
      rw [afterName, List.length_cons] at dropLength
      rw [afterName, List.cons_append, List.cons.injEq] at argument
      rcases List.append_eq_append_iff.mp argument.2 with
        ⟨tail, shape, follows⟩ | ⟨tail, shape, follows⟩
      -- The closing parenthesis stands after the bracket.
      · cases tail with
        | nil =>
            cases follows
        | cons first others =>
            rw [List.cons_append, List.cons.injEq] at follows
            obtain ⟨rfl, -⟩ := follows
            refine .inr (Text.mem_trim ?_ (by decide +kernel))
            rw [shape]
            exact List.mem_append_right _ List.mem_cons_self
      -- The closing parenthesis stands before the bracket.
      · cases tail with
        | nil =>
            cases follows
        | cons first others =>
            rw [shape, List.length_append, List.length_cons] at dropLength
            exact .inl (by omega)

/-- A test that starts between brackets ends with them, or it is an overrunning test. -/
theorem length_of_writtenTest?_inside
    {c : Char}
    {length : Nat}
    (inside : ']' ∉ s)
    (read : writtenTest? (c :: (s ++ ']' :: rest)) = some (test, length)) :
    length ≤ s.length + 2 ∨ test.Overruns := by
  have nameLe :
      ((s ++ ']' :: rest).takeWhile isNameChar).length ≤ s.length := by
    rw [List.takeWhile_append]
    split
    · rw [List.takeWhile_cons_of_neg (by decide +kernel), List.append_nil]
    · exact (List.takeWhile_sublist _).length_le
  rw [writtenTest?] at read
  split_ifs at read with hash named dot named bracket colon named
  · cases read
    exact .inl (by omega)
  · cases read
    exact .inl (by omega)
  · rw [Text.cutAt?_run inside] at read
    obtain ⟨found, -, shape⟩ := Option.map_eq_some_iff.mp read
    cases shape
    exact .inl (Nat.le_refl _)
  · dsimp only at read
    split at read
    · next argument after =>
        split at read
        · next inner later cut =>
            cases read
            obtain ⟨rfl, -⟩ := Text.of_cutAt?_eq_some cut
            exact length_of_argument_inside nameLe after
        · cases read
          exact .inl (by omega)
    · cases read
      exact .inl (by omega)

/-- The tests that start between brackets come before those of the rest. -/
theorem writtenTests_inside
    (s rest : List Char)
    (inside : ']' ∉ s) :
    (∃ found,
        writtenTests 0 (s ++ ']' :: rest) = found ++ writtenTests 0 rest) ∨
      ∃ test ∈ writtenTests 0 (s ++ ']' :: rest), test.Overruns := by
  cases s with
  | nil =>
      exact .inl ⟨[], rfl⟩
  | cons c others =>
      have othersInside : ']' ∉ others :=
        fun member => inside (List.mem_cons_of_mem _ member)
      rw [List.cons_append, writtenTests]
      split
      · next test length read =>
          rcases length_of_writtenTest?_inside othersInside read with
            short | overruns
          · rw [writtenTests_skip]
            rcases Nat.lt_or_ge others.length (length - 1) with
              atBracket | within
            · have whole :
                  (others ++ ']' :: rest).drop (length - 1) = rest := by
                have exactly : length - 1 = others.length + 1 := by
                  omega
                simp [exactly, List.drop_append]
              rw [whole]
              exact .inl ⟨[test], rfl⟩
            · rw [List.drop_append_of_le_length within]
              have laterInside : ']' ∉ others.drop (length - 1) :=
                fun member => othersInside (List.mem_of_mem_drop member)
              rcases writtenTests_inside (others.drop (length - 1)) rest
                  laterInside with
                ⟨found, shape⟩ | ⟨later, member, overruns⟩
              · exact .inl ⟨test :: found, congrArg (test :: ·) shape⟩
              · exact .inr ⟨later, List.mem_cons_of_mem _ member, overruns⟩
          · exact .inr ⟨test, List.mem_cons_self, overruns⟩
      · exact writtenTests_inside others rest othersInside
termination_by s.length
decreasing_by
  all_goals
    subst_vars
    simp only [List.length_drop, List.length_cons]
    omega

/--
The tests collected from parts: the test of each part that writes one, and for
any other text between brackets the tests that are found inside it.
-/
inductive Collected : List Part → List WrittenTest → Prop where
  | nil : Collected [] []
  | written {part parts test tests} :
      part.Writes test →
      Collected parts tests →
      Collected (part :: parts) (test :: tests)
  | inside {part parts tests} (found : List WrittenTest) :
      ¬ part.IsTest →
      Collected parts tests →
      Collected (part :: parts) (found ++ tests)

/-- Unless a test overruns its bracket, the tests are collected part by part. -/
theorem collected_of_shape
    {parts : List Part}
    (shapes : ∀ part ∈ parts, part.Shape)
    (orderly :
      ∀ test ∈ writtenTests 0 (parts.flatMap Part.text), ¬ test.Overruns) :
    Collected parts (writtenTests 0 (parts.flatMap Part.text)) := by
  induction parts with
  | nil =>
      exact .nil
  | cons part parts inductionHypothesis =>
      obtain ⟨shape, laterShapes⟩ := List.forall_mem_cons.mp shapes
      have ends := partEnd_flatMap_text parts
      rw [List.flatMap_cons] at orderly ⊢
      by_cases isTest : part.IsTest
      · obtain ⟨test, writes⟩ := isTest
        rw [writtenTests_of_writes shape writes ends] at orderly ⊢
        exact
          .written writes
            (inductionHypothesis laterShapes
              (List.forall_mem_cons.mp orderly).2)
      -- Every other kind of part writes a test.
      · obtain ⟨inner, absent, rfl⟩ :
            ∃ inner, ']' ∉ inner ∧ part = .bracket inner := by
          cases shape with
          | id _ => exact (isTest ⟨_, .id⟩).elim
          | «class» _ => exact (isTest ⟨_, .class⟩).elim
          | pseudo _ _ => exact (isTest ⟨_, .pseudo⟩).elim
          | bracket _ absent => exact ⟨_, absent, rfl⟩
        have bracketText :
            Part.text (.bracket inner) ++ parts.flatMap Part.text =
              ('[' :: inner) ++ ']' :: parts.flatMap Part.text := by
          simp [Part.text]
        rw [bracketText] at orderly ⊢
        rcases writtenTests_inside ('[' :: inner) (parts.flatMap Part.text)
            (by simpa using absent) with
          ⟨found, found_eq⟩ | ⟨test, member, overruns⟩
        · rw [found_eq] at orderly ⊢
          exact
            .inside found isTest
              (inductionHypothesis laterShapes fun test member =>
                orderly test (List.mem_append_right _ member))
        · exact (orderly test member overruns).elim

end Collecting

/-! ## Identities -/

/-- Whether a part is the name of an identity. -/
def Part.IsId : Part → Prop
  | .id _ => True
  | _ => False

/-- Whether a test is about the identity of an element. -/
def WrittenTest.IsId : WrittenTest → Prop
  | .id _ => True
  | _ => False

section Collected

variable {parts earlier later : List Part} {part : Part} {tests : List WrittenTest}

/-- The tests of the parts after a test are collected after it. -/
theorem Collected.split
    (collected : Collected (earlier ++ part :: later) tests)
    (isTest : part.IsTest) :
    ∃ before test after,
      tests = before ++ test :: after ∧
        part.Writes test ∧ Collected later after := by
  induction earlier generalizing tests with
  | nil =>
      cases collected with
      | @written _ _ test after writes rest =>
          exact ⟨[], test, after, rfl, writes, rest⟩
      | inside _ noTest _ =>
          exact (noTest isTest).elim
  | cons first others inductionHypothesis =>
      cases collected with
      | @written _ _ firstTest _ _ rest =>
          obtain ⟨before, test, after, rfl, found⟩ := inductionHypothesis rest
          exact ⟨firstTest :: before, test, after, rfl, found⟩
      | inside junk _ rest =>
          obtain ⟨before, test, after, rfl, found⟩ := inductionHypothesis rest
          exact
            ⟨junk ++ before, test, after, (List.append_assoc ..).symm, found⟩

/-- Parts that write tests, none of an identity, give no test of an identity. -/
theorem Collected.no_id
    (collected : Collected parts tests)
    (each : ∀ part ∈ parts, part.IsTest ∧ ¬ part.IsId) :
    ∀ test ∈ tests, ¬ test.IsId := by
  induction collected with
  | nil =>
      exact nofun
  | written writes _ inductionHypothesis =>
      obtain ⟨⟨-, noId⟩, later⟩ := List.forall_mem_cons.mp each
      refine List.forall_mem_cons.mpr ⟨?_, inductionHypothesis later⟩
      cases writes with
      | id => exact (noId trivial).elim
      | _ => exact id
  | inside _ noTest _ _ =>
      exact (noTest (List.forall_mem_cons.mp each).1.1).elim

end Collected

end PageScript.Selector
