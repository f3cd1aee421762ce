import PageScript.Proofs.Script.Pattern

namespace PageScript.Script

/-!
# Fields that are read back

A command is written as a line by putting its fields into the pattern of its
kind.  The line gives back the command, with blanks around it or without, when
every field is filled, trimmed and on one line, and the last of two fields does
not bring in the separator again.  Of any accepted line the two fields are those
around the last separator.
-/

/-- A field that can stand in a line: it is filled, trimmed and on one line. -/
structure IsField (field : String) : Prop where
  filled :
    field ≠ ""
  trimmed :
    Text.trim field.toList = field.toList
  oneLine :
    '\n' ∉ field.toList

/-- Two fields of a command with the separator between them and the text before. -/
structure Division where
  opening : String
  left : String
  separator : String
  right : String

namespace Command

/-- The phrases of the pattern of a command with the fields between them. -/
def pieces : Command → List String
  | .existImport category file =>
      ["hsx exist import ", category, " file ", file]
  | .fileImportAll destination => ["hsx file import all to ", destination]
  | .fileRename source target =>
      ["hsx file import/make/rename/", source, "-to-", target]
  | .buildTarget target => ["hsx build target ", target]
  | .includeFramework framework version =>
      ["hsx include framework ", framework, " version ", version]
  | .transform file plugin => ["hsx transform ", file, " with ", plugin]
  | .copy source destination => ["hsx copy ", source, " to ", destination]
  | .runAsync code => ["hsx run async ", code]
  | .defineComponent name content =>
      ["hsx define component ", name, " ", content]
  | .renderComponent name selector =>
      ["hsx render component ", name, " to ", selector]
  | .setVariable name value false => ["hsx set variable ", name, " = ", value]
  | .setVariable name value true =>
      ["hsx reactive variable ", name, " = ", value]
  | .mediaLoad mediaType url selector =>
      ["hsx media load ", mediaType, " from ", url, " to ", selector]

/-- The line that writes a command. -/
def written (command : Command) : List Char :=
  command.pieces.flatMap String.toList

/-- The two fields of a command whose pattern has a separator between fields. -/
def division? : Command → Option Division
  | .fileRename source target =>
      some ⟨"hsx file import/make/rename/", source, "-to-", target⟩
  | .includeFramework framework version =>
      some ⟨"hsx include framework ", framework, " version ", version⟩
  | .transform file plugin => some ⟨"hsx transform ", file, " with ", plugin⟩
  | .copy source destination => some ⟨"hsx copy ", source, " to ", destination⟩
  | .mediaLoad mediaType url selector =>
      some ⟨"hsx media load " ++ mediaType ++ " from ", url, " to ", selector⟩
  | _ => none

/-- The fields of a command are of their kinds. -/
def FieldsFit : Command → Prop
  | .existImport category file => category ∈ importCategories ∧ IsField file
  | .fileImportAll destination => IsField destination
  | .fileRename source target => IsField source ∧ IsField target
  | .buildTarget target => IsField target
  | .includeFramework framework version => IsField framework ∧ IsField version
  | .transform file plugin => IsField file ∧ IsField plugin
  | .copy source destination => IsField source ∧ IsField destination
  | .runAsync code => IsField code
  | .defineComponent name content =>
      Text.isWord name.toList = true ∧ IsField content
  | .renderComponent name selector =>
      Text.isWord name.toList = true ∧ IsField selector
  | .setVariable name value _ => Text.isWord name.toList = true ∧ IsField value
  | .mediaLoad mediaType url selector =>
      Text.isWord mediaType.toList = true ∧ IsField url ∧ IsField selector

/-- A command that its line gives back. -/
structure Writable (command : Command) : Prop where
  fieldsFit :
    command.FieldsFit
  /-- The last of two fields does not bring in the separator again. -/
  separated :
    ∀ division ∈ command.division?,
      AbsentAfter division.separator.toList division.right.toList

end Command

/-! ## Writing -/

namespace IsField

variable {field : String}

theorem toList_ne_nil
    (isField : IsField field) :
    field.toList ≠ [] :=
  mt String.toList_eq_nil_iff.mp isField.filled

/-- A field that can stand in a line is read as it is. -/
theorem fieldText_eq
    (isField : IsField field) :
    fieldText field.toList = field := by
  rw [fieldText, isField.trimmed, String.ofList_toList]

end IsField

theorem newline_not_mem_word
    {word : String}
    (isWord : Text.isWord word.toList = true) :
    '\n' ∉ word.toList := by
  intro member
  have allWord := (Bool.and_eq_true_iff.mp isWord).2
  have isWordChar := List.all_eq_true.mp allWord '\n' member
  exact Bool.noConfusion isWordChar

theorem newline_not_mem_category :
    ∀ category ∈ importCategories, '\n' ∉ category.toList := by
  decide +kernel

namespace Command

variable {command : Command}

theorem newline_not_mem_pieces
    (fit : command.FieldsFit) :
    ∀ piece ∈ command.pieces, '\n' ∉ piece.toList := by
  have oneField
      {phrase field : String}
      (phraseOneLine : '\n' ∉ phrase.toList)
      (fieldOneLine : '\n' ∉ field.toList) :
      ∀ piece ∈ [phrase, field], '\n' ∉ piece.toList :=
    List.forall_mem_cons.mpr
      ⟨phraseOneLine, List.forall_mem_singleton.mpr fieldOneLine⟩
  have twoFields
      {opening left separator right : String}
      (openingOneLine : '\n' ∉ opening.toList)
      (leftOneLine : '\n' ∉ left.toList)
      (separatorOneLine : '\n' ∉ separator.toList)
      (rightOneLine : '\n' ∉ right.toList) :
      ∀ piece ∈ [opening, left, separator, right], '\n' ∉ piece.toList :=
    List.forall_mem_append.mpr
      ⟨oneField openingOneLine leftOneLine,
        oneField separatorOneLine rightOneLine⟩
  cases command with
  | existImport category file =>
      exact twoFields (by decide +kernel) (newline_not_mem_category _ fit.1)
        (by decide +kernel) fit.2.oneLine
  | fileImportAll destination =>
      exact oneField (by decide +kernel) (IsField.oneLine fit)
  | fileRename source target =>
      exact twoFields (by decide +kernel) fit.1.oneLine (by decide +kernel)
        fit.2.oneLine
  | buildTarget target =>
      exact oneField (by decide +kernel) (IsField.oneLine fit)
  | includeFramework framework version =>
      exact twoFields (by decide +kernel) fit.1.oneLine (by decide +kernel)
        fit.2.oneLine
  | transform file plugin =>
      exact twoFields (by decide +kernel) fit.1.oneLine (by decide +kernel)
        fit.2.oneLine
  | copy source destination =>
      exact twoFields (by decide +kernel) fit.1.oneLine (by decide +kernel)
        fit.2.oneLine
  | runAsync code =>
      exact oneField (by decide +kernel) (IsField.oneLine fit)
  | defineComponent name content =>
      exact twoFields (by decide +kernel) (newline_not_mem_word fit.1)
        (by decide +kernel) fit.2.oneLine
  | renderComponent name selector =>
      exact twoFields (by decide +kernel) (newline_not_mem_word fit.1)
        (by decide +kernel) fit.2.oneLine
  | setVariable name value reactive =>
      cases reactive <;>
        exact twoFields (by decide +kernel) (newline_not_mem_word fit.1)
          (by decide +kernel) fit.2.oneLine
  | mediaLoad mediaType url selector =>
      exact List.forall_mem_append.mpr
        ⟨twoFields (by decide +kernel) (newline_not_mem_word fit.1)
            (by decide +kernel) fit.2.1.oneLine,
          oneField (by decide +kernel) fit.2.2.oneLine⟩

theorem newline_not_mem_written
    (fit : command.FieldsFit) :
    '\n' ∉ command.written := by
  intro member
  obtain ⟨piece, inPieces, inPiece⟩ := List.mem_flatMap.mp member
  exact newline_not_mem_pieces fit piece inPieces inPiece

theorem exists_last_field
    (fit : command.FieldsFit) :
    ∃ front last,
      command.pieces = front ++ [last] ∧ IsField last := by
  cases command with
  | fileImportAll destination =>
      exact ⟨[_], destination, rfl, fit⟩
  | buildTarget target =>
      exact ⟨[_], target, rfl, fit⟩
  | runAsync code =>
      exact ⟨[_], code, rfl, fit⟩
  | setVariable name value reactive =>
      cases reactive <;> exact ⟨[_, _, _], value, rfl, fit.2⟩
  | mediaLoad mediaType url selector =>
      exact ⟨[_, _, _, _, _], selector, rfl, fit.2.2⟩
  | _ =>
      exact ⟨[_, _, _], _, rfl, fit.2⟩

theorem exists_written_eq
    (command : Command) :
    ∃ rest, command.written = 'h' :: rest := by
  cases command with
  | setVariable name value reactive =>
      cases reactive <;> exact ⟨_, rfl⟩
  | _ =>
      exact ⟨_, rfl⟩

theorem trim_written
    (fit : command.FieldsFit) :
    Text.trim command.written = command.written := by
  obtain ⟨front, last, shape, isField⟩ := exists_last_field fit
  refine (Text.trim_eq_self_iff _).mpr ⟨?_, ?_⟩
  · obtain ⟨rest, starts⟩ := command.exists_written_eq
    rw [starts]
    rintro c ⟨⟩
    rfl
  · have ends :
        command.written.getLast? = last.toList.getLast? := by
      rw [written, shape, List.flatMap_append, List.flatMap_singleton,
        List.getLast?_append_of_ne_nil _ isField.toList_ne_nil]
    rw [ends]
    exact ((Text.trim_eq_self_iff _).mp isField.trimmed).2

/-- A written command fits the pattern of its kind. -/
theorem linePattern_written
    (writable : command.Writable) :
    LinePattern command.written command := by
  have two
      (first second : String) :
      [first, second].flatMap String.toList =
        first.toList ++ second.toList := by
    simp
  have four
      (first second third fourth : String) :
      [first, second, third, fourth].flatMap String.toList =
        first.toList ++ (second.toList ++ (third.toList ++ fourth.toList)) := by
    simp
  have split
      {separator left right : String}
      (overlaps : OverlapsInOne separator.toList)
      (absent : AbsentAfter separator.toList right.toList)
      (leftField : IsField left)
      (rightField : IsField right) :
      LastSplit separator.toList
        (left.toList ++ (separator.toList ++ right.toList)) left.toList
        right.toList := by
    rw [← List.append_assoc]
    exact .of_absentAfter overlaps absent leftField.toList_ne_nil
      rightField.toList_ne_nil
  obtain ⟨fit, separated⟩ := writable
  unfold written
  -- Trimmed fields are read as they are, so the pattern of the kind has them.
  cases command with
  | existImport category file =>
      have fits := LinePattern.existImport fit.1 fit.2.toList_ne_nil
      rw [fit.2.fieldText_eq, String.toList_append, List.append_assoc] at fits
      exact (four _ _ _ _).symm ▸ fits
  | fileImportAll destination =>
      have fits := LinePattern.fileImportAll (IsField.toList_ne_nil fit)
      rw [IsField.fieldText_eq fit] at fits
      exact (two _ _).symm ▸ fits
  | fileRename source target =>
      have fits :=
        LinePattern.fileRename
          (split (by decide +kernel)
            (separated ⟨"hsx file import/make/rename/", source, "-to-", target⟩ rfl)
            fit.1 fit.2)
      rw [fit.1.fieldText_eq, fit.2.fieldText_eq] at fits
      exact (four _ _ _ _).symm ▸ fits
  | buildTarget target =>
      have fits := LinePattern.buildTarget (IsField.toList_ne_nil fit)
      rw [IsField.fieldText_eq fit] at fits
      exact (two _ _).symm ▸ fits
  | includeFramework framework version =>
      have fits :=
        LinePattern.includeFramework
          (split (by decide +kernel)
            (separated ⟨"hsx include framework ", framework, " version ", version⟩ rfl)
            fit.1 fit.2)
      rw [fit.1.fieldText_eq, fit.2.fieldText_eq] at fits
      exact (four _ _ _ _).symm ▸ fits
  | transform file plugin =>
      have fits :=
        LinePattern.transform
          (split (by decide +kernel)
            (separated ⟨"hsx transform ", file, " with ", plugin⟩ rfl)
            fit.1 fit.2)
      rw [fit.1.fieldText_eq, fit.2.fieldText_eq] at fits
      exact (four _ _ _ _).symm ▸ fits
  | copy source destination =>
      have fits :=
        LinePattern.copy
          (split (by decide +kernel)
            (separated ⟨"hsx copy ", source, " to ", destination⟩ rfl)
            fit.1 fit.2)
      rw [fit.1.fieldText_eq, fit.2.fieldText_eq] at fits
      exact (four _ _ _ _).symm ▸ fits
  | runAsync code =>
      have fits := LinePattern.runAsync (IsField.toList_ne_nil fit)
      rw [IsField.fieldText_eq fit] at fits
      exact (two _ _).symm ▸ fits
  | defineComponent name content =>
      have fits := LinePattern.defineComponent fit.1 fit.2.toList_ne_nil
      rw [fit.2.fieldText_eq] at fits
      exact (four _ _ _ _).symm ▸ fits
  | renderComponent name selector =>
      have fits := LinePattern.renderComponent fit.1 fit.2.toList_ne_nil
      rw [fit.2.fieldText_eq] at fits
      exact (four _ _ _ _).symm ▸ fits
  | setVariable name value reactive =>
      cases reactive with
      | false =>
          have fits := LinePattern.setVariable fit.1 fit.2.toList_ne_nil
          rw [fit.2.fieldText_eq] at fits
          exact (four _ _ _ _).symm ▸ fits
      | true =>
          have fits := LinePattern.reactiveVariable fit.1 fit.2.toList_ne_nil
          rw [fit.2.fieldText_eq] at fits
          exact (four _ _ _ _).symm ▸ fits
  | mediaLoad mediaType url selector =>
      have fits :=
        LinePattern.mediaLoad fit.1
          (split (by decide +kernel)
            (separated
              ⟨"hsx media load " ++ mediaType ++ " from ", url, " to ", selector⟩
              rfl)
            fit.2.1 fit.2.2)
      rw [fit.2.1.fieldText_eq, fit.2.2.fieldText_eq] at fits
      rw [pieces, List.flatMap_cons, List.flatMap_cons, List.flatMap_cons,
        List.flatMap_cons, two]
      exact fits

/-- The fields of a command that was read stand around the last separator. -/
theorem exists_lastSplit_of_linePattern
    {s : List Char}
    (fits : LinePattern s command)
    {division : Division}
    (divided : division ∈ command.division?) :
    ∃ rest left right,
      s = division.opening.toList ++ rest ∧
        LastSplit division.separator.toList rest left right ∧
        fieldText left = division.left ∧
        fieldText right = division.right := by
  cases fits with
  | fileRename split =>
      cases divided
      exact ⟨_, _, _, rfl, split, rfl, rfl⟩
  | includeFramework split =>
      cases divided
      exact ⟨_, _, _, rfl, split, rfl, rfl⟩
  | transform split =>
      cases divided
      exact ⟨_, _, _, rfl, split, rfl, rfl⟩
  | copy split =>
      cases divided
      exact ⟨_, _, _, rfl, split, rfl, rfl⟩
  | mediaLoad _ split =>
      cases divided
      refine ⟨_, _, _, ?_, split, rfl, rfl⟩
      simp only [String.toList_append, List.append_assoc]
  | _ =>
      cases divided

end Command

/--
The line that writes a command gives back the command in every grammar that has
its kind, with blanks around it or without.  Whatever line gives a command with
a separator between its fields, it is split at the last place of the separator
that leaves text on both sides.
-/
theorem written_fields_recovered :
    (∀ (command : Command) (grammar : Grammar) (line : Int)
        (before after : List Char),
      command.Writable →
        (command.kind = .mediaLoad → grammar = .runtime) →
        (∀ c ∈ before, Text.isBlank c = true) →
        (∀ c ∈ after, Text.isBlank c = true) →
          parseLine grammar line (before ++ command.written ++ after) =
            .ok (some ⟨command, line⟩)) ∧
      (∀ (grammar : Grammar) (line : Int) (text : List Char)
          (placed : PlacedCommand) (division : Division),
        parseLine grammar line text = .ok (some placed) →
          division ∈ placed.command.division? →
            ∃ rest left right,
              Text.trim text = division.opening.toList ++ rest ∧
                LastSplit division.separator.toList rest left right ∧
                fieldText left = division.left ∧
                fieldText right = division.right) := by
  constructor
  · intro command grammar line before after writable inGrammar beforeBlank
      afterBlank
    have trimmed :
        Text.trim (before ++ command.written ++ after) = command.written := by
      obtain ⟨rest, starts⟩ := command.exists_written_eq
      exact
        Text.trim_surrounded (Command.trim_written writable.fieldsFit)
          (starts ▸ List.cons_ne_nil _ _) beforeBlank afterBlank
    rw [parseLine_eq_ok_some_iff_linePattern, trimmed]
    exact
      ⟨rfl, Command.newline_not_mem_written writable.fieldsFit,
        Command.linePattern_written writable, inGrammar⟩
  · intro grammar line text placed division gives divided
    obtain ⟨-, -, fits, -⟩ := parseLine_eq_ok_some_iff_linePattern.mp gives
    exact Command.exists_lastSplit_of_linePattern fits divided

/-- A copy whose source holds the separator is read back between blanks. -/
theorem written_fields_recovered_of_copy :
    (Command.copy "a to b" "c").Writable ∧
      parseLine .runtime 3 "\t hsx copy a to b to c \r".toList =
        .ok (some ⟨.copy "a to b" "c", 3⟩) ∧
      ∃ rest left right,
        Text.trim "\t hsx copy a to b to c \r".toList =
            "hsx copy ".toList ++ rest ∧
          LastSplit " to ".toList rest left right ∧
          fieldText left = "a to b" ∧
          fieldText right = "c" := by
  have writable : (Command.copy "a to b" "c").Writable :=
    { fieldsFit :=
        ⟨⟨by decide +kernel, by decide +kernel, by decide +kernel⟩,
          ⟨by decide +kernel, by decide +kernel, by decide +kernel⟩⟩
      separated := by
        rintro division ⟨⟩
        unfold AbsentAfter
        decide +kernel }
  have readBack :
      parseLine .runtime 3 "\t hsx copy a to b to c \r".toList =
        .ok (some ⟨.copy "a to b" "c", 3⟩) :=
    written_fields_recovered.1 (.copy "a to b" "c") .runtime 3 ['\t', ' ']
      [' ', '\r'] writable (fun _ => rfl)
      (List.all_eq_true.mp (by decide +kernel))
      (List.all_eq_true.mp (by decide +kernel))
  exact
    ⟨writable, readBack,
      written_fields_recovered.2 .runtime 3 _ _ _ readBack rfl⟩

end PageScript.Script
