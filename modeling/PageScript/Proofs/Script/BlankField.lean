import PageScript.Proofs.Script.Recovery

namespace PageScript.Script

/-!
# Fields that are left blank

Every field of a command that was read is trimmed.  A line without text where its last
field, its name or its category should stand is unknown.  Of two fields around a separator
the first is different: its blanks are taken for text when the line is split and trimmed
away afterwards, so this field alone can be empty, and it is exactly when only blanks stand
between the opening and the last separator.
-/

/-! ## What is read -/

section Read

variable {s last : List Char}

theorem fieldText_eq_empty_iff :
    fieldText s = "" ↔ ∀ c ∈ s, Text.isBlank c = true := by
  rw [fieldText, ← Text.trim_eq_nil_iff, ← String.toList_eq_nil_iff, String.toList_ofList]

theorem trim_fieldText
    (s : List Char) :
    Text.trim (fieldText s).toList = (fieldText s).toList := by
  rw [fieldText, String.toList_ofList, Text.trim_trim]

/-- The field at the end of a trimmed line is not blank. -/
theorem fieldText_ne_empty_of_suffix
    (trimmed : Text.trim s = s)
    (ends : last <:+ s)
    (filled : last ≠ []) :
    fieldText last ≠ "" := by
  obtain ⟨front, rfl⟩ := ends
  intro empty
  have allBlank := fieldText_eq_empty_iff.mp empty
  have solid := ((Text.trim_eq_self_iff _).mp trimmed).2
  rw [List.getLast?_append_of_ne_nil _ filled, List.getLast?_eq_some_getLast filled] at solid
  have stops := solid _ rfl
  rw [allBlank _ (List.getLast_mem filled)] at stops
  cases stops

/-- The first of the two fields of a command with a separator between fields, with its name. -/
def Command.firstOfTwo? : Command → Option (String × String)
  | .fileRename source _ => some ("source", source)
  | .includeFramework framework _ => some ("framework", framework)
  | .transform file _ => some ("file", file)
  | .copy source _ => some ("source", source)
  | .mediaLoad _ url _ => some ("url", url)
  | _ => none

/-- A text of a command is trimmed, and it is empty at one place at most. -/
def IsKept (place : Option (String × String)) (entry : String × Value) : Prop :=
  ∀ field,
    entry.2 = .text field →
      Text.trim field.toList = field.toList ∧
        (field = "" → place = some (entry.1, field))

variable {place : Option (String × String)} {name field : String}

theorem isKept_of_filled
    (trimmed : Text.trim field.toList = field.toList)
    (filled : field ≠ "") :
    IsKept place (name, .text field) := by
  rintro other ⟨⟩
  exact ⟨trimmed, fun empty => absurd empty filled⟩

theorem isKept_of_first
    (trimmed : Text.trim field.toList = field.toList) :
    IsKept (some (name, field)) (name, .text field) := by
  rintro other ⟨⟩
  exact ⟨trimmed, fun _ => rfl⟩

theorem isKept_truth
    (value : Bool) :
    IsKept place (name, .truth value) :=
  nofun

theorem isKept_word
    (isWord : Text.isWord name.toList = true)
    {entry : String} :
    IsKept place (entry, .text name) := by
  obtain ⟨filled, allWord⟩ := Bool.and_eq_true_iff.mp isWord
  refine isKept_of_filled (Text.trim_of_not_blank fun c member => ?_) ?_
  · exact Text.isBlank_of_isWordChar (List.all_eq_true.mp allWord c member)
  · rintro rfl
    exact nomatch filled

/-- The texts of a command are trimmed, and none but the first of two is empty. -/
theorem LinePattern.isKept
    {command : Command}
    (fits : LinePattern s command)
    (trimmed : Text.trim s = s) :
    ∀ entry ∈ command.payload, IsKept command.firstOfTwo? entry := by
  have lastKept
      {place : Option (String × String)}
      {name : String}
      {last : List Char}
      (ends : last <:+ s)
      (filled : last ≠ []) :
      IsKept place (name, .text (fieldText last)) :=
    isKept_of_filled (trim_fieldText last) (fieldText_ne_empty_of_suffix trimmed ends filled)
  have twoKept
      {separator rest left right : List Char}
      {first second : String}
      (ends : rest <:+ s)
      (split : LastSplit separator rest left right) :
      ∀ entry ∈ [(first, Value.text (fieldText left)), (second, .text (fieldText right))],
        IsKept (some (first, fieldText left)) entry := by
    refine List.forall_mem_cons.mpr ⟨isKept_of_first (trim_fieldText left), ?_⟩
    refine List.forall_mem_singleton.mpr (lastKept (List.IsSuffix.trans ?_ ends) split.right_ne)
    rw [split.divides]
    exact List.suffix_append _ _
  have wordKept
      {opening separator last : List Char}
      {name first second : String}
      (shape : s = opening ++ (name.toList ++ (separator ++ last)))
      (isWord : Text.isWord name.toList = true)
      (filled : last ≠ []) :
      ∀ entry ∈ [(first, Value.text name), (second, .text (fieldText last))],
        IsKept none entry := by
    refine List.forall_mem_cons.mpr ⟨isKept_word isWord, ?_⟩
    refine List.forall_mem_singleton.mpr (lastKept ?_ filled)
    rw [shape, ← List.append_assoc, ← List.append_assoc]
    exact List.suffix_append _ _
  cases fits with
  | @existImport category file known filled =>
      have table :
          ∀ category ∈ importCategories,
            Text.trim category.toList = category.toList ∧ category ≠ "" := by
        decide +kernel
      obtain ⟨categoryTrimmed, categoryFilled⟩ := table category known
      refine List.forall_mem_cons.mpr ⟨isKept_of_filled categoryTrimmed categoryFilled, ?_⟩
      refine List.forall_mem_singleton.mpr (lastKept ?_ filled)
      rw [← List.append_assoc]
      exact List.suffix_append _ _
  | fileImportAll filled =>
      exact List.forall_mem_singleton.mpr (lastKept (List.suffix_append _ _) filled)
  | fileRename split =>
      exact twoKept (List.suffix_append _ _) split
  | buildTarget filled =>
      exact List.forall_mem_singleton.mpr (lastKept (List.suffix_append _ _) filled)
  | includeFramework split =>
      exact twoKept (List.suffix_append _ _) split
  | transform split =>
      exact twoKept (List.suffix_append _ _) split
  | copy split =>
      exact twoKept (List.suffix_append _ _) split
  | runAsync filled =>
      exact List.forall_mem_singleton.mpr (lastKept (List.suffix_append _ _) filled)
  | defineComponent isWord filled =>
      exact wordKept rfl isWord filled
  | renderComponent isWord filled =>
      exact wordKept rfl isWord filled
  | setVariable isWord filled =>
      exact List.forall_mem_append.mpr
        ⟨wordKept rfl isWord filled, List.forall_mem_singleton.mpr (isKept_truth false)⟩
  | reactiveVariable isWord filled =>
      exact List.forall_mem_append.mpr
        ⟨wordKept rfl isWord filled, List.forall_mem_singleton.mpr (isKept_truth true)⟩
  | mediaLoad isWord split =>
      refine List.forall_mem_cons.mpr ⟨isKept_word isWord, twoKept ?_ split⟩
      rw [← List.append_assoc, ← List.append_assoc]
      exact List.suffix_append _ _

/-- The first of two fields is empty exactly when nothing but blanks stands in its place. -/
theorem LinePattern.left_eq_empty_iff
    {command : Command}
    (fits : LinePattern s command)
    {division : Division}
    (divided : division ∈ command.division?) :
    division.left = "" ↔
      ∃ rest blanks right,
        s = division.opening.toList ++ rest ∧
          LastSplit division.separator.toList rest blanks right ∧
            ∀ c ∈ blanks, Text.isBlank c = true := by
  obtain ⟨rest, left, right, shape, split, leftField, -⟩ :=
    Command.exists_lastSplit_of_linePattern fits divided
  rw [← leftField, fieldText_eq_empty_iff]
  constructor
  · exact fun allBlank => ⟨rest, left, right, shape, split, allBlank⟩
  · rintro ⟨other, blanks, behind, otherShape, otherSplit, allBlank⟩
    obtain rfl : rest = other := List.append_cancel_left (shape.symm.trans otherShape)
    obtain ⟨rfl, -⟩ := split.unique otherSplit
    exact allBlank

end Read

/-! ## What is refused -/

/-- The openings of the rules that read a word, with the separator behind the word. -/
def wordRules : List (String × String) :=
  [("hsx define component ", " "), ("hsx render component ", " to "),
   ("hsx set variable ", " = "), ("hsx reactive variable ", " = "),
   ("hsx media load ", " from ")]

/-- The openings in front of two fields, with the separator between the fields. -/
inductive Divides : String → String → Prop where
  | fileRename :
      Divides "hsx file import/make/rename/" "-to-"
  | includeFramework :
      Divides "hsx include framework " " version "
  | transform :
      Divides "hsx transform " " with "
  | copy :
      Divides "hsx copy " " to "
  | mediaLoad {mediaType : String} :
      Text.isWord mediaType.toList = true →
      Divides ("hsx media load " ++ mediaType ++ " from ") " to "

/--
A line without text in the place of a field.  Of two fields the first one must have no
character at all, and the separator must not occur at another place.
-/
inductive LacksField : List Char → Prop where
  /-- Nothing behind the opening of a rule. -/
  | everything {rule : Rule} {blanks : List Char} :
      rule ∈ Grammar.runtime.rules →
      (∀ c ∈ blanks, Text.isBlank c = true) →
      LacksField (rule.opening.toList ++ blanks)
  /-- A blank in the place of a category. -/
  | category {rest : List Char} :
      (∀ c ∈ rest.head?, Text.isBlank c = true) →
      LacksField ("hsx exist import ".toList ++ rest)
  /-- Nothing behind a category. -/
  | file {category : String} {blanks : List Char} :
      category ∈ importCategories →
      (∀ c ∈ blanks, Text.isBlank c = true) →
      LacksField ("hsx exist import ".toList ++ ((category ++ " file ").toList ++ blanks))
  /-- A blank in the place of a word. -/
  | word {opening separator : String} {rest : List Char} :
      (opening, separator) ∈ wordRules →
      (∀ c ∈ rest.head?, Text.isBlank c = true) →
      LacksField (opening.toList ++ rest)
  /-- Nothing behind a word and its separator. -/
  | behindWord {opening separator word : String} {blanks : List Char} :
      (opening, separator) ∈ wordRules →
      Text.isWord word.toList = true →
      (∀ c ∈ blanks, Text.isBlank c = true) →
      LacksField (opening.toList ++ (word.toList ++ (separator.toList ++ blanks)))
  /-- Nothing between an opening and the separator of two fields. -/
  | first {opening separator : String} {right : List Char} :
      Divides opening separator →
      ¬ separator.toList <:+: (separator.toList ++ right).tail →
      LacksField (opening.toList ++ (separator.toList ++ right))
  /-- Nothing behind the separator of two fields. -/
  | second {opening separator : String} {left blanks : List Char} :
      Divides opening separator →
      ¬ separator.toList <:+: left ++ separator.toList.dropLast →
      (∀ c ∈ blanks, Text.isBlank c = true) →
      LacksField (opening.toList ++ (left ++ (separator.toList ++ blanks)))

section Refused

variable {grammar : Grammar} {line : Int} {text rest : List Char} {rule : Rule}

/-- A line is unknown when the rule of its opening refuses the rest. -/
theorem parseLine_eq_error_of_refused
    (member : rule ∈ Grammar.runtime.rules)
    (shape : Text.trim text = rule.opening.toList ++ rest)
    (refused : rule.commandOf? rest = none) :
    parseLine grammar line text = .error ⟨String.ofList (Text.trim text), line⟩ := by
  have opened : rule.opening.toList <+: Text.trim text := ⟨rest, shape.symm⟩
  have starts := opening_hasCommandPrefix rule member
  rw [hasCommandPrefix, List.isPrefixOf_iff_prefix] at starts
  obtain ⟨behind, prefixed⟩ := starts.trans opened
  refine parseLine_eq_error_iff.mpr ⟨rfl, ?_, fun _ => ?_, fun other inGrammar => ?_⟩
  · rw [← prefixed]
    rfl
  · rw [← prefixed]
    rfl
  refine Option.eq_none_iff_forall_ne_some.mpr fun command accepts => ?_
  by_cases same : other = rule
  · obtain ⟨-, found, otherShape, gives⟩ := Rule.apply?_eq_some_iff.mp accepts
    rw [same] at otherShape gives
    obtain rfl : rest = found := List.append_cancel_left (shape.symm.trans otherShape)
    rw [refused] at gives
    cases gives
  · have symmetric : Std.Symm fun first second : Rule => Apart first.opening second.opening :=
      ⟨fun _ _ apart => And.symm apart⟩
    have apart :=
      openings_pairwise_apart.forall ((rules_sublist grammar).subset inGrammar) member same
    exact apart.not_both (Rule.opening_prefix accepts) opened

/-- A line that is nothing but an opening is unknown. -/
theorem parseLine_eq_error_of_bare
    (member : rule ∈ Grammar.runtime.rules)
    (bare : Text.trim text = Text.trim rule.opening.toList) :
    parseLine grammar line text = .error ⟨String.ofList (Text.trim text), line⟩ := by
  have table :
      ∀ rule ∈ Grammar.runtime.rules,
        isSkippable (Text.trim rule.opening.toList) = false ∧
          hasCommandPrefix (Text.trim rule.opening.toList) = true ∧
            ∀ other ∈ Grammar.runtime.rules,
              other.apply? (Text.trim rule.opening.toList) = none := by
    decide +kernel
  obtain ⟨notSkipped, prefixed, refused⟩ := table rule member
  rw [← bare] at notSkipped prefixed refused
  exact parseLine_eq_error_iff.mpr
    ⟨rfl, notSkipped, fun _ => prefixed,
      fun other inGrammar => refused other ((rules_sublist grammar).subset inGrammar)⟩

/-- Text behind an opening keeps the opening when the line is trimmed. -/
theorem trim_opening_append
    (member : rule ∈ Grammar.runtime.rules)
    {core : List Char}
    (filled : core ≠ [])
    (ends : ∀ c ∈ core.getLast?, Text.isBlank c = false) :
    Text.trim (rule.opening.toList ++ core) = rule.opening.toList ++ core := by
  have table : ∀ rule ∈ Grammar.runtime.rules, rule.opening.toList.head? = some 'h' := by
    decide +kernel
  refine (Text.trim_eq_self_iff _).mpr ⟨?_, ?_⟩
  · rw [List.head?_append, table rule member]
    rintro c ⟨⟩
    rfl
  · rwa [List.getLast?_append_of_ne_nil _ filled]

/-- A line is unknown when a blank follows its opening and the rule refuses leading blanks. -/
theorem parseLine_eq_error_of_blank
    (member : rule ∈ Grammar.runtime.rules)
    (refuses : ∀ s, (∀ c ∈ s.head?, Text.isBlank c = true) → rule.commandOf? s = none)
    (starts : ∀ c ∈ rest.head?, Text.isBlank c = true)
    (same : Text.trim text = Text.trim (rule.opening.toList ++ rest)) :
    parseLine grammar line text = .error ⟨String.ofList (Text.trim text), line⟩ := by
  obtain ⟨blanks, allBlank, divided, ends⟩ := Text.exists_blanks_trimEnd rest
  rw [divided, ← List.append_assoc, Text.trim_append_of_blank _ allBlank] at same
  by_cases empty : Text.trimEnd rest = []
  · rw [empty, List.append_nil] at same
    exact parseLine_eq_error_of_bare member same
  · rw [trim_opening_append member empty ends] at same
    refine parseLine_eq_error_of_refused member same (refuses _ ?_)
    rwa [divided, List.head?_append_of_ne_nil _ empty] at starts

/-- A line that ends behind a separator is trimmed down to what is solid of the separator. -/
theorem trim_opening_append_separator
    (member : rule ∈ Grammar.runtime.rules)
    (front separator : List Char)
    {blanks : List Char}
    (filled : front ++ Text.trimEnd separator ≠ [])
    (frontEnds : Text.trimEnd separator = [] → ∀ c ∈ front.getLast?, Text.isBlank c = false)
    (allBlank : ∀ c ∈ blanks, Text.isBlank c = true) :
    Text.trim (rule.opening.toList ++ (front ++ (separator ++ blanks))) =
      rule.opening.toList ++ (front ++ Text.trimEnd separator) := by
  obtain ⟨spaces, spacesBlank, divided, ends⟩ := Text.exists_blanks_trimEnd separator
  have shape :
      rule.opening.toList ++ (front ++ (separator ++ blanks)) =
        rule.opening.toList ++ (front ++ Text.trimEnd separator) ++ (spaces ++ blanks) := by
    conv_lhs => rw [divided]
    simp only [List.append_assoc]
  rw [shape,
    Text.trim_append_of_blank _ (List.forall_mem_append.mpr ⟨spacesBlank, allBlank⟩)]
  refine trim_opening_append member filled ?_
  by_cases empty : Text.trimEnd separator = []
  · rw [empty, List.append_nil]
    exact frontEnds empty
  · rwa [List.getLast?_append_of_ne_nil _ empty]

/-! ### Categories and words -/

/-- No category starts with a blank. -/
theorem categoryAndFile?_eq_none_of_blank
    (starts : ∀ c ∈ rest.head?, Text.isBlank c = true) :
    categoryAndFile? rest = none := by
  have table :
      ∀ category ∈ importCategories,
        ∃ c, (category ++ " file ").toList.head? = some c ∧ Text.isBlank c = false := by
    simp only [importCategories, List.forall_mem_cons]
    exact
      ⟨⟨_, rfl, rfl⟩, ⟨_, rfl, rfl⟩, ⟨_, rfl, rfl⟩, ⟨_, rfl, rfl⟩, List.forall_mem_nil _⟩
  refine Option.eq_none_iff_forall_ne_some.mpr fun fields found => ?_
  obtain ⟨category, known, file, -, rfl, -⟩ := categoryAndFile?_eq_some_iff.mp found
  obtain ⟨c, first, solid⟩ := table category known
  rw [List.head?_append, first] at starts
  rw [starts c rfl] at solid
  cases solid

/-- Behind the phrase of a category there has to be a file. -/
theorem categoryAndFile?_eq_none_of_bare :
    ∀ category ∈ importCategories,
      categoryAndFile? (Text.trimEnd (category ++ " file ").toList) = none := by
  decide +kernel

/-- No word starts with a blank. -/
theorem wordThen?_eq_none_of_blank
    {separator : String}
    (starts : ∀ c ∈ rest.head?, Text.isBlank c = true) :
    wordThen? separator rest = none := by
  have noWord : rest.takeWhile Text.isWordChar = [] := by
    cases rest with
    | nil =>
        rfl
    | cons c others =>
        refine List.takeWhile_cons_of_neg fun isWordChar => ?_
        have solid := Text.isBlank_of_isWordChar isWordChar
        rw [starts c rfl] at solid
        cases solid
  unfold wordThen?
  rw [noWord]
  rfl

/-- Behind the separator of a word there has to be text. -/
theorem wordThen?_eq_none_of_bare
    {opening separator word : String}
    (known : (opening, separator) ∈ wordRules)
    (isWord : Text.isWord word.toList = true) :
    wordThen? separator (word.toList ++ Text.trimEnd separator.toList) = none := by
  have table :
      ∀ entry ∈ wordRules,
        (Text.trimEnd entry.2.toList).head?.any Text.isWordChar = false ∧
          afterPhrase? entry.2 (Text.trimEnd entry.2.toList) = none := by
    decide +kernel
  obtain ⟨noWord, refused⟩ := table _ known
  have stops : ∀ c ∈ (Text.trimEnd separator.toList).head?, Text.isWordChar c = false := by
    intro c first
    rwa [Option.mem_def.mp first] at noWord
  have allWord := List.all_eq_true.mp (Bool.and_eq_true_iff.mp isWord).2
  unfold wordThen?
  dsimp only at refused ⊢
  rw [Text.takeWhile_run_append allWord stops, Text.dropWhile_run_append allWord stops, refused]
  exact ite_self _

/-- A rule that reads a word refuses what has no word, no separator or nothing behind it. -/
theorem exists_wordRule :
    ∀ entry ∈ wordRules,
      ∃ rule ∈ Grammar.runtime.rules,
        rule.opening = entry.1 ∧
          ∀ s, wordThen? entry.2 s = none → rule.commandOf? s = none := by
  have field
      {separator : String}
      {build : String × String → Command}
      {s : List Char}
      (refused : wordThen? separator s = none) :
      (wordAndField? separator s).map build = none := by
    rw [wordAndField?, refused]
    rfl
  simp only [wordRules, List.forall_mem_cons]
  refine ⟨?_, ?_, ?_, ?_, ?_, List.forall_mem_nil _⟩
  · exact ⟨_, List.mem_of_getElem? (i := 8) rfl, rfl, fun s refused => field refused⟩
  · exact ⟨_, List.mem_of_getElem? (i := 9) rfl, rfl, fun s refused => field refused⟩
  · exact ⟨_, List.mem_of_getElem? (i := 10) rfl, rfl, fun s refused => field refused⟩
  · exact ⟨_, List.mem_of_getElem? (i := 11) rfl, rfl, fun s refused => field refused⟩
  · refine ⟨_, List.mem_of_getElem? (i := 12) rfl, rfl, fun s refused => ?_⟩
    dsimp only
    rw [refused]

/-! ### Two fields -/

/-- A text that ends with its only separator is not split. -/
theorem splitLast?_eq_none_of_bare
    {separator left : List Char}
    (absent : ¬ separator <:+: left ++ separator.dropLast) :
    splitLast? separator (left ++ Text.trimEnd separator) = none := by
  refine Option.eq_none_iff_forall_ne_some.mpr ?_
  rintro ⟨front, right⟩ split
  obtain ⟨divides, -, right_ne, -⟩ := lastSplit_of_splitLast? split
  obtain ⟨spaces, -, divided, -⟩ := Text.exists_blanks_trimEnd separator
  have separator_ne : separator ≠ [] := by
    rintro rfl
    exact absent List.nil_infix
  have whole : front ++ separator ++ (right ++ spaces) = left ++ separator := by
    conv_rhs => rw [divided]
    rw [← List.append_assoc, ← divides, List.append_assoc]
  have shorter := congrArg List.dropLast whole
  rw [List.dropLast_append_of_ne_nil (by simp [right_ne]),
    List.dropLast_append_of_ne_nil separator_ne] at shorter
  exact absent ⟨_, _, shorter⟩

/-- A text that starts with its only separator is not split. -/
theorem splitLast?_eq_none_of_start
    {separator s behind : List Char}
    (absent : ¬ separator <:+: (s ++ behind).tail) :
    splitLast? separator s = none := by
  refine Option.eq_none_iff_forall_ne_some.mpr ?_
  rintro ⟨left, right⟩ split
  obtain ⟨divides, left_ne, -, -⟩ := lastSplit_of_splitLast? split
  obtain ⟨first, others, rfl⟩ := List.exists_cons_of_ne_nil left_ne
  refine absent ⟨others, right ++ behind, ?_⟩
  rw [divides]
  simp

/-- A rule with two fields refuses what it cannot split. -/
theorem Divides.exists_rule
    {opening separator : String}
    (divides : Divides opening separator) :
    ∃ rule ∈ Grammar.runtime.rules,
      ∃ front,
        opening.toList = rule.opening.toList ++ front ∧
          ∀ s,
            s ≠ [] →
              splitLast? separator.toList s = none →
                rule.commandOf? (front ++ s) = none := by
  have fields
      {separator : String}
      {build : String × String → Command}
      {s : List Char}
      (refused : splitLast? separator.toList s = none) :
      (twoFields? separator s).map build = none := by
    rw [twoFields?, refused]
    rfl
  cases divides with
  | fileRename =>
      exact ⟨_, List.mem_of_getElem? (i := 2) rfl, [], rfl, fun s _ refused => fields refused⟩
  | includeFramework =>
      exact ⟨_, List.mem_of_getElem? (i := 4) rfl, [], rfl, fun s _ refused => fields refused⟩
  | transform =>
      exact ⟨_, List.mem_of_getElem? (i := 5) rfl, [], rfl, fun s _ refused => fields refused⟩
  | copy =>
      exact ⟨_, List.mem_of_getElem? (i := 6) rfl, [], rfl, fun s _ refused => fields refused⟩
  | @mediaLoad mediaType isWord =>
      refine
        ⟨_, List.mem_of_getElem? (i := 12) rfl, mediaType.toList ++ " from ".toList, ?_,
          fun s filled refused => ?_⟩
      · simp
      · have word :
            wordThen? " from " (mediaType.toList ++ " from ".toList ++ s) =
              some (mediaType, s) :=
          (wordThen?_eq_some_iff rfl rfl).mpr ⟨isWord, filled, List.append_assoc _ _ _⟩
        dsimp only
        rw [word]
        exact fields refused

/-- Every line that lacks a field is unknown. -/
theorem LacksField.parseLine_eq_error
    {lacking : List Char}
    (lacks : LacksField lacking)
    (same : Text.trim text = Text.trim lacking) :
    parseLine grammar line text = .error ⟨String.ofList (Text.trim text), line⟩ := by
  cases lacks with
  | everything member allBlank =>
      rw [Text.trim_append_of_blank _ allBlank] at same
      exact parseLine_eq_error_of_bare member same
  | category starts =>
      refine parseLine_eq_error_of_blank (List.mem_of_getElem? (i := 0) rfl) ?_ starts same
      intro s starts
      dsimp only
      rw [categoryAndFile?_eq_none_of_blank starts]
      rfl
  | @file category blanks known allBlank =>
      have member := List.mem_of_getElem? (l := Grammar.runtime.rules) (i := 0) rfl
      have filled : ∀ category ∈ importCategories,
          Text.trimEnd (category ++ " file ").toList ≠ [] := by
        decide +kernel
      have trimmed :=
        trim_opening_append_separator member [] _ (filled category known)
          (fun _ => nofun) allBlank
      refine parseLine_eq_error_of_refused member (same.trans trimmed) ?_
      dsimp only
      rw [List.nil_append, categoryAndFile?_eq_none_of_bare category known]
      rfl
  | word known starts =>
      obtain ⟨rule, member, rfl, refuses⟩ := exists_wordRule _ known
      exact parseLine_eq_error_of_blank member
        (fun s starts => refuses s (wordThen?_eq_none_of_blank starts)) starts same
  | @behindWord _ separator word blanks known isWord allBlank =>
      obtain ⟨rule, member, rfl, refuses⟩ := exists_wordRule _ known
      obtain ⟨filled, allWord⟩ := Bool.and_eq_true_iff.mp isWord
      have wordEnds : ∀ c ∈ word.toList.getLast?, Text.isBlank c = false :=
        fun c last =>
          Text.isBlank_of_isWordChar (List.all_eq_true.mp allWord c (List.mem_of_getLast? last))
      have wordFilled : word.toList ≠ [] := by
        simpa using filled
      have trimmed :=
        trim_opening_append_separator member word.toList separator.toList
          (List.append_ne_nil_of_left_ne_nil wordFilled _) (fun _ => wordEnds) allBlank
      exact parseLine_eq_error_of_refused member (same.trans trimmed)
        (refuses _ (wordThen?_eq_none_of_bare known isWord))
  | @first opening separator right divides absent =>
      obtain ⟨rule, member, front, shape, refuses⟩ := divides.exists_rule
      obtain ⟨blanks, allBlank, divided, ends⟩ :=
        Text.exists_blanks_trimEnd (separator.toList ++ right)
      have solid : separator.toList.all Text.isBlank = false := by
        cases divides <;> decide +kernel
      have filled : Text.trimEnd (separator.toList ++ right) ≠ [] := by
        intro empty
        rw [empty, List.nil_append] at divided
        rw [← divided] at allBlank
        obtain ⟨separatorBlank, -⟩ := List.forall_mem_append.mp allBlank
        rw [List.all_eq_true.mpr separatorBlank] at solid
        cases solid
      have trimmed :=
        trim_opening_append member (List.append_ne_nil_of_right_ne_nil front filled)
          (by rwa [List.getLast?_append_of_ne_nil _ filled])
      rw [divided] at absent same
      rw [shape, ← List.append_assoc, Text.trim_append_of_blank _ allBlank,
        List.append_assoc, trimmed] at same
      exact parseLine_eq_error_of_refused member same
        (refuses _ filled (splitLast?_eq_none_of_start absent))
  | @second opening separator left blanks divides absent allBlank =>
      obtain ⟨rule, member, front, shape, refuses⟩ := divides.exists_rule
      have solid : Text.trimEnd separator.toList ≠ [] := by
        cases divides <;> decide +kernel
      have filled := List.append_ne_nil_of_right_ne_nil left solid
      have trimmed :=
        trim_opening_append_separator member (front ++ left) separator.toList
          (List.append_ne_nil_of_right_ne_nil _ solid) (absurd · solid) allBlank
      rw [shape, List.append_assoc, ← List.append_assoc front] at same
      rw [trimmed, List.append_assoc] at same
      exact parseLine_eq_error_of_refused member same
        (refuses _ filled (splitLast?_eq_none_of_bare absent))

end Refused

/-! ## What is read with an empty field -/

namespace Command

variable {command : Command} {division : Division}

theorem written_eq_of_division
    (divided : division ∈ command.division?) :
    command.written =
      division.opening.toList ++
        (division.left.toList ++ (division.separator.toList ++ division.right.toList)) := by
  cases command <;> cases divided <;> simp [written, pieces]

/-- Blanks in the place of the first of two fields fit the pattern, with an empty field. -/
theorem exists_linePattern_of_blanks
    (writable : command.Writable)
    (divided : division ∈ command.division?)
    {blanks : List Char}
    (filled : blanks ≠ [])
    (allBlank : ∀ c ∈ blanks, Text.isBlank c = true) :
    ∃ other,
      LinePattern
          (division.opening.toList ++
            (blanks ++ (division.separator.toList ++ division.right.toList)))
          other ∧
        other.kind = command.kind ∧
          other.division? = some { division with left := "" } := by
  obtain ⟨fit, separated⟩ := writable
  have absent := separated division divided
  have split
      {separator right : String}
      (overlaps : OverlapsInOne separator.toList)
      (absent : AbsentAfter separator.toList right.toList)
      (isField : IsField right) :
      LastSplit separator.toList (blanks ++ (separator.toList ++ right.toList)) blanks
        right.toList := by
    rw [← List.append_assoc]
    exact .of_absentAfter overlaps absent filled isField.toList_ne_nil
  have empty : fieldText blanks = "" := fieldText_eq_empty_iff.mpr allBlank
  cases command with
  | fileRename source target =>
      cases divided
      refine ⟨_, .fileRename (split (by decide +kernel) absent fit.2), rfl, ?_⟩
      rw [division?, empty, fit.2.fieldText_eq]
  | includeFramework framework version =>
      cases divided
      refine ⟨_, .includeFramework (split (by decide +kernel) absent fit.2), rfl, ?_⟩
      rw [division?, empty, fit.2.fieldText_eq]
  | transform file plugin =>
      cases divided
      refine ⟨_, .transform (split (by decide +kernel) absent fit.2), rfl, ?_⟩
      rw [division?, empty, fit.2.fieldText_eq]
  | copy source destination =>
      cases divided
      refine ⟨_, .copy (split (by decide +kernel) absent fit.2), rfl, ?_⟩
      rw [division?, empty, fit.2.fieldText_eq]
  | mediaLoad mediaType url selector =>
      cases divided
      have fits := LinePattern.mediaLoad fit.1 (split (by decide +kernel) absent fit.2.2)
      rw [empty, fit.2.2.fieldText_eq] at fits
      exact ⟨.mediaLoad mediaType "" selector, by simpa using fits, rfl, rfl⟩
  | _ =>
      cases divided

/-- A line with blanks in the place of the first of two fields is read, with an empty field. -/
theorem exists_parseLine_of_blanks
    {grammar : Grammar}
    (line : Int)
    (writable : command.Writable)
    (divided : division ∈ command.division?)
    (inGrammar : command.kind = .mediaLoad → grammar = .runtime)
    {blanks : List Char}
    (filled : blanks ≠ [])
    (allBlank : ∀ c ∈ blanks, Text.isBlank c = true)
    (oneLine : '\n' ∉ blanks) :
    ∃ placed,
      parseLine grammar line
          (division.opening.toList ++
            (blanks ++ (division.separator.toList ++ division.right.toList))) =
          .ok (some placed) ∧
        placed.command.division? = some { division with left := "" } := by
  obtain ⟨other, fits, sameKind, emptied⟩ :=
    exists_linePattern_of_blanks writable divided filled allBlank
  have written := written_eq_of_division divided
  have trimmed := trim_written writable.fieldsFit
  have noNewline := newline_not_mem_written writable.fieldsFit
  rw [written] at trimmed noNewline
  have openingFilled : division.opening.toList ≠ [] := by
    cases command <;> cases divided <;> simp
  have backFilled : division.separator.toList ++ division.right.toList ≠ [] := by
    cases command <;> cases divided <;> simp
  have whole := Text.trim_between openingFilled backFilled _ blanks trimmed
  refine ⟨⟨other, line⟩, ?_, emptied⟩
  rw [parseLine_eq_ok_some_iff_linePattern, whole]
  refine ⟨rfl, ?_, fits, fun isMedia => inGrammar (sameKind ▸ isMedia)⟩
  simp only [List.mem_append, not_or] at noNewline ⊢
  exact ⟨noNewline.1, oneLine, noNewline.2.2⟩

end Command

/--
The texts of a command that was read are trimmed, and the first of two fields is the only
one that can be empty.  It is exactly when only blanks stand in its place, and every line of
a command with two fields is read in this way when blanks are put there.  A line that lacks
any other field is unknown, and so is one with not even a blank in the place of the first.
-/
theorem only_first_field_is_left_blank
    (grammar : Grammar)
    (line : Int) :
    (∀ (text : List Char) (placed : PlacedCommand),
      parseLine grammar line text = .ok (some placed) →
        (∀ name field,
          (name, .text field) ∈ placed.command.payload →
            Text.trim field.toList = field.toList ∧
              (field = "" → placed.command.firstOfTwo? = some (name, field))) ∧
        ∀ division ∈ placed.command.division?,
          (division.left = "" ↔
            ∃ rest blanks right,
              Text.trim text = division.opening.toList ++ rest ∧
                LastSplit division.separator.toList rest blanks right ∧
                  ∀ c ∈ blanks, Text.isBlank c = true)) ∧
      (∀ (text lacking : List Char),
        LacksField lacking →
          Text.trim text = Text.trim lacking →
            parseLine grammar line text = .error ⟨String.ofList (Text.trim text), line⟩) ∧
      ∀ (command : Command) (division : Division) (blanks : List Char),
        command.Writable →
          division ∈ command.division? →
            (command.kind = .mediaLoad → grammar = .runtime) →
              blanks ≠ [] →
                (∀ c ∈ blanks, Text.isBlank c = true) →
                  '\n' ∉ blanks →
                    ∃ placed,
                      parseLine grammar line
                          (division.opening.toList ++
                            (blanks ++
                              (division.separator.toList ++ division.right.toList))) =
                          .ok (some placed) ∧
                        placed.command.division? = some { division with left := "" } := by
  refine ⟨fun text placed given => ?_, fun text lacking lacks same => ?_, ?_⟩
  · obtain ⟨-, -, fits, -⟩ := parseLine_eq_ok_some_iff_linePattern.mp given
    refine ⟨fun name field member => ?_, fun division divided => ?_⟩
    · exact fits.isKept (Text.trim_trim text) _ member field rfl
    · exact fits.left_eq_empty_iff divided
  · exact lacks.parseLine_eq_error same
  · intro command division blanks writable divided inGrammar filled allBlank oneLine
    exact Command.exists_parseLine_of_blanks line writable divided inGrammar filled allBlank
      oneLine

/-- Copies with both fields, without the second one and with blanks for the first. -/
theorem only_first_field_is_left_blank_of_copies :
    (∀ name field,
      (name, .text field) ∈ (Command.copy "a" "b").payload →
        Text.trim field.toList = field.toList) ∧
      parseLine .build 2 " hsx copy a to  ".toList = .error ⟨"hsx copy a to", 2⟩ ∧
      ∃ placed,
        parseLine .build 2 "hsx copy  \t to b".toList = .ok (some placed) ∧
          placed.command.division? = some ⟨"hsx copy ", "", " to ", "b"⟩ := by
  obtain ⟨given, refused, emptied⟩ := only_first_field_is_left_blank .build 2
  have both :
      parseLine .build 2 "hsx copy a to b".toList = .ok (some ⟨.copy "a" "b", 2⟩) := by
    decide +kernel
  have lacks :
      LacksField ("hsx copy ".toList ++ (['a'] ++ (" to ".toList ++ [' ']))) :=
    .second .copy (by decide +kernel) (List.all_eq_true.mp (by decide +kernel))
  have writable : (Command.copy "a" "b").Writable :=
    { fieldsFit :=
        ⟨⟨by decide +kernel, by decide +kernel, by decide +kernel⟩,
          ⟨by decide +kernel, by decide +kernel, by decide +kernel⟩⟩
      separated := by
        rintro division ⟨⟩
        unfold AbsentAfter
        decide +kernel }
  refine ⟨fun name field member => ((given _ _ both).1 name field member).1, ?_, ?_⟩
  · exact refused " hsx copy a to  ".toList _ lacks (by decide +kernel)
  · have left :=
      emptied (.copy "a" "b") ⟨"hsx copy ", "a", " to ", "b"⟩ [' ', '\t'] writable rfl nofun
        (by decide) (List.all_eq_true.mp (by decide +kernel)) (by decide)
    simpa using left

/-- A copy whose source is blank is no unknown line. -/
theorem blank_source_is_read :
    ¬ ∀ placed,
      parseLine .build 0 "hsx copy   to b".toList = .ok (some placed) →
        ∀ name field, (name, .text field) ∈ placed.command.payload → field ≠ "" := by
  intro filled
  have given :
      parseLine .build 0 "hsx copy   to b".toList = .ok (some ⟨.copy "" "b", 0⟩) := by
    decide +kernel
  exact filled _ given "source" "" List.mem_cons_self rfl

end PageScript.Script
