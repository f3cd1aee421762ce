import PageScript.Proofs.Script.Rules

namespace PageScript.Script

/-!
# The patterns of the lines

A pattern says which trimmed lines give a command and what its fields are: a
fixed phrase, then a field, two fields around the last separator, or a word and
the rest.  A line gives a command exactly when it is a single line that fits a
pattern of the grammar.
-/

/-- A trimmed line fits the pattern of a command. -/
inductive LinePattern : List Char → Command → Prop where
  | existImport
      {category : String}
      {file : List Char} :
      category ∈ importCategories →
      file ≠ [] →
      LinePattern
        ("hsx exist import ".toList ++ ((category ++ " file ").toList ++ file))
        (.existImport category (fieldText file))
  | fileImportAll
      {destination : List Char} :
      destination ≠ [] →
      LinePattern ("hsx file import all to ".toList ++ destination)
        (.fileImportAll (fieldText destination))
  | fileRename
      {rest source target : List Char} :
      LastSplit "-to-".toList rest source target →
      LinePattern ("hsx file import/make/rename/".toList ++ rest)
        (.fileRename (fieldText source) (fieldText target))
  | buildTarget
      {target : List Char} :
      target ≠ [] →
      LinePattern ("hsx build target ".toList ++ target)
        (.buildTarget (fieldText target))
  | includeFramework
      {rest framework version : List Char} :
      LastSplit " version ".toList rest framework version →
      LinePattern ("hsx include framework ".toList ++ rest)
        (.includeFramework (fieldText framework) (fieldText version))
  | transform
      {rest file plugin : List Char} :
      LastSplit " with ".toList rest file plugin →
      LinePattern ("hsx transform ".toList ++ rest)
        (.transform (fieldText file) (fieldText plugin))
  | copy
      {rest source destination : List Char} :
      LastSplit " to ".toList rest source destination →
      LinePattern ("hsx copy ".toList ++ rest)
        (.copy (fieldText source) (fieldText destination))
  | runAsync
      {code : List Char} :
      code ≠ [] →
      LinePattern ("hsx run async ".toList ++ code)
        (.runAsync (fieldText code))
  | defineComponent
      {name : String}
      {content : List Char} :
      Text.isWord name.toList = true →
      content ≠ [] →
      LinePattern
        ("hsx define component ".toList ++
          (name.toList ++ (" ".toList ++ content)))
        (.defineComponent name (fieldText content))
  | renderComponent
      {name : String}
      {selector : List Char} :
      Text.isWord name.toList = true →
      selector ≠ [] →
      LinePattern
        ("hsx render component ".toList ++
          (name.toList ++ (" to ".toList ++ selector)))
        (.renderComponent name (fieldText selector))
  | setVariable
      {name : String}
      {value : List Char} :
      Text.isWord name.toList = true →
      value ≠ [] →
      LinePattern
        ("hsx set variable ".toList ++ (name.toList ++ (" = ".toList ++ value)))
        (.setVariable name (fieldText value) false)
  | reactiveVariable
      {name : String}
      {value : List Char} :
      Text.isWord name.toList = true →
      value ≠ [] →
      LinePattern
        ("hsx reactive variable ".toList ++
          (name.toList ++ (" = ".toList ++ value)))
        (.setVariable name (fieldText value) true)
  | mediaLoad
      {mediaType : String}
      {rest url selector : List Char} :
      Text.isWord mediaType.toList = true →
      LastSplit " to ".toList rest url selector →
      LinePattern
        ("hsx media load ".toList ++
          (mediaType.toList ++ (" from ".toList ++ rest)))
        (.mediaLoad mediaType (fieldText url) (fieldText selector))

/-! ## The forms of the rest of a line -/

section Forms

variable {α : Type} {s : List Char} {value : α}

theorem map_oneField?_eq_some_iff
    (build : String → α) :
    (oneField? s).map build = some value ↔
      s ≠ [] ∧ value = build (fieldText s) := by
  cases s with
  | nil =>
      simp [oneField?]
  | cons c rest =>
      simp [oneField?, eq_comm]

theorem map_twoFields?_eq_some_iff
    (build : String → String → α)
    {separator : String} :
    ((twoFields? separator s).map fun fields => build fields.1 fields.2) =
        some value ↔
      ∃ left right,
        LastSplit separator.toList s left right ∧
          value = build (fieldText left) (fieldText right) := by
  rw [twoFields?, Option.map_map, Option.map_eq_some_iff]
  constructor
  · rintro ⟨⟨left, right⟩, split, rfl⟩
    exact ⟨left, right, splitLast?_eq_some_iff.mp split, rfl⟩
  · rintro ⟨left, right, split, rfl⟩
    exact ⟨(left, right), splitLast?_eq_some_iff.mpr split, rfl⟩

theorem fieldText_word
    {word : List Char}
    (isWord : ∀ c ∈ word, Text.isWordChar c = true) :
    fieldText word = String.ofList word := by
  rw [fieldText, Text.trim_of_not_blank]
  exact fun c member => Text.isBlank_of_isWordChar (isWord c member)

variable {separator : String} {stop : Char} {others : List Char}

/--
A word ends at a separator that starts with no word character, and text has to
follow the separator.
-/
theorem wordThen?_eq_some_iff
    (starts : separator.toList = stop :: others)
    (ends : Text.isWordChar stop = false)
    {rest : List Char}
    {word : String} :
    wordThen? separator s = some (word, rest) ↔
      Text.isWord word.toList = true ∧
        rest ≠ [] ∧
        s = word.toList ++ (separator.toList ++ rest) := by
  unfold wordThen?
  dsimp only
  constructor
  · intro known
    split at known
    · cases known
    · next filled =>
        split at known
        · cases known
        · next after found =>
            split at known
            · cases known
            · next afterFilled =>
                cases known
                have allWord :
                    ∀ c ∈ s.takeWhile Text.isWordChar,
                      Text.isWordChar c = true :=
                  fun c member => List.mem_takeWhile_imp member
                rw [fieldText_word allWord, String.toList_ofList]
                refine ⟨?_, by simpa using afterFilled, ?_⟩
                · rw [Text.isWord, Bool.and_eq_true]
                  exact ⟨by simpa using filled, List.all_eq_true.mpr allWord⟩
                · rw [← afterPhrase?_eq_some_iff.mp found,
                    List.takeWhile_append_dropWhile]
  · rintro ⟨isWord, filled, rfl⟩
    obtain ⟨wordFilled, allWord⟩ := Bool.and_eq_true_iff.mp isWord
    rw [List.all_eq_true] at allWord
    have first :
        (word.toList ++ (separator.toList ++ rest)).takeWhile
            Text.isWordChar = word.toList := by
      rw [starts]
      exact Text.takeWhile_run allWord ends
    have second :
        (word.toList ++ (separator.toList ++ rest)).dropWhile
            Text.isWordChar = separator.toList ++ rest := by
      rw [starts]
      exact Text.dropWhile_run allWord ends
    rw [first, second, afterPhrase?_eq_some_iff.mpr rfl,
      fieldText_word allWord, String.ofList_toList]
    simp [filled, by simpa using wordFilled]

theorem map_wordAndField?_eq_some_iff
    (build : String → String → α)
    (starts : separator.toList = stop :: others)
    (ends : Text.isWordChar stop = false) :
    ((wordAndField? separator s).map fun fields => build fields.1 fields.2) =
        some value ↔
      ∃ (word : String) (rest : List Char),
        Text.isWord word.toList = true ∧
          rest ≠ [] ∧
          s = word.toList ++ (separator.toList ++ rest) ∧
          value = build word (fieldText rest) := by
  rw [wordAndField?, Option.map_map, Option.map_eq_some_iff]
  constructor
  · rintro ⟨⟨word, rest⟩, found, rfl⟩
    obtain ⟨isWord, filled, shape⟩ :=
      (wordThen?_eq_some_iff starts ends).mp found
    exact ⟨word, rest, isWord, filled, shape, rfl⟩
  · rintro ⟨word, rest, isWord, filled, shape, rfl⟩
    refine ⟨(word, rest), ?_, rfl⟩
    exact (wordThen?_eq_some_iff starts ends).mpr ⟨isWord, filled, shape⟩

theorem categories_pairwise_apart :
    importCategories.Pairwise fun first second =>
      Apart (first ++ " file ") (second ++ " file ") := by
  decide

/-- The category is the first one whose phrase opens the text. -/
theorem categoryAndFile?_eq :
    categoryAndFile? s =
      importCategories.findSome? fun category =>
        (afterPhrase? (category ++ " file ") s).bind fun rest =>
          (oneField? rest).map fun file => (category, file) := by
  unfold categoryAndFile?
  congr 1
  funext category
  cases afterPhrase? (category ++ " file ") s <;> rfl

theorem categoryAndFile?_eq_some_iff
    {fields : String × String} :
    categoryAndFile? s = some fields ↔
      ∃ category ∈ importCategories,
        ∃ file,
          file ≠ [] ∧
            s = (category ++ " file ").toList ++ file ∧
            fields = (category, fieldText file) := by
  have gives_iff :
      ∀ (category : String) (found : String × String),
        ((afterPhrase? (category ++ " file ") s).bind fun rest =>
              (oneField? rest).map fun file => (category, file)) =
            some found ↔
          ∃ file,
            file ≠ [] ∧
              s = (category ++ " file ").toList ++ file ∧
              found = (category, fieldText file) := by
    intro category found
    cases after : afterPhrase? (category ++ " file ") s with
    | none =>
        constructor
        · intro known
          cases known
        · rintro ⟨file, -, shape, -⟩
          rw [afterPhrase?_eq_some_iff.mpr shape] at after
          cases after
    | some rest =>
        have shape := afterPhrase?_eq_some_iff.mp after
        rw [Option.bind_some, map_oneField?_eq_some_iff]
        constructor
        · rintro ⟨filled, rfl⟩
          exact ⟨rest, filled, shape, rfl⟩
        · rintro ⟨file, filled, otherShape, rfl⟩
          obtain rfl : rest = file :=
            List.append_cancel_left (shape.symm.trans otherShape)
          exact ⟨filled, rfl⟩
  rw [categoryAndFile?_eq, findSome?_eq_some_iff_of_exclusive]
  · exact exists_congr fun category =>
      and_congr_right fun _ => gives_iff category fields
  · refine categories_pairwise_apart.imp ?_
    intro first second apart left right firstGives secondGives
    obtain ⟨firstFile, -, firstShape, -⟩ := (gives_iff _ _).mp firstGives
    obtain ⟨secondFile, -, secondShape, -⟩ := (gives_iff _ _).mp secondGives
    exact
      apart.not_both ⟨firstFile, firstShape.symm⟩
        ⟨secondFile, secondShape.symm⟩

end Forms

/-! ## Lines -/

/-- What a rule gives fits the pattern of the command. -/
theorem linePattern_of_rule
    {rule : Rule}
    (member : rule ∈ Grammar.runtime.rules)
    {rest : List Char}
    {command : Command}
    (gives : rule.commandOf? rest = some command) :
    LinePattern (rule.opening.toList ++ rest) command := by
  -- Stated for the rest of this line, so that a case names only its command.
  have ofOneField {build : String → Command} :=
    (@map_oneField?_eq_some_iff _ rest command build).mp
  have ofTwoFields {build : String → String → Command} {separator : String} :=
    (@map_twoFields?_eq_some_iff _ rest command build separator).mp
  have ofWordAndField
      (build : String → String → Command)
      {separator : String}
      {stop : Char}
      {others : List Char}
      (starts : separator.toList = stop :: others)
      (ends : Text.isWordChar stop = false) :=
    (@map_wordAndField?_eq_some_iff _ rest command separator stop others build
      starts ends).mp
  simp only [Grammar.rules, sharedRules, runtimeOnlyRules, List.cons_append,
    List.nil_append, List.mem_cons, List.not_mem_nil, or_false] at member
  rcases member with rfl | rfl | rfl | rfl | rfl | rfl | rfl | rfl | rfl |
    rfl | rfl | rfl | rfl
  · obtain ⟨fields, found, rfl⟩ := Option.map_eq_some_iff.mp gives
    obtain ⟨category, known, file, filled, rfl, rfl⟩ :=
      categoryAndFile?_eq_some_iff.mp found
    exact .existImport known filled
  · obtain ⟨filled, rfl⟩ := ofOneField gives
    exact .fileImportAll filled
  · obtain ⟨left, right, split, rfl⟩ := ofTwoFields gives
    exact .fileRename split
  · obtain ⟨filled, rfl⟩ := ofOneField gives
    exact .buildTarget filled
  · obtain ⟨left, right, split, rfl⟩ := ofTwoFields gives
    exact .includeFramework split
  · obtain ⟨left, right, split, rfl⟩ := ofTwoFields gives
    exact .transform split
  · obtain ⟨left, right, split, rfl⟩ := ofTwoFields gives
    exact .copy split
  · obtain ⟨filled, rfl⟩ := ofOneField gives
    exact .runAsync filled
  · obtain ⟨name, content, isWord, filled, rfl, rfl⟩ :=
      ofWordAndField .defineComponent rfl rfl gives
    exact .defineComponent isWord filled
  · obtain ⟨name, selector, isWord, filled, rfl, rfl⟩ :=
      ofWordAndField .renderComponent rfl rfl gives
    exact .renderComponent isWord filled
  · obtain ⟨name, value, isWord, filled, rfl, rfl⟩ :=
      ofWordAndField (.setVariable · · false) rfl rfl gives
    exact .setVariable isWord filled
  · obtain ⟨name, value, isWord, filled, rfl, rfl⟩ :=
      ofWordAndField (.setVariable · · true) rfl rfl gives
    exact .reactiveVariable isWord filled
  -- A media element alone has a word and, behind it, two fields.
  · dsimp only at gives
    split at gives
    · cases gives
    · next mediaType after found =>
        obtain ⟨isWord, -, rfl⟩ := (wordThen?_eq_some_iff rfl rfl).mp found
        obtain ⟨left, right, split, rfl⟩ :=
          (map_twoFields?_eq_some_iff (Command.mediaLoad mediaType)).mp gives
        exact .mediaLoad isWord split

/-- A rule of the grammar gives the command whose pattern a line fits. -/
theorem exists_rule_of_linePattern
    {grammar : Grammar}
    {s : List Char}
    {command : Command}
    (fits : LinePattern s command)
    (inGrammar : command.kind = .mediaLoad → grammar = .runtime) :
    ∃ rule ∈ grammar.rules,
      ∃ rest,
        s = rule.opening.toList ++ rest ∧
          rule.commandOf? rest = some command := by
  -- The shared rules come first in both grammars, at the same places.
  have shared :
      ∀ (place : Nat) (rule : Rule),
        sharedRules[place]? = some rule → rule ∈ grammar.rules := by
    intro place rule found
    have member := List.mem_of_getElem? found
    cases grammar with
    | build =>
        exact member
    | runtime =>
        exact List.mem_append_left _ member
  have oneField
      {s : List Char}
      {build : String → Command}
      (filled : s ≠ []) :=
    (map_oneField?_eq_some_iff build).mpr ⟨filled, rfl⟩
  have twoFields
      {s left right : List Char}
      {build : String → String → Command}
      {separator : String}
      (split : LastSplit separator.toList s left right) :=
    (map_twoFields?_eq_some_iff build).mpr ⟨left, right, split, rfl⟩
  have wordAndField
      (build : String → String → Command)
      {separator word : String}
      {stop : Char}
      {others rest : List Char}
      (starts : separator.toList = stop :: others)
      (ends : Text.isWordChar stop = false)
      (isWord : Text.isWord word.toList = true)
      (filled : rest ≠ []) :=
    (map_wordAndField?_eq_some_iff build starts ends).mpr
      ⟨word, rest, isWord, filled, rfl, rfl⟩
  cases fits with
  | @existImport category file known filled =>
      exact
        ⟨_, shared 0 _ rfl, _, rfl,
          Option.map_eq_some_iff.mpr
            ⟨(category, fieldText file),
              categoryAndFile?_eq_some_iff.mpr
                ⟨category, known, file, filled, rfl, rfl⟩,
              rfl⟩⟩
  | fileImportAll filled =>
      exact ⟨_, shared 1 _ rfl, _, rfl, oneField filled⟩
  | fileRename split =>
      exact ⟨_, shared 2 _ rfl, _, rfl, twoFields split⟩
  | buildTarget filled =>
      exact ⟨_, shared 3 _ rfl, _, rfl, oneField filled⟩
  | includeFramework split =>
      exact ⟨_, shared 4 _ rfl, _, rfl, twoFields split⟩
  | transform split =>
      exact ⟨_, shared 5 _ rfl, _, rfl, twoFields split⟩
  | copy split =>
      exact ⟨_, shared 6 _ rfl, _, rfl, twoFields split⟩
  | runAsync filled =>
      exact ⟨_, shared 7 _ rfl, _, rfl, oneField filled⟩
  | defineComponent isWord filled =>
      exact
        ⟨_, shared 8 _ rfl, _, rfl,
          wordAndField .defineComponent rfl rfl isWord filled⟩
  | renderComponent isWord filled =>
      exact
        ⟨_, shared 9 _ rfl, _, rfl,
          wordAndField .renderComponent rfl rfl isWord filled⟩
  | setVariable isWord filled =>
      exact
        ⟨_, shared 10 _ rfl, _, rfl,
          wordAndField (.setVariable · · false) rfl rfl isWord filled⟩
  | reactiveVariable isWord filled =>
      exact
        ⟨_, shared 11 _ rfl, _, rfl,
          wordAndField (.setVariable · · true) rfl rfl isWord filled⟩
  | @mediaLoad mediaType rest url selector isWord split =>
      obtain rfl := inGrammar rfl
      have restFilled : rest ≠ [] := by
        rw [split.divides]
        simp [split.left_ne]
      refine
        ⟨_, List.mem_append_right _ (List.mem_singleton_self _), _, rfl, ?_⟩
      dsimp only
      rw [(wordThen?_eq_some_iff rfl rfl).mpr ⟨isWord, restFilled, rfl⟩]
      exact twoFields split

/-- Only lines with their own opening give media elements. -/
theorem LinePattern.prefix_of_mediaLoad
    {s : List Char}
    {command : Command}
    (fits : LinePattern s command)
    (isMedia : command.kind = .mediaLoad) :
    "hsx media load ".toList <+: s := by
  cases fits with
  | mediaLoad _ _ =>
      exact List.prefix_append _ _
  | _ =>
      cases isMedia

/-- No rule of the build grammar gives a media element. -/
theorem kind_ne_mediaLoad_of_sharedRules
    {rule : Rule}
    (member : rule ∈ sharedRules)
    {s : List Char}
    {command : Command}
    (accepts : rule.apply? s = some command)
    (fits : LinePattern s command) :
    command.kind ≠ .mediaLoad := by
  intro isMedia
  obtain ⟨-, -, apart⟩ := List.pairwise_append.mp openings_pairwise_apart
  exact
    (apart rule member _ (List.mem_singleton_self _)).not_both
      (Rule.opening_prefix accepts) (fits.prefix_of_mediaLoad isMedia)

/--
A line gives a command exactly when it is a single line, trimmed, that fits the
pattern of the command, and the grammar has commands of this kind.
-/
theorem parseLine_eq_ok_some_iff_linePattern
    {grammar : Grammar}
    {line : Int}
    {text : List Char}
    {placed : PlacedCommand} :
    parseLine grammar line text = .ok (some placed) ↔
      placed.line = line ∧
        '\n' ∉ Text.trim text ∧
        LinePattern (Text.trim text) placed.command ∧
        (placed.command.kind = .mediaLoad → grammar = .runtime) := by
  rw [parseLine_eq_ok_some_iff]
  refine and_congr_right fun _ => ?_
  constructor
  · rintro ⟨rule, member, accepts⟩
    obtain ⟨oneLine, rest, shape, gives⟩ :=
      Rule.apply?_eq_some_iff.mp accepts
    have fits :=
      linePattern_of_rule ((rules_sublist grammar).subset member) gives
    rw [← shape] at fits
    refine ⟨oneLine, fits, ?_⟩
    intro isMedia
    cases grammar with
    | runtime =>
        rfl
    | build =>
        exact
          (kind_ne_mediaLoad_of_sharedRules member accepts fits isMedia).elim
  · rintro ⟨oneLine, fits, inGrammar⟩
    obtain ⟨rule, member, rest, shape, gives⟩ :=
      exists_rule_of_linePattern fits inGrammar
    exact
      ⟨rule, member,
        Rule.apply?_eq_some_iff.mpr ⟨oneLine, rest, shape, gives⟩⟩

end PageScript.Script
