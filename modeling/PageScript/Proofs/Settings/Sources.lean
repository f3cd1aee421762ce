import PageScript.Proofs.Settings.Layering
import PageScript.Proofs.Text.LowerCase
import PageScript.Settings.Loading

namespace PageScript

/-!
# Where settings are stated

A settings text, the environment and a caller each give one layer, which states no
field twice.  A variable that is the prefix with the name of a field gives the field its
text, and a variable that joins a section and one of its fields gives this field of the
section, whatever other variables are about the section.
-/

/-! ## Outcomes -/

/-- Steps that succeed together succeed one by one. -/
theorem exists_of_bind_eq_ok
    {ε α β : Type}
    {outcome : Except ε α}
    {next : α → Except ε β}
    {result : β}
    (done : outcome >>= next = .ok result) :
    ∃ value, outcome = .ok value ∧ next value = .ok result := by
  cases outcome with
  | error error =>
      cases done
  | ok value =>
      exact ⟨value, rfl, done⟩

/-! ## Settings texts -/

namespace Toml

open Settings

variable {spaces next : Namespaces} {entries changed : Entries}

/-- A change keeps that every field is named once. -/
def KeepsNames (change : Entries → Option Entries) : Prop :=
  ∀ {entries changed : Entries},
    change entries = some changed → NamesOnce entries → NamesOnce changed

theorem keepsNames_some :
    KeepsNames some :=
  fun same once => Option.some.inj same ▸ once

theorem keepsNames_bindNew
    (name : String)
    (value : Value) :
    KeepsNames (bindNew name value) := by
  intro entries changed bound once
  rw [bindNew] at bound
  split at bound
  · obtain rfl := Option.some.inj bound
    exact once.insertEntry name value
  · cases bound

theorem keepsNames_appendRecord
    (name : String) :
    KeepsNames (appendRecord name) := by
  intro entries changed appended once
  rw [appendRecord] at appended
  split at appended
  · obtain rfl := Option.some.inj appended
    exact once.insertEntry name _
  · obtain rfl := Option.some.inj appended
    exact once.insertEntry name _
  · cases appended

/-- A change behind a dotted name binds its first part at most. -/
theorem keepsNames_changeAt
    {change : Entries → Option Entries}
    (keeps : KeepsNames change)
    (throughLists : Bool)
    (key : Key) :
    KeepsNames (changeAt throughLists change key) := by
  intro entries changed result once
  cases key with
  | nil =>
      exact keeps result once
  | cons name rest =>
      rw [changeAt] at result
      have bound :
          ∀ {inner : Option Entries} {build : Entries → Value},
            (inner.map fun found => bindEntry name (build found) entries) = some changed →
              NamesOnce changed := by
        intro inner build grown
        obtain ⟨found, -, rfl⟩ := Option.map_eq_some_iff.mp grown
        exact once.insertEntry name (build found)
      split at result
      · exact bound result
      · split at result
        · split at result
          · exact bound result
          · cases result
        · cases result
      · split at result
        · exact bound result
        · cases result

theorem namesOnce_startRecord
    {key : Key}
    (once : NamesOnce spaces.entries)
    (started : spaces.startRecord key = .ok next) :
    NamesOnce next.entries := by
  rw [Namespaces.startRecord] at started
  split at started
  · cases started
  · split at started
    · cases started
    · next changed result =>
        obtain rfl := Except.ok.inj started
        exact keepsNames_changeAt keepsNames_some true key result once

theorem namesOnce_startItem
    {key : Key}
    (once : NamesOnce spaces.entries)
    (started : spaces.startItem key = .ok next) :
    NamesOnce next.entries := by
  rw [Namespaces.startItem] at started
  split at started
  · cases started
  · split at started
    · cases started
    · next changed result =>
        obtain rfl := Except.ok.inj started
        exact keepsNames_changeAt (keepsNames_appendRecord _) true _ result once

theorem namesOnce_assign
    {key : Key}
    {value : Value}
    (once : NamesOnce spaces.entries)
    (assigned : spaces.assign key value = .ok next) :
    NamesOnce next.entries := by
  rw [Namespaces.assign] at assigned
  dsimp only at assigned
  split at assigned
  · cases assigned
  · split at assigned
    · cases assigned
    · split at assigned
      · cases assigned
      · next changed result =>
          have kept := keepsNames_changeAt (keepsNames_bindNew _ value) true _ result once
          obtain rfl := Except.ok.inj assigned
          split <;> exact kept

theorem eq_ok_of_at_
    {α : Type}
    {rest : List Char}
    {outcome : Except String α}
    {value : α}
    (placed : at_ rest outcome = .ok value) :
    outcome = .ok value := by
  cases outcome with
  | error reason =>
      cases placed
  | ok found =>
      exact congrArg Except.ok (Except.ok.inj placed)

theorem namesOnce_header
    {isItem : Bool}
    {s rest : List Char}
    (once : NamesOnce spaces.entries)
    (read : header isItem spaces s = .ok (next, rest)) :
    NamesOnce next.entries := by
  obtain ⟨⟨name, behind⟩, -, read⟩ := exists_of_bind_eq_ok read
  obtain ⟨started, placed, read⟩ := exists_of_bind_eq_ok read
  have startedOnce : NamesOnce started.entries := by
    have starts := eq_ok_of_at_ placed
    split at starts
    · exact namesOnce_startItem once starts
    · exact namesOnce_startRecord once starts
  dsimp only at read
  split at read <;> split at read
  · cases read
    exact startedOnce
  · cases read
  · cases read
    exact startedOnce
  · cases read

theorem namesOnce_statement
    {s rest : List Char}
    (once : NamesOnce spaces.entries)
    (read : statement spaces s = .ok (next, rest)) :
    NamesOnce next.entries := by
  rw [statement.eq_def] at read
  split at read
  · exact @namesOnce_header spaces.settle _ _ _ _ once read
  · exact @namesOnce_header spaces.settle _ _ _ _ once read
  · cases read
    exact once
  · cases read
    exact once
  · split at read
    · obtain ⟨⟨name, value, behind⟩, -, read⟩ := exists_of_bind_eq_ok read
      obtain ⟨assigned, placed, read⟩ := exists_of_bind_eq_ok read
      cases read
      exact namesOnce_assign once (eq_ok_of_at_ placed)
    · cases read

theorem namesOnce_statements
    {fuel : Nat}
    {s : List Char}
    (once : NamesOnce spaces.entries)
    (read : statements fuel spaces s = .ok next) :
    NamesOnce next.entries := by
  induction fuel generalizing spaces s with
  | zero =>
      cases read
      exact once
  | succ fuel inductionHypothesis =>
      rw [statements] at read
      split at read
      · cases read
        exact once
      · exact inductionHypothesis once read
      · obtain ⟨⟨stated, behind⟩, first, read⟩ := exists_of_bind_eq_ok read
        obtain ⟨after, -, read⟩ := exists_of_bind_eq_ok read
        have statedOnce := namesOnce_statement once first
        split at read
        · cases read
          exact statedOnce
        · exact inductionHypothesis statedOnce read
        · cases read

/-- A settings text names every field once. -/
theorem isLayer_of_read
    {s : List Char}
    {layer : Value}
    (accepted : read s = .ok layer) :
    IsLayer layer := by
  rw [read] at accepted
  cases stated : statements (s.length + 1) {} s with
  | error failure =>
      rw [stated] at accepted
      cases accepted
  | ok spaces =>
      rw [stated] at accepted
      cases accepted
      have none : NamesOnce ({} : Namespaces).entries := ⟨rfl, List.Pairwise.nil⟩
      exact ⟨spaces.entries, rfl, namesOnce_statements none stated⟩

end Toml

namespace Settings

open Validation World

/-- What is read from a settings text names every field once. -/
theorem isLayer_of_textLayer
    {surroundings : Surroundings}
    {path : Option Path}
    {layer : Value}
    (read : textLayer surroundings path = .ok layer) :
    IsLayer layer := by
  cases path with
  | none =>
      cases read
      exact ⟨[], rfl, rfl, .nil⟩
  | some path =>
      obtain ⟨text, -, read⟩ := exists_of_bind_eq_ok read
      rw [readLayer] at read
      split at read
      · next value accepted =>
          cases read
          exact Toml.isLayer_of_read accepted
      · cases read
      · cases read

/-! ## What a caller states -/

/-- The names of the settings that are flags. -/
def flagNames : List String :=
  ["json_output", "quiet", "verbose", "log_json"]

/-- A caller states flags alone, and none twice. -/
structure Request.StatesFlags (request : Request) : Prop where
  known : request.flags.map (·.1) ⊆ flagNames
  once : (request.flags.map (·.1)).Nodup

/-- A caller states every flag once, besides the two places. -/
theorem Request.StatesFlags.isLayer
    {request : Request}
    (states : request.StatesFlags)
    (root : Path)
    (configPath : Option Path) :
    IsLayer (request.layer root configPath) := by
  have names :
      (request.layer root configPath).entries.map (·.1) =
        ("project_root" :: "config_path" :: request.flags.map (·.1)).map Value.text := by
    simp [Request.layer, Value.extended, Value.record, Value.entries]
  refine ⟨_, rfl, namesOnce_of_names names ?_⟩
  have apart : ∀ place ∈ ["project_root", "config_path"], place ∉ request.flags.map (·.1) :=
    fun place member listed => by
      have known := states.known listed
      simp only [flagNames, List.mem_cons, List.not_mem_nil, or_false] at member known
      rcases member with rfl | rfl <;> simp at known
  refine List.nodup_cons.mpr ⟨?_, List.nodup_cons.mpr ⟨?_, states.once⟩⟩
  · simpa using apart "project_root" (by simp)
  · exact apart "config_path" (by simp)

/-- Behind the two places a caller states the flags. -/
theorem entry?_requestLayer
    {name : String}
    (request : Request)
    (root : Path)
    (configPath : Option Path)
    (notRoot : name ≠ "project_root")
    (notPath : name ≠ "config_path") :
    entry? name (request.layer root configPath).entries =
      entry? name (Value.record request.flags).entries := by
  change entry? name ((.text "project_root", _) :: (.text "config_path", _) :: _) = _
  rw [entry?_cons, if_neg notRoot.symm, entry?_cons, if_neg notPath.symm]
  rfl

/-! ## The environment -/

/-- The pieces of a name are its characters without marks, and there is at least one. -/
theorem splitNesting_ne_nil
    (fuel : Nat)
    (taken rest : List Char) :
    splitNesting fuel taken rest ≠ [] := by
  induction fuel generalizing taken rest with
  | zero =>
      rw [splitNesting]
      exact List.cons_ne_nil _ _
  | succ fuel inductionHypothesis =>
      cases rest with
      | nil =>
          rw [splitNesting]
          exact List.cons_ne_nil _ _
      | cons c rest =>
          rw [splitNesting]
          split
          · exact List.cons_ne_nil _ _
          · exact inductionHypothesis _ _

/-- A name in one piece is this piece. -/
theorem toList_of_splitNesting
    {fuel : Nat}
    {taken rest : List Char}
    {piece : String}
    (single : splitNesting fuel taken rest = [piece]) :
    piece.toList = taken.reverse ++ rest := by
  induction fuel generalizing taken rest with
  | zero =>
      rw [splitNesting] at single
      cases single
      rw [String.toList_ofList]
  | succ fuel inductionHypothesis =>
      cases rest with
      | nil =>
          rw [splitNesting] at single
          cases single
          rw [String.toList_ofList, List.append_nil]
      | cons c rest =>
          rw [splitNesting] at single
          split at single
          · exact (splitNesting_ne_nil _ _ _ (List.cons.inj single).2).elim
          · have shape := inductionHypothesis single
            rwa [List.reverse_cons, List.append_assoc] at shape

/-- Every character of a piece is a character of the name. -/
theorem mem_of_mem_splitNesting
    {fuel : Nat}
    {taken rest : List Char}
    {piece : String}
    (member : piece ∈ splitNesting fuel taken rest) :
    ∀ c ∈ piece.toList, c ∈ taken ∨ c ∈ rest := by
  induction fuel generalizing taken rest with
  | zero =>
      rw [splitNesting] at member
      cases List.mem_singleton.mp member
      simp
  | succ fuel inductionHypothesis =>
      cases rest with
      | nil =>
          rw [splitNesting] at member
          cases List.mem_singleton.mp member
          simp
      | cons c rest =>
          rw [splitNesting] at member
          intro d inPiece
          split at member
          · rcases List.mem_cons.mp member with rfl | later
            · rw [String.toList_ofList, List.mem_reverse] at inPiece
              exact .inl inPiece
            · rcases inductionHypothesis later d inPiece with inNone | inRest
              · cases inNone
              · exact .inr (List.mem_cons_of_mem c (List.mem_of_mem_drop inRest))
          · rcases inductionHypothesis member d inPiece with inTaken | inRest
            · rcases List.mem_cons.mp inTaken with rfl | before
              · exact .inr List.mem_cons_self
              · exact .inl before
            · exact .inr (List.mem_cons_of_mem c inRest)

/-- The variable of a field of a section, in small letters. -/
def fieldVariable (sectionName field : String) : String :=
  namePrefix ++ sectionName ++ "__" ++ field

/-- A field without a mark in its name is named by its variable alone. -/
theorem nestedNames?_eq_singleton_iff
    {sectionName field variableName : String}
    (splits : splitNesting (field.toList.length + 1) [] field.toList = [field]) :
    nestedNames? sectionName variableName = some [field] ↔
      variableName = fieldVariable sectionName field := by
  have letters :
      (fieldVariable sectionName field).toList =
        (namePrefix.toList ++ sectionName.toList ++ nestingMark) ++ field.toList := by
    simp [fieldVariable, nestingMark]
  rw [nestedNames?]
  dsimp only
  constructor
  · intro named
    split at named
    · next start =>
        have shape := toList_of_splitNesting (Option.some.inj named)
        obtain ⟨behind, joined⟩ := List.isPrefixOf_iff_prefix.mp start
        rw [← joined, List.drop_left, List.reverse_nil, List.nil_append] at shape
        rw [← String.toList_inj, letters, shape, joined]
    · cases named
  · rintro rfl
    rw [letters, if_pos (List.isPrefixOf_iff_prefix.mpr ⟨_, rfl⟩), List.drop_left, splits]

/-- The keys of some bindings are texts in small letters. -/
def KeysSmall (entries : List (Value × Value)) : Prop :=
  ∀ key ∈ entries.map (·.1),
    ∃ name, key = .text name ∧ ∀ c ∈ name.toList, Text.IsSmall c

section Nested

variable {entries : List (Value × Value)} {name field : String} {names : List String}
  {value : Value}

theorem KeysSmall.insertEntry
    (small : KeysSmall entries)
    (smallName : ∀ c ∈ name.toList, Text.IsSmall c)
    (value : Value) :
    KeysSmall (Table.insertEntry (.text name) value entries) := by
  intro key member
  rw [map_fst_insertEntry] at member
  split at member
  · exact small key member
  · rcases List.mem_append.mp member with known | isLast
    · exact small key known
    · exact ⟨name, List.mem_singleton.mp isLast, smallName⟩

/-- What variables bind is a record in small letters that names every field once. -/
theorem putNested_keeps
    (once : NamesOnce entries)
    (small : KeysSmall entries)
    (smallNames : ∀ name ∈ names, ∀ c ∈ name.toList, Text.IsSmall c)
    (value : Value) :
    NamesOnce (putNested value names entries) ∧ KeysSmall (putNested value names entries) := by
  rcases names with _ | ⟨name, _ | ⟨second, rest⟩⟩
  · exact ⟨once, small⟩
  · have smallName := smallNames name List.mem_cons_self
    exact ⟨once.insertEntry name value, small.insertEntry smallName value⟩
  · have smallName := smallNames name List.mem_cons_self
    rw [putNested]
    · split
      · exact ⟨once.insertEntry name _, small.insertEntry smallName _⟩
      · exact ⟨once.insertEntry name _, small.insertEntry smallName _⟩
      · exact ⟨once, small⟩
    · exact List.cons_ne_nil _ _

/-- A field that is no table is bound by its own name alone. -/
theorem entry?_putNested_iff
    {stated : Value}
    (plain : ¬ IsTable stated) :
    entry? field (putNested value names entries) = some stated ↔
      if names = [field] then value = stated else entry? field entries = some stated := by
  rcases names with _ | ⟨name, _ | ⟨second, rest⟩⟩
  · simp [putNested]
  · rw [putNested]
    by_cases same : name = field
    · subst same
      simp
    · rw [entry?_insertEntry_of_ne (Ne.symm same), if_neg (by simp [same])]
  · rw [putNested, ← entry?_eq_get?, if_neg (by simp)]
    · -- More pieces than one bind a table, which takes the place of nothing but a table.
      by_cases same : name = field
      · subst same
        have different : ∀ inner : List (Value × Value), some (.table inner) ≠ some stated :=
          fun inner equal => plain ⟨inner, (Option.some.inj equal).symm⟩
        split
        · next absent =>
            simp [absent, different]
        · next inner covered =>
            simp [covered, different]
        · exact Iff.rfl
      · split
        · rw [entry?_insertEntry_of_ne (Ne.symm same)]
        · rw [entry?_insertEntry_of_ne (Ne.symm same)]
        · exact Iff.rfl
    · exact List.cons_ne_nil _ _

end Nested

section Variables

variable {sectionName field : String} {given : List (String × String)}
  {entries reached : List (Value × Value)}

/-- The variables of a section bind a record in small letters that names every field once. -/
theorem nestedFields_keeps
    (once : NamesOnce entries)
    (small : KeysSmall entries)
    (smallNames : ∀ entry ∈ given, ∀ c ∈ entry.1.toList, Text.IsSmall c)
    (read : nestedFields sectionName entries given = .ok reached) :
    NamesOnce reached ∧ KeysSmall reached := by
  induction given generalizing entries with
  | nil =>
      cases read
      exact ⟨once, small⟩
  | cons entry rest inductionHypothesis =>
      rcases entry with ⟨variableName, text⟩
      obtain ⟨smallName, restSmall⟩ := List.forall_mem_cons.mp smallNames
      rw [nestedFields] at read
      split at read
      · exact inductionHypothesis once small restSmall read
      · next names named =>
          obtain ⟨value, -, read⟩ := exists_of_bind_eq_ok read
          have pieces : ∀ name ∈ names, ∀ c ∈ name.toList, Text.IsSmall c := by
            intro name member c inName
            rw [nestedNames?] at named
            dsimp only at named
            split at named
            · obtain rfl := Option.some.inj named
              rcases mem_of_mem_splitNesting member c inName with inNone | inRest
              · cases inNone
              · exact smallName c (List.mem_of_mem_drop inRest)
            · cases named
          obtain ⟨putOnce, putSmall⟩ := putNested_keeps once small pieces value
          exact inductionHypothesis putOnce putSmall restSmall read

/--
A field of a section is what its own variable gives, if there is one, whatever the other
variables are and in whatever order they come.
-/
theorem entry?_nestedFields_iff
    {stated : Value}
    (splits : splitNesting (field.toList.length + 1) [] field.toList = [field])
    (nodup : (given.map (·.1)).Nodup)
    (read : nestedFields sectionName entries given = .ok reached)
    (plain : ¬ IsTable stated) :
    entry? field reached = some stated ↔
      match (Table.mk given).get? (fieldVariable sectionName field) with
      | some text => nestedValue sectionName [field] text = .ok stated
      | none => entry? field entries = some stated := by
  induction given generalizing entries with
  | nil =>
      cases read
      exact Iff.rfl
  | cons entry rest inductionHypothesis =>
      rcases entry with ⟨variableName, text⟩
      obtain ⟨fresh, restNodup⟩ := List.nodup_cons.mp nodup
      rw [nestedFields] at read
      rw [Table.get?_cons]
      have own := @nestedNames?_eq_singleton_iff sectionName field variableName splits
      by_cases isOwn : variableName = fieldVariable sectionName field
      · rw [if_pos (beq_iff_eq.mpr isOwn)]
        rw [own.mpr isOwn] at read
        obtain ⟨value, gives, read⟩ := exists_of_bind_eq_ok read
        have absent :
            (Table.mk rest).get? (fieldVariable sectionName field) = none := by
          rw [Table.get?, Option.map_eq_none_iff, List.find?_eq_none]
          intro entry member same
          exact fresh (List.mem_map.mpr ⟨entry, member, (beq_iff_eq.mp same).trans isOwn.symm⟩)
        rw [inductionHypothesis restNodup read, absent]
        dsimp only
        rw [entry?_putNested_iff plain, if_pos rfl, gives, Except.ok.injEq]
      · rw [if_neg (mt beq_iff_eq.mp isOwn)]
        split at read
        · exact inductionHypothesis restNodup read
        · next names named =>
            obtain ⟨value, -, read⟩ := exists_of_bind_eq_ok read
            have others : names ≠ [field] := by
              rintro rfl
              exact isOwn (own.mp named)
            rw [inductionHypothesis restNodup read, entry?_putNested_iff plain,
              if_neg others]

end Variables

/-- Fields in small letters already have their own names. -/
theorem namedAsFields_of_small
    {entries : List (Value × Value)}
    (once : NamesOnce entries)
    (small : KeysSmall entries)
    (known : List String) :
    namedAsFields known entries = entries := by
  have kept :
      (entries.map fun entry =>
        let name := String.ofList (Text.lower entry.1.displayString.toList)
        if known.contains name then (.text name, entry.2) else entry) = entries := by
    refine (List.map_congr_left fun entry member => ?_).trans (List.map_id entries)
    rcases entry with ⟨key, value⟩
    obtain ⟨name, rfl, smallName⟩ := small key (List.mem_map_of_mem member)
    have same : Text.lower name.toList = name.toList :=
      Text.lowerAfter_of_small smallName []
    simp [Value.displayString, Value.display, same]
  rw [namedAsFields, kept, ofList_of_keysApart once.apart]

section Environment

variable {environment : Table String String} {sectionName field : String}
  {known : List String} {stated? : Option Value}

/-- No field of a section is named twice. -/
theorem keysApart_sectionValue?
    {stated : Value}
    (read : sectionValue? environment sectionName known = .ok (some stated)) :
    KeysApart stated.entries := by
  rw [sectionValue?] at read
  split at read
  · obtain ⟨entries, -, read⟩ := exists_of_bind_eq_ok read
    split at read
    · cases read
    · cases read
      exact keysApart_ofList _
  · split at read
    · cases read
    · cases read
    · obtain ⟨fields, -, read⟩ := exists_of_bind_eq_ok read
      cases read
      exact keysApart_ofList _
    · next value notNull notTable written =>
        cases read
        cases stated with
        | table entries =>
            exact (notTable entries rfl).elim
        | _ =>
            exact List.Pairwise.nil

/-- Without a variable of a section its fields are what their own variables give. -/
theorem fieldOf?_sectionValue?_iff
    {stated : Value}
    (splits : splitNesting (field.toList.length + 1) [] field.toList = [field])
    (nodup : environment.keys.Nodup)
    (small : ∀ entry ∈ environment.entries, ∀ c ∈ entry.1.toList, Text.IsSmall c)
    (unset : environment.get? (namePrefix ++ sectionName) = none)
    (read : sectionValue? environment sectionName known = .ok stated?)
    (plain : ¬ IsTable stated) :
    fieldOf? field stated? = some stated ↔
      ∃ text,
        environment.get? (fieldVariable sectionName field) = some text ∧
          nestedValue sectionName [field] text = .ok stated := by
  rw [sectionValue?, unset] at read
  obtain ⟨entries, bound, read⟩ := exists_of_bind_eq_ok read
  obtain ⟨once, smallKeys⟩ :=
    nestedFields_keeps ⟨rfl, List.Pairwise.nil⟩ nofun small bound
  have fields : fieldOf? field stated? = entry? field entries := by
    rw [namedAsFields_of_small once smallKeys] at read
    split at read
    · next isEmpty =>
        cases read
        rw [List.isEmpty_iff.mp isEmpty]
        rfl
    · cases read
      exact fieldOf?_of_isRecord once.isRecord field
  rw [fields, entry?_nestedFields_iff splits nodup bound plain]
  cases environment.get? (fieldVariable sectionName field) with
  | none =>
      simp [ entry?]
  | some text =>
      simp

/-- The sections that the environment gives are bound by their names. -/
theorem exists_names_sectionEntries
    {listed : List (String × List String)}
    {entries : List (Value × Value)}
    (read : sectionEntries environment listed = .ok entries)
    (nodup : (listed.map (·.1)).Nodup) :
    (∃ names : List String,
        entries.map (·.1) = names.map Value.text ∧ names.Sublist (listed.map (·.1))) ∧
      ∀ entry ∈ listed,
        sectionValue? environment entry.1 entry.2 = .ok ( entry? entry.1 entries) := by
  induction listed generalizing entries with
  | nil =>
      cases read
      exact ⟨⟨[], rfl, .slnil⟩, nofun⟩
  | cons first rest inductionHypothesis =>
      rcases first with ⟨sectionName, known⟩
      obtain ⟨fresh, restNodup⟩ := List.nodup_cons.mp nodup
      rw [sectionEntries] at read
      obtain ⟨stated?, first, read⟩ := exists_of_bind_eq_ok read
      obtain ⟨others, later, read⟩ := exists_of_bind_eq_ok read
      obtain ⟨⟨names, bound, among⟩, each⟩ := inductionHypothesis later restNodup
      cases read
      have absent : sectionName ∉ names := fun member => fresh (among.subset member)
      cases stated? with
      | none =>
          refine ⟨⟨names, bound, among.cons sectionName⟩, ?_⟩
          refine List.forall_mem_cons.mpr ⟨?_, each⟩
          exact first.trans (congrArg Except.ok (entry?_eq_none_of_names bound absent).symm)
      | some stated =>
          refine
            ⟨⟨sectionName :: names, congrArg (_ :: ·) bound, among.cons_cons sectionName⟩,
              ?_⟩
          refine List.forall_mem_cons.mpr ⟨?_, fun entry member => ?_⟩
          · change _ = Except.ok ( entry? sectionName ((.text sectionName, stated) :: others))
            rw [first, entry?_cons, if_pos rfl]
          · have different : sectionName ≠ entry.1 := by
              rintro rfl
              exact fresh (List.mem_map.mpr ⟨entry, member, rfl⟩)
            change _ = Except.ok ( entry? entry.1 ((.text sectionName, stated) :: others))
            rw [each entry member, entry?_cons, if_neg different]

/-- The plain fields that variables set are bound by their names. -/
theorem exists_names_plain
    (lookup : String → Option Value)
    {fields : List String}
    (nodup : fields.Nodup) :
    (∃ names : List String,
        ((fields.filterMap fun field =>
            (lookup field).map fun value => (Value.text field, value)).map (·.1)) =
            names.map Value.text ∧
          names.Sublist fields) ∧
      ∀ name ∈ fields,
        entry? name
            (fields.filterMap fun field =>
              (lookup field).map fun value => (Value.text field, value)) =
          lookup name := by
  induction fields with
  | nil =>
      exact ⟨⟨[], rfl, .slnil⟩, nofun⟩
  | cons field rest inductionHypothesis =>
      obtain ⟨fresh, restNodup⟩ := List.nodup_cons.mp nodup
      obtain ⟨⟨names, bound, among⟩, each⟩ := inductionHypothesis restNodup
      cases given : lookup field with
      | none =>
          rw [List.filterMap_cons_none (by rw [given]; rfl)]
          refine ⟨⟨names, bound, among.cons field⟩, List.forall_mem_cons.mpr ⟨?_, each⟩⟩
          rw [given]
          exact entry?_eq_none_of_names bound fun member => fresh (among.subset member)
      | some value =>
          rw [List.filterMap_cons_some (by rw [given]; rfl)]
          refine
            ⟨⟨field :: names, congrArg (_ :: ·) bound, among.cons_cons field⟩,
              List.forall_mem_cons.mpr ⟨?_, fun name member => ?_⟩⟩
          · rw [entry?_cons, if_pos rfl, given]
          · have different : field ≠ name := fun same => fresh (same ▸ member)
            rw [entry?_cons, if_neg different, each name member]

/-- What the environment states: flags by their variables, and sections. -/
theorem isLayer_of_environmentLayer
    {layer : Value}
    (read : environmentLayer environment = .ok layer) :
    IsLayer layer ∧
      (∀ name ∈ plainFields,
        entry? name layer.entries =
          ((smallVariables environment).get? (namePrefix ++ name)).map Value.text) ∧
      ∀ entry ∈ sections,
        sectionValue? (smallVariables environment) entry.1 entry.2 =
          .ok ( entry? entry.1 layer.entries) := by
  obtain ⟨nested, bound, read⟩ := exists_of_bind_eq_ok read
  cases read
  obtain ⟨⟨sectionNames, sectionKeys, amongSections⟩, eachSection⟩ :=
    exists_names_sectionEntries bound (by decide)
  obtain ⟨⟨plainNames, plainKeys, amongPlain⟩, eachPlain⟩ :=
    exists_names_plain
      (fun name =>
        ((smallVariables environment).get? (namePrefix ++ name)).map Value.text)
      (show plainFields.Nodup by decide)
  simp only [Option.map_map] at plainKeys eachPlain
  have apart : (plainFields ++ sections.map (·.1)).Nodup := by decide
  have disjoint := (List.nodup_append.mp apart).2.2
  have nodup : (plainNames ++ sectionNames).Nodup :=
    (amongPlain.append amongSections).nodup apart
  refine ⟨⟨_, rfl, namesOnce_of_names ?_ nodup⟩, ?_, ?_⟩
  · rw [List.map_append, List.map_append, ← sectionKeys, ← plainKeys]
    rfl
  · intro name member
    have absent : entry? name nested = none :=
      entry?_eq_none_of_names sectionKeys fun listed =>
        disjoint name member name (amongSections.subset listed) rfl
    refine (entry?_append name _ nested).trans ?_
    rw [absent, Option.or_none]
    exact eachPlain name member
  · intro entry member
    have absent :
        entry? entry.1
            (plainFields.filterMap fun name =>
              ((smallVariables environment).get? (namePrefix ++ name)).map fun text =>
                (Value.text name, Value.text text)) = none :=
      entry?_eq_none_of_names plainKeys fun listed =>
        disjoint entry.1 (amongPlain.subset listed) entry.1
          (List.mem_map_of_mem member) rfl
    refine (eachSection entry member).trans (congrArg Except.ok ?_)
    refine Eq.trans ?_ (entry?_append entry.1 _ nested).symm
    rw [absent, Option.none_or]

end Environment

/-- No variable is there twice once all names are in small letters. -/
theorem nodup_keys_smallVariables
    (environment : Table String String) :
    (smallVariables environment).keys.Nodup :=
  Table.nodup_keys_ofList _

theorem isSmall_of_mem_smallVariables
    {environment : Table String String}
    {entry : String × String}
    (member : entry ∈ (smallVariables environment).entries) :
    ∀ c ∈ entry.1.toList, Text.IsSmall c := by
  have listed : entry.1 ∈ (smallVariables environment).keys := List.mem_map_of_mem member
  obtain ⟨lowered, known, same⟩ := List.mem_map.mp (Table.mem_keys_ofList.mp listed)
  obtain ⟨variable', -, rfl⟩ := List.mem_map.mp known
  intro c inName
  rw [← same, String.toList_ofList] at inName
  exact (Text.of_mem_lowerAfter c inName).1

end Settings
end PageScript
