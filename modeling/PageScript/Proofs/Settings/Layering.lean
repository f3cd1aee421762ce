import PageScript.Proofs.Table
import PageScript.Settings.Checking
import PageScript.Settings.Layer

namespace PageScript.Settings

open Validation

/-!
# Records over records

A record that lies over another one gives a field the value that the upper record
states, or else the value of the lower one.  Only where both state a record are the
two merged.  This needs that the upper record states no field twice, as every record
does that is made by binding one name after the other.
-/

/-! ## Records without repeated fields -/

/-- No key of some bindings equals a later one. -/
def KeysApart (entries : List (Value × Value)) : Prop :=
  entries.Pairwise fun earlier later => (earlier.1 == later.1) = false

/-- Bindings of texts, none of which is bound twice. -/
structure NamesOnce (entries : List (Value × Value)) : Prop where
  isRecord : (Value.table entries).isRecord = true
  apart : KeysApart entries

section Apart

variable {entries : List (Value × Value)}

/-- A key that is bound again keeps its place, and a new one comes last. -/
theorem map_fst_insertEntry
    (key value : Value)
    (entries : List (Value × Value)) :
    (Table.insertEntry key value entries).map (·.1) =
      if entries.any (fun entry => entry.1 == key) then
        entries.map (·.1)
      else
        entries.map (·.1) ++ [key] := by
  induction entries with
  | nil =>
      rfl
  | cons entry rest inductionHypothesis =>
      rw [Table.insertEntry]
      split
      · next same =>
          simp [same]
      · next different =>
          rw [List.map_cons, inductionHypothesis]
          simp only [List.any_cons, different, Bool.false_or]
          split <;> simp

theorem keysApart_iff :
    KeysApart entries ↔
      (entries.map (·.1)).Pairwise fun earlier later => (earlier == later) = false := by
  rw [KeysApart, List.pairwise_map]

/-- Binding a key repeats none. -/
theorem KeysApart.insertEntry
    (apart : KeysApart entries)
    (key value : Value) :
    KeysApart (Table.insertEntry key value entries) := by
  rw [keysApart_iff] at apart ⊢
  rw [map_fst_insertEntry]
  split
  · exact apart
  · next fresh =>
      refine List.pairwise_append.mpr ⟨apart, List.pairwise_singleton _ _, ?_⟩
      intro other member last isLast
      obtain rfl := List.mem_singleton.mp isLast
      obtain ⟨entry, known, rfl⟩ := List.mem_map.mp member
      simpa using fun same => fresh (List.any_eq_true.mpr ⟨entry, known, same⟩)

/-- A table that is built by binding keys repeats none. -/
theorem keysApart_ofList
    (bindings : List (Value × Value)) :
    KeysApart (Table.ofList bindings).entries := by
  have grown :
      ∀ table : Table Value Value,
        KeysApart table.entries → KeysApart (table.insertAll bindings).entries := by
    induction bindings with
    | nil =>
        exact fun _ apart => apart
    | cons binding rest inductionHypothesis =>
        exact fun table apart =>
          inductionHypothesis (table.insert binding.1 binding.2)
            (apart.insertEntry binding.1 binding.2)
  exact grown ⟨[]⟩ .nil

/-- A key that is not bound yet is bound at the end. -/
theorem insertEntry_of_fresh
    {key : Value}
    (fresh : ∀ entry ∈ entries, (entry.1 == key) = false)
    (value : Value) :
    Table.insertEntry key value entries = entries ++ [(key, value)] := by
  induction entries with
  | nil =>
      rfl
  | cons entry rest inductionHypothesis =>
      obtain ⟨different, restFresh⟩ := List.forall_mem_cons.mp fresh
      rw [Table.insertEntry, if_neg (by simp [different]), inductionHypothesis restFresh]
      rfl

/-- Bindings that repeat no key are taken over as they are. -/
theorem ofList_of_keysApart
    (apart : KeysApart entries) :
    Table.ofList entries = ⟨entries⟩ := by
  have grown :
      ∀ front rest : List (Value × Value),
        KeysApart (front ++ rest) → Table.insertAll ⟨front⟩ rest = ⟨front ++ rest⟩ := by
    intro front rest
    induction rest generalizing front with
    | nil =>
        intro _
        rw [List.append_nil]
        rfl
    | cons entry rest inductionHypothesis =>
        intro apart
        have bound : Table.insertEntry entry.1 entry.2 front = front ++ [entry] :=
          insertEntry_of_fresh
            (fun earlier member =>
              (List.pairwise_append.mp apart).2.2 earlier member entry List.mem_cons_self)
            entry.2
        have moved := inductionHypothesis (front ++ [entry])
        rw [List.append_assoc] at moved
        rw [Table.insertAll, List.foldl_cons, Table.insert, bound]
        exact moved apart
  exact grown [] entries apart

/-- The keys of a record are texts. -/
theorem isRecord_table_iff :
    (Value.table entries).isRecord = true ↔
      ∀ key ∈ entries.map (·.1), ∃ name, key = .text name := by
  simp only [Value.isRecord, List.all_eq_true, List.forall_mem_map]
  refine forall₂_congr fun entry _ => ?_
  cases entry.1 <;> simp [Value.text?]

/-- A record with one more field is a record. -/
theorem isRecord_insertEntry
    (isRecord : (Value.table entries).isRecord = true)
    (name : String)
    (value : Value) :
    (Value.table (Table.insertEntry (.text name) value entries)).isRecord = true := by
  rw [isRecord_table_iff] at isRecord ⊢
  rw [map_fst_insertEntry]
  split
  · exact isRecord
  · intro key member
    rcases List.mem_append.mp member with known | isLast
    · exact isRecord key known
    · exact ⟨name, List.mem_singleton.mp isLast⟩

/-- A record in which a name is bound names every field once. -/
theorem NamesOnce.insertEntry
    (once : NamesOnce entries)
    (name : String)
    (value : Value) :
    NamesOnce (Table.insertEntry (.text name) value entries) :=
  ⟨isRecord_insertEntry once.isRecord name value, once.apart.insertEntry _ value⟩

/-- Names without repetition are bound once. -/
theorem namesOnce_of_names
    {names : List String}
    (bound : entries.map (·.1) = names.map Value.text)
    (nodup : names.Nodup) :
    NamesOnce entries where
  isRecord := by
    rw [isRecord_table_iff, bound]
    intro key member
    obtain ⟨name, -, rfl⟩ := List.mem_map.mp member
    exact ⟨name, rfl⟩
  apart := by
    rw [keysApart_iff, bound, List.pairwise_map]
    refine nodup.imp fun different => Bool.eq_false_iff.mpr fun same => ?_
    exact different (Value.text.inj ((isExactKey_text _ _).mp same))

end Apart

/-! ## Fields -/

section Fields

variable {entries lower : List (Value × Value)} {name other : String} {value : Value}

/-- The entry of a name is what a table binds the text to. -/
theorem entry?_eq_get?
    (name : String)
    (entries : List (Value × Value)) :
    entry? name entries = (Table.mk entries).get? (.text name) := by
  induction entries with
  | nil =>
      rfl
  | cons entry rest inductionHypothesis =>
      rcases entry with ⟨key, value⟩
      rw [ entry?, List.findSome?_cons, ← entry?, inductionHypothesis, Table.get?_cons]
      by_cases same : (key == .text name) = true
      · rw [if_pos same, (isExactKey_text name key).mp same]
        simp
      · rw [if_neg same]
        cases key with
        | text found =>
            have apart : found ≠ name := by
              rintro rfl
              exact same ((isExactKey_text found _).mpr rfl)
            simp [apart]
        | _ =>
            rfl

theorem entry?_cons
    (found : String)
    (value : Value)
    (rest : List (Value × Value)) :
    entry? name ((.text found, value) :: rest) =
      if found = name then some value else entry? name rest := by
  rw [ entry?, List.findSome?_cons, ← entry?]
  by_cases same : found = name <;> simp [same]

/-- A name has no entry behind its first binding. -/
theorem entry?_eq_none_of_apart
    (apart : ∀ entry ∈ entries, (Value.text name == entry.1) = false) :
    entry? name entries = none := by
  refine List.findSome?_eq_none_iff.mpr fun entry member => ?_
  rcases entry with ⟨key, value⟩
  cases key with
  | text found =>
      have different : found ≠ name := by
        rintro rfl
        have equal := (isExactKey_text found _).mpr (Eq.refl (Value.text found))
        cases equal.symm.trans (apart _ member)
      simp [different]
  | _ =>
      rfl

/-- A name that is not among the names of some bindings has no entry. -/
theorem entry?_eq_none_of_names
    {names : List String}
    (bound : entries.map (·.1) = names.map Value.text)
    (absent : name ∉ names) :
    entry? name entries = none := by
  refine entry?_eq_none_of_apart fun entry member => Bool.eq_false_iff.mpr fun same => ?_
  have listed : entry.1 ∈ names.map Value.text := bound ▸ List.mem_map_of_mem member
  obtain ⟨found, known, key⟩ := List.mem_map.mp listed
  rw [← key] at same
  obtain rfl := Value.text.inj ((isExactKey_text found _).mp same)
  exact absent known

theorem entry?_append
    (name : String)
    (front back : List (Value × Value)) :
    entry? name (front ++ back) = ( entry? name front).or ( entry? name back) :=
  List.findSome?_append

@[simp] theorem entry?_insertEntry_self
    (name : String)
    (value : Value)
    (entries : List (Value × Value)) :
    entry? name (Table.insertEntry (.text name) value entries) = some value := by
  rw [entry?_eq_get?]
  exact Table.get?_insert_self (isExactKey_text name) ⟨entries⟩ value

theorem entry?_insertEntry_of_ne
    (different : other ≠ name)
    (value : Value)
    (entries : List (Value × Value)) :
    entry? other (Table.insertEntry (.text name) value entries) = entry? other entries := by
  rw [entry?_eq_get?, entry?_eq_get?]
  exact
    Table.get?_insert_of_ne (isExactKey_text name) (isExactKey_text other)
      (fun same => different (Value.text.inj same)) ⟨entries⟩ value

/-- What an upper layer may state over what a lower one may state. -/
def laidOver? : Option Value → Option Value → Option Value
  | some higher, some lower => some (laidOver higher lower)
  | some higher, none => some higher
  | none, lower => lower

@[simp] theorem laidOver?_none
    (higher : Option Value) :
    laidOver? higher none = higher := by
  cases higher <;> rfl

/-- Nothing is stated only where no layer states anything. -/
theorem laidOver?_eq_none
    {higher lower : Option Value}
    (absent : laidOver? higher lower = none) :
    higher = none ∧ lower = none := by
  rcases higher with _ | higher <;> rcases lower with _ | lower
  · exact ⟨rfl, rfl⟩
  · cases absent
  · cases absent
  · cases absent

/-- A field of a record over others is what it states over what they state. -/
theorem entry?_laidOverEntries
    {higher : List (Value × Value)}
    (once : NamesOnce higher)
    (name : String)
    (lower : List (Value × Value)) :
    entry? name (laidOverEntries higher lower) =
      laidOver? ( entry? name higher) ( entry? name lower) := by
  induction higher generalizing lower with
  | nil =>
      rw [laidOverEntries]
      rfl
  | cons entry rest inductionHypothesis =>
      rcases entry with ⟨key, value⟩
      obtain ⟨firstApart, restApart⟩ := List.pairwise_cons.mp once.apart
      have keys := isRecord_table_iff.mp once.isRecord
      obtain ⟨found, rfl⟩ := keys key List.mem_cons_self
      have restOnce : NamesOnce rest :=
        ⟨isRecord_table_iff.mpr fun key member => keys key (List.mem_cons_of_mem _ member),
          restApart⟩
      rw [laidOverEntries, inductionHypothesis restOnce]
      rw [entry?_cons, ← entry?_eq_get?]
      by_cases same : found = name
      · subst same
        rw [if_pos rfl, entry?_eq_none_of_apart firstApart, entry?_insertEntry_self]
        cases entry? found lower <;> rfl
      · rw [if_neg same, entry?_insertEntry_of_ne (Ne.symm same)]

/-- Records over records are records. -/
theorem isRecord_laidOverEntries
    {higher : List (Value × Value)}
    (upper : (Value.table higher).isRecord = true)
    (isRecord : (Value.table lower).isRecord = true) :
    (Value.table (laidOverEntries higher lower)).isRecord = true := by
  induction higher generalizing lower with
  | nil =>
      rw [laidOverEntries]
      exact isRecord
  | cons entry rest inductionHypothesis =>
      rcases entry with ⟨key, value⟩
      have keys := isRecord_table_iff.mp upper
      obtain ⟨found, rfl⟩ := keys key List.mem_cons_self
      rw [laidOverEntries]
      exact
        inductionHypothesis
          (isRecord_table_iff.mpr fun key member => keys key (List.mem_cons_of_mem _ member))
          (isRecord_insertEntry isRecord found _)

end Fields

/-! ## Values that are no tables -/

/-- A value is a table. -/
def IsTable (value : Value) : Prop :=
  ∃ entries, value = .table entries

/-- A value that is no table replaces what it is laid over. -/
theorem laidOver_of_not_isTable
    {higher : Value}
    (plain : ¬ IsTable higher)
    (lower : Value) :
    laidOver higher lower = higher := by
  cases higher with
  | table entries =>
      exact (plain ⟨entries, rfl⟩).elim
  | _ =>
      rw [laidOver]
      exact nofun

/-- A table stays a table, whatever it is laid over. -/
theorem isTable_laidOver
    {higher : Value}
    (isTable : IsTable higher)
    (lower : Value) :
    IsTable (laidOver higher lower) := by
  obtain ⟨entries, rfl⟩ := isTable
  rw [laidOver]
  split <;> exact ⟨_, rfl⟩

/-- Only tables are merged: anything else is what the upper layer states. -/
theorem or_eq_of_laidOver?
    {higher lower : Option Value}
    {value : Value}
    (found : laidOver? higher lower = some value)
    (plain : ¬ IsTable value) :
    higher.or lower = some value := by
  rcases higher with _ | higher <;> rcases lower with _ | lower
  · exact found
  · exact found
  · exact found
  · obtain rfl := Option.some.inj found
    have upperPlain : ¬ IsTable higher := fun isTable =>
      plain (isTable_laidOver isTable lower)
    rw [Option.some_or, laidOver_of_not_isTable upperPlain]

/-! ## Sections -/

/-- A field of a section that may be stated, if the section is a record. -/
def fieldOf? (name : String) : Option Value → Option Value
  | some stated => if stated.isRecord then entry? name stated.entries else none
  | none => none

theorem fieldOf?_of_isRecord
    {stated : Value}
    (isRecord : stated.isRecord = true)
    (name : String) :
    fieldOf? name (some stated) = entry? name stated.entries :=
  if_pos isRecord

/-- A record is a table. -/
theorem isTable_of_isRecord
    {value : Value}
    (isRecord : value.isRecord = true) :
    IsTable value := by
  cases value with
  | table entries =>
      exact ⟨entries, rfl⟩
  | _ =>
      cases isRecord

/-- A field of a section over others is what the section states over what the others state. -/
theorem entry?_of_laidOver?
    {higher lower : Option Value}
    {value : Value}
    (apart : ∀ stated, higher = some stated → KeysApart stated.entries)
    (found : laidOver? higher lower = some value)
    (isRecord : value.isRecord = true)
    (name : String) :
    entry? name value.entries = laidOver? (fieldOf? name higher) (fieldOf? name lower) := by
  rcases higher with _ | higher
  · obtain rfl : lower = some value := found
    rw [fieldOf?_of_isRecord isRecord]
    rfl
  · have apartHere := apart higher rfl
    rcases lower with _ | lower
    · rw [laidOver?_none] at found
      obtain rfl := Option.some.inj found
      rw [fieldOf?_of_isRecord isRecord]
      exact (laidOver?_none _).symm
    · obtain rfl := Option.some.inj found
      obtain ⟨entries, rfl⟩ : IsTable higher := by
        by_contra plain
        rw [laidOver_of_not_isTable plain] at isRecord
        exact plain (isTable_of_isRecord isRecord)
      rw [laidOver] at isRecord ⊢
      by_cases both : ((Value.table entries).isRecord && lower.isRecord) = true
      · rw [if_pos both]
        obtain ⟨upperRecord, lowerRecord⟩ := Bool.and_eq_true_iff.mp both
        rw [fieldOf?_of_isRecord upperRecord, fieldOf?_of_isRecord lowerRecord]
        exact entry?_laidOverEntries ⟨upperRecord, apartHere⟩ name lower.entries
      · rw [if_neg both] at isRecord ⊢
        have lowerPlain : ¬lower.isRecord = true := fun lowerRecord =>
          both (Bool.and_eq_true_iff.mpr ⟨isRecord, lowerRecord⟩)
        rw [fieldOf?_of_isRecord isRecord, fieldOf?, if_neg lowerPlain, laidOver?_none]

/-! ## Layers -/

/-- A layer states fields by names, none of them twice. -/
def IsLayer (layer : Value) : Prop :=
  ∃ entries, layer = .table entries ∧ NamesOnce entries

theorem IsLayer.isRecord
    {layer : Value}
    (isLayer : IsLayer layer) :
    layer.isRecord = true := by
  obtain ⟨entries, rfl, once⟩ := isLayer
  exact once.isRecord

/-- A layer over a record is merged with it. -/
theorem laidOver_of_isLayer
    {layer lower : Value}
    (isLayer : IsLayer layer)
    (isRecord : lower.isRecord = true) :
    laidOver layer lower = .table (laidOverEntries layer.entries lower.entries) := by
  have upperRecord := isLayer.isRecord
  obtain ⟨entries, rfl, -⟩ := isLayer
  rw [laidOver, if_pos (Bool.and_eq_true_iff.mpr ⟨upperRecord, isRecord⟩)]
  rfl

/-- Merged layers are a record. -/
theorem isRecord_merged
    {layers : List Value}
    (areLayers : ∀ layer ∈ layers, IsLayer layer) :
    (merged layers).isRecord = true := by
  induction layers with
  | nil =>
      rfl
  | cons highest rest inductionHypothesis =>
      obtain ⟨isLayer, restLayers⟩ := List.forall_mem_cons.mp areLayers
      have isRecord := inductionHypothesis restLayers
      rw [merged, laidOver_of_isLayer isLayer isRecord]
      obtain ⟨entries, rfl, once⟩ := isLayer
      obtain ⟨lower, same⟩ := isTable_of_isRecord isRecord
      rw [same] at isRecord ⊢
      exact isRecord_laidOverEntries once.isRecord isRecord

/-- A field of merged layers is what each layer states over what the lower ones state. -/
theorem entry?_merged
    {layers : List Value}
    (areLayers : ∀ layer ∈ layers, IsLayer layer)
    (name : String) :
    entry? name (merged layers).entries =
      (layers.map fun layer => entry? name layer.entries).foldr laidOver? none := by
  induction layers with
  | nil =>
      rfl
  | cons highest rest inductionHypothesis =>
      obtain ⟨isLayer, restLayers⟩ := List.forall_mem_cons.mp areLayers
      rw [merged, laidOver_of_isLayer isLayer (isRecord_merged restLayers), List.map_cons,
        List.foldr_cons, ← inductionHypothesis restLayers]
      obtain ⟨entries, rfl, once⟩ := isLayer
      exact entry?_laidOverEntries once name _

end PageScript.Settings
