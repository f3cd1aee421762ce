import Mathlib.Data.List.Induction
import Mathlib.Data.List.Nodup
import PageScript.Value
import PageScript.Table

namespace PageScript

/-!
# Laws of tables

A key that equals nothing but itself is looked up where it was bound last, and
binding it leaves all other keys.  Texts are such keys.  A table that is built by
binding keys lists no key twice, and a list of bindings without repeated keys is
taken over as it is.
-/

deriving instance DecidableEq for Table

/-- A key equals itself and nothing else. -/
def IsExactKey {κ : Type} [BEq κ] (key : κ) : Prop :=
  ∀ other : κ, (other == key) = true ↔ other = key

/-- A text equals no other value. -/
theorem isExactKey_text
    (name : String) :
    IsExactKey (Value.text name) := by
  intro other
  change Value.same other (.text name) = true ↔ _
  cases other <;> simp [Value.same, Value.integer?]

namespace Table

/-! ## Changes of all values -/

@[simp] theorem mapValues_id
    {κ α : Type}
    (table : Table κ α) :
    table.mapValues id = table := by
  simp [mapValues]

@[simp] theorem keys_mapValues
    {κ α β : Type}
    (change : α → β)
    (table : Table κ α) :
    (table.mapValues change).keys = table.keys := by
  simp [mapValues, keys]

/-! ## Lookups -/

section Lookup

variable {κ α : Type} [BEq κ] {key other : κ}

/-- A key is looked up in its first binding. -/
theorem get?_cons
    (entry : κ × α)
    (entries : List (κ × α))
    (key : κ) :
    Table.get? ⟨entry :: entries⟩ key =
      if entry.1 == key then some entry.2 else Table.get? ⟨entries⟩ key := by
  rw [get?, List.find?_cons]
  cases entry.1 == key <;> rfl

/-- Binding a bound key again leaves what a function does not tell apart. -/
theorem mapValues_insert_of_get?
    {β : Type}
    {table : Table κ α}
    {old : α}
    (bound : table.get? key = some old)
    {change : α → β}
    {new : α}
    (same : change new = change old) :
    (table.insert key new).mapValues change = table.mapValues change := by
  rcases table with ⟨entries⟩
  rw [insert, mapValues, mapValues, Table.mk.injEq]
  induction entries with
  | nil =>
      cases bound
  | cons entry rest inductionHypothesis =>
      rw [get?_cons] at bound
      rw [insertEntry]
      split at bound
      · next isKey =>
          obtain rfl := Option.some.inj bound
          rw [if_pos isKey, List.map_cons, List.map_cons, same]
      · next isOther =>
          rw [if_neg isOther, List.map_cons, List.map_cons, inductionHypothesis bound]

/-- Behind a binding a key is bound to its value or to what it was bound to before. -/
theorem eq_or_get?_of_get?_insert
    {table : Table κ α}
    {new value : α}
    (found : (table.insert key new).get? other = some value) :
    value = new ∨ table.get? other = some value := by
  rcases table with ⟨entries⟩
  rw [insert] at found
  induction entries with
  | nil =>
      rw [insertEntry, get?_cons] at found
      split at found
      · exact .inl (Option.some.inj found).symm
      · cases found
  | cons entry rest inductionHypothesis =>
      rw [insertEntry] at found
      rw [get?_cons]
      split at found
      · rw [get?_cons] at found
        split at found
        · exact .inl (Option.some.inj found).symm
        · next differs =>
            rw [if_neg differs]
            exact .inr found
      · rw [get?_cons] at found
        split at found
        · next same =>
            rw [if_pos same]
            exact .inr found
        · next differs =>
            rw [if_neg differs]
            exact inductionHypothesis found

/-- A key that was bound is looked up. -/
theorem get?_insert_self
    (exact : IsExactKey key)
    (table : Table κ α)
    (value : α) :
    (table.insert key value).get? key = some value := by
  rcases table with ⟨entries⟩
  rw [insert]
  induction entries with
  | nil =>
      rw [insertEntry, get?_cons, if_pos ((exact key).mpr rfl)]
  | cons entry rest inductionHypothesis =>
      rw [insertEntry]
      split
      · next same =>
          rw [get?_cons, if_pos same]
      · next different =>
          rw [get?_cons, if_neg different]
          exact inductionHypothesis

/-- Other keys are looked up as before. -/
theorem get?_insert_of_ne
    (exact : IsExactKey key)
    (otherExact : IsExactKey other)
    (different : other ≠ key)
    (table : Table κ α)
    (value : α) :
    (table.insert key value).get? other = table.get? other := by
  have apart : ¬(key == other) = true := by
    intro same
    exact different ((otherExact key).mp same).symm
  rcases table with ⟨entries⟩
  rw [insert]
  induction entries with
  | nil =>
      rw [insertEntry, get?_cons, if_neg apart]
  | cons entry rest inductionHypothesis =>
      rw [insertEntry]
      split
      · next same =>
          rw [(exact entry.1).mp same, get?_cons, get?_cons, if_neg apart,
            (exact entry.1).mp same, if_neg apart]
      · rw [get?_cons, get?_cons, inductionHypothesis]

/-- A key is looked up after bindings of other keys. -/
theorem get?_append_cons
    [LawfulBEq κ]
    {front : List (κ × α)}
    (absent : key ∉ front.map (·.1))
    (value : α)
    (back : List (κ × α)) :
    Table.get? ⟨front ++ (key, value) :: back⟩ key = some value := by
  induction front with
  | nil =>
      rw [List.nil_append, get?_cons, if_pos (beq_self_eq_true key)]
  | cons entry rest inductionHypothesis =>
      obtain ⟨different, restAbsent⟩ :=
        not_or.mp (mt List.mem_cons.mpr absent)
      rw [List.cons_append, get?_cons,
        if_neg (mt beq_iff_eq.mp (Ne.symm different)),
        inductionHypothesis restAbsent]

/-- A key that is bound after other keys is bound again in its place. -/
theorem insert_append_cons
    [LawfulBEq κ]
    {front : List (κ × α)}
    (absent : key ∉ front.map (·.1))
    (old value : α)
    (back : List (κ × α)) :
    Table.insert ⟨front ++ (key, old) :: back⟩ key value =
      ⟨front ++ (key, value) :: back⟩ := by
  rw [insert]
  congr 1
  induction front with
  | nil =>
      rw [List.nil_append, insertEntry, if_pos (beq_self_eq_true key)]
      rfl
  | cons entry rest inductionHypothesis =>
      obtain ⟨different, restAbsent⟩ :=
        not_or.mp (mt List.mem_cons.mpr absent)
      rw [List.cons_append, insertEntry,
        if_neg (mt beq_iff_eq.mp (Ne.symm different)),
        inductionHypothesis restAbsent]
      rfl

end Lookup

/-! ## Keys -/

section Keys

variable {κ α : Type} [BEq κ] [LawfulBEq κ]

/-- Binding a key adds no other key. -/
theorem mem_keys_insert
    (table : Table κ α)
    (key other : κ)
    (value : α) :
    other ∈ (table.insert key value).keys ↔
      other ∈ table.keys ∨ other = key := by
  rcases table with ⟨entries⟩
  simp only [insert, keys]
  induction entries with
  | nil =>
      simp [insertEntry]
  | cons entry rest inductionHypothesis =>
      rw [insertEntry]
      split
      · next same =>
          obtain rfl := beq_iff_eq.mp same
          simp only [List.map_cons, List.mem_cons]
          constructor
          · exact .inl
          · rintro (member | rfl)
            · exact member
            · exact .inl rfl
      · simp only [List.map_cons, List.mem_cons, inductionHypothesis,
          or_assoc]

/-- Binding a key lists it at the end, unless it is listed already. -/
theorem keys_insert
    [DecidableEq κ]
    (table : Table κ α)
    (key : κ)
    (value : α) :
    (table.insert key value).keys =
      if key ∈ table.keys then table.keys else table.keys ++ [key] := by
  rcases table with ⟨entries⟩
  simp only [insert, keys]
  induction entries with
  | nil =>
      rfl
  | cons entry rest inductionHypothesis =>
      rw [insertEntry]
      split
      · next same =>
          obtain rfl := beq_iff_eq.mp same
          simp
      · next different =>
          have differs : key ≠ entry.1 := by
            rintro rfl
            simp at different
          rw [List.map_cons, inductionHypothesis]
          by_cases listed : key ∈ rest.map (·.1) <;> simp [listed, differs]

/-- Binding a key lists no key twice. -/
theorem nodup_keys_insert
    {table : Table κ α}
    (nodup : table.keys.Nodup)
    (key : κ)
    (value : α) :
    (table.insert key value).keys.Nodup := by
  rcases table with ⟨entries⟩
  induction entries with
  | nil =>
      exact List.nodup_singleton key
  | cons entry rest inductionHypothesis =>
      obtain ⟨fresh, restNodup⟩ := List.nodup_cons.mp nodup
      simp only [insert, insertEntry]
      split
      · exact nodup
      · next different =>
          refine List.nodup_cons.mpr ⟨?_, inductionHypothesis restNodup⟩
          intro member
          rcases (mem_keys_insert ⟨rest⟩ key entry.1 value).mp member with
            listed | same
          · exact fresh listed
          · exact different (beq_iff_eq.mpr same)

theorem nodup_keys_insertAll
    {table : Table κ α}
    (nodup : table.keys.Nodup)
    (entries : List (κ × α)) :
    (table.insertAll entries).keys.Nodup := by
  induction entries generalizing table with
  | nil =>
      exact nodup
  | cons entry rest inductionHypothesis =>
      exact inductionHypothesis (nodup_keys_insert nodup entry.1 entry.2)

/-- The table of a list of bindings lists no key twice. -/
theorem nodup_keys_ofList
    (entries : List (κ × α)) :
    (ofList entries).keys.Nodup := by
  refine nodup_keys_insertAll ?_ entries
  exact List.nodup_nil

theorem mem_keys_insertAll
    {table : Table κ α}
    {entries : List (κ × α)}
    {key : κ} :
    key ∈ (table.insertAll entries).keys ↔
      key ∈ table.keys ∨ key ∈ entries.map (·.1) := by
  induction entries generalizing table with
  | nil =>
      simp [insertAll]
  | cons entry rest inductionHypothesis =>
      have grown := @inductionHypothesis (table.insert entry.1 entry.2)
      rw [mem_keys_insert] at grown
      rw [List.map_cons, List.mem_cons, ← or_assoc]
      exact grown

/-- The table of a list of bindings has their keys. -/
theorem mem_keys_ofList
    {entries : List (κ × α)}
    {key : κ} :
    key ∈ (ofList entries).keys ↔ key ∈ entries.map (·.1) := by
  rw [ofList, mem_keys_insertAll]
  simp [keys]

/-- A new key is bound at the end. -/
theorem insert_of_not_mem
    {table : Table κ α}
    {key : κ}
    (fresh : key ∉ table.keys)
    (value : α) :
    table.insert key value = ⟨table.entries ++ [(key, value)]⟩ := by
  rcases table with ⟨entries⟩
  rw [insert]
  induction entries with
  | nil =>
      rfl
  | cons entry rest inductionHypothesis =>
      obtain ⟨different, freshRest⟩ := not_or.mp (mt List.mem_cons.mpr fresh)
      have same := congrArg Table.entries (inductionHypothesis freshRest)
      rw [insertEntry, if_neg (mt beq_iff_eq.mp (Ne.symm different))]
      exact congrArg (fun grown => Table.mk (entry :: grown)) same

/-- New keys without repetition are bound at the end in order. -/
theorem insertAll_of_nodup
    {table : Table κ α}
    {entries : List (κ × α)}
    (nodup : (table.keys ++ entries.map (·.1)).Nodup) :
    table.insertAll entries = ⟨table.entries ++ entries⟩ := by
  induction entries generalizing table with
  | nil =>
      rw [List.append_nil]
      rfl
  | cons entry rest inductionHypothesis =>
      have fresh : entry.1 ∉ table.keys := by
        intro listed
        exact (List.nodup_append.mp nodup).2.2 _ listed _ List.mem_cons_self rfl
      have moved :
          (table.insert entry.1 entry.2).keys ++ rest.map (·.1) =
            table.keys ++ (entry :: rest).map (·.1) := by
        rw [insert_of_not_mem fresh]
        simp [keys]
      rw [insertAll, List.foldl_cons]
      rw [← moved] at nodup
      have grown := inductionHypothesis nodup
      rw [insertAll] at grown
      rw [grown, insert_of_not_mem fresh, List.append_assoc]
      rfl

theorem ofList_of_nodup
    {entries : List (κ × α)}
    (nodup : (entries.map (·.1)).Nodup) :
    ofList entries = ⟨entries⟩ :=
  insertAll_of_nodup nodup

/-- A binding without a second one of its key is found. -/
theorem get?_of_mem
    {table : Table κ α}
    (nodup : table.keys.Nodup)
    {entry : κ × α}
    (member : entry ∈ table.entries) :
    table.get? entry.1 = some entry.2 := by
  rcases table with ⟨entries⟩
  obtain ⟨front, back, rfl⟩ := List.mem_iff_append.mp member
  refine get?_append_cons ?_ entry.2 back
  rw [keys, List.map_append, List.map_cons] at nodup
  exact fun listed =>
    (List.nodup_append.mp nodup).2.2 _ listed _ List.mem_cons_self rfl

/-- The last binding whose key passes a test belongs to the last key that passes it. -/
theorem getLast?_filter_entries
    {table : Table κ α}
    (nodup : table.keys.Nodup)
    (test : κ → Bool) :
    (table.entries.filter fun entry => test entry.1).getLast?.map (·.2) =
      (table.keys.filter test).getLast?.bind table.get? := by
  have keysOf :
      table.keys.filter test =
        (table.entries.filter fun entry => test entry.1).map (·.1) := by
    rw [keys, List.filter_map]
    rfl
  rw [keysOf, List.getLast?_map]
  cases last : (table.entries.filter fun entry => test entry.1).getLast? with
  | none =>
      rfl
  | some entry =>
      have member := List.mem_of_getLast? last
      exact (get?_of_mem nodup (List.mem_of_mem_filter member)).symm

end Keys

/-! ## Bindings in order -/

section Order

variable {κ α : Type} [DecidableEq κ]

/-- After a key is bound, it is looked up as bound, and other keys as before. -/
theorem get?_insert
    (table : Table κ α)
    (key other : κ)
    (value : α) :
    (table.insert key value).get? other =
      if key = other then some value else table.get? other := by
  have exact : ∀ key : κ, IsExactKey key :=
    fun _ _ => beq_iff_eq
  split
  · next same =>
      rw [← same, get?_insert_self (exact key)]
  · next different =>
      exact get?_insert_of_ne (exact key) (exact other) (Ne.symm different) table value

theorem ofList_concat
    (entries : List (κ × α))
    (entry : κ × α) :
    ofList (entries ++ [entry]) = (ofList entries).insert entry.1 entry.2 :=
  List.foldl_concat ..

/-- A key is bound to its last value in a list of bindings. -/
theorem get?_ofList
    (entries : List (κ × α))
    (key : κ) :
    (ofList entries).get? key =
      (entries.filter fun entry => entry.1 == key).getLast?.map (·.2) := by
  induction entries using List.reverseRecOn with
  | nil =>
      rfl
  | append_singleton rest entry inductionHypothesis =>
      rw [ofList_concat, get?_insert, inductionHypothesis, List.filter_append]
      by_cases same : entry.1 = key
      · simp [same]
      · simp [same]

/-- Keys stand in the order in which a list of bindings names them first. -/
theorem keys_ofList
    (entries : List (κ × α)) :
    (ofList entries).keys = (entries.map (·.1)).eraseDups := by
  induction entries using List.reverseRecOn with
  | nil =>
      rfl
  | append_singleton rest entry inductionHypothesis =>
      rw [ofList_concat, keys_insert, inductionHypothesis, List.map_append,
        List.eraseDups_append]
      by_cases listed : entry.1 ∈ rest.map (·.1)
      · simp [listed, List.removeAll]
      · simp [listed, List.removeAll, List.eraseDups_cons]

end Order

end Table

end PageScript
