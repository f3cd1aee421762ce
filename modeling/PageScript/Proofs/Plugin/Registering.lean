import PageScript.Plugin.Discovery
import PageScript.Proofs.Table

namespace PageScript.Plugin

open World

/-!
# Registering plugins

The names of registered plugins are distinct, and no manager knows an object that is
made anew.  So an object of a class is registered as the last plugin unless its name
is taken, and of several classes with one name the first one is registered.  All of
this only writes to the log.
-/

/-! ## Steps that only write to the log -/

/-- A step gives a value with a property, and only writes to the log. -/
def Yields
    {α : Type}
    (step : Logged α)
    (surroundings : Surroundings)
    (holds : α → Prop) :
    Prop :=
  ∃ value events,
    step.run surroundings =
        (value, { surroundings with log := surroundings.log ++ events }) ∧
      holds value

namespace Yields

variable
  {α β : Type}
  {surroundings : Surroundings}

theorem pure
    {value : α}
    {holds : α → Prop}
    (proof : holds value) :
    Yields (pure value) surroundings holds :=
  ⟨value, [], by rw [List.append_nil]; rfl, proof⟩

theorem bind
    {step : Logged α}
    {next : α → Logged β}
    {first : α → Prop}
    {second : β → Prop}
    (begins : Yields step surroundings first)
    (goesOn :
      ∀ value log, first value → Yields (next value) { surroundings with log := log } second) :
    Yields (step >>= next) surroundings second := by
  obtain ⟨value, events, run, holds⟩ := begins
  obtain ⟨result, further, finish, proof⟩ := goesOn value _ holds
  refine ⟨result, events ++ further, ?_, proof⟩
  rw [StateT.run_bind, run]
  refine finish.trans ?_
  rw [List.append_assoc]

/-- A step that depends on the surroundings. -/
theorem get_bind
    {next : Surroundings → Logged β}
    {holds : β → Prop}
    (goesOn : Yields (next surroundings) surroundings holds) :
    Yields (get >>= next) surroundings holds :=
  goesOn

theorem log_bind
    {level : LogLevel}
    {event : String}
    {fields : List (String × Value)}
    {next : Unit → Logged β}
    {holds : β → Prop}
    (goesOn : ∀ log, Yields (next ()) { surroundings with log := log } holds) :
    Yields (log level event fields >>= next) surroundings holds := by
  have logs : Yields (log level event fields) surroundings fun _ => True :=
    ⟨(), _, rfl, trivial⟩
  exact logs.bind fun _ log _ => goesOn log

theorem weaken
    {step : Logged α}
    {holds weaker : α → Prop}
    (yields : Yields step surroundings holds)
    (implies : ∀ value, holds value → weaker value) :
    Yields step surroundings weaker := by
  obtain ⟨value, events, run, proof⟩ := yields
  exact ⟨value, events, run, implies value proof⟩

end Yields

/-! ## What a manager lists -/

/-- What a manager lists of a plugin. -/
structure Listed where
  name : String
  plugin : PluginClass
  /-- Whether the class itself is registered. -/
  isClass : Bool := false

/-- What is listed of an entry. -/
def Listed.ofEntry (entry : String × Instance) : Listed :=
  ⟨entry.1, entry.2.plugin, entry.2.isClass⟩

/-- Whether an object of a class can be registered as a plugin. -/
def PluginClass.isRegistrable (plugin : PluginClass) : Bool :=
  plugin.hasHooks && !plugin.constructorFails

namespace Manager

/-- What is listed of the plugins, in the order of their registration. -/
def listing (manager : Manager) : List Listed :=
  manager.plugins.entries.map Listed.ofEntry

/-- The names are distinct, and every object was made before. -/
structure Sound (manager : Manager) : Prop where
  nodup : manager.names.Nodup
  known : ∀ entry ∈ manager.plugins.entries, entry.2.identity < manager.nextIdentity

/-- A manager has the same plugins as before and more after them. -/
structure Gains (before after : Manager) (gained : List Listed) : Prop where
  sound : after.Sound
  listing : after.listing = before.listing ++ gained
  discovered : after.discovered = before.discovered

end Manager

section Managers

variable
  {manager after : Manager}
  {plugin : PluginClass}
  {name : String}
  {surroundings : Surroundings}

theorem names_eq
    (manager : Manager) :
    manager.names = manager.listing.map (·.name) := by
  rw [Manager.names, Manager.listing, List.map_map]
  rfl

theorem Manager.Gains.names
    {gained : List Listed}
    (gains : manager.Gains after gained) :
    after.names = manager.names ++ gained.map (·.name) := by
  rw [names_eq, names_eq, gains.listing, List.map_append]

theorem Manager.Sound.gains_nil
    (sound : manager.Sound) :
    manager.Gains manager [] :=
  ⟨sound, (List.append_nil _).symm, rfl⟩

theorem Manager.Gains.trans
    {last : Manager}
    {first second : List Listed}
    (gains : manager.Gains after first)
    (further : after.Gains last second) :
    manager.Gains last (first ++ second) where
  sound := further.sound
  listing := by
    rw [further.listing, gains.listing, List.append_assoc]
  discovered := further.discovered.trans gains.discovered

/-- A new object is known to no manager. -/
theorem Manager.Sound.nameOf?_nextIdentity
    (sound : manager.Sound) :
    manager.nameOf? manager.nextIdentity = none := by
  rw [nameOf?, Option.map_eq_none_iff, List.find?_eq_none]
  intro entry member same
  exact Nat.ne_of_lt (sound.known entry member) (eq_of_beq same)

theorem contains_iff_mem_names :
    manager.plugins.contains name = true ↔ name ∈ manager.names := by
  simp [Table.contains, Manager.names, Table.keys]

/-- A manager with some of its plugins. -/
theorem Manager.Sound.sublist
    {plugins : Table String Instance}
    (sound : manager.Sound)
    (fewer : plugins.entries.Sublist manager.plugins.entries) :
    Manager.Sound { manager with plugins := plugins } where
  nodup := List.Nodup.sublist (fewer.map _) sound.nodup
  known entry member := sound.known entry (fewer.subset member)

/-- A manager with one more plugin. -/
theorem Manager.Sound.gains
    {registered : Instance}
    (sound : manager.Sound)
    (fresh : name ∉ manager.names)
    (made : registered.identity < manager.nextIdentity) :
    manager.Gains { manager with plugins := manager.plugins.insert name registered }
      [Listed.ofEntry (name, registered)] := by
  rw [Table.insert_of_not_mem fresh]
  refine ⟨⟨?_, ?_⟩, ?_, rfl⟩
  · rw [Manager.names, Table.keys, List.map_append, List.map_singleton]
    exact List.nodup_append.mpr
      ⟨sound.nodup, List.nodup_singleton _, fun old left new right same => by
        rw [List.mem_singleton.mp right] at same
        subst same
        exact fresh left⟩
  · intro entry member
    rcases List.mem_append.mp member with old | new
    · exact sound.known entry old
    · rw [List.mem_singleton.mp new]
      exact made
  · rw [Manager.listing, List.map_append]
    rfl

theorem Manager.Sound.add
    {registered : Instance}
    (sound : manager.Sound)
    (made : registered.identity < manager.nextIdentity)
    (accepted : manager.add name registered = .ok after) :
    after.Sound := by
  rw [Manager.add] at accepted
  split at accepted
  · cases accepted
  · next free =>
      cases accepted
      have fresh : name ∉ manager.names := fun taken =>
        free (by rw [contains_iff_mem_names.mpr taken]; rfl)
      exact (sound.gains fresh made).sound

theorem Manager.Sound.instantiate
    (sound : manager.Sound)
    (plugin : PluginClass)
    (isClass : Bool) :
    (manager.instantiate plugin isClass).1.Sound :=
  ⟨sound.nodup, fun entry member => Nat.lt_succ_of_lt (sound.known entry member)⟩

/-- A manager with an object that is made anew. -/
theorem Manager.Sound.gains_new
    (sound : manager.Sound)
    (fresh : name ∉ manager.names)
    (plugin : PluginClass) :
    manager.Gains
      { manager with
        plugins :=
          manager.plugins.insert name ⟨manager.nextIdentity, plugin, false⟩
        nextIdentity := manager.nextIdentity + 1 }
      [⟨name, plugin, false⟩] := by
  have made :
      (manager.instantiate plugin false).2.identity <
        (manager.instantiate plugin false).1.nextIdentity :=
    Nat.lt_succ_self _
  obtain ⟨added, listing, -⟩ := (sound.instantiate plugin false).gains fresh made
  exact ⟨added, listing, rfl⟩

/-- An object of a class is registered unless its name is taken. -/
theorem yields_registerNew
    (sound : manager.Sound)
    (named : name ≠ "")
    (plugin : PluginClass)
    (surroundings : Surroundings) :
    Yields (manager.registerNew plugin name) surroundings fun outcome =>
      name ∈ manager.names ∧ outcome = .error .taken ∨
        name ∉ manager.names ∧
          ∃ added,
            outcome = .ok added ∧ manager.Gains added [⟨name, plugin, false⟩] := by
  have unknown :
      (manager.instantiate plugin false).1.nameOf?
        (manager.instantiate plugin false).2.identity = none :=
    sound.nameOf?_nextIdentity
  rw [Manager.registerNew, Manager.register, Manager.add, unknown, Option.isSome_none,
    Bool.or_false]
  swap
  · exact named
  by_cases taken : name ∈ manager.names
  · have refused : (manager.instantiate plugin false).1.plugins.contains name = true :=
      contains_iff_mem_names.mpr taken
    rw [if_pos refused]
    exact .pure (.inl ⟨taken, rfl⟩)
  · have accepted : ¬(manager.instantiate plugin false).1.plugins.contains name = true :=
      mt contains_iff_mem_names.mp taken
    rw [if_neg accepted]
    exact .log_bind fun _ => .pure (.inr ⟨taken, _, rfl, sound.gains_new taken plugin⟩)

/-! ## The classes of a file -/

section Enlisting

variable
  {β : Type}
  (nameOf : β → String)

/-- Those whose name is neither taken nor that of an earlier one. -/
def enlist : List String → List β → List β
  | _, [] => []
  | taken, first :: rest =>
      if nameOf first ∈ taken then enlist taken rest
      else first :: enlist (taken ++ [nameOf first]) rest

variable {nameOf}

theorem enlist_append
    (taken : List String)
    (first second : List β) :
    enlist nameOf taken (first ++ second) =
      enlist nameOf taken first ++
        enlist nameOf (taken ++ (enlist nameOf taken first).map nameOf) second := by
  induction first generalizing taken with
  | nil =>
      rw [List.nil_append, enlist, List.nil_append, List.map_nil, List.append_nil]
  | cons head rest inductionHypothesis =>
      rw [List.cons_append, enlist, enlist]
      split
      · exact inductionHypothesis taken
      · rw [inductionHypothesis, List.cons_append, List.map_cons, List.append_assoc]
        rfl

theorem enlist_map
    {γ : Type}
    (change : γ → β)
    (taken : List String)
    (items : List γ) :
    enlist nameOf taken (items.map change) =
      (enlist (fun item => nameOf (change item)) taken items).map change := by
  induction items generalizing taken with
  | nil =>
      rfl
  | cons head rest inductionHypothesis =>
      rw [List.map_cons, enlist, enlist]
      split
      · exact inductionHypothesis taken
      · rw [inductionHypothesis, List.map_cons]

theorem enlist_sublist
    (taken : List String)
    (items : List β) :
    (enlist nameOf taken items).Sublist items := by
  induction items generalizing taken with
  | nil =>
      exact .slnil
  | cons head rest inductionHypothesis =>
      rw [enlist]
      split
      · exact (inductionHypothesis taken).cons head
      · exact (inductionHypothesis _).cons_cons head

/-- What is enlisted has a new name, and comes before all others with that name. -/
theorem mem_enlist
    {precedes : β → β → Prop}
    {items : List β}
    (ordered : items.Pairwise precedes)
    (irreflexive : ∀ item, ¬precedes item item)
    (asymmetric : ∀ first second, precedes first second → ¬precedes second first)
    (taken : List String)
    (item : β) :
    item ∈ enlist nameOf taken items ↔
      item ∈ items ∧ nameOf item ∉ taken ∧
        ∀ other ∈ items, precedes other item → nameOf other ≠ nameOf item := by
  induction items generalizing taken with
  | nil =>
      simp [enlist]
  | cons head rest inductionHypothesis =>
      obtain ⟨first, restOrdered⟩ := List.pairwise_cons.mp ordered
      rw [enlist]
      split
      · next headTaken =>
          rw [inductionHypothesis restOrdered]
          constructor
          · rintro ⟨member, free, earliest⟩
            refine ⟨List.mem_cons_of_mem _ member, free, fun other among before => ?_⟩
            rcases List.mem_cons.mp among with rfl | among
            · exact fun same => free (same ▸ headTaken)
            · exact earliest other among before
          · rintro ⟨member, free, earliest⟩
            rcases List.mem_cons.mp member with rfl | member
            · exact absurd headTaken free
            · exact
                ⟨member, free, fun other among =>
                  earliest other (List.mem_cons_of_mem _ among)⟩
      · next headFree =>
          rw [List.mem_cons, inductionHypothesis restOrdered]
          constructor
          · rintro (rfl | ⟨member, free, earliest⟩)
            · refine ⟨List.mem_cons_self, headFree, fun other among before => ?_⟩
              rcases List.mem_cons.mp among with rfl | among
              · exact absurd before (irreflexive _)
              · exact absurd before (asymmetric _ _ (first other among))
            · rw [List.mem_append, List.mem_singleton, not_or] at free
              refine ⟨List.mem_cons_of_mem _ member, free.1, fun other among before => ?_⟩
              rcases List.mem_cons.mp among with rfl | among
              · exact Ne.symm free.2
              · exact earliest other among before
          · rintro ⟨member, free, earliest⟩
            rcases List.mem_cons.mp member with rfl | member
            · exact .inl rfl
            · have differs : nameOf head ≠ nameOf item :=
                earliest head List.mem_cons_self (first item member)
              refine .inr ⟨member, ?_, fun other among =>
                earliest other (List.mem_cons_of_mem _ among)⟩
              rw [List.mem_append, List.mem_singleton, not_or]
              exact ⟨free, Ne.symm differs⟩

end Enlisting

/-- Of the classes of a file, those are registered that are enlisted by their names. -/
theorem yields_registerClasses
    (moduleName filePath : String)
    (classes : List PluginClass)
    (sound : manager.Sound)
    (surroundings : Surroundings) :
    Yields (manager.registerClasses moduleName filePath classes) surroundings fun after =>
      manager.Gains after
        ((enlist (fun plugin => moduleName ++ "." ++ plugin.name) manager.names
          (classes.filter PluginClass.isRegistrable)).map
            fun plugin => ⟨moduleName ++ "." ++ plugin.name, plugin, false⟩) := by
  induction classes generalizing manager surroundings with
  | nil =>
      exact .pure sound.gains_nil
  | cons plugin rest inductionHypothesis =>
      rw [Manager.registerClasses]
      cases hooked : plugin.hasHooks with
      | false =>
          have left : ¬plugin.isRegistrable = true := by
            rw [PluginClass.isRegistrable, hooked]
            exact Bool.false_ne_true
          rw [List.filter_cons_of_neg left]
          exact inductionHypothesis sound surroundings
      | true =>
          cases constructs : plugin.constructorFails with
          | true =>
              have left : ¬plugin.isRegistrable = true := by
                rw [PluginClass.isRegistrable, constructs, Bool.not_true, Bool.and_false]
                exact Bool.false_ne_true
              have failed :
                  Yields (pure (.error .taken) : Logged (Except RegistrationError Manager))
                    surroundings (· = .error .taken) :=
                .pure rfl
              rw [List.filter_cons_of_neg left]
              refine failed.bind ?_
              rintro _ log rfl
              exact .log_bind fun _ => inductionHypothesis sound _
          | false =>
              have registrable : plugin.isRegistrable = true := by
                rw [PluginClass.isRegistrable, hooked, constructs]
                rfl
              have named : moduleName ++ "." ++ plugin.name ≠ "" := by
                intro empty
                have size := congrArg String.length empty
                simp [String.length_append] at size
              rw [List.filter_cons_of_pos registrable, enlist]
              refine .bind (yields_registerNew sound named plugin surroundings) ?_
              rintro outcome log (⟨taken, rfl⟩ | ⟨free, added, rfl, gains⟩)
              · rw [if_pos taken]
                exact .log_bind fun _ => inductionHypothesis sound _
              · rw [if_neg free]
                refine (inductionHypothesis gains.sound _).weaken fun after further => ?_
                rw [gains.names] at further
                exact gains.trans further

/-! ## Registered classes -/

namespace Listed

/-- Whether a plugin is left as it is when registered classes are replaced. -/
def stays (listed : Listed) : Bool :=
  !(listed.isClass && listed.plugin.hasHooks)

/-- Whether a registered class is replaced by an object of it. -/
def isReplaced (listed : Listed) : Bool :=
  listed.isClass && listed.plugin.isRegistrable

/-- An object in the place of a registered class. -/
def object (listed : Listed) : Listed :=
  { listed with isClass := false }

end Listed

/-- The plugins that are left as they are when registered classes are replaced. -/
def Manager.staying (manager : Manager) : List Listed :=
  manager.listing.filter Listed.stays

/-- The objects that replace registered classes. -/
def Manager.replacements (manager : Manager) : List Listed :=
  (manager.listing.filter Listed.isReplaced).map Listed.object

/-- A manager without one of its plugins. -/
theorem Manager.Sound.erase
    {before behind : List (String × Instance)}
    {entry : String × Instance}
    (sound : manager.Sound)
    (divided : manager.plugins.entries = before ++ entry :: behind) :
    (manager.plugins.erase entry.1).entries = before ++ behind ∧
      Manager.Sound { manager with plugins := manager.plugins.erase entry.1 } ∧
        entry.1 ∉ (manager.plugins.erase entry.1).keys := by
  have nodup := sound.nodup
  rw [names, Table.keys, divided, List.map_append, List.map_cons, List.nodup_append,
    List.nodup_cons] at nodup
  have differs : ∀ other ∈ before ++ behind, other.1 ≠ entry.1 := by
    intro other member
    rcases List.mem_append.mp member with earlier | later
    · exact nodup.2.2 _ (List.mem_map_of_mem earlier) _ List.mem_cons_self
    · exact fun same => nodup.2.1.1 (same ▸ List.mem_map_of_mem later)
  have entries : (manager.plugins.erase entry.1).entries = before ++ behind := by
    change manager.plugins.entries.filter (fun other => !(other.1 == entry.1)) = _
    rw [divided, List.filter_append,
      List.filter_cons_of_neg (by rw [beq_self_eq_true]; exact Bool.false_ne_true),
      ← List.filter_append]
    refine List.filter_eq_self.mpr fun other member => ?_
    rw [beq_eq_false_iff_ne.mpr (differs other member)]
    rfl
  have fewer : (before ++ behind).Sublist manager.plugins.entries := by
    rw [divided]
    exact (List.Sublist.refl before).append (List.sublist_cons_self entry behind)
  refine ⟨entries, sound.sublist (entries ▸ fewer), ?_⟩
  rw [Table.keys, entries]
  intro listed
  obtain ⟨other, member, same⟩ := List.mem_map.mp listed
  exact differs other member same

/-- A registered class is replaced by an object that becomes the last plugin, or dropped. -/
theorem yields_replaceClass
    {before behind : List (String × Instance)}
    {registered : Instance}
    (sound : manager.Sound)
    (divided : manager.plugins.entries = before ++ (name, registered) :: behind)
    (surroundings : Surroundings) :
    Yields (manager.replaceClass name registered) surroundings fun after =>
      after.Sound ∧ after.discovered = manager.discovered ∧
        ∃ made,
          after.plugins.entries = before ++ behind ++ made ∧
            made.map Listed.ofEntry =
              if registered.plugin.constructorFails then []
              else [⟨name, registered.plugin, false⟩] := by
  obtain ⟨entries, without, fresh⟩ := sound.erase divided
  rw [Manager.replaceClass]
  cases registered.plugin.constructorFails with
  | true =>
      exact .log_bind fun _ => .pure ⟨without, rfl, [], by rw [entries, List.append_nil], rfl⟩
  | false =>
      refine .log_bind fun _ =>
        .pure ⟨(without.gains_new fresh registered.plugin).sound, rfl,
          [(name, ⟨manager.nextIdentity, registered.plugin, false⟩)], ?_, rfl⟩
      rw [← entries, Manager.instantiate]
      exact congrArg Table.entries (Table.insert_of_not_mem fresh _)

/-- Registered classes are replaced by objects where these can be made. -/
theorem yields_replaceClasses
    {before rest made : List (String × Instance)}
    (sound : manager.Sound)
    (divided : manager.plugins.entries = before ++ rest ++ made)
    (surroundings : Surroundings) :
    Yields (manager.replaceClasses rest) surroundings fun after =>
      after.Sound ∧ after.discovered = manager.discovered ∧
        after.listing =
          before.map Listed.ofEntry ++ (rest.map Listed.ofEntry).filter Listed.stays ++
              made.map Listed.ofEntry ++
            ((rest.map Listed.ofEntry).filter Listed.isReplaced).map Listed.object := by
  induction rest generalizing manager before made surroundings with
  | nil =>
      refine .pure ⟨sound, rfl, ?_⟩
      rw [Manager.listing, divided]
      simp
  | cons entry rest inductionHypothesis =>
      rcases entry with ⟨name, registered⟩
      rw [Manager.replaceClasses, List.map_cons]
      split
      · next hooked =>
          rw [List.append_assoc, List.cons_append] at divided
          refine (yields_replaceClass sound divided surroundings).bind ?_
          rintro replaced log ⟨replacedSound, kept, new, entries, listed⟩
          rw [← List.append_assoc, List.append_assoc _ made new] at entries
          refine (inductionHypothesis replacedSound entries _).weaken ?_
          rintro after ⟨afterSound, afterKept, afterListed⟩
          refine ⟨afterSound, afterKept.trans kept, afterListed.trans ?_⟩
          have leaves : ¬(Listed.ofEntry (name, registered)).stays = true := by
            rw [Listed.stays, Listed.ofEntry, hooked]
            exact Bool.false_ne_true
          rw [List.map_append, listed, List.filter_cons_of_neg leaves]
          rw [Bool.and_eq_true] at hooked
          cases fails : registered.plugin.constructorFails <;>
            simp [Listed.isReplaced, Listed.ofEntry, Listed.object,
              PluginClass.isRegistrable, hooked, fails]
      · next stays =>
          have moved : manager.plugins.entries = before ++ [(name, registered)] ++ rest ++ made := by
            rw [divided]
            simp
          refine (inductionHypothesis sound moved surroundings).weaken ?_
          rintro after ⟨afterSound, kept, listed⟩
          refine ⟨afterSound, kept, listed.trans ?_⟩
          rw [Bool.not_eq_true] at stays
          have kept : (Listed.ofEntry (name, registered)).stays = true := by
            rw [Listed.stays, Listed.ofEntry, stays]
            rfl
          have lasting : ¬(Listed.ofEntry (name, registered)).isReplaced = true := by
            rw [Listed.isReplaced, PluginClass.isRegistrable, ← Bool.and_assoc,
              Listed.ofEntry, stays]
            exact Bool.false_ne_true
          rw [List.filter_cons_of_pos kept, List.filter_cons_of_neg lasting, List.map_append]
          simp

/-- Replacing registered classes leaves the other plugins, and puts the objects behind them. -/
theorem yields_replaced
    (sound : manager.Sound)
    (surroundings : Surroundings) :
    Yields (manager.replaceClasses manager.plugins.entries) surroundings fun after =>
      after.Sound ∧ after.discovered = manager.discovered ∧
        after.listing = manager.staying ++ manager.replacements := by
  have whole : manager.plugins.entries = [] ++ manager.plugins.entries ++ [] := by
    rw [List.append_nil, List.nil_append]
  refine (yields_replaceClasses sound whole surroundings).weaken ?_
  rintro after ⟨afterSound, kept, listed⟩
  refine ⟨afterSound, kept, listed.trans ?_⟩
  rw [List.map_nil, List.nil_append, List.append_nil]
  rfl

end Managers

end PageScript.Plugin
