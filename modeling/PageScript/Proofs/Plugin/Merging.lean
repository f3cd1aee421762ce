import PageScript.Plugin.Manager
import PageScript.Proofs.Table

namespace PageScript.Plugin

open Run

/-!
# Merged offers

The tables that plugins offer are merged by the names as they are written, and the
names are lower-cased in the merged table.  A name that is offered again keeps its
place among the names, so of several spellings of one name the one that was first
offered last decides, and the loader is the last one that was offered under it.

A plugin that fails to offer a table is left out of the merged one, and the last of
the others that offers a key decides.  A hook reaches plugins from the last
registered one on, up to and including the first that fails.  What plugins offer
does not depend on what they do when they are told that something is over.
-/

/-! ## What plugins offer -/

/-- What a registered plugin adds to a merged table. -/
def offersOf
    {α : Type}
    (offer : PluginClass → Option (Offer α))
    (entry : String × Instance) :
    List (String × α) :=
  match entry.2.isClass, offer entry.2.plugin with
  | false, some (.table entries) => entries
  | _, _ => []

/-- The names with their loaders that plugins offer, in the order of registration. -/
def Manager.loaderOffers (manager : Manager) : List (String × FrameworkLoader) :=
  manager.plugins.entries.flatMap (offersOf PluginClass.frameworks)

/-- Of the spellings of a name, the one that was first offered last. -/
def newestSpelling?
    {α : Type}
    (offers : List (String × α))
    (key : String) :
    Option String :=
  ((offers.map (·.1)).eraseDups.filter fun name => frameworkKey name == key).getLast?

/-- What was offered last under a spelling. -/
def lastOffer?
    {α : Type}
    (offers : List (String × α))
    (name : String) :
    Option α :=
  (offers.filter fun offer => offer.1 == name).getLast?.map (·.2)

/-! ## Merging -/

/-- A merged table binds what the plugins offer, in order. -/
theorem collect_eq
    {α : Type}
    (hookName : String)
    (offer : PluginClass → Option (Offer α))
    (merged : Table String α)
    (plugins : List (String × Instance))
    (surroundings : World.Surroundings) :
    ((Manager.collect hookName offer merged plugins).run surroundings).1 =
      merged.insertAll (plugins.flatMap (offersOf offer)) := by
  induction plugins generalizing merged surroundings with
  | nil =>
      rfl
  | cons entry rest inductionHypothesis =>
      rcases entry with ⟨name, plugin⟩
      rw [Manager.collect, List.flatMap_cons, Table.insertAll, List.foldl_append]
      change _ = Table.insertAll (merged.insertAll (offersOf offer (name, plugin))) _
      cases given : offer plugin.plugin with
      | none =>
          have nothing : offersOf offer (name, plugin) = [] := by
            simp [offersOf, given]
          rw [nothing]
          exact inductionHypothesis merged surroundings
      | some answer =>
          dsimp only
          split
          · next isClass =>
              have nothing : offersOf offer (name, plugin) = [] := by
                simp [offersOf, isClass]
              rw [nothing]
              exact inductionHypothesis merged _
          · next isObject =>
              have object : plugin.isClass = false :=
                Bool.eq_false_iff.mpr isObject
              cases answer with
              | table entries =>
                  have all : offersOf offer (name, plugin) = entries := by
                    simp [offersOf, given, object]
                  rw [all]
                  exact inductionHypothesis _ surroundings
              | fails | noTable | nothing =>
                  have none_ : offersOf offer (name, plugin) = [] := by
                    simp [offersOf, given]
                  rw [none_]
                  exact inductionHypothesis merged _

/-- The loaders of a manager, from what its plugins offer. -/
theorem frameworks_eq
    (manager : Manager)
    (surroundings : World.Surroundings) :
    (manager.frameworks.run surroundings).1 =
      Manager.smallNames (Table.ofList manager.loaderOffers) :=
  congrArg Manager.smallNames
    (collect_eq Hook.registerFrameworks.name PluginClass.frameworks ⟨[]⟩
      manager.plugins.entries surroundings)

/-- Under a lower-cased name stands the last offer of its newest spelling. -/
theorem get?_smallNames_ofList
    (offers : List (String × FrameworkLoader))
    (key : String) :
    (Manager.smallNames (Table.ofList offers)).get? key =
      (newestSpelling? offers key).bind (lastOffer? offers) := by
  have nodup : (Table.ofList offers).keys.Nodup :=
    Table.nodup_keys_ofList offers
  have lookups : (Table.ofList offers).get? = lastOffer? offers :=
    funext fun name => Table.get?_ofList offers name
  rw [Manager.smallNames, Table.get?_ofList, List.filter_map, List.getLast?_map,
    Option.map_map]
  refine (Table.getLast?_filter_entries nodup fun name => frameworkKey name == key).trans ?_
  rw [Table.keys_ofList, lookups]
  rfl

/-! ## Which offer wins -/

section Offers

variable
  {offers before after : List (String × FrameworkLoader)}
  {key name : String}
  {loader : FrameworkLoader}

/-- What was offered under a spelling is found. -/
theorem exists_lastOffer?
    (offered : name ∈ offers.map (·.1)) :
    ∃ loader, lastOffer? offers name = some loader := by
  obtain ⟨offer, member, rfl⟩ := List.mem_map.mp offered
  have kept : offer ∈ offers.filter fun other => other.1 == offer.1 :=
    List.mem_filter.mpr ⟨member, beq_self_eq_true offer.1⟩
  rw [lastOffer?, List.getLast?_eq_some_getLast (List.ne_nil_of_mem kept)]
  exact ⟨_, rfl⟩

/-- The newest spelling of a name is one that was offered. -/
theorem of_newestSpelling?_eq_some
    (newest : newestSpelling? offers key = some name) :
    name ∈ offers.map (·.1) ∧ frameworkKey name = key := by
  have member := List.mem_of_getLast? newest
  rw [List.mem_filter, List.mem_eraseDups] at member
  exact ⟨member.1, eq_of_beq member.2⟩

theorem newestSpelling?_eq_none_iff :
    newestSpelling? offers key = none ↔
      ∀ offer ∈ offers, frameworkKey offer.1 ≠ key := by
  simp [newestSpelling?]

/-- Nothing is found under a lower-cased name that is not offered in any spelling. -/
theorem get?_smallNames_eq_none_iff :
    (Manager.smallNames (Table.ofList offers)).get? key = none ↔
      ∀ offer ∈ offers, frameworkKey offer.1 ≠ key := by
  rw [get?_smallNames_ofList, ← newestSpelling?_eq_none_iff]
  cases newest : newestSpelling? offers key with
  | none =>
      simp
  | some name =>
      obtain ⟨loader, found⟩ :=
        exists_lastOffer? (of_newestSpelling?_eq_some newest).1
      simp [found]

/-- The only spelling of a name is its newest one. -/
theorem newestSpelling?_of_only
    (offered : name ∈ offers.map (·.1))
    (spells : frameworkKey name = key)
    (only : ∀ offer ∈ offers, frameworkKey offer.1 = key → offer.1 = name) :
    newestSpelling? offers key = some name := by
  cases newest : newestSpelling? offers key with
  | none =>
      obtain ⟨offer, member, rfl⟩ := List.mem_map.mp offered
      exact absurd spells (newestSpelling?_eq_none_iff.mp newest offer member)
  | some other =>
      obtain ⟨otherOffered, otherSpells⟩ := of_newestSpelling?_eq_some newest
      obtain ⟨offer, member, rfl⟩ := List.mem_map.mp otherOffered
      exact congrArg some (only offer member otherSpells)

/-- A spelling that is offered for the first time, and no other after it, is the newest one. -/
theorem newestSpelling?_of_new
    (new : ∀ offer ∈ before, offer.1 ≠ name)
    (spells : frameworkKey name = key)
    (last : ∀ offer ∈ after, frameworkKey offer.1 ≠ key) :
    newestSpelling? (before ++ (name, loader) :: after) key = some name := by
  have fresh : name ∉ before.map (·.1) := by
    intro member
    obtain ⟨offer, offered, same⟩ := List.mem_map.mp member
    exact new offer offered same
  have later :
      ((((after.map (·.1)).removeAll (before.map (·.1))).filter
            (fun other => !other == name)).eraseDups.filter
          fun other => frameworkKey other == key) =
        [] := by
    refine List.filter_eq_nil_iff.mpr fun other member same => ?_
    have among :=
      List.mem_of_mem_filter
        (List.mem_of_mem_filter (List.mem_eraseDups.mp member))
    obtain ⟨offer, offered, rfl⟩ := List.mem_map.mp among
    exact last offer offered (eq_of_beq same)
  have divided :
      ((name :: after.map (·.1)).removeAll (before.map (·.1))).eraseDups =
        name ::
          (((after.map (·.1)).removeAll (before.map (·.1))).filter
            (fun other => !other == name)).eraseDups := by
    rw [List.removeAll, List.filter_cons_of_pos (by simpa using fresh),
      List.eraseDups_cons]
    rfl
  rw [newestSpelling?, List.map_append, List.map_cons, List.eraseDups_append,
    divided, List.filter_append, List.filter_cons, if_pos (beq_iff_eq.mpr spells),
    later, List.getLast?_concat]

/-- What was offered last under a spelling is found, whatever follows it. -/
theorem lastOffer?_of_last
    (last : ∀ offer ∈ after, offer.1 ≠ name) :
    lastOffer? (before ++ (name, loader) :: after) name = some loader := by
  have later : (after.filter fun offer => offer.1 == name) = [] :=
    List.filter_eq_nil_iff.mpr fun offer member same =>
      last offer member (eq_of_beq same)
  rw [lastOffer?, List.filter_append, List.filter_cons, later]
  simp

/-- The last offer of a name wins where its spelling is the only one or a new one. -/
theorem get?_smallNames_of_last
    (spells : frameworkKey name = key)
    (last : ∀ offer ∈ after, frameworkKey offer.1 ≠ key)
    (alone :
      (∀ offer ∈ before, frameworkKey offer.1 = key → offer.1 = name) ∨
        ∀ offer ∈ before, offer.1 ≠ name) :
    (Manager.smallNames (Table.ofList (before ++ (name, loader) :: after))).get? key =
      some loader := by
  have newest :
      newestSpelling? (before ++ (name, loader) :: after) key = some name := by
    rcases alone with only | new
    · refine newestSpelling?_of_only (by simp) spells fun offer member same => ?_
      rcases List.mem_append.mp member with earlier | here
      · exact only offer earlier same
      · rcases List.mem_cons.mp here with rfl | later
        · rfl
        · exact absurd same (last offer later)
    · exact newestSpelling?_of_new new spells last
  have found :
      lastOffer? (before ++ (name, loader) :: after) name = some loader :=
    lastOffer?_of_last fun offer member same =>
      last offer member (by rw [same, spells])
  rw [get?_smallNames_ofList, newest]
  exact found

end Offers

/--
The loader of a lower-cased name is the last one that was offered under the newest of
its spellings, in the order in which plugins were registered.  There is none exactly if
no plugin offers the name in any spelling.  The last offer of a name wins where its
spelling is the only one so far or a new one.
-/
theorem newest_spelling_decides_loader
    (manager : Manager)
    (surroundings : World.Surroundings)
    (key : String) :
    (manager.frameworks.run surroundings).1.get? key =
        (newestSpelling? manager.loaderOffers key).bind
          (lastOffer? manager.loaderOffers) ∧
      ((manager.frameworks.run surroundings).1.get? key = none ↔
        ∀ offer ∈ manager.loaderOffers, frameworkKey offer.1 ≠ key) ∧
      ∀ before name loader after,
        manager.loaderOffers = before ++ (name, loader) :: after →
          frameworkKey name = key →
            (∀ offer ∈ after, frameworkKey offer.1 ≠ key) →
              ((∀ offer ∈ before, frameworkKey offer.1 = key → offer.1 = name) ∨
                  ∀ offer ∈ before, offer.1 ≠ name) →
                (manager.frameworks.run surroundings).1.get? key =
                  some loader := by
  rw [frameworks_eq]
  refine ⟨get?_smallNames_ofList _ key, get?_smallNames_eq_none_iff, ?_⟩
  intro before name loader after divided spells last alone
  rw [divided]
  exact get?_smallNames_of_last spells last alone

/-- A plugin that offers one framework. -/
def offering (owner name : String) : PluginClass :=
  { name := owner
    frameworks := some (.table [(name, .described owner name .succeed)]) }

/-- A manager with plugins that offer one framework in two spellings. -/
def twoSpellings : Manager :=
  { plugins :=
      ⟨[("A", ⟨0, offering "A" "React", false⟩),
        ("B", ⟨1, offering "B" "react", false⟩)]⟩
    nextIdentity := 2 }

/-- The last of two offers wins, since its spelling is a new one. -/
theorem newest_spelling_decides_loader_of_two :
    twoSpellings.loaderOffers =
        [("React", .described "A" "React" .succeed)] ++
          ("react", .described "B" "react" .succeed) :: [] ∧
      frameworkKey "react" = "react" ∧
      ∀ surroundings,
        (twoSpellings.frameworks.run surroundings).1.get? "react" =
          some (.described "B" "react" .succeed) := by
  have spells : frameworkKey "react" = "react" := by
    decide +kernel
  refine ⟨rfl, spells, fun surroundings => ?_⟩
  refine
    (newest_spelling_decides_loader twoSpellings surroundings "react").2.2
      [("React", .described "A" "React" .succeed)] "react" _ [] rfl spells
      (List.forall_mem_nil _) (.inr ?_)
  exact List.forall_mem_singleton.mpr (by decide)

/-- A manager with a third plugin that offers the framework in its first spelling again. -/
def spellingAgain : Manager :=
  { plugins := twoSpellings.plugins.insert "C" ⟨2, offering "C" "React", false⟩
    nextIdentity := 3 }

/--
The last plugin that offers a framework loses where its spelling is older than another
one: of three offers the second one wins.
-/
theorem older_spelling_loses :
    spellingAgain.loaderOffers =
        [("React", .described "A" "React" .succeed),
          ("react", .described "B" "react" .succeed),
          ("React", .described "C" "React" .succeed)] ∧
      frameworkKey "React" = "react" ∧
      ∀ surroundings,
        (spellingAgain.frameworks.run surroundings).1.get? "react" =
          some (.described "B" "react" .succeed) := by
  refine ⟨rfl, by decide +kernel, fun surroundings => ?_⟩
  rw [frameworks_eq]
  decide +kernel

open World

/-! ## Failing to offer -/

section Offering

variable
  {α : Type}
  (offer : PluginClass → Option (Offer α))

/--
Whether a plugin fails when it is asked for a table: a class itself cannot be asked, and
asking an object may fail or give something that is no table.
-/
def Instance.failsToOffer (plugin : Instance) : Bool :=
  match offer plugin.plugin with
  | none => false
  | some .fails => true
  | some .noTable => true
  | some (.table _) => plugin.isClass
  | some .nothing => plugin.isClass

/-- The manager without the plugins that fail to offer a table. -/
def Manager.withoutFailing (manager : Manager) : Manager :=
  { manager with
    plugins := ⟨manager.plugins.entries.filter fun entry => !entry.2.failsToOffer offer⟩ }

/-- The value of a key that the last registered plugin with that key offers. -/
def Manager.lastOffered? (manager : Manager) (key : String) : Option α :=
  manager.plugins.entries.reverse.findSome? fun entry =>
    (Table.ofList (offersOf offer entry)).get? key

variable {offer}

theorem offersOf_of_failsToOffer
    {entry : String × Instance}
    (fails : entry.2.failsToOffer offer = true) :
    offersOf offer entry = [] := by
  rw [Instance.failsToOffer] at fails
  rw [offersOf]
  cases given : offer entry.2.plugin with
  | none =>
      cases entry.2.isClass <;> rfl
  | some answer =>
      rw [given] at fails
      cases answer with
      | table entries =>
          rw [show entry.2.isClass = true from fails]
      | fails | noTable | nothing =>
          cases entry.2.isClass <;> rfl

/-- Plugins that fail offer nothing. -/
theorem flatMap_offersOf_filter
    (plugins : List (String × Instance)) :
    (plugins.filter fun entry => !entry.2.failsToOffer offer).flatMap (offersOf offer) =
      plugins.flatMap (offersOf offer) := by
  induction plugins with
  | nil =>
      rfl
  | cons entry rest inductionHypothesis =>
      rw [List.flatMap_cons, ← inductionHypothesis]
      cases fails : entry.2.failsToOffer offer with
      | false =>
          rw [List.filter_cons_of_pos (by rw [fails]; rfl), List.flatMap_cons]
      | true =>
          rw [List.filter_cons_of_neg (by rw [fails]; exact Bool.false_ne_true),
            offersOf_of_failsToOffer fails, List.nil_append]

/-- The last plugin that offers a key decides over its value. -/
theorem get?_ofList_flatMap
    (plugins : List (String × Instance))
    (key : String) :
    (Table.ofList (plugins.flatMap (offersOf offer))).get? key =
      plugins.reverse.findSome? fun entry =>
        (Table.ofList (offersOf offer entry)).get? key := by
  induction plugins using List.reverseRecOn with
  | nil =>
      rfl
  | append_singleton rest entry inductionHypothesis =>
      rw [Table.get?_ofList] at inductionHypothesis
      rw [List.reverse_concat, List.findSome?_cons, ← inductionHypothesis,
        List.flatMap_append, List.flatMap_singleton, Table.get?_ofList,
        Table.get?_ofList, List.filter_append, List.getLast?_append]
      cases (List.filter (fun offer => offer.1 == key) (offersOf offer entry)).getLast? <;>
        rfl

variable (offer) in
/--
A table that is merged of what the plugins that do not fail offer, where the last offer for
a key counts.
-/
structure Manager.Merges (manager : Manager) (table : Manager → Logged (Table String α)) :
    Prop where
  withoutFailing :
    ∀ surroundings later,
      ((table manager).run surroundings).1 =
        ((table (manager.withoutFailing offer)).run later).1
  get?_eq :
    ∀ surroundings key,
      ((table manager).run surroundings).1.get? key = manager.lastOffered? offer key

theorem merges_collect
    (hookName : String)
    (manager : Manager) :
    manager.Merges offer fun asked =>
      Manager.collect hookName offer ⟨[]⟩ asked.plugins.entries where
  withoutFailing surroundings later := by
    rw [collect_eq, collect_eq, Manager.withoutFailing, flatMap_offersOf_filter]
  get?_eq surroundings key := by
    rw [collect_eq]
    exact get?_ofList_flatMap manager.plugins.entries key

end Offering

/-! ## Telling plugins -/

/-- Whether telling a plugin fails: a class itself cannot be told. -/
def failsWhenTold (listener : Instance × HookBehaviour) : Bool :=
  listener.1.isClass || listener.2.fails

/-- The call that a plugin records when it is told. -/
def recordedCall? (hook : Hook) (arguments : List Value) (listener : Instance × HookBehaviour) :
    Option Call :=
  if !listener.1.isClass && listener.2.records then
    some (.hook listener.1.plugin.name hook.name arguments)
  else
    none

/-- The plugins up to and including the first that fails when it is told. -/
def upToFailure (listeners : List (Instance × HookBehaviour)) :
    List (Instance × HookBehaviour) :=
  listeners.take (listeners.findIdx failsWhenTold + 1)

namespace Manager

/-- The plugins that implement a hook, first the last registered one. -/
def hookOrder (manager : Manager) (hook : Hook) : List (Instance × HookBehaviour) :=
  manager.plugins.entries.reverse.filterMap fun entry =>
    (entry.2.plugin.behaviour? hook).map fun behaviour => (entry.2, behaviour)

/-- Whether some plugin fails when it is told. -/
def failsOn (manager : Manager) (hook : Hook) : Bool :=
  (manager.hookOrder hook).any failsWhenTold

/-- The calls that plugins record when they are told. -/
def heard (manager : Manager) (hook : Hook) (arguments : List Value) : List Call :=
  (upToFailure (manager.hookOrder hook)).filterMap (recordedCall? hook arguments)

end Manager

theorem upToFailure_cons
    (listener : Instance × HookBehaviour)
    (rest : List (Instance × HookBehaviour)) :
    upToFailure (listener :: rest) =
      listener :: if failsWhenTold listener then [] else upToFailure rest := by
  rw [upToFailure, List.findIdx_cons]
  cases failsWhenTold listener <;> rfl

/-- Telling plugins in order reaches those up to the first that fails. -/
theorem exists_run_tellPlugins
    (hook : Hook)
    (arguments : List Value)
    (listeners : List (Instance × HookBehaviour))
    (surroundings : Surroundings) :
    ∃ fault,
      (Manager.tellPlugins hook arguments listeners).run surroundings =
        (if listeners.any failsWhenTold then .error fault else .ok (),
          { surroundings with
            calls :=
              surroundings.calls ++
                (upToFailure listeners).filterMap (recordedCall? hook arguments) }) := by
  induction listeners generalizing surroundings with
  | nil =>
      refine ⟨.undecodable, ?_⟩
      rw [show upToFailure [] = [] from rfl, List.filterMap_nil, List.append_nil]
      rfl
  | cons listener rest inductionHypothesis =>
      rcases listener with ⟨⟨identity, plugin, _ | _⟩, behaviour⟩
      · -- An object records the call before it fails.
        let told : Surroundings :=
          { surroundings with
            calls :=
              surroundings.calls ++
                (recordedCall? hook arguments (⟨identity, plugin, false⟩, behaviour)).toList }
        have run :
            (Manager.tellPlugins hook arguments
                ((⟨identity, plugin, false⟩, behaviour) :: rest)).run surroundings =
              if behaviour.fails then (.error (.collaborator "hook failed"), told)
              else (Manager.tellPlugins hook arguments rest).run told := by
          cases behaviour with
          | answer =>
              simp [Manager.tellPlugins, told, recordedCall?, HookBehaviour.records,
                HookBehaviour.fails]
          | fail =>
              simp [Manager.tellPlugins, told, recordedCall?, HookBehaviour.records,
                HookBehaviour.fails]
              rfl
          | record | recordAndFail =>
              rfl
        obtain ⟨fault, goOn⟩ := inductionHypothesis told
        have fails :
            failsWhenTold (⟨identity, plugin, false⟩, behaviour) = behaviour.fails :=
          Bool.false_or _
        have first :
            ∀ others : List (Instance × HookBehaviour),
              ((⟨identity, plugin, false⟩, behaviour) :: others).filterMap
                  (recordedCall? hook arguments) =
                (recordedCall? hook arguments (⟨identity, plugin, false⟩, behaviour)).toList ++
                  others.filterMap (recordedCall? hook arguments) := by
          intro others
          rw [List.filterMap_cons]
          cases recordedCall? hook arguments (⟨identity, plugin, false⟩, behaviour) <;> rfl
        rw [run, goOn, upToFailure_cons, List.any_cons, fails, first]
        cases behaviour.fails with
        | true =>
            refine ⟨.collaborator "hook failed", ?_⟩
            rw [if_pos rfl, if_pos rfl, List.filterMap_nil, List.append_nil]
            rfl
        | false =>
            refine ⟨fault, ?_⟩
            rw [if_neg Bool.false_ne_true, if_neg Bool.false_ne_true, ← List.append_assoc]
            rfl
      · refine ⟨Manager.unboundHook plugin hook, ?_⟩
        rw [upToFailure_cons]
        simp [failsWhenTold, recordedCall?]
        rfl

namespace Manager

/-- A hook reaches plugins in its order, up to the first that fails. -/
theorem exists_run_dispatch
    (manager : Manager)
    (hook : Hook)
    (arguments : List Value)
    (surroundings : Surroundings) :
    ∃ fault,
      (manager.dispatch hook arguments).run surroundings =
        (if manager.failsOn hook then .error fault else .ok (),
          { surroundings with
            calls := surroundings.calls ++ manager.heard hook arguments }) := by
  have listeners : manager.listeners hook = manager.hookOrder hook :=
    (List.filterMap_reverse ..).symm
  rw [dispatch, listeners]
  exact exists_run_tellPlugins hook arguments (manager.hookOrder hook) surroundings

end Manager

/-! ## Offers and hooks -/

/-- Two plugins that offer the same, whatever they do when they are told something. -/
structure Instance.OffersSame (first second : Instance) : Prop where
  isClass : second.isClass = first.isClass
  backends : second.plugin.backends = first.plugin.backends
  frameworks : second.plugin.frameworks = first.plugin.frameworks
  functions : second.plugin.functions = first.plugin.functions

/-- Two managers whose plugins have the same names and offer the same, in the same order. -/
def Manager.OffersSame (first second : Manager) : Prop :=
  List.Forall₂
    (fun left right => right.1 = left.1 ∧ left.2.OffersSame right.2)
    first.plugins.entries second.plugins.entries

/-- Merging depends on the names of plugins and on what they offer. -/
theorem collect_congr
    {α : Type}
    {offer : PluginClass → Option (Offer α)}
    {first second : List (String × Instance)}
    (same :
      List.Forall₂
        (fun left right =>
          right.1 = left.1 ∧ right.2.isClass = left.2.isClass ∧
            offer right.2.plugin = offer left.2.plugin)
        first second)
    (hookName : String)
    (merged : Table String α) :
    Manager.collect hookName offer merged second =
      Manager.collect hookName offer merged first := by
  induction same generalizing merged with
  | nil =>
      rfl
  | @cons left right rest others head _ inductionHypothesis =>
      rcases left with ⟨name, plugin⟩
      rcases right with ⟨_, other⟩
      obtain ⟨rfl, sameClass, sameOffer⟩ := head
      dsimp only at sameClass sameOffer
      simp only [Manager.collect, inductionHypothesis, sameClass, sameOffer]

namespace Manager.OffersSame

variable
  {first second : Manager}

theorem functions
    (same : first.OffersSame second) :
    second.functions = first.functions :=
  collect_congr
    (same.imp fun _ _ ⟨name, offers⟩ => ⟨name, offers.isClass, offers.functions⟩) _ _

theorem backends
    (same : first.OffersSame second) :
    second.backends = first.backends :=
  collect_congr
    (same.imp fun _ _ ⟨name, offers⟩ => ⟨name, offers.isClass, offers.backends⟩) _ _

theorem frameworks
    (same : first.OffersSame second) :
    second.frameworks = first.frameworks := by
  rw [Manager.frameworks, Manager.frameworks]
  refine congrArg (· >>= fun merged => pure (smallNames merged)) ?_
  exact
    collect_congr
      (same.imp fun _ _ ⟨name, offers⟩ => ⟨name, offers.isClass, offers.frameworks⟩) _ _

end Manager.OffersSame

end PageScript.Plugin
