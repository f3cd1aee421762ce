import Mathlib.Data.List.FinRange
import PageScript.Proofs.Run.Including
import PageScript.Proofs.Table

namespace PageScript.Run

open Script

/-!
# Frameworks load once

Builds that take turns share one cache of frameworks.  A framework is loaded by the
first of them that includes it with a loader that succeeds, under any spelling of its
name, and by no other: later includes find it in the cache, and a loader that fails
leaves the cache to the next one.  Between them the builds report every framework once.
-/

/-! ## Builds that take turns -/

/-- Builds that share their surroundings and the frameworks loaded so far. -/
structure Site (count : Nat) where
  contexts : Fin count → Context
  records : Fin count → BuildRecord
  surroundings : World.Surroundings
  cache : FrameworkCache

/-- A command and the build that executes it. -/
abbrev Turn (count : Nat) := Fin count × PlacedCommand

/-- A framework and the build that loads it. -/
abbrev Load (count : Nat) := Fin count × LoadedFramework

namespace Load

variable {count : Nat}

/-- The name under which the framework is remembered. -/
def key (load : Load count) : String :=
  frameworkKey load.2.name

/-- What the build reports. -/
def report (load : Load count) : String × String :=
  (load.2.name, load.2.version)

end Load

namespace Site

variable {count : Nat}

/-- Builds that have done nothing, with an empty cache. -/
def opened (contexts : Fin count → Context) (surroundings : World.Surroundings) :
    Site count :=
  ⟨contexts, fun _ => {}, surroundings, {}⟩

/-- An include, and the build that executes it. -/
def including (worker : Fin count) (name version : String) (line : Int) : Turn count :=
  (worker, ⟨.includeFramework name version, line⟩)

/-- What a build sees. -/
def scene (site : Site count) (worker : Fin count) : Scene :=
  ⟨site.contexts worker, site.surroundings, site.cache, site.records worker⟩

/-- The builds after one of them has reached a scene. -/
def left (site : Site count) (worker : Fin count) (reached : Scene) : Site count where
  contexts other := if other = worker then reached.context else site.contexts other
  records other := if other = worker then reached.record else site.records other
  surroundings := reached.surroundings
  cache := reached.cache

/-- What a build sees when it has announced an include. -/
def announced
    (site : Site count)
    (worker : Fin count)
    (name version : String)
    (line : Int) :
    Scene :=
  (site.scene worker).logged (announcement (including worker name version line).2)

/-- What becomes of a loader that is called for an include. -/
def call
    (site : Site count)
    (worker : Fin count)
    (name version : String)
    (line : Int)
    (load : String → Action Value) :
    Except Fault Value × Scene :=
  outcome (load version) (site.announced worker name version line)

variable (builders : Fin count → Builder)

/-- A build executes a command: how it ends, and the builds afterwards. -/
def turn (site : Site count) (turn : Turn count) : Except Fault Unit × Site count :=
  let ended := outcome ((builders turn.1).execute turn.2) (site.scene turn.1)
  (ended.1, site.left turn.1 ended.2)

/-- Builds execute commands one after the other, however each of them ends. -/
def after (site : Site count) (turns : List (Turn count)) : Site count :=
  turns.foldl (fun site turn => (site.turn builders turn).2) site

/-- The framework that is loaded by a command. -/
def load? (site : Site count) (turn : Turn count) : Option (Load count) :=
  ((builders turn.1).loaded? turn.2 (site.scene turn.1)).map (turn.1, ·)

/-- The frameworks that are loaded by commands, in order. -/
def loads (site : Site count) : List (Turn count) → List (Load count)
  | [] => []
  | turn :: rest =>
      (site.load? builders turn).toList ++
        (site.turn builders turn).2.loads rest

end Site

/-! ## What the cache and the reports hold -/

section Runs

variable
  {count : Nat}
  (builders : Fin count → Builder)

namespace Site

theorem after_append
    (site : Site count)
    (first second : List (Turn count)) :
    site.after builders (first ++ second) =
      (site.after builders first).after builders second :=
  List.foldl_append

/-- What has been loaded is remembered in order, and reported by the build that loaded it. -/
structure Tracks (site : Site count) (loads : List (Load count)) : Prop where
  nodup : (loads.map Load.key).Nodup
  entries :
    site.cache.loaded.entries = loads.map fun load => (load.key, load.2)
  reports :
    ∀ worker,
      (site.records worker).frameworks =
        (loads.filter fun load => load.1 = worker).map Load.report

theorem tracks_opened
    (contexts : Fin count → Context)
    (surroundings : World.Surroundings) :
    (opened contexts surroundings).Tracks [] :=
  ⟨List.nodup_nil, rfl, fun _ => rfl⟩

section Tracks

variable
  {site : Site count}
  {loads : List (Load count)}

theorem Tracks.keys
    (tracks : site.Tracks loads) :
    site.cache.loaded.keys = loads.map Load.key := by
  rw [Table.keys, tracks.entries, List.map_map]
  rfl

/-- A framework is found in the cache as it was loaded. -/
theorem Tracks.get?
    (tracks : site.Tracks loads)
    (name : String) :
    site.cache.get? name =
      (loads.find? fun load => load.key == frameworkKey name).map (·.2) := by
  rw [FrameworkCache.get?, Table.get?, tracks.entries, List.find?_map, Option.map_map]
  rfl

/-- A turn without a load keeps what has been loaded. -/
theorem Tracks.left_of_same
    {worker : Fin count}
    {reached : Scene}
    (tracks : site.Tracks loads)
    (same : reached.frameworks = (site.scene worker).frameworks) :
    (site.left worker reached).Tracks loads := by
  obtain ⟨sameCache, sameReport⟩ := Prod.mk.inj same
  refine ⟨tracks.nodup, ?_, fun other => ?_⟩
  · exact (congrArg (·.loaded.entries) sameCache).trans tracks.entries
  · rw [← tracks.reports other, left]
    dsimp only
    split
    · next here =>
        rw [here]
        exact sameReport
    · rfl

/-- A framework that was not remembered is added to what has been loaded. -/
theorem Tracks.left_of_load
    {worker : Fin count}
    {reached : Scene}
    {framework : LoadedFramework}
    (tracks : site.Tracks loads)
    (absent : site.cache.get? framework.name = none)
    (added :
      reached.frameworks = (site.scene worker).frameworksWith (some framework)) :
    (site.left worker reached).Tracks (loads ++ [(worker, framework)]) := by
  obtain ⟨newCache, newReport⟩ := Prod.mk.inj added
  have fresh : frameworkKey framework.name ∉ loads.map Load.key := by
    rw [tracks.get?, Option.map_eq_none_iff, List.find?_eq_none] at absent
    rintro listed
    obtain ⟨load, member, same⟩ := List.mem_map.mp listed
    exact absent load member (beq_iff_eq.mpr same)
  refine ⟨?_, ?_, fun other => ?_⟩
  · rw [List.map_append, List.map_singleton, ← List.concat_eq_append]
    exact tracks.nodup.concat fresh
  · have unbound : frameworkKey framework.name ∉ site.cache.loaded.keys := by
      rwa [tracks.keys]
    rw [List.map_append, ← tracks.entries]
    refine (congrArg (·.loaded.entries) newCache).trans ?_
    exact congrArg Table.entries (Table.insert_of_not_mem unbound framework)
  · rw [List.filter_append, List.map_append, ← tracks.reports other, left]
    dsimp only
    split
    · next here =>
        rw [here, newReport]
        simp [scene, Load.report]
    · next elsewhere =>
        simp [Ne.symm elsewhere]

variable (tracks : site.Tracks loads)
include tracks

/-- A command adds what it loads. -/
theorem Tracks.turn
    (turn : Turn count) :
    (site.turn builders turn).2.Tracks
      (loads ++ (site.load? builders turn).toList) := by
  have step :=
    (builders turn.1).frameworks_execute turn.2 (site.scene turn.1)
  rw [load?]
  cases loaded : (builders turn.1).loaded? turn.2 (site.scene turn.1) with
  | none =>
      rw [loaded] at step
      rw [Option.map_none, Option.toList_none, List.append_nil]
      exact tracks.left_of_same step
  | some framework =>
      rw [loaded] at step
      obtain ⟨-, -, absent, -⟩ := Builder.exists_of_loaded? loaded
      exact tracks.left_of_load absent step

/-- Commands add what they load, in order. -/
theorem Tracks.after
    (turns : List (Turn count)) :
    (site.after builders turns).Tracks (loads ++ site.loads builders turns) := by
  -- The first command adds to the loads before it, so these vary along the run.
  induction turns generalizing site loads with
  | nil =>
      rw [Site.loads, List.append_nil]
      exact tracks
  | cons turn rest inductionHypothesis =>
      rw [Site.loads, ← List.append_assoc]
      exact inductionHypothesis (tracks.turn builders turn)

end Tracks

/-- What has been loaded was loaded by one of the commands. -/
theorem exists_turn_of_mem_loads
    {site : Site count}
    {turns : List (Turn count)}
    {load : Load count}
    (member : load ∈ site.loads builders turns) :
    ∃ before turn after,
      turns = before ++ turn :: after ∧
        (site.after builders before).load? builders turn = some load := by
  induction turns generalizing site with
  | nil =>
      cases member
  | cons turn rest inductionHypothesis =>
      rcases List.mem_append.mp member with here | later
      · exact ⟨[], turn, rest, rfl, Option.mem_toList.mp here⟩
      · obtain ⟨before, other, after, rfl, loaded⟩ := inductionHypothesis later
        exact ⟨turn :: before, other, after, rfl, loaded⟩

/-! ## Includes that succeed -/

/-- A build includes a framework that it knows, and the command ends without a fault. -/
def Succeeds (site : Site count) (turn : Turn count) (key : String) : Prop :=
  ∃ name version,
    turn.2.command = .includeFramework name version ∧
      frameworkKey name = key ∧
      ((builders turn.1).load? key).isSome ∧
      (site.turn builders turn).1 = .ok ()

/-- None of the commands includes a framework with success. -/
def NoneSucceeds (site : Site count) (turns : List (Turn count)) (key : String) : Prop :=
  ∀ before turn after,
    turns = before ++ turn :: after →
      ¬(site.after builders before).Succeeds builders turn key

/-- The command that loads a framework succeeds. -/
theorem succeeds_of_load?
    {site : Site count}
    {turn : Turn count}
    {load : Load count}
    (loaded : site.load? builders turn = some load) :
    site.Succeeds builders turn load.key := by
  obtain ⟨framework, found, rfl⟩ := Option.map_eq_some_iff.mp loaded
  obtain ⟨command, done, -, known⟩ := Builder.exists_of_loaded? found
  exact ⟨framework.name, framework.version, command, rfl, known, done⟩

/-- A framework that no command includes with success is not remembered. -/
theorem NoneSucceeds.get?_eq_none
    {contexts : Fin count → Context}
    {surroundings : World.Surroundings}
    {turns : List (Turn count)}
    {name : String}
    (untaken :
      (opened contexts surroundings).NoneSucceeds builders turns
        (frameworkKey name)) :
    ((opened contexts surroundings).after builders turns).cache.get? name = none := by
  have tracks := (tracks_opened contexts surroundings).after builders turns
  rw [tracks.get?, Option.map_eq_none_iff, List.find?_eq_none]
  -- A load of the framework would have been the success of the command that loaded it.
  intro load member same
  obtain ⟨before, turn, after, divided, loaded⟩ :=
    exists_turn_of_mem_loads builders member
  have succeeds := succeeds_of_load? builders loaded
  rw [beq_iff_eq.mp same] at succeeds
  exact untaken before turn after divided succeeds

/-- What is remembered stays as it is, whatever is executed. -/
theorem Tracks.get?_after
    {site : Site count}
    {loads : List (Load count)}
    {name : String}
    {framework : LoadedFramework}
    (tracks : site.Tracks loads)
    (remembered : site.cache.get? name = some framework)
    (turns : List (Turn count)) :
    (site.after builders turns).cache.get? name = some framework := by
  rw [tracks.get?] at remembered
  rw [(tracks.after builders turns).get?, List.find?_append]
  obtain ⟨load, found, same⟩ := Option.map_eq_some_iff.mp remembered
  rw [found, ← same]
  rfl

/-- A loader that succeeds loads what is not remembered. -/
theorem load?_of_call
    {site : Site count}
    {worker : Fin count}
    {line : Int}
    {name version : String}
    {load : String → Action Value}
    {handle : Value}
    (known : (builders worker).load? (frameworkKey name) = some load)
    (absent : site.cache.get? name = none)
    (answered : (site.call worker name version line load).1 = .ok handle) :
    site.load? builders (including worker name version line) =
      some (worker, ⟨name, version, handle⟩) := by
  have unseen : (site.announced worker name version line).cache.get? name = none :=
    absent
  have loaded :
      loadedBy? (builders worker).load? name version
          (site.announced worker name version line) =
        some ⟨name, version, handle⟩ := by
    rw [loadedBy?, known, unseen]
    dsimp only
    rw [← call, answered]
  exact congrArg (Option.map (worker, ·)) loaded

/-- An include that succeeds calls a loader for a framework that is not remembered. -/
theorem exists_call_of_succeeds
    {site : Site count}
    {worker : Fin count}
    {line : Int}
    {name version : String}
    (absent : site.cache.get? name = none)
    (succeeds :
      site.Succeeds builders (including worker name version line)
        (frameworkKey name)) :
    ∃ load handle,
      (builders worker).load? (frameworkKey name) = some load ∧
        (site.call worker name version line load).1 = .ok handle := by
  obtain ⟨-, -, -, -, known, done⟩ := succeeds
  have included :=
    included_executeIncludeFrom (builders worker).load? name version
      (site.announced worker name version line)
  obtain ⟨framework, loaded⟩ := included.exists_loaded known absent done
  rw [loaded] at included
  obtain ⟨-, -, load, handle, found, answered, -⟩ := included.loaded
  exact ⟨load, handle, found, answered⟩

/-- A framework that is loaded is remembered. -/
theorem Tracks.get?_of_load
    {site : Site count}
    {loads : List (Load count)}
    {turn : Turn count}
    {load : Load count}
    (tracks : site.Tracks loads)
    (loaded : site.load? builders turn = some load) :
    (site.turn builders turn).2.cache.get? load.2.name = some load.2 := by
  obtain ⟨framework, found, rfl⟩ := Option.map_eq_some_iff.mp loaded
  obtain ⟨-, -, absent, -⟩ := Builder.exists_of_loaded? found
  have new : site.cache.get? framework.name = none := absent
  rw [tracks.get?, Option.map_eq_none_iff] at new
  rw [(tracks.turn builders turn).get?, loaded, List.find?_append, new]
  simp [Load.key]

/-- The first include that succeeds decides what is remembered. -/
theorem exists_remembered_of_first
    {contexts : Fin count → Context}
    {surroundings : World.Surroundings}
    {before : List (Turn count)}
    {worker : Fin count}
    {line : Int}
    {name version : String}
    (untaken :
      (opened contexts surroundings).NoneSucceeds builders before
        (frameworkKey name))
    (succeeds :
      ((opened contexts surroundings).after builders before).Succeeds builders
        (including worker name version line)
        (frameworkKey name))
    (after : List (Turn count)) :
    ∃ load handle,
      (builders worker).load? (frameworkKey name) = some load ∧
        (((opened contexts surroundings).after builders before).call worker name
              version line load).1 =
          .ok handle ∧
        ((opened contexts surroundings).after builders
                (before ++ including worker name version line :: after)).cache.get?
            name =
          some ⟨name, version, handle⟩ := by
  have tracks := (tracks_opened contexts surroundings).after builders before
  have absent := untaken.get?_eq_none builders
  obtain ⟨load, handle, known, answered⟩ :=
    exists_call_of_succeeds builders absent succeeds
  have loaded := load?_of_call builders known absent answered
  refine ⟨load, handle, known, answered, ?_⟩
  rw [after_append]
  exact
    (tracks.turn builders _).get?_after builders
      (tracks.get?_of_load builders loaded) after

end Site

/-! ## One more include -/

namespace Site

/-- What one more include comes to, whoever executes it. -/
structure IncludesOnce
    (site : Site count)
    (worker : Fin count)
    (name version : String)
    (line : Int) :
    Prop where
  /-- A framework that the build does not know leaves the cache unchanged. -/
  unknown :
    (builders worker).load? (frameworkKey name) = none →
      (site.turn builders (including worker name version line)).2.cache =
        site.cache
  /--
  A framework that is remembered is left alone.  Its loader is not called: with any
  other one everything would be the same.
  -/
  remembered :
    ∀ framework,
      site.cache.get? name = some framework →
        ((builders worker).load? (frameworkKey name)).isSome →
          (site.turn builders (including worker name version line)).1 = .ok () ∧
            (site.turn builders (including worker name version line)).2.cache =
              site.cache ∧
            ∀ others : Fin count → Builder,
              ((others worker).load? (frameworkKey name)).isSome →
                site.turn others (including worker name version line) =
                  site.turn builders (including worker name version line)
  /--
  The loader of any other framework is called once.  If it fails, the command stops with
  its fault, and the cache is unchanged.
  -/
  failed :
    ∀ load fault reached,
      (builders worker).load? (frameworkKey name) = some load →
        site.cache.get? name = none →
          site.call worker name version line load = (.error fault, reached) →
            site.turn builders (including worker name version line) =
                (.error fault, site.left worker reached) ∧
              reached.cache = site.cache
  /-- If it succeeds, what it gives is remembered and reported. -/
  loaded :
    ∀ load handle reached,
      (builders worker).load? (frameworkKey name) = some load →
        site.cache.get? name = none →
          site.call worker name version line load = (.ok handle, reached) →
            site.turn builders (including worker name version line) =
                (.ok (),
                  site.left worker
                    (reached.withFramework ⟨name, version, handle⟩)) ∧
              (reached.withFramework ⟨name, version, handle⟩).cache.get? name =
                some ⟨name, version, handle⟩

/-- An include is executed with the loaders of the build once it is announced. -/
theorem turn_including
    (site : Site count)
    (worker : Fin count)
    (name version : String)
    (line : Int) :
    site.turn builders (including worker name version line) =
      let ended :=
        outcome (executeIncludeFrom (builders worker).load? name version)
          (site.announced worker name version line)
      (ended.1, site.left worker ended.2) :=
  rfl

/-- This is what an include comes to wherever the cache holds what has been loaded. -/
theorem includesOnce
    {site : Site count}
    {loads : List (Load count)}
    (tracks : site.Tracks loads)
    (worker : Fin count)
    (name version : String)
    (line : Int) :
    site.IncludesOnce builders worker name version line := by
  refine
    { unknown := fun unknown => ?_
      remembered := fun framework remembered known => ?_
      failed := fun load fault reached known absent ended => ?_
      loaded := fun load handle reached known absent ended => ?_ }
  · rw [turn_including, outcome_executeIncludeFrom_of_unknown unknown]
    rfl
  · obtain ⟨load, found⟩ := Option.isSome_iff_exists.mp known
    have left :
        outcome (executeIncludeFrom (builders worker).load? name version)
            (site.announced worker name version line) =
          (.ok (),
            ((site.announced worker name version line).logged
                (ignoredEvent name version framework.version)).logged
              (includeEvent name version framework.version false)) :=
      outcome_executeIncludeFrom_of_remembered found remembered
    refine ⟨?_, ?_, fun others alsoKnown => ?_⟩
    · rw [turn_including, left]
    · rw [turn_including, left]
      rfl
    · obtain ⟨other, otherFound⟩ := Option.isSome_iff_exists.mp alsoKnown
      rw [turn_including, turn_including, left,
        outcome_executeIncludeFrom_of_remembered otherFound remembered]
  · have kept :=
      Builder.keeps_of_load? known version
        (site.announced worker name version line)
    rw [← call, ended] at kept
    rw [turn_including, outcome_executeIncludeFrom_of_fault known absent ended]
    exact ⟨rfl, (Prod.mk.inj kept).1⟩
  · have turned :
        site.turn builders (including worker name version line) =
          (.ok (),
            site.left worker (reached.withFramework ⟨name, version, handle⟩)) := by
      rw [turn_including, outcome_executeIncludeFrom_of_load known absent ended]
    have remembered :=
      tracks.get?_of_load builders
        (load?_of_call builders known absent (congrArg Prod.fst ended))
    rw [turned] at remembered
    exact ⟨turned, remembered⟩

end Site

/-! ## What the builds report together -/

/-- What one of several gives is all that they give together. -/
theorem flatMap_ite_eq
    {α : Type}
    (worker : Fin count)
    (item : α) :
    ((List.finRange count).flatMap fun other =>
        if worker = other then [item] else []) =
      [item] := by
  obtain ⟨front, back, divided⟩ := List.append_of_mem (List.mem_finRange worker)
  have nodup := List.nodup_finRange count
  rw [divided] at nodup
  obtain ⟨-, backNodup, apart⟩ := List.nodup_append.mp nodup
  have frontNone :
      (front.flatMap fun other => if worker = other then [item] else []) = [] :=
    List.flatMap_eq_nil_iff.mpr fun other member =>
      if_neg (apart other member worker List.mem_cons_self).symm
  have backNone :
      (back.flatMap fun other => if worker = other then [item] else []) = [] := by
    refine List.flatMap_eq_nil_iff.mpr fun other member => if_neg ?_
    rintro rfl
    exact (List.nodup_cons.mp backNodup).1 member
  rw [divided, List.flatMap_append, List.flatMap_cons, frontNone, backNone,
    if_pos rfl]
  rfl

/-- Where no key is repeated, one item at most has a key. -/
theorem filter_eq_toList_find?
    {α : Type}
    {key : α → String}
    {items : List α}
    (nodup : (items.map key).Nodup)
    (wanted : String) :
    (items.filter fun item => key item == wanted) =
      (items.find? fun item => key item == wanted).toList := by
  induction items with
  | nil =>
      rfl
  | cons item rest inductionHypothesis =>
      obtain ⟨fresh, restNodup⟩ := List.nodup_cons.mp nodup
      by_cases here : key item = wanted
      · have others :
            (rest.filter fun item => key item == wanted) = [] := by
          refine List.filter_eq_nil_iff.mpr fun other member same => fresh ?_
          rw [here, ← beq_iff_eq.mp same]
          exact List.mem_map_of_mem member
        simp [here, others]
      · rw [List.filter_cons_of_neg (by simpa using here),
          List.find?_cons_of_neg (by simpa using here),
          inductionHypothesis restNodup]

/-- Among all reports, a framework is listed once with its version, if it is remembered. -/
theorem Site.Tracks.filter_reports
    {site : Site count}
    {loads : List (Load count)}
    (tracks : site.Tracks loads)
    (name : String) :
    (((List.finRange count).flatMap fun worker =>
          (site.records worker).frameworks).filter
        fun reported => frameworkKey reported.1 == frameworkKey name) =
      ((site.cache.get? name).map fun framework =>
        (framework.name, framework.version)).toList := by
  have dealt :
      ∀ worker,
        ((site.records worker).frameworks.filter
            fun reported => frameworkKey reported.1 == frameworkKey name) =
          ((loads.find? fun load => load.key == frameworkKey name).toList.filter
              fun load => load.1 = worker).map
            Load.report := by
    intro worker
    rw [tracks.reports, List.filter_map, ← filter_eq_toList_find? tracks.nodup,
      List.filter_filter, List.filter_filter]
    simp only [Bool.and_comm]
    rfl
  -- One load at most has the name, so one build at most reports it.
  rw [List.filter_flatMap, tracks.get?, Option.map_map]
  simp only [dealt]
  cases found : loads.find? fun load => load.key == frameworkKey name with
  | none =>
      simp
  | some load =>
      have one :
          ∀ worker,
            (([load].filter fun load => load.1 = worker).map Load.report) =
              if load.1 = worker then [load.report] else [] := by
        intro worker
        by_cases here : load.1 = worker <;> simp [here]
      simp only [Option.toList_some, one]
      exact flatMap_ite_eq load.1 load.report

end Runs

/--
However many builds share a cache and whatever commands they execute in turn, of the
loader calls for one name, in whatever letters, one at most succeeds.  The cache holds the
name, the version and the handle of the first include of a name that succeeds, and nothing
for a name that is not included with success; what it holds never changes.  An unknown
framework or a loader that fails leaves the cache unchanged, so a later include may still
load, and no loader is called for what the cache holds.  Among the reports of all builds a
framework is listed once, with the version that the cache holds, or not at all if the
cache does not hold it.
-/
theorem frameworks_load_once
    {count : Nat}
    (builders : Fin count → Builder)
    (contexts : Fin count → Context)
    (surroundings : World.Surroundings)
    (turns : List (Turn count)) :
    let start := Site.opened contexts surroundings
    let final := start.after builders turns
    ((start.loads builders turns).map Load.key).Nodup ∧
      (∀ before worker name version line after,
        turns = before ++ Site.including worker name version line :: after →
          start.NoneSucceeds builders before (frameworkKey name) →
            (start.after builders before).Succeeds builders
                (Site.including worker name version line) (frameworkKey name) →
              ∃ load handle,
                (builders worker).load? (frameworkKey name) = some load ∧
                  ((start.after builders before).call worker name version line
                        load).1 =
                    .ok handle ∧
                  ∀ spelling,
                    frameworkKey spelling = frameworkKey name →
                      final.cache.get? spelling = some ⟨name, version, handle⟩) ∧
      (∀ name,
        start.NoneSucceeds builders turns (frameworkKey name) →
          final.cache.get? name = none) ∧
      (∀ name framework more,
        final.cache.get? name = some framework →
          (final.after builders more).cache.get? name = some framework) ∧
      (∀ worker name version line,
        final.IncludesOnce builders worker name version line) ∧
      ∀ name,
        (((List.finRange count).flatMap fun worker =>
              (final.records worker).frameworks).filter
            fun reported => frameworkKey reported.1 == frameworkKey name) =
          ((final.cache.get? name).map fun framework =>
            (framework.name, framework.version)).toList := by
  intro start final
  have tracks : final.Tracks (start.loads builders turns) :=
    (Site.tracks_opened contexts surroundings).after builders turns
  refine ⟨tracks.nodup, ?_, ?_, ?_, Site.includesOnce builders tracks, tracks.filter_reports⟩
  · rintro before worker name version line after divided untaken succeeds
    obtain ⟨load, handle, known, answered, remembered⟩ :=
      Site.exists_remembered_of_first builders untaken succeeds after
    rw [← divided] at remembered
    refine ⟨load, handle, known, answered, fun spelling same => ?_⟩
    rw [FrameworkCache.get?, same]
    exact remembered
  · exact fun name untaken => untaken.get?_eq_none builders
  · exact fun name framework more remembered =>
      tracks.get?_after builders remembered more

/-- Two builds, one of them with a loader that fails, spell a framework in two ways. -/
def twoBuilders : Fin 2 → Builder
  | 0 =>
      ⟨⟨"/", []⟩, ⟨[]⟩,
        ⟨[("React", FrameworkLoader.loader (.described "A" "React" .fail))]⟩⟩
  | 1 =>
      ⟨⟨"/", []⟩, ⟨[]⟩,
        ⟨[("react", FrameworkLoader.loader (.described "B" "react" .succeed))]⟩⟩

/-- Three includes: one that fails, one that loads and one that finds what is loaded. -/
def threeIncludes : List (Turn 2) :=
  [Site.including 0 "React" "1" 1, Site.including 1 "REACT" "2" 2,
    Site.including 0 "react" "3" 3]

/-- Two blank pages that are built with an empty cache. -/
def twoPages : Site 2 :=
  Site.opened (fun _ => bareScene.context) bareScene.surroundings

/-- The second include is the first that succeeds, so what it loads is what the third finds. -/
theorem frameworks_load_once_of_two_builders :
    twoPages.NoneSucceeds twoBuilders [Site.including 0 "React" "1" 1]
        (frameworkKey "REACT") ∧
      (twoPages.after twoBuilders [Site.including 0 "React" "1" 1]).Succeeds
        twoBuilders (Site.including 1 "REACT" "2" 2) (frameworkKey "REACT") ∧
      frameworkKey "react" = frameworkKey "REACT" ∧
      (twoPages.after twoBuilders threeIncludes).cache.get? "react" =
        some ⟨"REACT", "2", .text "react@2"⟩ := by
  have small : frameworkKey "react" = frameworkKey "REACT" := by
    decide +kernel
  have failing :
      (twoBuilders 0).load? (frameworkKey "React") =
        some (FrameworkLoader.loader (.described "A" "React" .fail)).load :=
    Builder.load?_of_single rfl
  have working :
      (twoBuilders 1).load? (frameworkKey "REACT") =
        some (FrameworkLoader.loader (.described "B" "react" .succeed)).load :=
    Builder.load?_of_single small
  have stopped :=
    (Site.includesOnce twoBuilders (Site.tracks_opened _ _ : twoPages.Tracks [])
        0 "React" "1" 1).failed
      _ _ _ failing rfl rfl
  have untaken :
      twoPages.NoneSucceeds twoBuilders [Site.including 0 "React" "1" 1]
        (frameworkKey "REACT") := by
    rintro before turn after divided ⟨name, version, -, -, -, done⟩
    rcases before with _ | ⟨first, rest⟩
    · cases divided
      cases (congrArg Prod.fst stopped.1).symm.trans done
    · cases rest <;> cases divided
  have succeeds :
      (twoPages.after twoBuilders [Site.including 0 "React" "1" 1]).Succeeds
        twoBuilders (Site.including 1 "REACT" "2" 2) (frameworkKey "REACT") := by
    refine ⟨"REACT", "2", rfl, rfl, Option.isSome_of_eq_some working, ?_⟩
    have loaded :=
      (Site.includesOnce twoBuilders
          ((Site.tracks_opened _ _ : twoPages.Tracks []).after twoBuilders _)
          1 "REACT" "2" 2).loaded
        _ _ _ working (untaken.get?_eq_none twoBuilders) rfl
    exact congrArg Prod.fst loaded.1
  refine ⟨untaken, succeeds, small, ?_⟩
  obtain ⟨load, handle, known, answered, remembered⟩ :=
    (frameworks_load_once twoBuilders (fun _ => bareScene.context)
        bareScene.surroundings threeIncludes).2.1
      [Site.including 0 "React" "1" 1] 1 "REACT" "2" 2
      [Site.including 0 "react" "3" 3] rfl untaken succeeds
  obtain rfl := Option.some.inj (working.symm.trans known)
  cases answered
  exact remembered "react" small

end PageScript.Run
