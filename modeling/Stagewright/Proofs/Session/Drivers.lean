import Mathlib.Data.List.Chain
import Stagewright.Proofs.Session.Acquisition
import Stagewright.Session.StandIn

/-!
The drivers that a session knows by name. A driver is imported when there is none of its name, and
what a name stands for, once it stands for something, only a registration can change.
-/

namespace Stagewright.Session

open Work

variable {σ : Type}

/-- A way to import the driver of a name. The world may be another one afterwards. -/
abbrev Importer (σ : Type) := String → σ → Except Fault Driver × σ

/-- What loading a driver comes to for stages that name none. -/
def standardDriver (standard : Option Driver) : Except Fault Driver :=
  standard.elim (.error (.noDriver "" "stage relies on a pre-registered driver")) .ok

/-- The search for a driver, with any way to import one. -/
def findBy (standard : Option Driver) (importing : Importer σ) : Loader σ := fun name =>
  ExceptT.mk fun (drivers, state) =>
    if name = "" then (standardDriver standard, drivers, state)
    else
      match drivers.get? name with
      | some driver => (.ok driver, drivers, state)
      | none =>
        match importing name state with
        | (.error fault, state) => (.error fault, drivers, state)
        | (.ok driver, state) => (.ok driver, drivers.put name driver, state)

theorem findBy_on (standard : Option Driver) (importing : Importer σ) (name : String)
    (drivers : Dict String Driver) (state : σ) :
    Search.on (findBy standard importing name) drivers state =
      if name = "" then (standardDriver standard, drivers, state)
      else
        match drivers.get? name with
        | some driver => (.ok driver, drivers, state)
        | none =>
          match importing name state with
          | (.error fault, state) => (.error fault, drivers, state)
          | (.ok driver, state) => (.ok driver, drivers.put name driver, state) := rfl

/-- Drivers are imported from the modules that there are. -/
def World.importing (world : World σ) : Importer σ := fun name state =>
  (importDriver world.modules name, state)

theorem findDriver_eq_findBy (world : World σ) :
    findDriver world = findBy world.standard world.importing := by
  funext name (drivers, state)
  by_cases unnamed : name = ""
  · subst unnamed
    simp only [findDriver, findBy, standardDriver]
    cases world.standard <;> rfl
  · have named : name.isEmpty = false := by simpa using unnamed
    have seen (next : Dict String Driver × σ → Search σ Driver) :
        (get >>= next) (drivers, state) = next (drivers, state) (drivers, state) := rfl
    simp only [findDriver, findBy, World.importing, named, unnamed, if_false, Bool.false_eq_true,
      seen, ExceptT.mk]
    cases drivers.get? name with
    | some driver => rfl
    | none => cases importDriver world.modules name <;> rfl

/-- The importer in a world that is watched: the calls for a driver are those that import it. -/
def Importer.watched (importing : Importer σ) : Importer (σ × List Call) := fun name =>
  watch (.load name) (importing name)

/-- A driver that has been asked for by its name, and the answer. -/
abbrev Loading := String × Except Fault Driver

def Call.loading? : Call → Option Loading
  | .load name answer => some (name, answer)
  | .connect .. | .perform .. | .execute .. => none

/-- What is done with the drivers of a session, directly or by the pool. Whatever else is done
leaves them alone. -/
inductive Errand (σ : Type) where
  | register (name : String) (driver : Driver)
  | load (name : String)
  | acquire (driverClass : String) (login : Login) (name : String)
  | other (change : Session σ → Session σ) (kept : ∀ s, (change s).drivers = s.drivers)

/-- An errand between two sessions, with the drivers that were loaded and imported for it. -/
structure Turn (σ : Type) where
  errand : Errand σ
  before : Session σ
  loads : List Loading
  imports : List Loading
  after : Session σ

namespace Errand

def after (load : Loader σ) (world : World σ) (s : Session σ) : Errand σ → Session σ
  | .register name driver => (on (registerDriver name driver) s).2
  | .load name => (on (search (load name)) s).2
  | .acquire driverClass login name => (on (Session.acquire load world driverClass login name) s).2
  | .other change _ => change s

/-- The loads of an errand: a direct one, or what is heard of the loader that the pool is given. -/
def loads (load : Loader σ) (world : World σ) (s : Session σ) : Errand σ → List Loading
  | .load name => [(name, (on (search (load name)) s).1)]
  | .acquire driverClass login name =>
    (callsOf (Session.acquire load.watched world.watched driverClass login name) s).filterMap
      Call.loading?
  | .register .. | .other .. => []

/-- What is heard of the importer in an errand. -/
def imports (load : Loader (σ × List Call)) (world : World σ) (s : Session σ) :
    Errand σ → List Loading
  | .load name => (callsOf (search (load name)) s).filterMap Call.loading?
  | .acquire driverClass login name =>
    (callsOf (Session.acquire load world.watched driverClass login name) s).filterMap Call.loading?
  | .register .. | .other .. => []

def turn (importing : Importer σ) (world : World σ) (errand : Errand σ) (s : Session σ) :
    Turn σ where
  errand := errand
  before := s
  loads := errand.loads (findBy world.standard importing) world s
  imports := errand.imports (findBy world.standard importing.watched) world s
  after := errand.after (findBy world.standard importing) world s

end Errand

/-- One errand after the other. -/
def turns (importing : Importer σ) (world : World σ) : List (Errand σ) → Session σ → List (Turn σ)
  | [], _ => []
  | errand :: rest, s =>
    let turn := errand.turn importing world s
    turn :: turns importing world rest turn.after

section Load

/-- What loading the driver of a name comes to, with what is imported for it. -/
inductive Found (standard : Option Driver) (drivers : Dict String Driver) (name : String) :
    Except Fault Driver → Dict String Driver → List Loading → Prop
  | standard : name = "" → Found standard drivers name (standardDriver standard) drivers []
  | known {driver} : name ≠ "" → drivers.get? name = some driver →
      Found standard drivers name (.ok driver) drivers []
  | missing {fault} : name ≠ "" → drivers.get? name = none →
      Found standard drivers name (.error fault) drivers [(name, .error fault)]
  | imported {driver} : name ≠ "" → drivers.get? name = none →
      Found standard drivers name (.ok driver) (drivers.put name driver) [(name, .ok driver)]

theorem findBy_found (standard : Option Driver) (importing : Importer σ) (name : String)
    (drivers : Dict String Driver) (w : σ) :
    ∃ answer after w' calls,
      Found standard drivers name answer after (calls.filterMap Call.loading?) ∧
      Search.on (findBy standard importing name) drivers w = (answer, after, w') ∧
      Search.on (findBy standard importing.watched name) drivers (w, []) =
        (answer, after, w', calls) := by
  rw [findBy_on, findBy_on]
  by_cases named : name = ""
  · simp only [if_pos named]
    exact ⟨_, _, _, _, .standard named, rfl, rfl⟩
  · simp only [if_neg named]
    cases entry : drivers.get? name with
    | some driver => exact ⟨_, _, _, _, .known named entry, rfl, rfl⟩
    | none =>
      simp only [Importer.watched, watch]
      rcases importing name w with ⟨fault | driver, w'⟩
      · exact ⟨_, _, _, [.load name (.error fault)], .missing named entry, rfl, rfl⟩
      · exact ⟨_, _, _, [.load name (.ok driver)], .imported named entry, rfl, rfl⟩

namespace Found

variable {standard : Option Driver} {drivers after : Dict String Driver} {name other : String}
  {answer : Except Fault Driver} {driver : Driver} {imports : List Loading}

theorem mem_imports (found : Found standard drivers name answer after imports)
    (loading : Loading) :
    loading ∈ imports ↔ loading = (name, answer) ∧ name ≠ "" ∧ drivers.get? name = none := by
  cases found with
  | standard unnamed => simp [unnamed]
  | known _ entry => simp [entry]
  | missing named absent => simp [named, absent]
  | imported named absent => simp [named, absent]

theorem holds (found : Found standard drivers name answer after imports)
    (held : drivers.get? other = some driver) : after.get? other = some driver := by
  cases found with
  | imported _ absent =>
    have apart : other ≠ name := fun same => by simp [← same, held] at absent
    rw [Dict.get?_put, if_neg apart, held]
  | _ => exact held

theorem given (found : Found standard drivers name (.ok driver) after imports)
    (named : name ≠ "") : after.get? name = some driver := by
  generalize outcome : Except.ok driver = answer at found
  cases found with
  | standard unnamed => exact absurd unnamed named
  | known _ entry => rw [entry, Except.ok.inj outcome]
  | missing => simp at outcome
  | imported => rw [Dict.get?_put, if_pos rfl, Except.ok.inj outcome]

theorem answer_of_held (found : Found standard drivers name answer after imports)
    (named : name ≠ "") (held : drivers.get? name = some driver) : answer = .ok driver := by
  cases found with
  | standard unnamed => exact absurd unnamed named
  | known _ entry => rw [Option.some.inj (entry.symm.trans held)]
  | missing _ absent => simp [held] at absent
  | imported _ absent => simp [held] at absent

theorem drivers_of_error {fault : Fault}
    (found : Found standard drivers name (.error fault) after imports) : after = drivers := by
  generalize outcome : Except.error fault = answer at found
  cases found with
  | imported => simp at outcome
  | _ => rfl

theorem of_unnamed (found : Found standard drivers "" answer after imports) :
    answer = standardDriver standard ∧ imports = [] ∧ after = drivers := by
  cases found with
  | standard => exact ⟨rfl, rfl, rfl⟩
  | known named | missing named | imported named => exact absurd rfl named

end Found

end Load

section Pool

variable {load : Loader σ} {world : World σ} {driverClass : String} {login : Login} {name : String}
  {s : Session σ}

theorem drivers_opening (s : Session σ) (driver : Driver) (login : Login) (raw : Raw) :
    (opening s driver login raw).2.drivers = s.drivers := by
  cases driver <;> rfl

theorem world_opening (s : Session σ) (driver : Driver) (login : Login) (raw : Raw) :
    (opening s driver login raw).2.world = s.world := by
  cases driver <;> rfl

/-- After the search for a driver, the drivers are left alone, and the world is asked once more at
most, to connect. -/
theorem acquire_after_search {found : Except Fault Driver} {drivers : Dict String Driver} {w : σ}
    {answer : Except Fault Connection} {after : Session σ} (unusable : s.usable? world name = none)
    (searched : Search.on (load driverClass) s.drivers s.world = (found, drivers, w))
    (acquired : on (acquire load world driverClass login name) s = (answer, after)) :
    after.drivers = drivers ∧
      (after.world = w ∨ ∃ driver, after.world = (world.connect driver login w).2) := by
  cases found with
  | error fault =>
    rw [acquire_notLoaded unusable searched] at acquired
    obtain ⟨-, rfl⟩ := Prod.mk.inj acquired
    exact ⟨rfl, .inl rfl⟩
  | ok driver =>
    rcases connecting : world.connect driver login w with ⟨made, w'⟩
    cases made with
    | error reason =>
      rw [acquire_refused unusable searched connecting] at acquired
      obtain ⟨-, rfl⟩ := Prod.mk.inj acquired
      exact ⟨rfl, .inr ⟨driver, by rw [connecting]⟩⟩
    | ok raw =>
      rw [acquire_opened unusable searched connecting] at acquired
      obtain ⟨-, rfl⟩ := Prod.mk.inj acquired
      have asked : (opening { s.setOut name with drivers, world := w' } driver login raw).2.world =
          (world.connect driver login w).2 := by
        rw [world_opening, connecting]
      exact ⟨drivers_opening _ driver login raw, .inr ⟨driver, asked⟩⟩

theorem drivers_acquired {found : Except Fault Driver} {drivers : Dict String Driver} {w : σ}
    (unusable : s.usable? world name = none)
    (searched : Search.on (load driverClass) s.drivers s.world = (found, drivers, w)) :
    (on (acquire load world driverClass login name) s).2.drivers = drivers :=
  (acquire_after_search unusable searched rfl).1

/-- What the pool asks for after the search is no driver. -/
theorem loadings_acquired {load : Loader (σ × List Call)} {found : Except Fault Driver}
    {drivers : Dict String Driver} {w : σ} {calls : List Call}
    (unusable : s.usable? world name = none)
    (searched : Search.on (load driverClass) s.drivers (s.world, []) =
      (found, drivers, w, calls)) :
    (callsOf (acquire load world.watched driverClass login name) s).filterMap Call.loading? =
      calls.filterMap Call.loading? := by
  have watched := (usable?_beside world s [] name).trans unusable
  have beside : Search.on (load driverClass) (s.beside []).drivers (s.beside []).world =
      (found, drivers, w, calls) := searched
  rcases acquired : on (acquire load world.watched driverClass login name) (s.beside []) with
    ⟨answer, after⟩
  rw [callsOf, acquired]
  rcases (acquire_after_search watched beside acquired).2 with same | ⟨driver, asked⟩
  · rw [same]
  · rw [asked]
    simp [World.watched, watch, Call.loading?]

section Reuse

variable {c : Connection} (usable : s.usable? world name = some c)

include usable

/-- A connection that is reused needs no driver. -/
theorem drivers_reused :
    (on (acquire load world driverClass login name) s).2.drivers = s.drivers := by
  rw [acquire_usable usable]
  rfl

theorem calls_reused {load : Loader (σ × List Call)} :
    callsOf (acquire load world.watched driverClass login name) s = [] := by
  have watched := (usable?_beside world s [] name).trans usable
  rw [callsOf, acquire_usable watched]
  rfl

end Reuse

end Pool

section Turns

def Turn.Registers (turn : Turn σ) (name : String) : Prop :=
  ∃ driver, turn.errand = .register name driver

/-- From this turn on the name stands for the driver. -/
def Turn.Gives (turn : Turn σ) (name : String) (driver : Driver) : Prop :=
  turn.errand = .register name driver ∨ (name, .ok driver) ∈ turn.loads

/-- What a turn comes to: a driver is registered, or one is looked for, or the drivers are left
alone. -/
inductive Turn.Accounted (standard : Option Driver) (turn : Turn σ) : Prop
  | registers {name driver} : turn.errand = .register name driver → turn.loads = [] →
      turn.imports = [] → turn.after.drivers = turn.before.drivers.put name driver →
      turn.Accounted standard
  | loads (name answer) : (∀ name, ¬turn.Registers name) → turn.loads = [(name, answer)] →
      Found standard turn.before.drivers name answer turn.after.drivers turn.imports →
      turn.Accounted standard
  | rests : (∀ name, ¬turn.Registers name) → turn.loads = [] → turn.imports = [] →
      turn.after.drivers = turn.before.drivers → turn.Accounted standard

theorem load_accounted (importing : Importer σ) (world : World σ) (name : String)
    (s : Session σ) :
    ((Errand.load name).turn importing world s).Accounted world.standard := by
  obtain ⟨answer, after, w, calls, found, searched, watched⟩ :=
    findBy_found world.standard importing name s.drivers s.world
  have loaded : on (search (findBy world.standard importing name)) s =
      (answer, { s with drivers := after, world := w }) := by
    rw [search_on, searched]
  have heard : callsOf (search (findBy world.standard importing.watched name)) s = calls := by
    have beside : Search.on (findBy world.standard importing.watched name)
        (s.beside []).drivers (s.beside []).world = (answer, after, w, calls) := watched
    rw [callsOf, search_on, beside]
  refine .loads name answer (by simp [Turn.Registers, Errand.turn]) ?_ ?_
  · simp only [Errand.turn, Errand.loads, loaded]
  · simp only [Errand.turn, Errand.after, Errand.imports, loaded, heard]
    exact found

theorem acquisition_accounted (importing : Importer σ) (world : World σ) (driverClass : String)
    (login : Login) (name : String) (s : Session σ) :
    ((Errand.acquire driverClass login name).turn importing world s).Accounted world.standard := by
  have unregistered : ∀ other, ¬Turn.Registers
      ((Errand.acquire driverClass login name).turn importing world s) other := by
    simp [Turn.Registers, Errand.turn]
  cases usable : s.usable? world name with
  | some c =>
    refine .rests unregistered ?_ ?_ (drivers_reused usable)
    · simp [Errand.turn, Errand.loads, calls_reused usable]
    · simp [Errand.turn, Errand.imports, calls_reused usable]
  | none =>
    obtain ⟨answer, after, w, calls, found, searched, watched⟩ :=
      findBy_found world.standard importing driverClass s.drivers s.world
    refine .loads driverClass answer unregistered ?_ ?_
    · exact loadings_acquired usable (watched_on searched [])
    · simp only [Errand.turn, Errand.after, Errand.imports, drivers_acquired usable searched,
        loadings_acquired usable watched]
      exact found

theorem turn_accounted (importing : Importer σ) (world : World σ) (errand : Errand σ)
    (s : Session σ) : (errand.turn importing world s).Accounted world.standard := by
  cases errand with
  | register name driver => exact .registers rfl rfl rfl rfl
  | load name => exact load_accounted importing world name s
  | acquire driverClass login name =>
    exact acquisition_accounted importing world driverClass login name s
  | other change kept => exact .rests (by simp [Turn.Registers, Errand.turn]) rfl rfl (kept s)

theorem turns_accounted (importing : Importer σ) (world : World σ) (errands : List (Errand σ))
    (s : Session σ) : ∀ turn ∈ turns importing world errands s, turn.Accounted world.standard := by
  induction errands generalizing s with
  | nil => simp [turns]
  | cons errand rest ih =>
    exact List.forall_mem_cons.mpr ⟨turn_accounted importing world errand s, ih _⟩

/-- Each turn begins where the one before it has ended. -/
theorem turns_follow (importing : Importer σ) (world : World σ) (errands : List (Errand σ))
    (s : Session σ) :
    (turns importing world errands s).IsChain fun a b => a.after = b.before := by
  induction errands generalizing s with
  | nil => exact .nil
  | cons errand rest ih =>
    cases rest with
    | nil => exact .singleton _
    | cons next others => exact .cons_cons rfl (ih _)

variable {standard : Option Driver} {turn : Turn σ} {name : String} {driver : Driver}

namespace Turn.Accounted

theorem given (accounted : turn.Accounted standard) (named : name ≠ "")
    (gives : turn.Gives name driver) : turn.after.drivers.get? name = some driver := by
  cases accounted with
  | @registers other d errand loads _ drivers =>
    rcases gives with registered | loaded
    · obtain ⟨rfl, rfl⟩ := Errand.register.inj (errand.symm.trans registered)
      rw [drivers, Dict.get?_put, if_pos rfl]
    · simp [loads] at loaded
  | loads other answer unregistered loads found =>
    rcases gives with registered | loaded
    · exact absurd ⟨driver, registered⟩ (unregistered name)
    · obtain ⟨rfl, rfl⟩ : name = other ∧ .ok driver = answer := by simpa [loads] using loaded
      exact found.given named
  | rests unregistered loads =>
    rcases gives with registered | loaded
    · exact absurd ⟨driver, registered⟩ (unregistered name)
    · simp [loads] at loaded

/-- A name goes on standing for its driver if it is not registered again. -/
theorem holds (accounted : turn.Accounted standard) (unregistered : ¬turn.Registers name)
    (held : turn.before.drivers.get? name = some driver) :
    turn.after.drivers.get? name = some driver := by
  cases accounted with
  | @registers other d errand _ _ drivers =>
    have apart : name ≠ other := fun same => unregistered ⟨d, same ▸ errand⟩
    rw [drivers, Dict.get?_put, if_neg apart, held]
  | loads _ _ _ _ found => exact found.holds held
  | rests _ _ _ drivers => rw [drivers, held]

/-- What is loaded in a turn has been found for its name. -/
theorem found {answer : Except Fault Driver} (accounted : turn.Accounted standard)
    (loading : (name, answer) ∈ turn.loads) :
    Found standard turn.before.drivers name answer turn.after.drivers turn.imports := by
  cases accounted with
  | registers _ loads => simp [loads] at loading
  | loads other answer' _ loads found =>
    obtain ⟨rfl, rfl⟩ : name = other ∧ answer = answer' := by simpa [loads] using loading
    exact found
  | rests _ loads => simp [loads] at loading

theorem mem_imports (accounted : turn.Accounted standard) (loading : Loading) :
    loading ∈ turn.imports ↔
      loading ∈ turn.loads ∧ loading.1 ≠ "" ∧ turn.before.drivers.get? loading.1 = none := by
  cases accounted with
  | registers _ loads imports => simp [loads, imports]
  | loads name answer _ loads found =>
    rw [found.mem_imports, loads, List.mem_singleton]
    exact and_congr_right fun same => by rw [same]
  | rests _ loads imports => simp [loads, imports]

end Turn.Accounted

/-- A name stands for its driver up to the last of some turns, if none before that registers it. -/
theorem held_before_last {between : List (Turn σ)} {first last : Turn σ}
    (follow : (first :: (between ++ [last])).IsChain fun a b => a.after = b.before)
    (accounted : ∀ turn ∈ between, turn.Accounted standard)
    (unregistered : ∀ turn ∈ between, ¬turn.Registers name)
    (held : first.after.drivers.get? name = some driver) :
    last.before.drivers.get? name = some driver := by
  induction between generalizing first with
  | nil => rwa [← follow.rel]
  | cons next rest ih =>
    obtain ⟨meets, onward⟩ := List.isChain_cons_cons.mp follow
    obtain ⟨here, later⟩ := List.forall_mem_cons.mp accounted
    obtain ⟨silent, others⟩ := List.forall_mem_cons.mp unregistered
    exact ih onward later others (here.holds silent (meets ▸ held))

end Turns

/-- What can be relied on about the drivers of a session, turn by turn. -/
structure Remembers (standard : Option Driver) (turns : List (Turn σ)) : Prop where
  /-- A driver is imported when it is loaded by a name, not an empty one, that stands for none, and
  only then. -/
  imported : ∀ turn ∈ turns, ∀ loading, loading ∈ turn.imports ↔
    loading ∈ turn.loads ∧ loading.1 ≠ "" ∧ turn.before.drivers.get? loading.1 = none
  /-- Once a name has been given a driver, each load of it comes to that driver, until the name is
  registered again. -/
  same : ∀ first between last, first :: (between ++ [last]) <:+: turns →
    ∀ name driver, name ≠ "" → first.Gives name driver →
      (∀ turn ∈ between, ¬turn.Registers name) →
        ∀ answer, (name, answer) ∈ last.loads → answer = .ok driver
  failed : ∀ turn ∈ turns, ∀ name fault, (name, .error fault) ∈ turn.loads →
    turn.after.drivers = turn.before.drivers
  unnamed : ∀ turn ∈ turns, ∀ answer, ("", answer) ∈ turn.loads →
    answer = standardDriver standard ∧ turn.imports = [] ∧
      turn.after.drivers = turn.before.drivers

/-- Whatever is done with the drivers of a session, directly or by the pool, and however they are
imported: what a name stands for is imported once, and stays until it is registered anew. A load
that fails changes nothing, and one without a name comes to the standard driver whatever drivers
there are. The search of a running session is of this kind. -/
theorem drivers_remembered (importing : Importer σ) (world : World σ) (errands : List (Errand σ))
    (start : Session σ) :
    Remembers world.standard (turns importing world errands start) ∧
      (∀ drivers w, Search.on (findBy world.standard importing "") drivers w =
        (standardDriver world.standard, drivers, w)) ∧
      findDriver world = findBy world.standard world.importing := by
  have accounted := turns_accounted importing world errands start
  refine ⟨⟨?imported, ?same, ?failed, ?unnamed⟩, fun _ _ => rfl, findDriver_eq_findBy world⟩
  case imported => exact fun turn among => (accounted turn among).mem_imports
  case same =>
    intro first between last within name driver named gives unregistered answer loading
    have of_within {turn : Turn σ} (among : turn ∈ first :: (between ++ [last])) :
        turn.Accounted world.standard := accounted turn (within.subset among)
    have follow : (first :: (between ++ [last])).IsChain fun a b => a.after = b.before := by
      obtain ⟨earlier, later, whole⟩ := within
      have all := turns_follow importing world errands start
      rw [← whole] at all
      exact all.left_of_append.right_of_append
    have given := (of_within List.mem_cons_self).given named gives
    have held := held_before_last follow
      (fun turn among => of_within (by simp [among])) unregistered given
    exact ((of_within (by simp)).found loading).answer_of_held named held
  case failed =>
    exact fun turn among name fault loading =>
      ((accounted turn among).found loading).drivers_of_error
  case unnamed =>
    exact fun turn among answer loading => ((accounted turn among).found loading).of_unnamed

/-- A driver that is registered takes the place of a module that is missing, but is not asked for
without its name. -/
example :
    let world := StandIn.world [] (some (.provided 0)) none
    let errands := [.load "db", .register "db" (.provided 1),
      .acquire "db" ⟨none, none, none⟩ "main", .register "" (.provided 1), .load ""]
    (turns world.importing world errands { world := {} }).map (·.loads) =
      [[("db", .error (.noDriver "db" "No module named 'db'"))], [],
        [("db", .ok (.provided 1))], [], [("", .ok (.provided 0))]] := by
  rfl

end Stagewright.Session
