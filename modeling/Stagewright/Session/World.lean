import Stagewright.Value.Excess
import Stagewright.Value.Explained

/-!
The world outside of a running job: drivers, and the connections they open. A job sees of it what
is told here and nothing else; any world with these answers will do.
-/

namespace Stagewright.Session

/-- What a driver, or a connection it has opened, says when it refuses. -/
abbrev Refusal := String

/-- A connection as its driver knows it. -/
abbrev Raw := Nat

/-- Whose connection it is, as far as it can tell. -/
structure Metadata where
  user : Option String
  url : Option String
deriving DecidableEq, Repr

/-- Something that connects: one of the drivers that were there before the job, or a module imported
by its name. -/
inductive Driver where
  | provided (index : Nat)
  | imported (module : String)
deriving DecidableEq, Repr

/-- What is handed to a driver; what is none is not handed over. -/
structure Login where
  url : Option String
  user : Option String
  password : Option String
deriving DecidableEq, Repr

/-- What can be done to a connection. -/
inductive Deed where
  | commit
  | rollback
  | close
  | assignAutocommit (value : Value)
  | callAutocommit (value : Value)

/-- How a connection lets itself be switched to committing each statement by itself: it holds a
value, it offers a method, or it knows no such thing. -/
inductive Switch where
  | attribute (value : Value)
  | method
  | missing

structure World (σ : Type) where
  /-- The names of the modules that can be imported. -/
  modules : List String
  /-- The driver of stages that name none. -/
  standard : Option Driver
  decrypt : Option (String → Except Refusal String)
  connect : Driver → Login → σ → Except Refusal Raw × σ
  perform : Raw → Deed → σ → Except Refusal Unit × σ
  execute : Raw → String → σ → Except Refusal String × σ
  switch : σ → Raw → Switch
  /-- Whether a connection reports that it is closed; none for one that does not say. -/
  closed : σ → Raw → Option Bool
  metadata : σ → Raw → Option Metadata
  /-- A value that a connection carries under a name. -/
  field : σ → Raw → String → Option Value

/-- Why something fails while a job runs. -/
inductive Fault where
  /-- The class of the driver is empty where none is named and there is no standard one. -/
  | noDriver (driverClass reason : String)
  | noSource (name : String)
  | emptyModuleName
  | relativeModuleName
  | noDecryptor
  | noAttribute (name : String)
  | refused (reason : Refusal)
  | excess (e : Excess)
deriving DecidableEq, Repr

/-- What a fault says. -/
def Fault.explained : Fault → Explained
  | .noDriver driverClass reason =>
    ⟨if driverClass.isEmpty then "No default driver registered"
      else "Cannot load driver '" ++ driverClass ++ "'", [("reason", .text reason)]⟩
  | .noSource name =>
    ⟨"No DataSource with alias: " ++ name ++ " available!", [("alias", .text name)]⟩
  | .emptyModuleName => ⟨"Empty module name", []⟩
  | .relativeModuleName =>
    ⟨"the 'package' argument is required to perform a relative import", []⟩
  | .noDecryptor => ⟨"No password decryptor configured for this job", []⟩
  | .noAttribute name => ⟨name, []⟩
  | .refused reason => ⟨reason, []⟩
  | .excess e => ⟨e.message?.getD "", []⟩

end Stagewright.Session
