/-!
Names of the generated program. Every variable that the code of a stage binds ends in the cid of
the stage, and so do the keys under which a stage publishes.
-/

namespace Stagewright.Code

/-- What a variable of the generated program is for. -/
inductive Slot where
  | conn
  | url
  | driverClass
  | driver
  | dbUser
  | dbPwd
  | decryptedPassword
  | sharedConnectionName
  | dataSources
  | dsAlias
  | stmt
  | countSum
  | countEach
  | nbLine
  | commitCounter
  | metadata
deriving DecidableEq, Repr

def Slot.all : List Slot :=
  [.conn, .url, .driverClass, .driver, .dbUser, .dbPwd, .decryptedPassword, .sharedConnectionName,
    .dataSources, .dsAlias, .stmt, .countSum, .countEach, .nbLine, .commitCounter, .metadata]

def Slot.stem : Slot → String
  | .conn => "conn"
  | .url => "url"
  | .driverClass => "driver_class"
  | .driver => "driver"
  | .dbUser => "db_user"
  | .dbPwd => "db_pwd"
  | .decryptedPassword => "decrypted_password"
  | .sharedConnectionName => "shared_connection_name"
  | .dataSources => "data_sources"
  | .dsAlias => "ds_alias"
  | .stmt => "stmt"
  | .countSum => "count_sum"
  | .countEach => "count_each"
  | .nbLine => "nb_line"
  | .commitCounter => "commit_counter"
  | .metadata => "metadata"

/-- A variable of the stage `cid`. -/
structure Local where
  slot : Slot
  cid : String
deriving DecidableEq, Repr

def Local.text (x : Local) : String := x.slot.stem ++ "_" ++ x.cid

/-- The variables of the stage `cid`. -/
structure Names where
  cid : String
deriving DecidableEq, Repr

namespace Names

variable (names : Names)

def conn : Local := ⟨.conn, names.cid⟩
def url : Local := ⟨.url, names.cid⟩
def driverClass : Local := ⟨.driverClass, names.cid⟩
def driver : Local := ⟨.driver, names.cid⟩
def dbUser : Local := ⟨.dbUser, names.cid⟩
def dbPwd : Local := ⟨.dbPwd, names.cid⟩
def decryptedPassword : Local := ⟨.decryptedPassword, names.cid⟩
def sharedConnectionName : Local := ⟨.sharedConnectionName, names.cid⟩
def dataSources : Local := ⟨.dataSources, names.cid⟩
def dsAlias : Local := ⟨.dsAlias, names.cid⟩
def stmt : Local := ⟨.stmt, names.cid⟩
def countSum : Local := ⟨.countSum, names.cid⟩
def countEach : Local := ⟨.countEach, names.cid⟩
def nbLine : Local := ⟨.nbLine, names.cid⟩
def commitCounter : Local := ⟨.commitCounter, names.cid⟩
def metadata : Local := ⟨.metadata, names.cid⟩

/-- Every variable that the code of the stage may bind. -/
def all : List Local := Slot.all.map (⟨·, names.cid⟩)

end Names

/-- What a stage publishes for the stages after it. -/
inductive Role where
  | conn
  | url
  | user
  | pass
deriving DecidableEq, Repr

def Role.stem : Role → String
  | .conn => "conn"
  | .url => "url"
  | .user => "user"
  | .pass => "pass"

/-- The key under which stage `cid` publishes in a role. -/
def Role.key (role : Role) (cid : String) : String := role.stem ++ "_" ++ cid

/-- The key under which stage `cid` leaves its number of records. -/
def countKey (cid : String) : String := cid ++ "_NB_LINE"

end Stagewright.Code
