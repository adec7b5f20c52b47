import Stagewright.Connection.Mode
import Stagewright.Connection.Strategy
import Stagewright.Job.Basic
import Stagewright.Log.Record

/-!
Checks of a job that look for mistakes before its program is run. Generating a job does not need
them: it writes whatever the job asks for.
-/

namespace Stagewright

open Connection

/-- Something that is wrong with a job, or that is likely to surprise. -/
inductive Finding where
  | unnamedShared (cid : String)
  | unnamedAlias (cid : String)
  | aliasIgnored (cid : String)
  | missingClass (cid : String)
  | missingUrl (cid : String)
  | autoCommitIgnored (cid : String)
  | defaultDriver (cid : String)
  | missingConnection (cid kind : String)
  | unregistered (cid connection : String)
  | noStages (job : String)
deriving DecidableEq, Repr

namespace Finding

/-- Findings that do not make a job invalid. -/
def isWarning : Finding → Bool
  | .aliasIgnored _ | .autoCommitIgnored _ | .defaultDriver _ | .noStages _ => true
  | _ => false

def message : Finding → String
  | .unnamedShared cid => cid ++ ": shared connection enabled without 'shared_connection_name'"
  | .unnamedAlias cid => cid ++ ": datasource alias enabled without 'datasource_alias'"
  | .aliasIgnored cid => cid ++ ": datasource alias is ignored when a shared connection is used"
  | .missingClass cid => cid ++ ": 'driver_jar' is set but 'driver_class' is missing"
  | .missingUrl cid => cid ++ ": driver specified without 'url'"
  | .autoCommitIgnored cid =>
    cid ++ ": 'auto_commit' has no effect while 'use_transaction' is false"
  | .defaultDriver cid => cid ++ ": no driver configured, the runtime default driver will be used"
  | .missingConnection cid kind => cid ++ ": " ++ kind ++ " stage without 'connection'"
  | .unregistered cid connection =>
    cid ++ ": connection '" ++ connection ++ "' is not registered by an earlier stage"
  | .noStages job => "Job '" ++ job ++ "' has no stages"

end Finding

/-- Errors and warnings in the order in which they were found. A result is valid until an error is
added. -/
structure ValidationResult where
  isValid : Bool := true
  errors : List String := []
  warnings : List String := []
deriving DecidableEq, Repr

namespace ValidationResult

def addError (result : ValidationResult) (message : String) : ValidationResult :=
  { result with isValid := false, errors := result.errors ++ [message] }

def addWarning (result : ValidationResult) (message : String) : ValidationResult :=
  { result with warnings := result.warnings ++ [message] }

def add (result : ValidationResult) (finding : Finding) : ValidationResult :=
  if finding.isWarning then result.addWarning finding.message else result.addError finding.message

def ofFindings (findings : List Finding) : ValidationResult := findings.foldl add {}

end ValidationResult

namespace Validation

/-- The finding, if the condition holds. -/
def finding (condition : Bool) (f : Finding) : List Finding := if condition then [f] else []

/-- Findings about the driver of a connection that is not served. -/
def driverFindings (view : View) : List Finding :=
  match StrategyKind.select view with
  | .driverSpecified =>
    finding (view.isBlank "driver_class") (.missingClass view.cid) ++
      finding (view.isBlank "url") (.missingUrl view.cid) ++
      finding (!view.flag "use_transaction" && view.flag "auto_commit")
        (.autoCommitIgnored view.cid)
  | .generic => [.defaultDriver view.cid]

/-- Findings about a connection. -/
def connectionFindings (view : View) : List Finding :=
  let mode := Mode.select view
  finding (mode = .shared && view.isBlank "shared_connection_name") (.unnamedShared view.cid) ++
    finding (mode = .served && view.isBlank "datasource_alias") (.unnamedAlias view.cid) ++
    finding (view.flag "use_shared_connection" && view.flag "specify_datasource_alias")
      (.aliasIgnored view.cid) ++
    if mode = .served then [] else driverFindings view

/-- Findings about the connection that a stage refers to, where stages with the cids `known` have
registered theirs. -/
def referenceFindings (known : List String) (view : View) : List Finding :=
  let connection := view.trimmed "connection"
  if connection.isEmpty then [.missingConnection view.cid view.stage.kind]
  else finding (!known.contains connection) (.unregistered view.cid connection)

/-- What the checks of a stage look at. -/
def keys (view : View) : List String :=
  if view.stage.kind ≠ StageKind.connection.name then ["connection"]
  else
    let ignored := if view.flag "use_shared_connection" then ["specify_datasource_alias"] else []
    let driver := match StrategyKind.select view with
      | .driverSpecified => ["driver_class", "url", "use_transaction"] ++
          if view.flag "use_transaction" then [] else ["auto_commit"]
      | .generic => []
    Mode.keys view ++ match Mode.select view with
      | .shared => "shared_connection_name" :: ignored ++ StrategyKind.keys view ++ driver
      | .served => "datasource_alias" :: ignored
      | .direct => ignored ++ StrategyKind.keys view ++ driver

/-- Checks a stage, where stages with the cids `known` have registered their connections. -/
def checkStage (known : List String) (view : View) : Except Excess (List Finding) :=
  match view.excess? (keys view) with
  | some e => .error e
  | none =>
    if view.stage.kind = StageKind.connection.name then .ok (connectionFindings view)
    else .ok (referenceFindings known view)

/-- Checks stages, each of which knows the connections before it. -/
def checkStages (settings : Settings) (known : List String) :
    List Stage → Except Excess (List Finding)
  | [] => .ok []
  | stage :: rest => do
    let here ← checkStage known ⟨stage, settings⟩
    let later ← checkStages settings
      (if stage.kind = StageKind.connection.name then stage.cid :: known else known) rest
    return here ++ later

/-- The record of a validation. -/
def validated (job : Job) (result : ValidationResult) : Log.Record :=
  Log.debug .validation
    ("Validated job '" ++ job.name ++ "': " ++ toString result.errors.length ++ " errors, " ++
      toString result.warnings.length ++ " warnings")

/-- Checks a job. Where there is too much in a parameter that is looked at, nothing is told of what
has been found by then. -/
def validate (job : Job) : Except Excess (ValidationResult × List Log.Record) := do
  let found ← checkStages job.settings [] job.stages
  let result := ValidationResult.ofFindings
    (found ++ finding job.stages.isEmpty (.noStages job.name))
  return (result, [validated job result])

end Validation

end Stagewright
