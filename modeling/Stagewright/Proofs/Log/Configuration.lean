import Stagewright.Log.Configuration
import Stagewright.Proofs.Value.Dict

/-!
What can come of the set-up of logging, and what setting it up anew makes of it. A technical logger
either has one handler and keeps its records, or has none and hands them on. After a set-up it is of
the first kind, and nothing of what was there before shows in it.
-/

namespace Stagewright.Log

/-- What can be done about logging. -/
inductive Operation where
  | acquire (name : String)
  | configure (v : Verbosity)
  | detach (name : String)
  | addRootHandler (format : String)

namespace Logger

/-- One handler, with lines of the standard format, and no records for the root. -/
def IsAttached (logger : Logger) : Prop :=
  logger.handlers = [standardFormat] ∧ logger.propagates = false

/-- No handler, and all records for the root. -/
def IsDetached (logger : Logger) : Prop := logger.handlers = [] ∧ logger.propagates = true

/-- One of both, so that no record is handled twice and none is lost. -/
def IsSettled (logger : Logger) : Prop := logger.IsAttached ∨ logger.IsDetached

theorem isDetached_detached (logger : Logger) : logger.detached.IsDetached := ⟨rfl, rfl⟩

theorem IsSettled.handled {logger : Logger} (settled : logger.IsSettled) :
    (logger.handled standardFormat).IsAttached := by
  rcases settled with attached | detached
  · have kept : logger.handled standardFormat = logger := by simp [Logger.handled, attached.1]
    rwa [kept]
  · simp [Logger.handled, detached.1, IsAttached]

/-- What a set-up makes of a technical logger. -/
def configured (logger : Logger) (v : Verbosity) : Logger :=
  handled { logger with level := v.technicalLevel } standardFormat

theorem IsSettled.configured {logger : Logger} (settled : logger.IsSettled) (v : Verbosity) :
    logger.configured v =
      { level := v.technicalLevel, propagates := false, handlers := [standardFormat] } := by
  obtain ⟨level, propagates, handlers⟩ := logger
  rcases settled with ⟨handler, keeps⟩ | ⟨none, -⟩
  · obtain rfl : propagates = false := keeps
    obtain rfl : handlers = [standardFormat] := handler
    rfl
  · obtain rfl : handlers = [] := none
    rfl

/-- A set-up changes nothing but the level of a logger that has been set up. -/
theorem configured_configured (logger : Logger) (u v : Verbosity) :
    (logger.configured u).configured v = logger.configured v := by
  by_cases none : logger.handlers.isEmpty = true <;> simp [configured, handled, none]

end Logger

namespace Configuration

def perform (c : Configuration) : Operation → Configuration
  | .acquire name => c.acquire name
  | .configure v => c.configure v
  | .detach name => c.detach name
  | .addRootHandler format => c.addRootHandler format

/-- What operations make of what is set up from the start. -/
def after (operations : List Operation) : Configuration := operations.foldl perform initial

theorem isRoot_channel (channel : Channel) : isRoot channel.name = false := by
  cases channel <;> decide

section Loggers

variable (c : Configuration)

theorem logger_root {name : String} (root : isRoot name = true) : c.logger name = c.root := by
  simp [Configuration.logger, root]

theorem logger_set_root {name other : String} (root : isRoot name = true) (logger : Logger)
    (named : isRoot other = false) : (c.set name logger).logger other = c.logger other := by
  simp [set, root, Configuration.logger, named]

theorem logger_set {name : String} (named : isRoot name = false) (logger : Logger)
    (other : String) :
    (c.set name logger).logger other = if other = name then logger else c.logger other := by
  by_cases root : isRoot other = true
  · have apart : other ≠ name := fun same => by simp [same, named] at root
    simp [set, named, Configuration.logger, root, apart]
  · by_cases same : other = name <;>
      simp [set, named, Configuration.logger, root, same, Dict.get?_put]

theorem logger_configureChannel (v : Verbosity) (channel : Channel) (name : String) :
    (configureChannel v c channel).logger name =
      if name = channel.name then (c.logger name).configured v else c.logger name := by
  rw [configureChannel, logger_set c (isRoot_channel channel)]
  split
  case isTrue same => rw [same, Logger.configured]
  case isFalse => rfl

theorem logger_configureChannels (v : Verbosity) (channels : List Channel) (name : String) :
    (channels.foldl (configureChannel v) c).logger name =
      if name ∈ channels.map Channel.name then (c.logger name).configured v
      else c.logger name := by
  induction channels generalizing c with
  | nil => simp
  | cons channel rest ih =>
    rw [List.foldl_cons, ih, logger_configureChannel]
    by_cases here : name = channel.name
    · -- a channel that comes again has been set up, and a second time changes nothing
      simp [here, Logger.configured_configured]
    · simp [here]

theorem root_configureChannels (v : Verbosity) (channels : List Channel) :
    (channels.foldl (configureChannel v) c).root = c.root := by
  induction channels generalizing c with
  | nil => rfl
  | cons channel rest ih =>
    rw [List.foldl_cons, ih, configureChannel]
    simp [set, isRoot_channel]

theorem root_configure (v : Verbosity) :
    (c.configure v).root = { c.root with level := v.rootLevel, handlers := [standardFormat] } :=
  root_configureChannels _ v technicalChannels

theorem logger_configure (v : Verbosity) {name : String} (named : isRoot name = false) :
    (c.configure v).logger name =
      if name ∈ technicalChannels.map Channel.name then (c.logger name).configured v
      else c.logger name := by
  rw [configure, logger_configureChannels]
  simp [Configuration.logger, named]

theorem logger_configure_technical (v : Verbosity) {channel : Channel}
    (technical : channel ∈ technicalChannels) :
    (c.configure v).logger channel.name = (c.logger channel.name).configured v :=
  (logger_configure c v (isRoot_channel channel)).trans (if_pos (List.mem_map_of_mem technical))

/-- Of two set-ups, the first leaves nothing behind. -/
theorem logger_configure_configure (u v : Verbosity) (name : String) :
    ((c.configure u).configure v).logger name = (c.configure v).logger name := by
  by_cases root : isRoot name = true
  · simp only [logger_root _ root, root_configure]
  · have named : isRoot name = false := by simpa using root
    rw [logger_configure _ v named, logger_configure _ u named, logger_configure _ v named]
    split
    · exact Logger.configured_configured _ u v
    · rfl

end Loggers

section Reached

variable {channel : Channel}

/-- Whatever is done, a technical logger that is settled stays so. -/
theorem settled_perform {c : Configuration} (technical : channel ∈ technicalChannels)
    (settled : (c.logger channel.name).IsSettled) (operation : Operation) :
    ((c.perform operation).logger channel.name).IsSettled := by
  have named := isRoot_channel channel
  have renewed {name : String} {logger : Logger}
      (own : name = channel.name → logger.IsSettled) :
      ((c.set name logger).logger channel.name).IsSettled := by
    by_cases root : isRoot name = true
    · rwa [logger_set_root c root logger named]
    · rw [logger_set c (by simpa using root)]
      split
      case isTrue same => exact own same.symm
      case isFalse => exact settled
  cases operation with
  | acquire name =>
    refine renewed fun same => .inl ?_
    rw [same]
    exact settled.handled
  | configure v =>
    rw [perform, logger_configure_technical c v technical, settled.configured v]
    exact .inl ⟨rfl, rfl⟩
  | detach name => exact renewed fun _ => .inr (Logger.isDetached_detached _)
  | addRootHandler format =>
    have kept : (c.perform (.addRootHandler format)).logger channel.name =
        c.logger channel.name := by
      simp [perform, addRootHandler, Configuration.logger, named]
    rwa [kept]

theorem settled_after (operations : List Operation) (technical : channel ∈ technicalChannels) :
    ((after operations).logger channel.name).IsSettled := by
  induction operations using List.reverseRecOn with
  | nil =>
    have attached : ∀ channel ∈ technicalChannels, initial.logger channel.name =
        { propagates := false, handlers := [standardFormat] } := by decide
    rw [after, List.foldl_nil, attached channel technical]
    exact .inl ⟨rfl, rfl⟩
  | append_singleton operations operation ih =>
    rw [after, List.foldl_append]
    exact settled_perform technical ih operation

/-- After a set-up, nothing but the flags shows in a technical logger. -/
theorem logger_configure_after (operations : List Operation) (v : Verbosity)
    (technical : channel ∈ technicalChannels) :
    ((after operations).configure v).logger channel.name =
      { level := v.technicalLevel, propagates := false, handlers := [standardFormat] } := by
  rw [logger_configure_technical _ v technical]
  exact (settled_after operations technical).configured v

end Reached

/-- Whatever has been done about logging, each technical logger has one handler and keeps its
records, or has none and hands them on. A set-up then depends on how much is to be logged and on
nothing else: the root has one handler, the technical loggers have one each, and what was set up
before leaves no trace. -/
theorem configured_by_verbosity (operations : List Operation) :
    let c := after operations
    (∀ channel ∈ technicalChannels, (c.logger channel.name).IsSettled) ∧
      (∀ v, (c.configure v).root.level = v.rootLevel ∧
        (c.configure v).root.handlers = [standardFormat] ∧
        ∀ channel ∈ technicalChannels, (c.configure v).logger channel.name =
          { level := v.technicalLevel, propagates := false, handlers := [standardFormat] }) ∧
      ∀ u v name, ((c.configure u).configure v).logger name = (c.configure v).logger name := by
  intro c
  refine ⟨fun channel technical => settled_after operations technical, fun v => ?shows,
    logger_configure_configure c⟩
  rw [root_configure]
  exact ⟨rfl, rfl, fun channel technical => logger_configure_after operations v technical⟩

/-- Quiet logging lets nothing below a warning through at the root. At the technical loggers it lets
nothing below a warning through either, unless it is to be verbose as well. -/
theorem quiet_unless_verbose (operations : List Operation) (v : Verbosity)
    (quiet : v.quiet = true) :
    let c := (after operations).configure v
    c.effectiveLevel "" = Level.warning.severity ∧
      ∀ channel ∈ technicalChannels, c.effectiveLevel channel.name =
        if v.verbose then Level.debug.severity else Level.warning.severity := by
  intro c
  have rootLevel : c.root.level = Level.warning.severity := by
    rw [root_configure]
    exact if_pos quiet
  constructor
  · have own : c.logger "" = c.root := logger_root c (by decide)
    simp only [effectiveLevel, own, rootLevel, ite_self]
  · intro channel technical
    have level : (c.logger channel.name).level = v.technicalLevel := by
      rw [logger_configure_after operations v technical]
    have set : v.technicalLevel ≠ 0 := by
      unfold Verbosity.technicalLevel
      split <;> decide
    simp only [effectiveLevel, level, if_neg set]
    rfl

/-- A logger that had lost its handler is quiet like the root. -/
theorem detached_planner_quiet :
    let v : Verbosity := { quiet := true }
    let c := (after [.configure { verbose := true }, .detach Channel.planner.name]).configure v
    v.quiet = true ∧ c.effectiveLevel "" = Level.warning.severity ∧
      c.effectiveLevel Channel.planner.name = Level.warning.severity := by
  intro v c
  obtain ⟨root, technical⟩ := quiet_unless_verbose
    [.configure { verbose := true }, .detach Channel.planner.name] v rfl
  exact ⟨rfl, root, technical .planner (by decide)⟩

/-- Quiet and verbose logging lets records for tracing through. -/
theorem verbose_planner_not_quiet :
    let c := (after []).configure { verbose := true, quiet := true }
    c.effectiveLevel Channel.planner.name < Level.warning.severity := by
  decide

end Configuration

end Stagewright.Log
