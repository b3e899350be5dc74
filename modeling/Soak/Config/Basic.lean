import Soak.Action
import Soak.Attributes
import Soak.Partition
import Soak.Policy
import Soak.Time.Timestamp

/-!
# The configuration of a run

One value holds the parameters of every kind of run.  The defaults below are those of a
configuration that says nothing; each section knows how to check its own numbers.
-/

namespace Soak

/-- How containers and items are named, and what is passed on to the store. -/
structure Config.Backend where
  /-- What the names of containers begin with. -/
  containerPrefix : String := "wallet_"
  /-- The storage type of created containers. -/
  storageType : String := "default"
  /-- The storage configuration, a JSON text that is passed on as it is. -/
  storageConfig : String := "\x7b\x7d"
  /-- The credentials, a JSON text that is passed on as it is. -/
  credentials : String := "\x7b\"key\": \"key\"\x7d"
  /-- The type of all items. -/
  itemType : String := "TestType"
  /-- What the ids of lifecycle items begin with. -/
  itemIdPrefix : String := "record_"
deriving DecidableEq, Repr

/-- How the monitor watches a longevity run. -/
structure Config.Monitor where
  /-- The time between two scans. -/
  interval : Duration := .ofSecs 30
  /-- How long a worker may be idle before it is reported. -/
  staleAfter : Duration := .ofSecs 60
deriving DecidableEq, Repr

/-- The parameters of a longevity run. -/
structure Config.Longevity where
  /-- How many containers there are. -/
  totalContainers : Nat := 100
  /-- How many workers there are. -/
  workers : Nat := 10
  /-- The highest counter that the monitor counts as regular. -/
  maxItems : Int := 10
  /-- The length of the run, unless a deadline is given. -/
  duration : Duration := .ofSecs 60
  /-- The end of the run. -/
  deadline : Option Timestamp := none
  /-- After how many iterations a worker says that it is alive; never for zero. -/
  statusEvery : Nat := 100
  /-- The monitor. -/
  monitor : Config.Monitor := {}
  /-- The bands of item counts. -/
  policy : Policy := .standard
deriving DecidableEq, Repr

/-- The parameters of a load run. -/
structure Config.Load where
  /-- How many threads there are. -/
  threads : Nat := 1
  /-- How many containers there are. -/
  totalContainers : Nat := 100
  /-- How many items of each container are worked on. -/
  itemsPerContainer : Nat := 10
  /-- The action. -/
  action : Action := .addItem
  /-- The attributes or the query of the action, as JSON text. -/
  payload : String := ""
deriving DecidableEq, Repr

/-- The parameters of a bulk population. -/
structure Config.Populate where
  /-- How many threads there are. -/
  threads : Nat := 4
  /-- How many containers are created. -/
  totalContainers : Nat := 100
  /-- How many items each of them gets. -/
  itemsPerContainer : Nat := 10
  /-- The attribute names, with the values of the items that searches are to find. -/
  attributeTemplate : Attributes :=
    .ofPairs [("name", "John"), ("surname", "Doe"), ("country", "Serbia")]
  /-- The percentage of items, counted from the first, that have the values of the
  template. -/
  customPercent : Nat := 20
  /-- The length of the random values of all other items. -/
  randomAttributeLen : Nat := 10
  /-- The length of item values. -/
  valueLen : Nat := 20
deriving DecidableEq, Repr

/-- The parameters of the chained benchmark. -/
structure Config.Chained where
  /-- How many threads each stage has. -/
  threads : Nat := 1
  /-- How many operations each of them performs. -/
  operationsPerThread : Nat := 100
deriving DecidableEq, Repr

/-- How much is logged. -/
inductive Log.Level where
  /-- Everything. -/
  | trace
  /-- What helps to find faults. -/
  | debug
  /-- The course of the run. -/
  | info
  /-- What looks wrong. -/
  | warn
  /-- What is wrong. -/
  | error
deriving DecidableEq, Repr

/-- The form of log lines. -/
inductive Log.Format where
  /-- Several lines for each event. -/
  | pretty
  /-- One line for each event. -/
  | compact
  /-- One JSON object for each event. -/
  | json
deriving DecidableEq, Repr

/-- What is logged, and how. -/
structure Config.Logging where
  /-- The least level that is logged. -/
  level : Log.Level := .info
  /-- The form of log lines. -/
  format : Log.Format := .pretty
deriving DecidableEq, Repr

/-- The whole configuration. -/
structure Config where
  /-- The store and the names in it. -/
  backend : Config.Backend := {}
  /-- The longevity run. -/
  longevity : Config.Longevity := {}
  /-- The load run. -/
  load : Config.Load := {}
  /-- The bulk population. -/
  populate : Config.Populate := {}
  /-- The chained benchmark. -/
  chained : Config.Chained := {}
  /-- The master seed; drawn anew if it is missing. -/
  seed : Option Nat := none
  /-- The log. -/
  logging : Config.Logging := {}
deriving DecidableEq, Repr

/-- The name of a level, which is also the filter that lets it pass. -/
def Log.Level.name : Log.Level → String
  | trace => "trace"
  | debug => "debug"
  | info => "info"
  | warn => "warn"
  | error => "error"

/-- The level with a name. -/
def Log.Level.ofName? (name : String) : Option Log.Level :=
  [trace, debug, info, warn, error].find? fun level => level.name = name

/-- The name of a format. -/
def Log.Format.name : Log.Format → String
  | pretty => "pretty"
  | compact => "compact"
  | json => "json"

/-- The format with a name. -/
def Log.Format.ofName? (name : String) : Option Log.Format :=
  [pretty, compact, json].find? fun format => format.name = name

/-- What is logged: a directive of the environment comes first, then the wish for more,
then the configured level. -/
def Config.Logging.filter (c : Config.Logging) (verbose : Bool) (environment : Option String) :
    String :=
  let ownChoice := if verbose then "debug" else c.level.name
  match environment with
  | some directive => if Text.allBlank directive then ownChoice else directive
  | none => ownChoice

/-- Whether some time passes between scans. -/
def Config.Monitor.validate (c : Config.Monitor) : Except SetupError Unit :=
  if c.interval = .zero then .error (.config .zeroInterval) else .ok ()

namespace Config.Longevity

/-- The time that is left of the run. -/
def timeLeft (c : Config.Longevity) (now : Timestamp) : Duration :=
  match c.deadline with
  | some deadline => deadline.since now
  | none => c.duration

/-- Whether the containers can be shared out, the monitor and the policy make sense, and
healthy runs stay below the highest regular counter. -/
def validate (c : Config.Longevity) : Except SetupError Unit := do
  Partition.checkEven c.totalContainers c.workers
  if c.maxItems < 0 then throw (.config .negativeMaxItems)
  c.monitor.validate
  c.policy.validate
  if c.maxItems < c.policy.ceiling then
    throw (.config (.belowCeiling c.maxItems c.policy.ceiling))

end Config.Longevity

/-- Whether the containers can be shared out. -/
def Config.Load.validate (c : Config.Load) : Except SetupError Unit :=
  Partition.checkEven c.totalContainers c.threads

/-- Whether the containers can be shared out and the percentage is one. -/
def Config.Populate.validate (c : Config.Populate) : Except SetupError Unit := do
  Partition.checkEven c.totalContainers c.threads
  if 100 < c.customPercent then throw (.percentage c.customPercent)

/-- Whether there is a thread. -/
def Config.Chained.validate (c : Config.Chained) : Except SetupError Unit :=
  if c.threads = 0 then .error .zeroWorkers else .ok ()

/-- The first fault of all sections. -/
def Config.validate (c : Config) : Except SetupError Unit := do
  c.longevity.validate
  c.load.validate
  c.populate.validate
  c.chained.validate

end Soak
