import Soak.Command.Arguments
import Soak.Config.Json

/-!
# Options over configurations

An option on the command line replaces the field that it names, whatever the configuration
says there, and nothing else.  The length of a longevity run also does away with its
deadline, which would otherwise decide the length.
-/

namespace Soak.Command

/-- The section with the fields that were given. -/
def LongevityFlags.apply (f : LongevityFlags) (c : Config.Longevity) : Config.Longevity where
  totalContainers := f.containers.getD c.totalContainers
  workers := f.workers.getD c.workers
  maxItems := f.maxItems.getD c.maxItems
  duration := f.duration.getD c.duration
  deadline := if f.duration.isSome then none else c.deadline
  statusEvery := c.statusEvery
  monitor := ⟨f.logInterval.getD c.monitor.interval, f.staleAfter.getD c.monitor.staleAfter⟩
  policy := c.policy

/-- The section with the fields that were given. -/
def LoadFlags.apply (f : LoadFlags) (c : Config.Load) : Config.Load where
  threads := f.threads.getD c.threads
  totalContainers := f.containers.getD c.totalContainers
  itemsPerContainer := f.items.getD c.itemsPerContainer
  action := f.action.getD c.action
  payload := f.payload.getD c.payload

/-- The section with the fields that were given, if the template makes sense. -/
def PopulateFlags.apply (f : PopulateFlags) (c : Config.Populate) :
    Except SetupError Config.Populate := do
  let template ← (match f.template with
    | some text => Attributes.parse text
    | none => .ok c.attributeTemplate)
  return { c with
    threads := f.threads.getD c.threads
    totalContainers := f.containers.getD c.totalContainers
    itemsPerContainer := f.items.getD c.itemsPerContainer
    attributeTemplate := template
    customPercent := f.percent.getD c.customPercent }

/-- The section with the fields that were given. -/
def ChainedFlags.apply (f : ChainedFlags) (c : Config.Chained) : Config.Chained where
  threads := f.threads.getD c.threads
  operationsPerThread := f.operations.getD c.operationsPerThread

/-- The configuration with the options of a subcommand. -/
def Subcommand.apply (s : Subcommand) (c : Config) : Except SetupError Config :=
  match s with
  | .longevity flags => .ok { c with longevity := flags.apply c.longevity }
  | .load flags => .ok { c with load := flags.apply c.load }
  | .populate flags => (flags.apply c.populate).map fun populate => { c with populate }
  | .chained flags => .ok { c with chained := flags.apply c.chained }
  | .showConfig => .ok c

/-- The configuration with all options. -/
def Invocation.apply (i : Invocation) (c : Config) : Except SetupError Config :=
  i.subcommand.apply { c with seed := i.globals.seed.or c.seed }

/-- What is wrong with a file that cannot be read. -/
inductive FileFault where
  /-- There is no such file. -/
  | missing
  /-- Something else. -/
  | other (text : String)
deriving DecidableEq, Repr

/-- The wording of a fault. -/
def FileFault.message : FileFault → String
  | missing => "No such file or directory (os error 2)"
  | other text => text

/-- The configuration that the options and the file named by them make; `readFile` holds
the text of the file. -/
def Invocation.load (i : Invocation) (readFile : String → Except FileFault String) :
    Except SetupError Config := do
  let base ← (match i.globals.config with
    | none => .ok {}
    | some path =>
      match readFile path with
      | .ok text => Config.parse text
      | .error fault => .error (.io fault.message))
  i.apply base

end Soak.Command
