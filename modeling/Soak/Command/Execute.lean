import Soak.Chain
import Soak.Command.Overrides
import Soak.Load.Run
import Soak.Longevity.Run
import Soak.Populate

/-!
# What the subcommands do

Each subcommand is a run on a store and ends with the lines to print, or with the error
that kept it from its result.  A load run whose action needs containers or items prepares
them first, in the numbers that the action will look for.
-/

namespace Soak.Command

/-- A text with blanks behind it up to a width. -/
def padRight (width : Nat) (text : String) : String :=
  text ++ String.ofList (List.replicate (width - text.length) ' ')

/-- A text with blanks in front of it up to a width. -/
def padLeft (width : Nat) (text : String) : String :=
  String.ofList (List.replicate (width - text.length) ' ') ++ text

/-- The line of a worker. -/
def workerLine (w : Worker.Status) : String :=
  "  " ++ padRight 24 w.name ++ " iterations: " ++ padLeft 8 (toString w.iterations)
    ++ "  aborted: " ++ padLeft 6 (toString w.aborted)

/-- The lines of a longevity run. -/
def longevityLines (r : Longevity.Report) : List String :=
  ["Longevity run " ++ r.runId ++ " finished in " ++ r.elapsed.exact]
    ++ r.workers.map workerLine
    ++ ["  not created: " ++ toString r.histogram.notCreated ++ "  irregular: "
      ++ toString r.histogram.irregular ++ "  histogram: ["
      ++ String.intercalate ", " (r.histogram.regular.map toString) ++ "]"]

/-- The line of a population. -/
def populateLine (r : Populate.Report) (elapsed : Duration) : String :=
  "Populated " ++ toString r.containersCreated ++ " containers with " ++ toString r.itemsAdded
    ++ " items in " ++ elapsed.exact ++ " (" ++ toString r.failures ++ " failures)"

/-- The population that prepares a load run, if its action needs one. -/
def preparation (c : Config) : Option Config.Populate :=
  if c.load.action.needsContainers then
    some { c.populate with
      threads := c.load.threads
      totalContainers := c.load.totalContainers
      itemsPerContainer := if c.load.action.needsItems then c.load.itemsPerContainer else 0 }
  else none

/-- A load run behind its preparation. -/
def runLoad (c : Config) (seeds : Seeds) : Session (Except RunError Summary) := do
  match c.load.validate with
  | .error e => return .error (.setup e)
  | .ok () =>
    let prepared ← (match preparation c with
      | none => return .ok ()
      | some prep => do
        match ← Populate.run c.backend prep seeds with
        | .ok _ => return .ok ()
        | .error e => return .error e : Session (Except RunError Unit))
    match prepared with
    | .error e => return .error e
    | .ok () =>
      Load.run c.backend seeds c.load.threads c.load.totalContainers c.load.itemsPerContainer
        c.load.payload c.load.action

/-- The lines that a subcommand prints. -/
def Subcommand.run (s : Subcommand) (c : Config) (seeds : Seeds) :
    Session (Except RunError (List String)) :=
  match s with
  | .longevity _ => do
    return (← Longevity.run c.backend c.longevity seeds).map longevityLines
  | .load _ => do return (← runLoad c seeds).map Summary.lines
  | .populate _ => do
    return (← Populate.run c.backend c.populate seeds).map fun (r, elapsed) =>
      [populateLine r elapsed]
  | .chained _ => do
    return (← Chain.run c.backend c.chained).map fun summaries => summaries.flatMap Summary.lines
  | .showConfig => return .ok (c.text.splitOn "\n")

end Soak.Command
