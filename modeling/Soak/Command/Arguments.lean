import Soak.Action
import Soak.Time.Spans

/-!
# The command line

The arguments name a subcommand, with options for the whole program before it and options
of its own behind it.  A long option takes its value after an equals sign or as the next
argument, which then must not look like an option; no option may be given twice.  Short
options may be joined, and the last of them may have its value joined as well.
-/

namespace Soak.Command

/-- Why arguments cannot be used. -/
inductive UsageFault where
  /-- They ask for help. -/
  | help
  /-- They make no sense. -/
  | invalid
deriving DecidableEq, Repr

/-- The options of the longevity run. -/
structure LongevityFlags where
  /-- How many containers there are. -/
  containers : Option Nat := none
  /-- How many workers there are. -/
  workers : Option Nat := none
  /-- The length of the run. -/
  duration : Option Duration := none
  /-- The highest regular counter. -/
  maxItems : Option Int := none
  /-- The time between scans of the monitor. -/
  logInterval : Option Duration := none
  /-- How long a worker may be idle. -/
  staleAfter : Option Duration := none
deriving DecidableEq, Repr

/-- The options of the load run. -/
structure LoadFlags where
  /-- The action. -/
  action : Option Action := none
  /-- How many threads there are. -/
  threads : Option Nat := none
  /-- How many containers there are. -/
  containers : Option Nat := none
  /-- How many items of each container are worked on. -/
  items : Option Nat := none
  /-- The payload of the action. -/
  payload : Option String := none
deriving DecidableEq, Repr

/-- The options of the bulk population. -/
structure PopulateFlags where
  /-- How many threads there are. -/
  threads : Option Nat := none
  /-- How many containers are created. -/
  containers : Option Nat := none
  /-- How many items each of them gets. -/
  items : Option Nat := none
  /-- The attribute template, as JSON text. -/
  template : Option String := none
  /-- The percentage of items with the values of the template. -/
  percent : Option Nat := none
deriving DecidableEq, Repr

/-- The options of the chained benchmark. -/
structure ChainedFlags where
  /-- How many threads each stage has. -/
  threads : Option Nat := none
  /-- How many operations each of them performs. -/
  operations : Option Nat := none
deriving DecidableEq, Repr

/-- The subcommands. -/
inductive Subcommand where
  /-- The longevity run. -/
  | longevity (flags : LongevityFlags)
  /-- The load run. -/
  | load (flags : LoadFlags)
  /-- The bulk population. -/
  | populate (flags : PopulateFlags)
  /-- The chained benchmark. -/
  | chained (flags : ChainedFlags)
  /-- Show the configuration. -/
  | showConfig
deriving DecidableEq, Repr

/-- The options of the whole program. -/
structure GlobalFlags where
  /-- The path of the configuration. -/
  config : Option String := none
  /-- The master seed. -/
  seed : Option Nat := none
  /-- Whether more is logged. -/
  verbose : Bool := false
deriving DecidableEq, Repr

/-- Arguments that make sense. -/
structure Invocation where
  /-- The options of the whole program. -/
  globals : GlobalFlags
  /-- The subcommand. -/
  subcommand : Subcommand
deriving DecidableEq, Repr

/-! ### Values -/

/-- A number of at least one digit. -/
def digits? (cs : List Char) : Option Nat :=
  if cs.isEmpty || cs.any (fun c => !c.isDigit) then none
  else some (cs.foldl (fun n d => n * 10 + (d.toNat - '0'.toNat)) 0)

/-- An unsigned number of 64 bits, which may have a plus sign. -/
def nat64? (text : String) : Option Nat := do
  let n ← (match text.toList with
    | '+' :: rest => digits? rest
    | cs => digits? cs)
  if n < 2 ^ 64 then some n else none

/-- A signed number of 64 bits, which may have a sign. -/
def int64? (text : String) : Option Int := do
  let n : Int ← (match text.toList with
    | '+' :: rest => (digits? rest).map Int.ofNat
    | '-' :: rest => (digits? rest).map fun n => -(n : Int)
    | cs => (digits? cs).map Int.ofNat)
  if -2 ^ 63 ≤ n ∧ n < 2 ^ 63 then some n else none

/-- An unsigned number of 32 bits, written as a signed one may be. -/
def nat32? (text : String) : Option Nat := do
  let n ← int64? text
  if 0 ≤ n ∧ n < 2 ^ 32 then some n.toNat else none

/-- An action, as a person means it. -/
def action? (text : String) : Option Action :=
  (Action.ofText text).toOption

/-- A path, which is not empty. -/
def path? (text : String) : Option String :=
  if text = "" then none else some text

/-- The value of an option that has not been given before. -/
def once {α : Type} (previous : Option α) (value : Option α) : Option (Option α) :=
  match previous, value with
  | none, some v => some (some v)
  | _, _ => none

/-! ### The options of the subcommands -/

/-- The options with one more. -/
def LongevityFlags.set (f : LongevityFlags) (name value : String) : Option LongevityFlags :=
  match name with
  | "containers" => (once f.containers (nat64? value)).map fun v => { f with containers := v }
  | "workers" => (once f.workers (nat64? value)).map fun v => { f with workers := v }
  | "duration" => (once f.duration (Duration.ofSpans? value)).map fun v => { f with duration := v }
  | "max-items" => (once f.maxItems (int64? value)).map fun v => { f with maxItems := v }
  | "log-interval" =>
    (once f.logInterval (Duration.ofSpans? value)).map fun v => { f with logInterval := v }
  | "stale-after" =>
    (once f.staleAfter (Duration.ofSpans? value)).map fun v => { f with staleAfter := v }
  | _ => none

/-- The options with one more. -/
def LoadFlags.set (f : LoadFlags) (name value : String) : Option LoadFlags :=
  match name with
  | "action" => (once f.action (action? value)).map fun v => { f with action := v }
  | "threads" => (once f.threads (nat64? value)).map fun v => { f with threads := v }
  | "containers" => (once f.containers (nat64? value)).map fun v => { f with containers := v }
  | "items" => (once f.items (nat64? value)).map fun v => { f with items := v }
  | "payload" => (once f.payload (some value)).map fun v => { f with payload := v }
  | _ => none

/-- The options with one more. -/
def PopulateFlags.set (f : PopulateFlags) (name value : String) : Option PopulateFlags :=
  match name with
  | "threads" => (once f.threads (nat64? value)).map fun v => { f with threads := v }
  | "containers" => (once f.containers (nat64? value)).map fun v => { f with containers := v }
  | "items" => (once f.items (nat64? value)).map fun v => { f with items := v }
  | "template" => (once f.template (some value)).map fun v => { f with template := v }
  | "percent" => (once f.percent (nat32? value)).map fun v => { f with percent := v }
  | _ => none

/-- The options with one more. -/
def ChainedFlags.set (f : ChainedFlags) (name value : String) : Option ChainedFlags :=
  match name with
  | "threads" => (once f.threads (nat64? value)).map fun v => { f with threads := v }
  | "operations" => (once f.operations (nat64? value)).map fun v => { f with operations := v }
  | _ => none

/-- The options with one more. -/
def GlobalFlags.set (f : GlobalFlags) (name value : String) : Option GlobalFlags :=
  match name with
  | "config" => (once f.config (path? value)).map fun v => { f with config := v }
  | "seed" => (once f.seed (nat64? value)).map fun v => { f with seed := v }
  | _ => none

/-- The options with the wish for a longer log. -/
def GlobalFlags.setVerbose (f : GlobalFlags) : Option GlobalFlags :=
  if f.verbose then none else some { f with verbose := true }

/-! ### Reading the arguments -/

/-- What an argument looks like. -/
inductive Shape where
  /-- The end of the options. -/
  | escape
  /-- A long option, perhaps with its value. -/
  | long (name : String) (value : Option String)
  /-- Short options that are joined. -/
  | short (letters : List Char)
  /-- Anything else. -/
  | plain
deriving DecidableEq, Repr

/-- The shape of an argument. -/
def Shape.of (argument : String) : Shape :=
  match argument.toList with
  | ['-', '-'] => .escape
  | '-' :: '-' :: rest =>
    match rest.dropWhile (· ≠ '=') with
    | _ :: value => .long (String.ofList (rest.takeWhile (· ≠ '='))) (some (String.ofList value))
    | [] => .long (String.ofList rest) none
  | '-' :: c :: rest => .short (c :: rest)
  | _ => .plain

/-- The value of an option that is not joined to it: the next argument, unless that looks
like an option. -/
def nextValue : List String → Option (String × List String)
  | value :: rest => if Shape.of value = .plain then some (value, rest) else none
  | [] => none

/-- The options of a subcommand, to the end of the arguments. -/
def readFlags {φ : Type} (set : φ → String → String → Option φ) :
    Nat → φ → List String → Except UsageFault φ
  | _, flags, [] => .ok flags
  | 0, _, _ :: _ => .error .invalid
  | fuel + 1, flags, argument :: rest =>
    match Shape.of argument with
    | .escape => if rest.isEmpty then .ok flags else .error .invalid
    | .long "help" none => .error .help
    | .long name (some value) =>
      match set flags name value with
      | some flags => readFlags set fuel flags rest
      | none => .error .invalid
    | .long name none =>
      match nextValue rest with
      | none => .error .invalid
      | some (value, rest) =>
        match set flags name value with
        | some flags => readFlags set fuel flags rest
        | none => .error .invalid
    | .short ('h' :: _) => .error .help
    | _ => .error .invalid

/-- The names of the subcommands, help included. -/
def subcommandNames : List String :=
  ["longevity", "load", "populate", "chained", "show-config", "help"]

/-- What a request for help comes to: help on the program, or on one subcommand. -/
def helpFault : List String → UsageFault
  | [] => .help
  | [name] => if subcommandNames.contains name then .help else .invalid
  | _ => .invalid

/-- The subcommand with a name, and its options. -/
def readSubcommand (name : String) (rest : List String) : Except UsageFault Subcommand :=
  let fuel := rest.length
  match name with
  | "longevity" => (readFlags LongevityFlags.set fuel {} rest).map .longevity
  | "load" => (readFlags LoadFlags.set fuel {} rest).map .load
  | "populate" => (readFlags PopulateFlags.set fuel {} rest).map .populate
  | "chained" => (readFlags ChainedFlags.set fuel {} rest).map .chained
  | "show-config" =>
    (readFlags (fun _ _ _ => none) fuel () rest).map fun _ => .showConfig
  | "help" => .error (helpFault rest)
  | _ => .error .invalid

/-- Joined short options: the options with them, and whether the path of the configuration
is still to come. -/
def readShort (flags : GlobalFlags) : List Char → Except UsageFault (GlobalFlags × Bool)
  | [] => .ok (flags, false)
  | 'h' :: _ => .error .help
  | 'v' :: rest =>
    match flags.setVerbose with
    | some flags => readShort flags rest
    | none => .error .invalid
  | ['c'] => .ok (flags, true)
  | 'c' :: value =>
    let path := if value.head? = some '=' then value.drop 1 else value
    match flags.set "config" (String.ofList path) with
    | some flags => .ok (flags, false)
    | none => .error .invalid
  | _ => .error .invalid

/-- The options of the program and its subcommand. -/
def readGlobals : Nat → GlobalFlags → List String → Except UsageFault Invocation
  | _, _, [] => .error .invalid
  | 0, _, _ :: _ => .error .invalid
  | fuel + 1, flags, argument :: rest =>
    match Shape.of argument with
    | .escape => .error .invalid
    | .long "help" none => .error .help
    | .long "verbose" none =>
      match flags.setVerbose with
      | some flags => readGlobals fuel flags rest
      | none => .error .invalid
    | .long name (some value) =>
      match flags.set name value with
      | some flags => readGlobals fuel flags rest
      | none => .error .invalid
    | .long name none =>
      match nextValue rest with
      | none => .error .invalid
      | some (value, rest) =>
        match flags.set name value with
        | some flags => readGlobals fuel flags rest
        | none => .error .invalid
    | .short letters =>
      match readShort flags letters with
      | .error e => .error e
      | .ok (flags, false) => readGlobals fuel flags rest
      | .ok (flags, true) =>
        match nextValue rest with
        | none => .error .invalid
        | some (value, rest) =>
          match flags.set "config" value with
          | some flags => readGlobals fuel flags rest
          | none => .error .invalid
    | .plain => (readSubcommand argument rest).map fun s => ⟨flags, s⟩

/-- What the arguments ask for. -/
def Invocation.parse (arguments : List String) : Except UsageFault Invocation :=
  readGlobals arguments.length {} arguments

example : (Invocation.parse ["-vc", "x", "chained", "--threads=3"]).toOption
    = some ⟨⟨some "x", none, true⟩, .chained ⟨some 3, none⟩⟩ := by decide +kernel

example : (Invocation.parse ["--seed", "-1", "show-config"]).toOption = none := by decide +kernel

end Soak.Command
