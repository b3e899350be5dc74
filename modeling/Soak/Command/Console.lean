import Soak.Command.Overrides
import Soak.Json.Printer
import Soak.Session.Request

/-!
# The console

What the program writes besides its results: the help, log lines, and the line that names
an error.  A log line can have three forms; each of them shows the level, the thread, the
message and the fields of the event.
-/

namespace Soak.Command

/-- The lines of the help. -/
def usage : List String :=
  ["Usage: soak [--config FILE] [--seed N] [--verbose] COMMAND [OPTIONS]",
    "",
    "Commands:",
    "  longevity    run lifecycle workers until the deadline",
    "               --containers N --workers N --duration T --max-items N",
    "               --log-interval T --stale-after T",
    "  load         run one action on all containers",
    "               --action NAME --threads N --containers N --items N --payload JSON",
    "  populate     create containers and items",
    "               --threads N --containers N --items N --template JSON --percent N",
    "  chained      benchmark each operation of the store in sequence",
    "               --threads N --operations N",
    "  show-config  print the configuration"]

/-- The line that names an error. -/
def errorLine (message : String) : String :=
  "Error: " ++ message

/-- Whether a filter lets an event pass: `off` holds everything back, `error` all but
errors, and any other filter nothing. -/
def passes (filter : String) (severity : Severity) : Bool :=
  match Text.trim filter with
  | "off" => false
  | "error" => severity = .error
  | _ => true

/-- The fields of an event on one line. -/
def fieldTexts (fields : List (String × String)) : List String :=
  fields.map fun (name, value) => name ++ "=" ++ value

/-- An event of a thread as text. -/
def logText (format : Log.Format) (thread : String) (entry : Log.Entry) : String :=
  match format with
  | .compact =>
    " ".intercalate ([entry.severity.text, thread ++ ":", entry.message]
      ++ fieldTexts entry.fields)
  | .pretty =>
    "\n".intercalate ([entry.severity.text ++ " " ++ thread ++ ": " ++ entry.message]
      ++ (fieldTexts entry.fields).map ("    " ++ ·))
  | .json =>
    (Json.obj [("level", .str entry.severity.text), ("thread", .str thread),
      ("message", .str entry.message),
      ("fields", .obj (entry.fields.map fun (name, value) => (name, .str value)))]).compress

/-- The two digits of a byte. -/
def hexByte (b : UInt8) : List Char :=
  [Nat.digitChar (b.toNat / 16), Nat.digitChar (b.toNat % 16)]

/-- The identifier of a run that sixteen random bytes make: thirty-two digits in five
groups, with the marks of a random identifier. -/
def identifier (bytes : List UInt8) : String :=
  let marked := (bytes.modify 6 fun b => (b &&& 0x0f) ||| 0x40).modify 8 fun b =>
    (b &&& 0x3f) ||| 0x80
  let digits := marked.flatMap hexByte
  let group (start stop : Nat) : String := String.ofList ((digits.take stop).drop start)
  "-".intercalate [group 0 8, group 8 12, group 12 16, group 16 20, group 20 32]

example : identifier (List.replicate 16 255) = "ffffffff-ffff-4fff-bfff-ffffffffffff" := by
  decide +kernel

end Soak.Command
