import Soak.Rehearsal.Recorder

/-!
# Transcripts of rehearsals

A transcript shows what was written down in a rehearsal as a JSON value: for each thread
the list of its entries in their order.  A call is shown with its name, its container, what
else it was made with, and how it ended; handles are not shown, since the container says
more.  An event is shown with its level, its message and its fields.
-/

namespace Soak

/-- What a call is made with, besides its container. -/
def Call.arguments : Call → List Json
  | createContainer _ storageType config credentials =>
    [.str storageType, .str config, .str credentials]
  | openContainer _ credentials | deleteContainer _ credentials => [.str credentials]
  | setMetadata _ metadata => [.str metadata]
  | addItem _ itemType id value attributes =>
    [.str itemType, .str id, .str value, attributes.toJson]
  | getItem _ itemType id options => [.str itemType, .str id, options.toJson]
  | deleteItem _ itemType id => [.str itemType, .str id]
  | updateItemValue _ itemType id value => [.str itemType, .str id, .str value]
  | addAttributes _ itemType id attributes | updateAttributes _ itemType id attributes =>
    [.str itemType, .str id, attributes.toJson]
  | deleteAttributes _ itemType id names => [.str itemType, .str id, .arr (names.map .str)]
  | openSearch _ itemType query options => [.str itemType, .str query, options.toJson]
  | fetchNextResults _ count => [.int count]
  | closeContainer _ | getMetadata _ | closeSearch _ => []

/-- How a call ended: success, the kind of its error, or a panic. -/
def CallResult.text : CallResult → String
  | ok => "ok"
  | failed e => e.kind
  | panicked => "panic"

/-- An entry as a JSON value. -/
def TraceEntry.toJson : TraceEntry → Json
  | call c container result =>
    .arr ([.str c.name, .str container] ++ c.arguments ++ [.str result.text])
  | log entry =>
    .arr [.str "log", .str entry.severity.text, .str entry.message,
      .obj (entry.fields.map fun (name, value) => (name, .str value))]

/-- The transcript of a trace: an object of the threads, in the order of their first
entries. -/
def transcript (trace : List (String × TraceEntry)) : Json :=
  .obj ((trace.map Prod.fst).eraseDups.map fun name =>
    (name, .arr ((trace.filter fun entry => entry.1 = name).map fun entry => entry.2.toJson)))

end Soak
