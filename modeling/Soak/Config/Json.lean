import Soak.Config.Basic
import Soak.Json.Printer
import Soak.Time.Spans

/-!
# Configurations as JSON

Each section is a record: an object that may leave fields out and may have others besides,
or an array of its first fields.  A field that is left out takes its default, except in a
policy and a partition, which have to be complete.  Durations are written as spans and
deadlines as RFC 3339 texts.
-/

namespace Soak

/-- A duration, as spans. -/
def Duration.ofJson? (j : Json) : Option Duration :=
  j.str?.bind Duration.ofSpans?

/-- A duration, as spans. -/
def Duration.toJson (d : Duration) : Json :=
  .str d.spans

/-- A point in time. -/
def Timestamp.ofJson? (j : Json) : Option Timestamp :=
  j.str?.bind Timestamp.ofText?

/-- A point in time. -/
def Timestamp.toJson (t : Timestamp) : Json :=
  .str t.toZulu

/-- An action, by its name. -/
def Action.ofJson? (j : Json) : Option Action :=
  j.choice?.bind Action.ofName?

/-- An action, by its name. -/
def Action.toJson (a : Action) : Json :=
  .str a.name

/-- A level, by its name. -/
def Log.Level.ofJson? (j : Json) : Option Log.Level :=
  j.choice?.bind Log.Level.ofName?

/-- A format, by its name. -/
def Log.Format.ofJson? (j : Json) : Option Log.Format :=
  j.choice?.bind Log.Format.ofName?

/-- A complete partition; its ends need not be in order. -/
def Partition.ofJson? (j : Json) : Option Partition := do
  let fs ← j.fields ["index", "min", "max"]
  return {
    index := ← Json.field? fs "index" Json.nat64?
    min := ← Json.field? fs "min" Json.nat64?
    max := ← Json.field? fs "max" Json.nat64? }

/-- A partition. -/
def Partition.toJson (p : Partition) : Json :=
  .obj [("index", .int p.index), ("min", .int p.min), ("max", .int p.max)]

/-- A complete policy; its bands need not be in order. -/
def Policy.ofJson? (j : Json) : Option Policy := do
  let fs ← j.fields ["always_add_max", "mixed_max", "add_probability"]
  return {
    alwaysAddMax := ← Json.field? fs "always_add_max" Json.int64?
    mixedMax := ← Json.field? fs "mixed_max" Json.int64?
    addProbability := ← Json.field? fs "add_probability" Json.double? }

/-- A policy. -/
def Policy.toJson (p : Policy) : Json :=
  .obj [("always_add_max", .int p.alwaysAddMax), ("mixed_max", .int p.mixedMax),
    ("add_probability", .real p.addProbability)]

/-- The section of the store. -/
def Config.Backend.ofJson? (j : Json) : Option Config.Backend := do
  let d : Config.Backend := {}
  let fs ← j.fields ["container_prefix", "storage_type", "storage_config", "credentials",
    "item_type", "item_id_prefix"]
  return {
    containerPrefix := ← Json.fieldOr fs "container_prefix" Json.str? d.containerPrefix
    storageType := ← Json.fieldOr fs "storage_type" Json.str? d.storageType
    storageConfig := ← Json.fieldOr fs "storage_config" Json.str? d.storageConfig
    credentials := ← Json.fieldOr fs "credentials" Json.str? d.credentials
    itemType := ← Json.fieldOr fs "item_type" Json.str? d.itemType
    itemIdPrefix := ← Json.fieldOr fs "item_id_prefix" Json.str? d.itemIdPrefix }

/-- The section of the store. -/
def Config.Backend.toJson (c : Config.Backend) : Json :=
  .obj [("container_prefix", .str c.containerPrefix), ("storage_type", .str c.storageType),
    ("storage_config", .str c.storageConfig), ("credentials", .str c.credentials),
    ("item_type", .str c.itemType), ("item_id_prefix", .str c.itemIdPrefix)]

/-- The section of the monitor. -/
def Config.Monitor.ofJson? (j : Json) : Option Config.Monitor := do
  let d : Config.Monitor := {}
  let fs ← j.fields ["interval", "stale_after"]
  return {
    interval := ← Json.fieldOr fs "interval" Duration.ofJson? d.interval
    staleAfter := ← Json.fieldOr fs "stale_after" Duration.ofJson? d.staleAfter }

/-- The section of the monitor. -/
def Config.Monitor.toJson (c : Config.Monitor) : Json :=
  .obj [("interval", c.interval.toJson), ("stale_after", c.staleAfter.toJson)]

/-- The section of the longevity run. -/
def Config.Longevity.ofJson? (j : Json) : Option Config.Longevity := do
  let d : Config.Longevity := {}
  let fs ← j.fields ["total_containers", "workers", "max_items_per_container", "duration",
    "deadline", "status_every", "monitor", "policy"]
  return {
    totalContainers := ← Json.fieldOr fs "total_containers" Json.nat64? d.totalContainers
    workers := ← Json.fieldOr fs "workers" Json.nat64? d.workers
    maxItems := ← Json.fieldOr fs "max_items_per_container" Json.int64? d.maxItems
    duration := ← Json.fieldOr fs "duration" Duration.ofJson? d.duration
    deadline := ← Json.fieldOr fs "deadline" (Json.optional? Timestamp.ofJson?) d.deadline
    statusEvery := ← Json.fieldOr fs "status_every" Json.nat64? d.statusEvery
    monitor := ← Json.fieldOr fs "monitor" Config.Monitor.ofJson? d.monitor
    policy := ← Json.fieldOr fs "policy" Policy.ofJson? d.policy }

/-- The section of the longevity run. -/
def Config.Longevity.toJson (c : Config.Longevity) : Json :=
  .obj [("total_containers", .int c.totalContainers), ("workers", .int c.workers),
    ("max_items_per_container", .int c.maxItems), ("duration", c.duration.toJson),
    ("deadline", c.deadline.elim .null Timestamp.toJson), ("status_every", .int c.statusEvery),
    ("monitor", c.monitor.toJson), ("policy", c.policy.toJson)]

/-- The section of the load run. -/
def Config.Load.ofJson? (j : Json) : Option Config.Load := do
  let d : Config.Load := {}
  let fs ← j.fields ["threads", "total_containers", "items_per_container", "action", "payload"]
  return {
    threads := ← Json.fieldOr fs "threads" Json.nat64? d.threads
    totalContainers := ← Json.fieldOr fs "total_containers" Json.nat64? d.totalContainers
    itemsPerContainer := ← Json.fieldOr fs "items_per_container" Json.nat64? d.itemsPerContainer
    action := ← Json.fieldOr fs "action" Action.ofJson? d.action
    payload := ← Json.fieldOr fs "payload" Json.str? d.payload }

/-- The section of the load run. -/
def Config.Load.toJson (c : Config.Load) : Json :=
  .obj [("threads", .int c.threads), ("total_containers", .int c.totalContainers),
    ("items_per_container", .int c.itemsPerContainer), ("action", c.action.toJson),
    ("payload", .str c.payload)]

/-- The section of the bulk population. -/
def Config.Populate.ofJson? (j : Json) : Option Config.Populate := do
  let d : Config.Populate := {}
  let fs ← j.fields ["threads", "total_containers", "items_per_container", "attribute_template",
    "custom_attribute_percent", "random_attribute_len", "value_len"]
  return {
    threads := ← Json.fieldOr fs "threads" Json.nat64? d.threads
    totalContainers := ← Json.fieldOr fs "total_containers" Json.nat64? d.totalContainers
    itemsPerContainer := ← Json.fieldOr fs "items_per_container" Json.nat64? d.itemsPerContainer
    attributeTemplate :=
      ← Json.fieldOr fs "attribute_template" Attributes.ofJson? d.attributeTemplate
    customPercent := ← Json.fieldOr fs "custom_attribute_percent" Json.nat32? d.customPercent
    randomAttributeLen :=
      ← Json.fieldOr fs "random_attribute_len" Json.nat64? d.randomAttributeLen
    valueLen := ← Json.fieldOr fs "value_len" Json.nat64? d.valueLen }

/-- The section of the bulk population. -/
def Config.Populate.toJson (c : Config.Populate) : Json :=
  .obj [("threads", .int c.threads), ("total_containers", .int c.totalContainers),
    ("items_per_container", .int c.itemsPerContainer),
    ("attribute_template", c.attributeTemplate.toJson),
    ("custom_attribute_percent", .int c.customPercent),
    ("random_attribute_len", .int c.randomAttributeLen), ("value_len", .int c.valueLen)]

/-- The section of the chained benchmark. -/
def Config.Chained.ofJson? (j : Json) : Option Config.Chained := do
  let d : Config.Chained := {}
  let fs ← j.fields ["threads", "operations_per_thread"]
  return {
    threads := ← Json.fieldOr fs "threads" Json.nat64? d.threads
    operationsPerThread :=
      ← Json.fieldOr fs "operations_per_thread" Json.nat64? d.operationsPerThread }

/-- The section of the chained benchmark. -/
def Config.Chained.toJson (c : Config.Chained) : Json :=
  .obj [("threads", .int c.threads), ("operations_per_thread", .int c.operationsPerThread)]

/-- The section of the log. -/
def Config.Logging.ofJson? (j : Json) : Option Config.Logging := do
  let d : Config.Logging := {}
  let fs ← j.fields ["level", "format"]
  return {
    level := ← Json.fieldOr fs "level" Log.Level.ofJson? d.level
    format := ← Json.fieldOr fs "format" Log.Format.ofJson? d.format }

/-- The section of the log. -/
def Config.Logging.toJson (c : Config.Logging) : Json :=
  .obj [("level", .str c.level.name), ("format", .str c.format.name)]

namespace Config

/-- The whole configuration. -/
def ofJson? (j : Json) : Option Config := do
  let d : Config := {}
  let fs ← j.fields ["backend", "longevity", "load", "populate", "chained", "seed", "logging"]
  return {
    backend := ← Json.fieldOr fs "backend" Config.Backend.ofJson? d.backend
    longevity := ← Json.fieldOr fs "longevity" Config.Longevity.ofJson? d.longevity
    load := ← Json.fieldOr fs "load" Config.Load.ofJson? d.load
    populate := ← Json.fieldOr fs "populate" Config.Populate.ofJson? d.populate
    chained := ← Json.fieldOr fs "chained" Config.Chained.ofJson? d.chained
    seed := ← Json.fieldOr fs "seed" (Json.optional? Json.nat64?) d.seed
    logging := ← Json.fieldOr fs "logging" Config.Logging.ofJson? d.logging }

/-- The whole configuration. -/
def toJson (c : Config) : Json :=
  .obj [("backend", c.backend.toJson), ("longevity", c.longevity.toJson),
    ("load", c.load.toJson), ("populate", c.populate.toJson), ("chained", c.chained.toJson),
    ("seed", c.seed.elim .null fun n => .int n), ("logging", c.logging.toJson)]

/-- The configuration that a text writes. -/
def parse (text : String) : Except SetupError Config :=
  match (Json.document? text).bind ofJson? with
  | some c => .ok c
  | none => .error .malformed

/-- The text of a configuration. -/
def text (c : Config) : String :=
  c.toJson.pretty

end Config

end Soak
