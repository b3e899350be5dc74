import Soak.Config.Json
import Soak.Proofs.Store.Pages
import Soak.Proofs.Time.Timestamp

/-!
# Configurations survive being written

What a reader yields *survives* if the reader yields it again from its written form
(`Json.Survives`).  Durations, points in time and all other kinds of fields survive, and so does
every section of a configuration, whether a field was in the text or left to its default.  So a
configuration that was read from a text is written as a JSON value that is read as the same
configuration (`Config.parse_written`).
-/

namespace Soak

namespace Json

variable {α : Type} {read : Json → Option α} {write : α → Json}

/-- Whatever can be read is read again from what is written of it. -/
def Survives (read : Json → Option α) (write : α → Json) : Prop :=
  ∀ j a, read j = some a → read (write a) = some a

/-- A field survives, whether it was there or left to a default that survives itself. -/
lemma Survives.fieldOr (h : Survives read write) {fs : List (String × Json)} {name : String}
    {a default : α} (hdefault : read (write default) = some default)
    (hread : fieldOr fs name read default = some a) : read (write a) = some a := by
  unfold Json.fieldOr at hread
  split at hread
  · exact h _ a hread
  · obtain rfl := Option.some.inj hread
    exact hdefault

lemma Survives.field? (h : Survives read write) {fs : List (String × Json)} {name : String}
    {a : α} (hread : field? fs name read = some a) : read (write a) = some a := by
  obtain ⟨j, -, hj⟩ := Option.bind_eq_some_iff.1 hread
  exact h j a hj

/-- A value that may be missing survives, if the written form of no value is `null`. -/
lemma Survives.optional? (h : Survives read write) (hnull : ∀ a, write a ≠ .null) :
    Survives (optional? read) fun x => x.elim .null write := by
  intro j x hread
  cases x with
  | none => rfl
  | some a =>
    have hj : read j = some a := by
      unfold Json.optional? at hread
      split at hread
      · cases hread
      · simpa using hread
    have hwritten := h j a hj
    simp only [Option.elim_some]
    unfold Json.optional?
    split
    · next heq => exact absurd heq (hnull a)
    · rw [hwritten, Option.map_some]

lemma survives_natBelow? (bound : Nat) : Survives (natBelow? bound) fun n => .int n := by
  intro j n hread
  unfold natBelow? at hread
  split at hread
  · next m =>
    split at hread
    · next hm =>
      obtain rfl := Option.some.inj hread
      exact if_pos hm
    · cases hread
  · cases hread

lemma survives_nat64? : Survives nat64? fun n => .int n :=
  survives_natBelow? _

lemma survives_nat32? : Survives nat32? fun n => .int n :=
  survives_natBelow? _

lemma survives_int64? : Survives int64? .int := by
  intro j i hread
  unfold int64? intIn? at hread
  split at hread
  · next k =>
    split at hread
    · next hk =>
      obtain rfl := Option.some.inj hread
      exact if_pos hk
    · cases hread
  · cases hread

/-- A text that names one of several values survives. -/
lemma survives_choice? {ofName? : String → Option α} {name : α → String}
    (h : ∀ a, ofName? (name a) = some a) :
    Survives (fun j => j.choice?.bind ofName?) fun a => .str (name a) :=
  fun _ a _ => h a

/-! ### Comparing values -/

mutual

/-- Whether two values are the same. -/
def same : Json → Json → Bool
  | .null, .null => true
  | .bool a, .bool b => a = b
  | .int a, .int b => a = b
  | .real a, .real b => a = b
  | .str a, .str b => a = b
  | .arr a, .arr b => sameItems a b
  | .obj a, .obj b => sameMembers a b
  | .unreadable, .unreadable => true
  | _, _ => false

/-- Whether two lists of values are the same. -/
def sameItems : List Json → List Json → Bool
  | [], [] => true
  | a :: as, b :: bs => same a b && sameItems as bs
  | _, _ => false

/-- Whether two lists of members are the same. -/
def sameMembers : List (String × Json) → List (String × Json) → Bool
  | [], [] => true
  | (key, a) :: as, (key', b) :: bs => key = key' && same a b && sameMembers as bs
  | _, _ => false

end

mutual

lemma same_iff : ∀ a b, same a b = true ↔ a = b
  | .null, b => by cases b <;> simp [same]
  | .bool _, b => by cases b <;> simp [same]
  | .int _, b => by cases b <;> simp [same]
  | .real _, b => by cases b <;> simp [same]
  | .str _, b => by cases b <;> simp [same]
  | .arr as, b => by cases b <;> simp [same, sameItems_iff as]
  | .obj as, b => by cases b <;> simp [same, sameMembers_iff as]
  | .unreadable, b => by cases b <;> simp [same]

lemma sameItems_iff : ∀ as bs, sameItems as bs = true ↔ as = bs
  | [], bs => by cases bs <;> simp [sameItems]
  | a :: as, bs => by cases bs <;> simp [sameItems, same_iff a, sameItems_iff as]

lemma sameMembers_iff : ∀ as bs, sameMembers as bs = true ↔ as = bs
  | [], bs => by cases bs <;> simp [sameMembers]
  | (key, a) :: as, [] => by simp [sameMembers]
  | (key, a) :: as, (key', b) :: bs => by
    simp [sameMembers, same_iff a, sameMembers_iff as, and_assoc]

end

instance : DecidableEq Json :=
  fun a b => decidable_of_iff _ (same_iff a b)

/-- A text is read by its characters. -/
lemma document?_eq {text : String} {cs : List Char} {n : Nat} {j : Json} (htext : text.toList = cs)
    (hlength : cs.length = n) (hread : readValue (2 * n + 2) maxDepth cs = some (j, [])) :
    document? text = some j := by
  simp [document?, htext, hlength, hread, skipSpace]

end Json

open Json

lemma Duration.survives : Survives Duration.ofJson? Duration.toJson := by
  intro j d hread
  obtain ⟨text, -, htext⟩ := Option.bind_eq_some_iff.1 hread
  simpa only [Duration.ofJson?, Duration.toJson, str?, Option.bind_some] using
    Duration.ofSpans?_spans (Duration.secs_lt_of_ofSpans? htext)

lemma Timestamp.survives : Survives Timestamp.ofJson? Timestamp.toJson := by
  intro j t hread
  obtain ⟨text, -, htext⟩ := Option.bind_eq_some_iff.1 hread
  simpa only [Timestamp.ofJson?, Timestamp.toJson, str?, Option.bind_some] using
    Timestamp.ofText?_toZulu (Timestamp.isValid_of_ofText? htext)

lemma Attributes.survives : Survives Attributes.ofJson? Attributes.toJson :=
  fun _ t _ => t.ofJson?_toJson

lemma Action.survives : Survives Action.ofJson? Action.toJson :=
  survives_choice? Action.ofName?_name

lemma Log.Level.survives : Survives Log.Level.ofJson? fun l => .str l.name :=
  survives_choice? fun l => by cases l <;> decide

lemma Log.Format.survives : Survives Log.Format.ofJson? fun f => .str f.name :=
  survives_choice? fun f => by cases f <;> decide

lemma Policy.survives : Survives Policy.ofJson? Policy.toJson := by
  intro j p hread
  simp only [Policy.ofJson?, Option.bind_eq_bind, Option.bind_eq_some_iff] at hread
  obtain ⟨fs, -, low, hlow, high, hhigh, probability, -, heq⟩ := hread
  obtain rfl := Option.some.inj heq
  simp [Policy.ofJson?, Policy.toJson, fields, field?, List.lookup_cons, double?,
    survives_int64?.field? hlow, survives_int64?.field? hhigh]

/-! ### Sections -/

namespace Config

lemma Backend.survives : Survives Backend.ofJson? Backend.toJson := by
  intro j c hread
  simp only [Backend.ofJson?, Option.bind_eq_bind, Option.bind_eq_some_iff] at hread
  obtain ⟨fs, -, a, -, b, -, c, -, d, -, e, -, f, -, heq⟩ := hread
  obtain rfl := Option.some.inj heq
  simp [Backend.ofJson?, Backend.toJson, fields, fieldOr, List.lookup_cons, str?]

lemma Monitor.survives : Survives Monitor.ofJson? Monitor.toJson := by
  intro j c hread
  simp only [Monitor.ofJson?, Option.bind_eq_bind, Option.bind_eq_some_iff] at hread
  obtain ⟨fs, -, interval, hinterval, staleAfter, hstale, heq⟩ := hread
  obtain rfl := Option.some.inj heq
  have hinterval := Duration.survives.fieldOr (by decide +kernel) hinterval
  have hstale := Duration.survives.fieldOr (by decide +kernel) hstale
  simp [Monitor.ofJson?, Monitor.toJson, fields, fieldOr, List.lookup_cons, hinterval, hstale]

lemma Longevity.survives : Survives Longevity.ofJson? Longevity.toJson := by
  intro j c hread
  simp only [Longevity.ofJson?, Option.bind_eq_bind, Option.bind_eq_some_iff] at hread
  obtain ⟨fs, -, total, htotal, workers, hworkers, maxItems, hmax, duration, hduration, deadline,
    hdeadline, statusEvery, hstatus, monitor, hmonitor, policy, hpolicy, heq⟩ := hread
  obtain rfl := Option.some.inj heq
  have htotal := survives_nat64?.fieldOr (by decide) htotal
  have hworkers := survives_nat64?.fieldOr (by decide) hworkers
  have hmax := survives_int64?.fieldOr (by decide) hmax
  have hduration := Duration.survives.fieldOr (by decide +kernel) hduration
  have hdeadline := (Timestamp.survives.optional? fun _ => nofun).fieldOr rfl hdeadline
  have hstatus := survives_nat64?.fieldOr (by decide) hstatus
  have hmonitor := Monitor.survives.fieldOr (by decide +kernel) hmonitor
  have hpolicy := Policy.survives.fieldOr (by decide +kernel) hpolicy
  simp [Longevity.ofJson?, Longevity.toJson, fields, fieldOr, List.lookup_cons, htotal, hworkers,
    hmax, hduration, hdeadline, hstatus, hmonitor, hpolicy]

lemma Load.survives : Survives Load.ofJson? Load.toJson := by
  intro j c hread
  simp only [Load.ofJson?, Option.bind_eq_bind, Option.bind_eq_some_iff] at hread
  obtain ⟨fs, -, threads, hthreads, total, htotal, items, hitems, action, haction, payload, -,
    heq⟩ := hread
  obtain rfl := Option.some.inj heq
  have hthreads := survives_nat64?.fieldOr (by decide) hthreads
  have htotal := survives_nat64?.fieldOr (by decide) htotal
  have hitems := survives_nat64?.fieldOr (by decide) hitems
  have haction := Action.survives.fieldOr (by decide) haction
  simp [Load.ofJson?, Load.toJson, fields, fieldOr, List.lookup_cons, str?, hthreads, htotal,
    hitems, haction]

lemma Populate.survives : Survives Populate.ofJson? Populate.toJson := by
  intro j c hread
  simp only [Populate.ofJson?, Option.bind_eq_bind, Option.bind_eq_some_iff] at hread
  obtain ⟨fs, -, threads, hthreads, total, htotal, items, hitems, template, htemplate, percent,
    hpercent, randomLen, hrandom, valueLen, hvalue, heq⟩ := hread
  obtain rfl := Option.some.inj heq
  have hthreads := survives_nat64?.fieldOr (by decide) hthreads
  have htotal := survives_nat64?.fieldOr (by decide) htotal
  have hitems := survives_nat64?.fieldOr (by decide) hitems
  have htemplate := Attributes.survives.fieldOr (Attributes.ofJson?_toJson _) htemplate
  have hpercent := survives_nat32?.fieldOr (by decide) hpercent
  have hrandom := survives_nat64?.fieldOr (by decide) hrandom
  have hvalue := survives_nat64?.fieldOr (by decide) hvalue
  simp [Populate.ofJson?, Populate.toJson, fields, fieldOr, List.lookup_cons, hthreads, htotal,
    hitems, htemplate, hpercent, hrandom, hvalue]

lemma Chained.survives : Survives Chained.ofJson? Chained.toJson := by
  intro j c hread
  simp only [Chained.ofJson?, Option.bind_eq_bind, Option.bind_eq_some_iff] at hread
  obtain ⟨fs, -, threads, hthreads, operations, hoperations, heq⟩ := hread
  obtain rfl := Option.some.inj heq
  have hthreads := survives_nat64?.fieldOr (by decide) hthreads
  have hoperations := survives_nat64?.fieldOr (by decide) hoperations
  simp [Chained.ofJson?, Chained.toJson, fields, fieldOr, List.lookup_cons, hthreads, hoperations]

lemma Logging.survives : Survives Logging.ofJson? Logging.toJson := by
  intro j c hread
  simp only [Logging.ofJson?, Option.bind_eq_bind, Option.bind_eq_some_iff] at hread
  obtain ⟨fs, -, level, hlevel, format, hformat, heq⟩ := hread
  obtain rfl := Option.some.inj heq
  have hlevel := Log.Level.survives.fieldOr (by decide) hlevel
  have hformat := Log.Format.survives.fieldOr (by decide) hformat
  simp [Logging.ofJson?, Logging.toJson, fields, fieldOr, List.lookup_cons, hlevel, hformat]

/-! ### The whole configuration -/

lemma survives : Survives Config.ofJson? Config.toJson := by
  intro j c hread
  simp only [Config.ofJson?, Option.bind_eq_bind, Option.bind_eq_some_iff] at hread
  obtain ⟨fs, -, backend, hbackend, longevity, hlongevity, load, hload, populate, hpopulate,
    chained, hchained, seed, hseed, logging, hlogging, heq⟩ := hread
  obtain rfl := Option.some.inj heq
  have hbackend := Backend.survives.fieldOr (by decide) hbackend
  have hlongevity := Longevity.survives.fieldOr (by decide +kernel) hlongevity
  have hload := Load.survives.fieldOr (by decide) hload
  have hpopulate := Populate.survives.fieldOr (by decide +kernel) hpopulate
  have hchained := Chained.survives.fieldOr (by decide) hchained
  have hseed := (survives_nat64?.optional? fun _ => nofun).fieldOr rfl hseed
  have hlogging := Logging.survives.fieldOr (by decide) hlogging
  simp [Config.ofJson?, Config.toJson, fields, fieldOr, List.lookup_cons, hbackend, hlongevity,
    hload, hpopulate, hchained, hseed, hlogging]

/-- **A configuration survives being printed and read back.**  Whatever text a configuration was
read from, its JSON value is read as the same configuration; so is every text that writes this
value, and what is read from it is checked with the same result and has the same time left at
any time.  In particular durations survive as spans whenever their seconds fit 64 bits, and every
point in time survives as an RFC 3339 text. -/
theorem parse_printed :
    (∀ (text : String) (c : Config), parse text = .ok c →
      Config.ofJson? c.toJson = some c ∧
      ∀ printed, Json.document? printed = some c.toJson → ∃ c', parse printed = .ok c' ∧
        c' = c ∧ c'.validate = c.validate ∧
        ∀ now, c'.longevity.timeLeft now = c.longevity.timeLeft now) ∧
    (∀ d : Duration, d.secs < 2 ^ 64 → Duration.ofJson? d.toJson = some d) ∧
    ∀ t : Timestamp, t.isValid = true → Timestamp.ofJson? t.toJson = some t := by
  refine ⟨fun text c hread => ?_, fun d hd => ?_, fun t ht => ?_⟩
  · have hsurvives : Config.ofJson? c.toJson = some c := by
      unfold parse at hread
      split at hread
      · next c' hdocument =>
        obtain rfl := Except.ok.inj hread
        obtain ⟨j, -, hj⟩ := Option.bind_eq_some_iff.1 hdocument
        exact survives j _ hj
      · cases hread
    refine ⟨hsurvives, fun printed hprinted => ⟨c, ?_, rfl, rfl, fun _ => rfl⟩⟩
    rw [parse, hprinted, Option.bind_some, hsurvives]
  · simpa only [Duration.ofJson?, Duration.toJson, str?, Option.bind_some] using
      Duration.ofSpans?_spans hd
  · simpa only [Timestamp.ofJson?, Timestamp.toJson, str?, Option.bind_some] using
      Timestamp.ofText?_toZulu ht

/-- A run until the leap second at the end of 2016, watched every minute and a half. -/
def newYear : Config :=
  { longevity :=
      { deadline := some ⟨2016, 12, 31, 23, 59, 60, 500000000⟩
        monitor := { interval := .ofSecs 90 } } }

/-- Its deadline in another zone; all else is left out. -/
def newYearBriefly : String :=
  "\x7b\"longevity\": \x7b\"deadline\": \"2017-01-01T00:59:60.5+01:00\",
    \"monitor\": \x7b\"interval\": \"1m 30s\"\x7d\x7d\x7d"

/-- The whole configuration. -/
def newYearPrinted : String :=
  "\x7b\"backend\":\x7b\"container_prefix\":\"wallet_\",\"storage_type\":\"default\",
    \"storage_config\":\"\x7b\x7d\",\"credentials\":\"\x7b\\\"key\\\": \\\"key\\\"\x7d\",
    \"item_type\":\"TestType\",\"item_id_prefix\":\"record_\"\x7d,
    \"longevity\":\x7b\"total_containers\":100,\"workers\":10,\"max_items_per_container\":10,
    \"duration\":\"1m\",\"deadline\":\"2016-12-31T23:59:60.500Z\",\"status_every\":100,
    \"monitor\":\x7b\"interval\":\"1m 30s\",\"stale_after\":\"1m\"\x7d,
    \"policy\":\x7b\"always_add_max\":6,\"mixed_max\":9,\"add_probability\":0.75\x7d\x7d,
    \"load\":\x7b\"threads\":1,\"total_containers\":100,\"items_per_container\":10,
    \"action\":\"add_item\",\"payload\":\"\"\x7d,\"populate\":\x7b\"threads\":4,
    \"total_containers\":100,\"items_per_container\":10,
    \"attribute_template\":\x7b\"country\":\"Serbia\",\"name\":\"John\",\"surname\":\"Doe\"\x7d,
    \"custom_attribute_percent\":20,\"random_attribute_len\":10,\"value_len\":20\x7d,
    \"chained\":\x7b\"threads\":1,\"operations_per_thread\":100\x7d,\"seed\":null,
    \"logging\":\x7b\"level\":\"info\",\"format\":\"pretty\"\x7d\x7d"

set_option maxRecDepth 4000 in
lemma document?_newYearPrinted : Json.document? newYearPrinted = some newYear.toJson := by
  unfold newYearPrinted
  refine document?_eq (n := 936) String.toList_ofList (by decide +kernel) ?_
  decide +kernel

/-- The configuration is read from the text that leaves most of it out, and read again from the
one that it is printed as. -/
theorem parse_printed_newYear :
    parse newYearBriefly = .ok newYear ∧ parse newYearPrinted = .ok newYear := by
  have hread : parse newYearBriefly = .ok newYear := by
    decide +kernel
  obtain ⟨c', hc', rfl, -⟩ := (parse_printed.1 _ _ hread).2 _ document?_newYearPrinted
  exact ⟨hread, hc'⟩

end Config

end Soak
