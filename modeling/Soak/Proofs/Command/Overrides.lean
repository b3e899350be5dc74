import Mathlib.Tactic.Common
import Soak.Command.Overrides

/-!
# Which fields the options replace

A configuration is what its fields are (`Config.ext_read`).  `Command.Invocation.given` says
which field an option names, and what value it gives to it; `Command.Invocation.imposed` adds
the deadline, which the length of a longevity run does away with.  Options that apply at all
impose these values and leave every other field alone (`Command.Invocation.read_of_apply`),
and only a template that makes no sense keeps them from applying.
-/

namespace Soak

namespace Config

/-- A field of a configuration. -/
inductive Field where
  -- the store and the names in it
  | containerPrefix | storageType | storageConfig | credentials | itemType | itemIdPrefix
  -- the longevity run, its monitor and its policy
  | longevityContainers | longevityWorkers | maxItems | duration | deadline | statusEvery
  | scanInterval | staleAfter | policy
  -- the load run
  | loadThreads | loadContainers | loadItems | loadAction | loadPayload
  -- the bulk population
  | populateThreads | populateContainers | populateItems | template | percent
  | randomAttributeLen | valueLen
  -- the chained benchmark
  | chainedThreads | chainedOperations
  -- the master seed and the log
  | seed | logLevel | logFormat
deriving DecidableEq, Repr

/-- What a field may hold. -/
def Field.Value : Field → Type
  | containerPrefix | storageType | storageConfig | credentials | itemType | itemIdPrefix
  | loadPayload => String
  | longevityContainers | longevityWorkers | statusEvery | loadThreads | loadContainers
  | loadItems | populateThreads | populateContainers | populateItems | percent
  | randomAttributeLen | valueLen | chainedThreads | chainedOperations => Nat
  | maxItems => Int
  | duration | scanInterval | staleAfter => Duration
  | deadline => Option Timestamp
  | policy => Policy
  | loadAction => Action
  | template => Attributes
  | seed => Option Nat
  | logLevel => Log.Level
  | logFormat => Log.Format

/-- What a field holds. -/
def read (c : Config) : (f : Field) → f.Value
  | .containerPrefix => c.backend.containerPrefix
  | .storageType => c.backend.storageType
  | .storageConfig => c.backend.storageConfig
  | .credentials => c.backend.credentials
  | .itemType => c.backend.itemType
  | .itemIdPrefix => c.backend.itemIdPrefix
  | .longevityContainers => c.longevity.totalContainers
  | .longevityWorkers => c.longevity.workers
  | .maxItems => c.longevity.maxItems
  | .duration => c.longevity.duration
  | .deadline => c.longevity.deadline
  | .statusEvery => c.longevity.statusEvery
  | .scanInterval => c.longevity.monitor.interval
  | .staleAfter => c.longevity.monitor.staleAfter
  | .policy => c.longevity.policy
  | .loadThreads => c.load.threads
  | .loadContainers => c.load.totalContainers
  | .loadItems => c.load.itemsPerContainer
  | .loadAction => c.load.action
  | .loadPayload => c.load.payload
  | .populateThreads => c.populate.threads
  | .populateContainers => c.populate.totalContainers
  | .populateItems => c.populate.itemsPerContainer
  | .template => c.populate.attributeTemplate
  | .percent => c.populate.customPercent
  | .randomAttributeLen => c.populate.randomAttributeLen
  | .valueLen => c.populate.valueLen
  | .chainedThreads => c.chained.threads
  | .chainedOperations => c.chained.operationsPerThread
  | .seed => c.seed
  | .logLevel => c.logging.level
  | .logFormat => c.logging.format

attribute [ext] Config Backend Monitor Longevity Load Populate Chained Logging

/-- No part of a configuration lies outside of its fields. -/
lemma ext_read {c d : Config} (h : ∀ f, c.read f = d.read f) : c = d := by
  have hbackend : c.backend = d.backend :=
    Backend.ext (h .containerPrefix) (h .storageType) (h .storageConfig) (h .credentials)
      (h .itemType) (h .itemIdPrefix)
  have hmonitor : c.longevity.monitor = d.longevity.monitor :=
    Monitor.ext (h .scanInterval) (h .staleAfter)
  have hlongevity : c.longevity = d.longevity :=
    Longevity.ext (h .longevityContainers) (h .longevityWorkers) (h .maxItems) (h .duration)
      (h .deadline) (h .statusEvery) hmonitor (h .policy)
  have hload : c.load = d.load :=
    Load.ext (h .loadThreads) (h .loadContainers) (h .loadItems) (h .loadAction)
      (h .loadPayload)
  have hpopulate : c.populate = d.populate :=
    Populate.ext (h .populateThreads) (h .populateContainers) (h .populateItems) (h .template)
      (h .percent) (h .randomAttributeLen) (h .valueLen)
  have hchained : c.chained = d.chained :=
    Chained.ext (h .chainedThreads) (h .chainedOperations)
  have hlogging : c.logging = d.logging := Logging.ext (h .logLevel) (h .logFormat)
  exact Config.ext hbackend hlongevity hload hpopulate hchained (h .seed) hlogging

end Config

namespace Command

open Config (Field)

/-- The options of the longevity run, none if another subcommand is meant. -/
def Subcommand.longevityFlags : Subcommand → LongevityFlags
  | .longevity flags => flags
  | _ => {}

/-- The options of the load run, none if another subcommand is meant. -/
def Subcommand.loadFlags : Subcommand → LoadFlags
  | .load flags => flags
  | _ => {}

/-- The options of the bulk population, none if another subcommand is meant. -/
def Subcommand.populateFlags : Subcommand → PopulateFlags
  | .populate flags => flags
  | _ => {}

/-- The options of the chained benchmark, none if another subcommand is meant. -/
def Subcommand.chainedFlags : Subcommand → ChainedFlags
  | .chained flags => flags
  | _ => {}

/-- The value that an option of the subcommand gives to the field that it names. -/
def Subcommand.given (s : Subcommand) : (f : Field) → Option f.Value
  | .longevityContainers => s.longevityFlags.containers
  | .longevityWorkers => s.longevityFlags.workers
  | .maxItems => s.longevityFlags.maxItems
  | .duration => s.longevityFlags.duration
  | .scanInterval => s.longevityFlags.logInterval
  | .staleAfter => s.longevityFlags.staleAfter
  | .loadThreads => s.loadFlags.threads
  | .loadContainers => s.loadFlags.containers
  | .loadItems => s.loadFlags.items
  | .loadAction => s.loadFlags.action
  | .loadPayload => s.loadFlags.payload
  | .populateThreads => s.populateFlags.threads
  | .populateContainers => s.populateFlags.containers
  | .populateItems => s.populateFlags.items
  | .template => s.populateFlags.template.bind fun text => (Attributes.parse text).toOption
  | .percent => s.populateFlags.percent
  | .chainedThreads => s.chainedFlags.threads
  | .chainedOperations => s.chainedFlags.operations
  | _ => none

/-- The value that an option gives to the field that it names. -/
def Invocation.given (i : Invocation) : (f : Field) → Option f.Value
  | .seed => i.globals.seed.map some
  | f => i.subcommand.given f

/-- What an option leaves of its field, or of the deadline if it gives the length of the run. -/
def Subcommand.imposed (s : Subcommand) : (f : Field) → Option f.Value
  | .deadline => (s.given .duration).map fun _ => none
  | f => s.given f

/-- What the options leave of the fields that they change. -/
def Invocation.imposed (i : Invocation) : (f : Field) → Option f.Value
  | .seed => i.globals.seed.map some
  | f => i.subcommand.imposed f

lemma Invocation.imposed_of_ne (i : Invocation) {f : Field} (h : f ≠ .deadline) :
    i.imposed f = i.given f := by
  cases f
  case deadline => exact absurd rfl h
  all_goals rfl

/-! ### The template -/

/-- The template that is given, or the one that there was. -/
def PopulateFlags.templateOr (f : PopulateFlags) (kept : Attributes) :
    Except SetupError Attributes :=
  match f.template with
  | some text => Attributes.parse text
  | none => .ok kept

lemma PopulateFlags.apply_eq (f : PopulateFlags) (p : Config.Populate) :
    f.apply p = (f.templateOr p.attributeTemplate).map fun template => { p with
      threads := f.threads.getD p.threads
      totalContainers := f.containers.getD p.totalContainers
      itemsPerContainer := f.items.getD p.itemsPerContainer
      attributeTemplate := template
      customPercent := f.percent.getD p.customPercent } := by
  unfold PopulateFlags.apply PopulateFlags.templateOr
  cases f.template <;> rfl

lemma PopulateFlags.eq_of_templateOr {f : PopulateFlags} {kept template : Attributes}
    (h : f.templateOr kept = .ok template) :
    template = (f.template.bind fun text => (Attributes.parse text).toOption).getD kept := by
  unfold templateOr at h
  cases hgiven : f.template with
  | none =>
    rw [hgiven] at h
    exact (Except.ok.inj h).symm
  | some text =>
    rw [hgiven] at h
    rw [Option.bind_some, show Attributes.parse text = .ok template from h]
    rfl

lemma PopulateFlags.templateOr_eq_error_iff {f : PopulateFlags} {kept : Attributes}
    {e : SetupError} : f.templateOr kept = .error e ↔
      ∃ text, f.template = some text ∧ Attributes.parse text = .error e := by
  unfold templateOr
  cases f.template <;> simp

/-! ### What applying the options comes to -/

lemma map_eq_error_iff {α β : Type} {x : Except SetupError α} {g : α → β} {e : SetupError} :
    x.map g = .error e ↔ x = .error e := by
  cases x <;> simp [Except.map]

/-- Only a template that makes no sense keeps options from applying. -/
lemma Invocation.apply_eq_error_iff {i : Invocation} {c : Config} {e : SetupError} :
    i.apply c = .error e ↔ ∃ flags text, i.subcommand = .populate flags ∧
      flags.template = some text ∧ Attributes.parse text = .error e := by
  obtain ⟨globals, subcommand⟩ := i
  cases subcommand with
  | populate flags =>
    rw [Invocation.apply, Subcommand.apply, map_eq_error_iff, PopulateFlags.apply_eq,
      map_eq_error_iff, PopulateFlags.templateOr_eq_error_iff]
    simp
  | _ => simp [Invocation.apply, Subcommand.apply]

/-- A length that is given does away with a deadline. -/
lemma cleared_eq_getD {α β : Type} (given : Option α) (kept : Option β) :
    (if given.isSome then none else kept) = (given.map fun _ => none).getD kept := by
  cases given <;> rfl

lemma Subcommand.read_of_apply {s : Subcommand} {c c' : Config} (h : s.apply c = .ok c')
    (f : Field) : c'.read f = (s.imposed f).getD (c.read f) := by
  cases s with
  | longevity flags =>
    cases h
    cases f
    case deadline => exact cleared_eq_getD flags.duration c.longevity.deadline
    all_goals rfl
  | populate flags =>
    rw [Subcommand.apply, PopulateFlags.apply_eq] at h
    cases htemplate : flags.templateOr c.populate.attributeTemplate with
    | error e =>
      rw [htemplate] at h
      cases h
    | ok template =>
      rw [htemplate] at h
      cases h
      cases f
      case template => exact PopulateFlags.eq_of_templateOr htemplate
      all_goals rfl
  | _ =>
    cases h
    cases f <;> rfl

/-- A seed that is given comes first. -/
lemma or_eq_getD {α : Type} (given kept : Option α) :
    given.or kept = (given.map some).getD kept := by
  cases given <;> rfl

/-- Options that apply impose their values and leave everything else alone. -/
lemma Invocation.read_of_apply {i : Invocation} {c c' : Config} (h : i.apply c = .ok c')
    (f : Field) : c'.read f = (i.imposed f).getD (c.read f) := by
  have hread := Subcommand.read_of_apply h f
  cases f
  case seed => exact hread.trans (or_eq_getD i.globals.seed c.seed)
  all_goals exact hread

/-- Options that apply have nothing to change where they have been applied. -/
lemma Invocation.apply_of_apply {i : Invocation} {c c' : Config} (h : i.apply c = .ok c') :
    i.apply c' = .ok c' := by
  cases hagain : i.apply c' with
  | error e =>
    rw [apply_eq_error_iff.2 (apply_eq_error_iff.1 hagain)] at h
    cases h
  | ok c'' =>
    refine congrArg Except.ok (Config.ext_read fun f => ?_)
    rw [read_of_apply hagain, read_of_apply h]
    cases i.imposed f <;> rfl

namespace Invocation

/-- **Options replace exactly what they name.**  They cannot be applied exactly if they bring a
template for a population that makes no sense.  Where they are applied, a field that an option
names has the value that is given, and every other field is as it was; only a deadline gives way
to the length of a run, which then is the time that is left whatever the time is now.  No other
configuration has these fields, and to apply the same options once more changes nothing. -/
theorem options_replace_what_they_name (i : Invocation) (c : Config) :
    (∀ e, i.apply c = .error e ↔ ∃ flags text, i.subcommand = .populate flags ∧
      flags.template = some text ∧ Attributes.parse text = .error e) ∧
    ∀ c', i.apply c = .ok c' →
      (∀ f v, i.given f = some v → c'.read f = v) ∧
      (∀ f, i.given f = none → (f = .deadline → i.given .duration = none) →
        c'.read f = c.read f) ∧
      (∀ d, i.given .duration = some d →
        c'.longevity.deadline = none ∧ ∀ now, c'.longevity.timeLeft now = d) ∧
      (∀ other : Config, (∀ f, other.read f = c'.read f) → other = c') ∧
      i.apply c' = .ok c' := by
  refine ⟨fun e => apply_eq_error_iff, fun c' h => ⟨?_, ?_, ?_, fun _ => Config.ext_read,
    apply_of_apply h⟩⟩
  · intro f v hgiven
    have hne : f ≠ .deadline := by
      rintro rfl
      cases hgiven
    rw [read_of_apply h, imposed_of_ne i hne, hgiven]
    rfl
  · intro f hgiven hdeadline
    have himposed : i.imposed f = none := by
      by_cases hf : f = .deadline
      · have hduration := hdeadline hf
        subst hf
        exact congrArg (Option.map fun _ => none) hduration
      · rw [imposed_of_ne i hf, hgiven]
    rw [read_of_apply h, himposed]
    rfl
  · intro d hd
    have hdeadline : c'.longevity.deadline = none :=
      (read_of_apply h .deadline).trans
        (congrArg (fun given => (given.map fun _ => none).getD c.longevity.deadline) hd)
    have hduration : c'.longevity.duration = d :=
      (read_of_apply h .duration).trans (congrArg (fun given => given.getD c.longevity.duration) hd)
    refine ⟨hdeadline, fun now => ?_⟩
    rw [Config.Longevity.timeLeft, hdeadline]
    exact hduration

/-- Options with a seed and with a length for the longevity run. -/
def ninetySeconds : Invocation :=
  ⟨{ seed := some 9 }, .longevity { duration := some (.ofSecs 90) }⟩

/-- A configuration whose longevity run ends at a deadline. -/
def withDeadline : Config :=
  { longevity := { deadline := some ⟨2024, 1, 2, 3, 4, 5, 0⟩ } }

/-- The length takes the place of the deadline, and the workers stay. -/
theorem ninetySeconds_replace_deadline :
    ∃ c', ninetySeconds.apply withDeadline = .ok c' ∧ c'.seed = some 9 ∧
      (∀ now, c'.longevity.timeLeft now = .ofSecs 90) ∧ c'.longevity.workers = 10 ∧
      ninetySeconds.apply c' = .ok c' := by
  obtain ⟨-, hfields⟩ := options_replace_what_they_name ninetySeconds withDeadline
  obtain ⟨hgiven, hkept, hlength, -, hagain⟩ := hfields _ rfl
  refine ⟨_, rfl, hgiven .seed (some 9) rfl, (hlength (.ofSecs 90) rfl).2, ?_, hagain⟩
  exact hkept .longevityWorkers rfl (by rintro ⟨⟩)

end Invocation

end Command

end Soak
