import Soak.Proofs.Load.Books
import Soak.Proofs.Load.Prepared

/-!
# Load runs that cannot be set up

A load run that cannot be set up ends with the reason for it.  All that is wrong with its numbers
is noticed before the store is called.  The payload of its action, though, is read only when the
containers have been prepared: if it makes no sense, then the error comes after the preparation
(`Command.load_setup_errors`), and all the containers are left behind
(`Command.containers_left_behind`).
-/

namespace Soak

namespace Populate

variable {b : Config.Backend} {c : Config.Populate} {seeds : Seeds}

/-- The call that creates the container with a number. -/
def creation (b : Config.Backend) (number : Nat) : Call :=
  .createContainer (Naming.container b.containerPrefix number) b.storageType b.storageConfig
    b.credentials

/-- Whatever becomes of it, a container is filled by creating it first. -/
lemma books_container (number : Nat) (g : Generator) :
    (container b c number g).Books True fun l _ => ∃ d ∈ l, d.call = creation b number :=
  Program.books_call fun _ => (Program.books_trivial _).mono fun _ _ _ =>
    ⟨_, List.mem_cons_self, rfl⟩

/-- A thread attempts to create all of its containers, unless it panics. -/
lemma books_containers (first count : Nat) (g : Generator) :
    (containers b c first count g).Books True fun l _ =>
      ∀ n, first ≤ n → n < first + count → ∃ d ∈ l, d.call = creation b n := by
  have hloop : (inTurn (container b c) first count g).Books True fun l _ =>
      ∀ n, first ≤ n → n < first + count → ∃ d ∈ l, d.call = creation b n := by
    refine Program.books_foldRange (P := fun next l _ =>
      ∀ n, first ≤ n → n < next → ∃ d ∈ l, d.call = creation b n) (by omega) ?_
    rintro n l ⟨report, g⟩ hn - hl
    refine (books_container n g).then ?_
    rintro l' r ⟨d, hd, hcall⟩
    refine Program.books_pure fun m hm hlt => ?_
    rw [List.append_nil]
    obtain hlt | rfl := Nat.lt_succ_iff_lt_or_eq.1 hlt
    · obtain ⟨d, hd, hcall⟩ := hl m hm hlt
      exact ⟨d, List.mem_append_left _ hd, hcall⟩
    · exact ⟨d, List.mem_append_right _ hd, hcall⟩
  refine hloop.then fun l r hl => Program.books_pure ?_
  rwa [List.append_nil]

/-- Calls have been made to create all of the containers. -/
def Attempted (b : Config.Backend) (total : Nat) (log : Ledger Client) : Prop :=
  ∀ n, 1 ≤ n → n ≤ total → ∃ e ∈ log, e.dealing.call = creation b n

variable {s : World (Ledger Client)}

/-- A population either cannot be set up, and asks for nothing, or attempts to create all
containers, unless one of its threads panics. -/
lemma ends_run_attempts :
    (run b c seeds).EndsOnLedger (fun outcome s' =>
      (∀ e, outcome = .ok (.error (.setup e)) →
        c.validate = .error e ∧ s'.backend = s.backend) ∧
      ∀ r, outcome = .ok (.ok r) →
        c.validate = .ok () ∧ Attempted b c.totalContainers s'.backend) s := by
  cases hvalid : c.validate with
  | error e =>
    unfold run plan
    rw [hvalid]
    refine Run.ends_pure ⟨?_, nofun⟩
    rintro _ ⟨⟩
    exact ⟨rfl, rfl⟩
  | ok u =>
    obtain ⟨parts, hsplit⟩ := Partition.exists_split (validate_eq_ok_iff.1 hvalid).1
    obtain hlt | hle := Nat.lt_or_ge Job.maxBytes (c.threads * Partition.bytes)
    · rw [run_of_lt hvalid hlt]
      exact Run.ends_panic ⟨nofun, nofun⟩
    unfold run
    rw [plan_eq_ok hvalid hsplit hle, Run.pure_then]
    refine Run.ends_ask (q := .clock) nofun fun start s₁ hs₁ => ?_
    refine Run.ends_by_the_books True (fun p _ => books_containers (p.min + 1) p.size _)
      (fun reports s' hlength _ hreports => ?_) fun _ _ text s' => ?_
    · refine Run.ends_ask (q := .clock) nofun fun stop s₂ hs₂ => Run.ends_pure ⟨nofun, ?_⟩
      refine fun r _ => ⟨rfl, fun n hn hle => ?_⟩
      rw [hs₂]
      obtain ⟨k, hk⟩ := Partition.exists_owner hsplit (show n - 1 < c.totalContainers by omega)
      have hp := List.getElem?_eq_getElem k.isLt
      obtain ⟨hmin, hlt⟩ := (Load.mem_range_iff hsplit hp).2 ⟨hn, hk⟩
      obtain ⟨l, hl, hcreations⟩ :=
        hreports k _ _ hp (List.getElem?_eq_getElem (hlength.symm ▸ k.isLt))
      obtain ⟨d, hd, hcall⟩ := hcreations n hmin hlt
      obtain ⟨e, he, hed⟩ := Ledger.mem_of_mem_of (hl.symm ▸ List.mem_append_right _ hd)
      exact ⟨e, he, hed ▸ hcall⟩
    · refine Run.ends_ask (q := .clock) nofun fun stop s₂ hs₂ => Run.ends_pure ⟨nofun, nofun⟩

end Populate

namespace Load

variable {b : Config.Backend} {seeds : Seeds} {threads total items : Nat} {raw : String}
  {action : Action} {s : World (Ledger Client)}

/-- A load run without a plan is over at once. -/
lemma run_of_plan_error {e : SetupError}
    (h : plan b seeds threads total items raw action = pure (.error e)) :
    run b seeds threads total items raw action = pure (.error (.setup e)) := by
  unfold run
  rw [h]
  rfl

/-- So is one whose containers can be shared out, but whose payload makes no sense. -/
lemma run_of_parse_error {parts : List Partition} {e : SetupError}
    (hsplit : Partition.split total threads = .ok parts)
    (hmemory : threads * Partition.bytes ≤ Job.maxBytes)
    (hpayload : Payload.parse action raw = .error e) :
    run b seeds threads total items raw action = pure (.error (.setup e)) := by
  refine run_of_plan_error ?_
  unfold plan
  rw [Job.split_of_le hsplit hmemory, hpayload]
  rfl

/-- If there is no plan, then the containers cannot be shared out, or else the payload makes no
sense. -/
lemma error_of_plan_error {e : SetupError}
    (h : plan b seeds threads total items raw action = pure (.error e)) :
    Job.split total threads = pure (.error e) ∨
      (∃ parts, Job.split total threads = pure (.ok parts)) ∧
        Payload.parse action raw = .error e := by
  unfold plan at h
  obtain hsplit | hsplit := Job.split_cases total threads
  · rw [hsplit, pure_bind] at h
    rw [hsplit]
    cases hresult : Partition.split total threads with
    | error e' =>
      rw [hresult] at h
      cases h
      exact .inl rfl
    | ok parts =>
      rw [hresult] at h
      cases hpayload : Payload.parse action raw with
      | error e' =>
        rw [hpayload] at h
        cases h
        exact .inr ⟨⟨parts, rfl⟩, rfl⟩
      | ok payload =>
        rw [hpayload] at h
        cases h
  · rw [hsplit] at h
    cases h

/-- A plan has a thread for each part of the containers, and memory for their list. -/
lemma exists_of_plan_eq_ok {tasks : List (Thread requests Share)}
    (h : plan b seeds threads total items raw action = pure (.ok tasks)) :
    ∃ parts payload, Partition.split total threads = .ok parts ∧
      threads * Partition.bytes ≤ Job.maxBytes ∧ Payload.parse action raw = .ok payload ∧
        tasks = parts.map (thread b seeds payload items action) := by
  unfold plan at h
  cases hsplit : Partition.split total threads with
  | error e =>
    rw [Job.split_of_error hsplit] at h
    cases h
  | ok parts =>
    obtain hlt | hle := Nat.lt_or_ge Job.maxBytes (threads * Partition.bytes)
    · rw [Job.split_of_lt hsplit hlt] at h
      cases h
    · rw [Job.split_of_le hsplit hle, pure_bind] at h
      cases hpayload : Payload.parse action raw with
      | error e =>
        rw [hpayload] at h
        cases h
      | ok payload =>
        rw [hpayload] at h
        cases h
        exact ⟨parts, payload, rfl, hle, rfl, rfl⟩

/-- A load run is over at once, or it has a plan. -/
lemma plan_cases (b : Config.Backend) (seeds : Seeds) (threads total items : Nat) (raw : String)
    (action : Action) :
    (∃ e, plan b seeds threads total items raw action = pure (.error e)) ∨
      (∃ tasks, plan b seeds threads total items raw action = pure (.ok tasks)) ∨
        run b seeds threads total items raw action = .panic "capacity overflow" := by
  unfold run plan
  cases hsplit : Partition.split total threads with
  | error e =>
    rw [Job.split_of_error hsplit]
    exact .inl ⟨e, rfl⟩
  | ok parts =>
    obtain hlt | hle := Nat.lt_or_ge Job.maxBytes (threads * Partition.bytes)
    · rw [Job.split_of_lt hsplit hlt]
      exact .inr (.inr rfl)
    · rw [Job.split_of_le hsplit hle]
      cases hpayload : Payload.parse action raw with
      | error e => exact .inl ⟨e, rfl⟩
      | ok payload => exact .inr (.inl ⟨_, rfl⟩)

/-- **What a load run with a plan yields**: a summary if none of its threads panics, and no set-up
error. -/
lemma yields_run {mn : Manners requests} (hasks : ∀ q : Request, (∀ c, q ≠ .call c) → mn.asks q)
    {tasks : List (Thread requests Share)}
    (hplan : plan b seeds threads total items raw action = pure (.ok tasks)) {R : Share → Prop}
    {V : Except String (Except RunError Summary) → Prop}
    (htasks : ∀ t ∈ tasks, t.program.Yields mn R)
    (hdone : threads * Job.namedHandleBytes ≤ Job.maxBytes → ∀ shares : List Share,
      shares.length = tasks.length → (∀ share ∈ shares, R share) →
        ∀ summary, V (.ok (.ok summary)))
    (hpanicked : ∀ text, V (.ok (.error (.panicked text)))) (hpanic : ∀ text, V (.error text)) :
    (run b seeds threads total items raw action).Yields mn V := by
  unfold run
  rw [hplan, Run.pure_then]
  refine .ask (hasks .clock nofun) fun start _ => ?_
  obtain hlt | hle := Nat.lt_or_ge Job.maxBytes (threads * Job.namedHandleBytes)
  · rw [Job.reserve_of_lt hlt]
    exact .panic (hpanic _)
  rw [Job.reserve_of_le hle]
  refine Run.yields_forkAll (fun _ => hasks _ nofun) htasks (fun shares hlength hR => ?_)
    fun shares text => ?_
  · refine .ask (hasks .clock nofun) fun stop _ => .ask (hasks .freshId nofun) fun runId _ => ?_
    exact .done (hdone hle shares hlength hR _)
  · exact .ask (hasks .clock nofun) fun stop _ => .done (hpanicked text)

/-- In particular, whatever it is told. -/
lemma yields_any_run {tasks : List (Thread requests Share)}
    (hplan : plan b seeds threads total items raw action = pure (.ok tasks)) :
    (run b seeds threads total items raw action).Yields .any fun o =>
      ∀ e, o ≠ .ok (.error (.setup e)) :=
  yields_run (R := fun _ => True) (fun _ _ => trivial) hplan (fun t _ => t.program.yields_any)
    (fun _ _ _ _ _ => nofun) (fun _ => nofun) fun _ => nofun

/-- A load run whose containers can be shared out cannot be set up if its payload makes no sense,
and asks for nothing then. -/
lemma ends_run_setup (heven : Partition.checkEven total threads = .ok ()) :
    (run b seeds threads total items raw action).EndsOnLedger (fun outcome s' =>
      ∀ e, outcome = .ok (.error (.setup e)) →
        Payload.parse action raw = .error e ∧ s'.backend = s.backend) s := by
  obtain hlt | hle := Nat.lt_or_ge Job.maxBytes (threads * Partition.bytes)
  · rw [run_of_lt heven hlt]
    exact Run.ends_panic nofun
  obtain ⟨parts, hsplit⟩ := Partition.exists_split heven
  cases hpayload : Payload.parse action raw with
  | error e =>
    rw [run_of_parse_error hsplit hle hpayload]
    refine Run.ends_pure ?_
    rintro _ ⟨⟩
    exact ⟨rfl, rfl⟩
  | ok payload =>
    refine ((yields_any_run (plan_eq_ok hsplit hle hpayload)).ends_on_ledger s).mono ?_
    exact fun outcome s' ho e he => absurd he (ho e)

end Load

namespace Command

open Load (Ready)

variable {c : Config} {seeds : Seeds} {s : World (Ledger Client)}

/-- The preparation of a load run with valid numbers either has a percentage that is none, and
asks for nothing, or attempts to create all containers, unless one of its threads panics. -/
lemma ends_preparation_attempts (hvalid : c.load.validate = .ok ()) {prep : Config.Populate}
    (hprep : preparation c = some prep) :
    (Populate.run c.backend prep seeds).EndsOnLedger (fun outcome s' =>
      (∀ e, outcome = .ok (.error (.setup e)) →
        100 < c.populate.customPercent ∧ s'.backend = s.backend) ∧
      ∀ r, outcome = .ok (.ok r) → c.populate.customPercent ≤ 100 ∧
        Populate.Attempted c.backend c.load.totalContainers s'.backend) s := by
  obtain ⟨hthreads, htotal, hpercent, -⟩ := preparation_eq_some hprep
  have hiff : prep.validate = .ok () ↔ c.populate.customPercent ≤ 100 := by
    rw [Populate.validate_eq_ok_iff, hthreads, htotal, hpercent]
    exact and_iff_right hvalid
  refine Populate.ends_run_attempts.mono fun outcome s' h => ⟨fun e he => ?_, fun r hr => ?_⟩
  · obtain ⟨herror, hsame⟩ := h.1 e he
    refine ⟨Nat.lt_of_not_le fun hle => ?_, hsame⟩
    rw [hiff.2 hle] at herror
    cases herror
  · obtain ⟨hok, hattempted⟩ := h.2 r hr
    exact ⟨hiff.1 hok, htotal ▸ hattempted⟩

/-- **When a load run cannot be set up**, whatever its calls are answered.  If its action works on
containers that are there, and if the numbers of the run and of its preparation make sense, then
it is the payload that does not, and calls have been made to create all of the containers.  In
any other case, no call has been made. -/
theorem load_setup_errors (c : Config) (seeds : Seeds) (registry : Registry)
    (statuses : List Worker.Status) :
    Inevitably (World.moves (Service.ledger Client)) (fun _ _ _ _ => True)
      (fun outcome s => ∀ e, outcome = .ok (.error (.setup e)) →
        if c.load.action.needsContainers = true ∧ c.load.validate = .ok () ∧
            c.populate.customPercent ≤ 100 then
          Payload.parse c.load.action c.load.payload = .error e ∧
            Populate.Attempted c.backend c.load.totalContainers s.backend
        else s.backend = [])
      (.alone (runLoad c seeds)) ⟨[], registry, statuses⟩ := by
  refine Run.EndsOnLedger.inevitably ?_
  unfold runLoad
  cases hvalid : c.load.validate with
  | error e =>
    refine Run.ends_pure fun _ _ => ?_
    rw [if_neg (by simp)]
  | ok u =>
    cases hneeds : c.load.action.needsContainers with
    | false =>
      have hprep : preparation c = none := if_neg (by simp [hneeds])
      rw [hprep]
      refine (Load.ends_run_setup hvalid).mono fun outcome s' h e he => ?_
      rw [if_neg (by simp)]
      exact (h e he).2
    | true =>
      obtain ⟨prep, hprep⟩ : ∃ prep, preparation c = some prep := ⟨_, if_pos hneeds⟩
      rw [hprep]
      refine Run.Ends.bind (Q := fun outcome s' =>
        (∀ e, outcome = .ok (.error (.setup e)) →
          100 < c.populate.customPercent ∧ s'.backend = []) ∧
        ∀ u, outcome = .ok (.ok u) → c.populate.customPercent ≤ 100 ∧
          Populate.Attempted c.backend c.load.totalContainers s'.backend) ?_ ?_ ?_
      · refine (ends_preparation_attempts hvalid hprep).bind ?_ fun _ _ _ => ⟨nofun, nofun⟩
        rintro (e | r) s₁ ⟨herror, hok⟩
        · refine Run.ends_pure ⟨?_, nofun⟩
          rintro e ⟨⟩
          exact herror e rfl
        · exact Run.ends_pure ⟨nofun, fun _ _ => hok r rfl⟩
      · rintro (e | u) s₁ ⟨herror, hok⟩
        · refine Run.ends_pure ?_
          rintro e ⟨⟩
          obtain ⟨hpercent, hsame⟩ := herror e rfl
          rwa [if_neg fun h => absurd h.2.2 (Nat.not_le_of_lt hpercent)]
        · obtain ⟨hpercent, hattempted⟩ := hok u rfl
          refine (Load.ends_run_setup hvalid).mono fun outcome s₂ h e he => ?_
          obtain ⟨hpayload, hsame⟩ := h e he
          rw [if_pos ⟨rfl, rfl, hpercent⟩]
          exact ⟨hpayload, hsame ▸ hattempted⟩
      · exact fun _ _ _ => nofun

section Prepared

variable {st : Store} {slots : Nat} {s : World (Shared Client)}

/-- **A payload that makes no sense is noticed when all containers have been prepared.** -/
lemma ends_runLoad_of_parse_error (hvalid : c.load.validate = .ok ())
    (hpercent : c.populate.customPercent ≤ 100) (hread : c.backend.Readable) (hmemory : Fits c)
    {prep : Config.Populate} (hprep : preparation c = some prep) {e : SetupError}
    (hpayload : Payload.parse c.load.action c.load.payload = .error e)
    (hs : Ready c.backend st slots c.load.totalContainers none s) (seeds : Seeds) :
    (runLoad c seeds).Ends (World.steady fun _ => True) (fun _ _ _ _ => True) World.underway
      (fun outcome s' => outcome = .ok (.error (.setup e)) ∧
        Ready c.backend st slots c.load.totalContainers
          (c.load.action.before c.load.itemsPerContainer) s') s := by
  obtain ⟨parts, hsplit⟩ := Partition.exists_split hvalid
  unfold runLoad
  rw [hvalid, hprep]
  refine Run.Ends.bind (Q := fun outcome s' => outcome = .ok (.ok ()) ∧
    Ready c.backend st slots c.load.totalContainers
      (c.load.action.before c.load.itemsPerContainer) s') ?_ ?_ ?_
  · refine (ends_preparation hvalid hpercent hread hmemory hs hprep seeds).bind ?_ ?_
    · rintro _ s₁ ⟨⟨elapsed, ⟨⟩⟩, hs₁⟩
      exact Run.ends_pure ⟨rfl, hs₁⟩
    · rintro message s₁ ⟨⟨elapsed, ⟨⟩⟩, -⟩
  · rintro _ s₁ ⟨⟨⟩, hs₁⟩
    exact Load.run_of_parse_error hsplit hmemory.run.partitions hpayload ▸ Run.ends_pure ⟨rfl, hs₁⟩
  · rintro message s₁ ⟨⟨⟩, -⟩

end Prepared

/-- A load run on one item whose payload is no JSON text. -/
def illegible : Config where
  load := ⟨1, 1, 1, .getItem, "\x7boops"⟩

/-- A load run ends with the error that its payload makes no sense, and leaves a container with an
item behind. -/
theorem containers_left_behind :
    Inevitably (World.moves (Shared.service Client)) (fun _ _ _ _ => True)
      (fun outcome s => outcome = .ok (.error (.setup .malformed)) ∧
        s.backend.store.itemCount "wallet_1" = some 1)
      (.alone (runLoad illegible ⟨3⟩)) ⟨.start .empty, .new 0, []⟩ := by
  have hpayload : Payload.parse illegible.load.action illegible.load.payload =
      .error .malformed := by
    have hread : Json.document? illegible.load.payload = none := by
      unfold illegible
      cbv
    have hblank : Text.allBlank illegible.load.payload = false := by decide +kernel
    unfold Payload.parse Attributes.parse
    rw [hblank, hread]
    rfl
  have hfits : Fits illegible := by
    refine ⟨⟨by decide, by decide⟩, fun prep hprep => ?_⟩
    obtain rfl := Option.some.inj hprep
    exact ⟨by decide, by decide, fun _ _ => by decide⟩
  have hready : Ready {} .empty 0 1 none
      (⟨.start .empty, .new 0, []⟩ : World (Shared Client)) :=
    ⟨World.leaves_self (s := ⟨.start .empty, .new 0, []⟩)
      (Shared.coherent_start Store.coherent_empty) rfl, World.quiet_of_issued rfl,
      fun n _ _ => rfl⟩
  have hends := ends_runLoad_of_parse_error (c := illegible) rfl (by decide)
    ⟨by decide +kernel, by decide +kernel⟩ hfits rfl hpayload hready ⟨3⟩
  rw [← World.steady_true]
  refine (hends.mono fun outcome s h => ?_).inevitably fun _ => rfl
  exact ⟨h.1, (h.2.stands 1 (by decide) (by decide)).itemCount_eq⟩

end Command

end Soak
