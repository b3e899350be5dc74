import Soak.Proofs.Load.Filling
import Soak.Proofs.Load.Setup

/-!
# The report of a population

A population calls a store that answers as it likes, and everything is written down; by
`Inevitably.of_recorded`, this covers every store.  `Populate.Visit` says which calls are made to
create and fill a container, and how they depend on the answers.  What is reported of calls
(`Populate.Report.of`) is additive, so the report of a thread is that of its visits, and the
report of the population that of its threads (`Populate.report_is_exact`).
-/

namespace Soak

/-- The container that a call creates. -/
def Call.created? : Call → Option String
  | createContainer name .. => some name
  | _ => none

namespace Dealing

/-- Whether a container was created. -/
def creates : Dealing → Bool
  | ⟨.createContainer .., .ok _⟩ => true
  | _ => false

/-- Whether an item was added. -/
def adds : Dealing → Bool
  | ⟨.addItem .., .ok _⟩ => true
  | _ => false

/-- Whether a call was answered with an error. -/
def refused (d : Dealing) : Bool :=
  !d.answer.isOk

end Dealing

/-- The rule for memory that is reserved. -/
lemma Program.books_reserve {α : Type} {mayPanic : Prop} {count bytes : Nat} {next : Unit → Job α}
    {P : List Dealing → α → Prop} (hmemory : ¬ count * bytes ≤ Job.maxBytes → mayPanic)
    (h : (next ()).Books mayPanic P) : (Job.reserve count bytes >>= next).Books mayPanic P := by
  unfold Job.reserve
  split
  · exact h
  · next hle => exact hmemory hle

namespace Populate

/-- What there is to report of calls: the containers that were created, the items that were
added, and the calls that were answered with an error. -/
def Report.of (l : List Dealing) : Report :=
  ⟨l.countP Dealing.creates, l.countP Dealing.adds, l.countP Dealing.refused⟩

namespace Report

lemma of_append (l l' : List Dealing) : of (l ++ l') = (of l).add (of l') := by
  simp [of, add]

lemma of_perm {l l' : List Dealing} (h : l.Perm l') : of l = of l' := by
  simp only [of, h.countP_eq]

/-- The reports of parts, one after another. -/
lemma foldl_of (ls : List (List Dealing)) (l : List Dealing) :
    (ls.map of).foldl add (of l) = of (l ++ ls.flatten) := by
  induction ls generalizing l with
  | nil => simp
  | cons l' ls ih => rw [List.map_cons, List.foldl_cons, ← of_append, ih, List.append_assoc,
      List.flatten_cons]

end Report

/-- The call that opens the container with a number. -/
abbrev opening (b : Config.Backend) (number : Nat) : Call :=
  .openContainer (Naming.container b.containerPrefix number) b.credentials

/-- What is asked to create and fill the container with a number.  It is opened if it was created.
If it was opened, then all items are added in order, whatever that is answered, and then the same
handle is closed. -/
inductive Visit (b : Config.Backend) (c : Config.Populate) (number : Nat) :
    List Dealing → Prop where
  | notCreated (e : CallError) :
    Visit b c number [⟨creation b number, .error e⟩]
  | notOpened (e : CallError) :
    Visit b c number [⟨creation b number, .ok ()⟩, ⟨opening b number, .error e⟩]
  | filled {h : Container.Handle} {value : String} {added : List Dealing}
    (hadded : List.Forall₂ (fun i (d : Dealing) => ∃ attributes,
      d.call = .addItem h b.itemType (Naming.bulkItem number i) value attributes)
      (List.range' 1 c.itemsPerContainer) added)
    (closed : (Call.closeContainer h).Answer) :
    Visit b c number
      (⟨creation b number, .ok ()⟩ :: ⟨opening b number, .ok h⟩ :: (added ++ [⟨_, closed⟩]))

/-- What is asked of the containers with these numbers, one after another. -/
def Visits (b : Config.Backend) (c : Config.Populate) (numbers : List Nat) (l : List Dealing) :
    Prop :=
  ∃ visits, l = visits.flatten ∧ List.Forall₂ (Visit b c) numbers visits

/-! ### Programs -/

variable {b : Config.Backend} {c : Config.Populate} {number : Nat} {mayPanic : Prop}

lemma books_failed (message : String) (fields : List (String × String)) (e : CallError) :
    (failed message fields e).Books mayPanic fun l r => l = [] ∧ r = ⟨0, 0, 1⟩ :=
  Program.books_log (Program.books_pure ⟨rfl, rfl⟩)

/-- The rule for reports one after another. -/
lemma books_inTurn {perform : Nat → Generator → Job (Report × Generator)}
    {V : Nat → List Dealing → Prop} {first count : Nat}
    (h : ∀ n g, first ≤ n → n < first + count →
      (perform n g).Books mayPanic fun l r => V n l ∧ r.1 = .of l) (g : Generator) :
    (inTurn perform first count g).Books mayPanic fun l r =>
      (∃ parts : List (List Dealing), l = parts.flatten ∧
        List.Forall₂ V (List.range' first count) parts) ∧ r.1 = .of l := by
  suffices hloop : (inTurn perform first count g).Books mayPanic fun l r =>
      (∃ parts : List (List Dealing), l = parts.flatten ∧
        List.Forall₂ V (List.range' first (first + count - first)) parts) ∧ r.1 = .of l by
    rwa [Nat.add_sub_cancel_left] at hloop
  refine Program.books_foldRange (P := fun next l (r : Report × Generator) =>
    (∃ parts : List (List Dealing), l = parts.flatten ∧
      List.Forall₂ V (List.range' first (next - first)) parts) ∧ r.1 = .of l)
    ⟨⟨[], rfl, by simp⟩, rfl⟩ ?_
  rintro n l ⟨report, g⟩ hn hlt ⟨⟨parts, rfl, hparts⟩, rfl⟩
  refine (h n g hn hlt).then ?_
  rintro m ⟨one, g⟩ ⟨hm, rfl⟩
  refine Program.books_pure ⟨⟨parts ++ [m], by simp, ?_⟩, ?_⟩
  · have hrange : List.range' first (n + 1 - first) = List.range' first (n - first) ++ [n] := by
      rw [Nat.succ_sub hn, List.range'_concat]
      congr 2
      omega
    rw [hrange]
    exact List.rel_append hparts (.cons hm .nil)
  · rw [List.append_nil, Report.of_append]

/-- The calls that there is one of for each number. -/
lemma forall₂_flatten_singletons {R : Nat → Dealing → Prop} {numbers : List Nat}
    {parts : List (List Dealing)}
    (h : List.Forall₂ (fun n l => ∃ d, l = [d] ∧ R n d) numbers parts) :
    List.Forall₂ R numbers parts.flatten := by
  induction h with
  | nil => exact .nil
  | cons hpart _ ih =>
    obtain ⟨d, rfl, hd⟩ := hpart
    exact .cons hd ih

/-- The books of an item. -/
lemma books_item (name value : String) (h : Container.Handle) {n : Nat}
    (hn : n < 1 + c.itemsPerContainer) (g : Generator) :
    (item b c number name value h n g).Books (¬ Fits c) fun l r =>
      (∃ d : Dealing, l = [d] ∧ ∃ attributes,
        d.call = .addItem h b.itemType (Naming.bulkItem number n) value attributes) ∧
      r.1 = .of l := by
  unfold item
  dsimp only
  split
  case' isTrue hrandom =>
    refine Program.books_reserve (fun hmemory hfits => hmemory ?_) ?_
    · rw [Nat.mul_one]
      exact hfits.attributes (by omega) (eq_false_of_ne_true hrandom.2)
  all_goals
    refine Program.books_call fun answer => ?_
    cases answer with
    | ok u => exact Program.books_pure ⟨⟨_, rfl, _, rfl⟩, rfl⟩
    | error e =>
      refine (books_failed _ _ e).then ?_
      rintro _ _ ⟨rfl, rfl⟩
      exact Program.books_pure ⟨⟨_, rfl, _, rfl⟩, rfl⟩

/-- **The books of one container.** -/
lemma books_visit (b : Config.Backend) (c : Config.Populate) (number : Nat) (g : Generator) :
    (container b c number g).Books (¬ Fits c) fun l r => Visit b c number l ∧ r.1 = .of l := by
  refine Program.books_call fun created => ?_
  cases created with
  | error e =>
    refine (books_failed _ _ e).then ?_
    rintro _ _ ⟨rfl, rfl⟩
    exact Program.books_pure ⟨.notCreated e, rfl⟩
  | ok u =>
    refine Program.books_call fun opened => ?_
    cases opened with
    | error e =>
      refine (books_failed _ _ e).then ?_
      rintro _ _ ⟨rfl, rfl⟩
      exact Program.books_pure ⟨.notOpened e, rfl⟩
    | ok h =>
      refine Program.books_reserve (fun hmemory hfits => hmemory ?_) ?_
      · rw [Nat.mul_one]
        exact hfits.value
      refine (books_inTurn (fun n g _ hlt => books_item _ _ h hlt g) _).then ?_
      rintro _ ⟨filled, g⟩ ⟨⟨parts, rfl, hparts⟩, rfl⟩
      have hadded := forall₂_flatten_singletons hparts
      have hreport (closed : (Call.closeContainer h).Answer) :
          Report.of (⟨creation b number, .ok ()⟩ :: ⟨opening b number, .ok h⟩ ::
            (parts.flatten ++ [⟨.closeContainer h, closed⟩])) =
          (({ containersCreated := 1 } : Report).add (.of parts.flatten)).add
            (.of [⟨.closeContainer h, closed⟩]) := by
        show Report.of (([⟨creation b number, .ok ()⟩, ⟨opening b number, .ok h⟩] ++
          parts.flatten) ++ [⟨.closeContainer h, closed⟩]) = _
        rw [Report.of_append, Report.of_append]
        rfl
      refine Program.books_call fun closed => ?_
      cases closed with
      | error e =>
        refine (books_failed _ _ e).then ?_
        rintro _ _ ⟨rfl, rfl⟩
        exact Program.books_pure ⟨.filled hadded (.error e), (hreport (.error e)).symm⟩
      | ok u => exact Program.books_pure ⟨.filled hadded (.ok u), (hreport (.ok u)).symm⟩

/-- **The books of a thread.** -/
lemma books_visits (first count : Nat) (g : Generator) :
    (containers b c first count g).Books (¬ Fits c) fun l r =>
      Visits b c (List.range' first count) l ∧ r = .of l := by
  refine (books_inTurn (fun n g _ _ => books_visit b c n g) g).then ?_
  rintro l ⟨report, g⟩ ⟨hvisits, rfl⟩
  rw [← List.append_nil l] at hvisits
  exact Program.books_pure ⟨hvisits, by rw [List.append_nil]⟩

/-! ### Runs -/

lemma exists_of_mem_right {α β : Type} {R : α → β → Prop} {as : List α} {bs : List β}
    (h : List.Forall₂ R as bs) {b : β} (hb : b ∈ bs) : ∃ a, R a b := by
  obtain ⟨k, hk, rfl⟩ := List.mem_iff_getElem.1 hb
  exact ⟨_, h.get (h.length_eq ▸ hk) hk⟩

/-- A container is created once in its visit. -/
lemma Visit.created?_eq {l : List Dealing} (h : Visit b c number l) :
    (l.filterMap fun d => d.call.created?) = [Naming.container b.containerPrefix number] := by
  cases h with
  | notCreated | notOpened => rfl
  | @filled h value added hadded closed =>
    have hnone : (added.filterMap fun d => d.call.created?) = [] :=
      List.filterMap_eq_nil_iff.2 fun d hd => by
        obtain ⟨i, attributes, hi⟩ := exists_of_mem_right hadded hd
        rw [hi]
        rfl
    show _ :: (added ++ _).filterMap _ = _
    rw [List.filterMap_append, hnone]
    rfl

/-- The containers that are visited are created once each, in this order. -/
lemma Visits.filterMap_created? {numbers : List Nat} {l : List Dealing}
    (h : Visits b c numbers l) : (l.filterMap fun d => d.call.created?) =
      numbers.map (Naming.container b.containerPrefix) := by
  obtain ⟨visits, rfl, h⟩ := h
  induction h with
  | nil => rfl
  | cons hvisit _ ih =>
    rw [List.flatten_cons, List.filterMap_append, hvisit.created?_eq, ih]
    rfl

/-- **The books of a population**: its threads visit the containers of their partitions and
nothing else, every container is attempted once, and the report is that of all the calls. -/
structure Accounted (b : Config.Backend) (c : Config.Populate) (parts : List Partition)
    (log : Ledger Client) (report : Report) : Prop where
  clients : ∀ e ∈ log, ∃ k < parts.length, e.client = .thread k
  visits : ∀ (k : Nat) (p : Partition), parts[k]? = some p →
    Visits b c (List.range' (p.min + 1) p.size) (log.of (.thread k))
  creations : (log.filterMap fun e => e.dealing.call.created?).Perm
    ((List.range' 1 c.totalContainers).map (Naming.container b.containerPrefix))
  report : report = .of (log.map Ledger.Entry.dealing)

/-- Together, the reports of the threads account for all that was asked. -/
lemma report_total {parts : List Partition} {log : Ledger Client}
    (hclients : ∀ e ∈ log, ∃ k < parts.length, e.client = .thread k) {reports : List Report}
    (hlength : reports.length = parts.length)
    (hreports : ∀ (k : Nat) (report : Report), reports[k]? = some report →
      report = .of (log.of (.thread k))) :
    reports.foldl Report.add {} = .of (log.map Ledger.Entry.dealing) := by
  have hthreads : reports =
      ((List.range parts.length).map fun k => log.of (.thread k)).map Report.of := by
    refine List.ext_getElem (by simp [hlength]) fun k hk hk' => ?_
    rw [hreports k _ (List.getElem?_eq_getElem hk)]
    simp
  rw [hthreads]
  refine (Report.foldl_of _ []).trans (Report.of_perm ?_)
  rw [List.nil_append, ← List.flatMap_def]
  exact (Ledger.perm_of hclients).symm

/-- **The report of a population is exact**, whatever its calls are answered, and however the steps
of its threads mix.  The threads visit all of their containers in order, and every container is
created once.  The report counts the containers that were created, the items that were added, and
the calls that were answered with an error.

If there is no memory for the list of the partitions, then the main thread panics, and if there is
none for the random texts, then another one may panic.  There is no report then. -/
theorem report_is_exact (hvalid : c.validate = .ok ()) (b : Config.Backend) (seeds : Seeds)
    (registry : Registry) (statuses : List Worker.Status) :
    ∃ parts, Partition.split c.totalContainers c.threads = .ok parts ∧
      Inevitably (World.moves (Service.ledger Client)) (fun _ _ _ _ => True)
        (fun outcome s =>
          (∃ report elapsed, outcome = .ok (.ok (report, elapsed)) ∧
            Accounted b c parts s.backend report) ∨
          ¬ Fits c ∧ ((∃ text, outcome = .ok (.error (.panicked text))) ∨
            outcome = .error "capacity overflow"))
        (.alone (run b c seeds)) ⟨[], registry, statuses⟩ := by
  obtain ⟨parts, hsplit⟩ := Partition.exists_split (validate_eq_ok_iff.1 hvalid).1
  refine ⟨parts, hsplit, Run.EndsOnLedger.inevitably ?_⟩
  rcases Nat.lt_or_ge Job.maxBytes (c.threads * Partition.bytes) with hlt | hle
  · rw [run_of_lt hvalid hlt]
    exact fun hfree => .ended rfl ⟨hfree, .inr ⟨fun hfits => absurd hfits.partitions
      (Nat.not_le.2 hlt), .inr rfl⟩⟩
  unfold run
  rw [plan_eq_ok hvalid hsplit hle, Run.pure_then]
  refine Run.ends_ask (q := .clock) nofun fun start s hs => ?_
  refine Run.ends_by_the_books (¬ Fits c)
    (fun p _ => books_visits (b := b) (p.min + 1) p.size (seeds.stream p.index))
    (fun reports s' hlength hgrows hreports => ?_) fun hmemory reports text s' => ?_
  · refine Run.ends_ask (q := .clock) nofun fun stop s₁ hs₁ => ?_
    obtain ⟨log, hlog, hclients⟩ := hgrows
    rw [hs, List.nil_append] at hlog
    have hbooks (k : Nat) (p : Partition) (report : Report) (hp : parts[k]? = some p)
        (hreport : reports[k]? = some report) :
        Visits b c (List.range' (p.min + 1) p.size) (log.of (.thread k)) ∧
          report = .of (log.of (.thread k)) := by
      obtain ⟨l, hl, hbooks⟩ := hreports k p report hp hreport
      rw [hlog, hs, show Ledger.of [] (Client.thread k) = [] from rfl, List.nil_append] at hl
      exact hl.symm ▸ hbooks
    have hvisits (k : Nat) (p : Partition) (hp : parts[k]? = some p) :=
      have hk := (List.getElem?_eq_some_iff.1 hp).1
      (hbooks k p _ hp (List.getElem?_eq_getElem (hlength.symm ▸ hk))).1
    refine Run.ends_pure (.inl ⟨_, _, rfl, ?_⟩)
    rw [hs₁, hlog]
    refine ⟨hclients, hvisits, ?_, report_total hclients hlength fun k report hreport => ?_⟩
    · exact Load.filterMap_perm (f := fun d => d.call.created?) hsplit hclients fun k p hp =>
        (hvisits k p hp).filterMap_created?
    · have hk := hlength ▸ (List.getElem?_eq_some_iff.1 hreport).1
      exact (hbooks k _ report (List.getElem?_eq_getElem hk) hreport).2
  · exact Run.ends_ask (q := .clock) nofun fun stop s₁ _ =>
      Run.ends_pure (.inr ⟨hmemory, .inl ⟨text, rfl⟩⟩)

/-- Four containers of three items each for two threads. -/
def fourOfThree : Config.Populate where
  threads := 2
  totalContainers := 4
  itemsPerContainer := 3

/-- Two threads create and fill four containers with three items each; there is memory for the
texts.  The second thread is in charge of the last two containers. -/
theorem report_of_two_threads :
    Inevitably (World.moves (Service.ledger Client)) (fun _ _ _ _ => True)
      (fun outcome s => ∃ report elapsed, outcome = .ok (.ok (report, elapsed)) ∧
        report.itemsAdded = s.backend.countP (fun e => e.dealing.adds) ∧
        report.failures = s.backend.countP (fun e => e.dealing.refused) ∧
        Visits {} fourOfThree [3, 4] (s.backend.of (.thread 1)))
      (.alone (run {} fourOfThree ⟨7⟩)) ⟨[], .new 0, []⟩ := by
  have hfits : Fits fourOfThree := ⟨by decide, by decide, fun _ _ => by decide⟩
  obtain ⟨parts, hsplit, hrun⟩ :=
    report_is_exact (c := fourOfThree) rfl {} ⟨7⟩ (.new 0) []
  obtain rfl : [⟨0, 0, 1⟩, ⟨1, 2, 3⟩] = parts := Except.ok.inj hsplit
  refine hrun.mono (fun _ _ _ _ h => h) ?_
  rintro outcome s (⟨report, elapsed, rfl, hbooks⟩ | ⟨hmemory, -⟩)
  · refine ⟨report, elapsed, rfl, ?_, ?_, hbooks.visits 1 _ rfl⟩
    · rw [hbooks.report]
      exact List.countP_map
    · rw [hbooks.report]
      exact List.countP_map
  · exact absurd hfits hmemory

/-- A configuration that makes sense, with a population that may end without an exact report. -/
def MayFail (c : Config.Populate) : Prop :=
  c.validate = .ok () ∧ ¬ ∃ parts, Partition.split c.totalContainers c.threads = .ok parts ∧
    Inevitably (World.moves (Service.ledger Client)) (fun _ _ _ _ => True)
      (fun outcome s => ∃ report elapsed, outcome = .ok (.ok (report, elapsed)) ∧
        Accounted {} c parts s.backend report)
      (.alone (run {} c ⟨3⟩)) ⟨[], .new 0, []⟩

/-- When there is no memory for the value of the items, a thread panics although its container was
created and opened, and there is no report.  When there is none for the list of the partitions,
nothing is created. -/
theorem no_report_beyond_memory : MayFail oversized ∧ MayFail crowded := by
  constructor
  · let now : Reading := ⟨.zero, default⟩
    refine ⟨rfl, ?_⟩
    rintro ⟨parts, -, h⟩
    have started := (h.step (.answered (a := now) rfl)).1
    have forked := (started.step .forks).1
    -- the container is created and opened before the thread panics
    have created := (forked.step (.thread (k := 0) rfl
      (.answered (a := (.ok () : Except CallError Unit)) ⟨_, rfl, rfl⟩))).1
    have opened := (created.step (.thread (k := 0) rfl
      (.answered (a := (.ok ⟨1⟩ : Except CallError Container.Handle)) ⟨_, rfl, rfl⟩))).1
    have joined := (opened.step (.joins (.cons (.panicked _ _) .nil) .nil)).1
    -- the panic is logged, and the clock is read again
    have logged := (joined.step (.answered (a := ()) rfl)).1
    have stopped := (logged.step (.answered (a := now) rfl)).1
    obtain ⟨report, elapsed, houtcome, -⟩ := stopped.of_outcome rfl
    cases houtcome
  · refine ⟨validate_crowded, ?_⟩
    rintro ⟨parts, -, h⟩
    rw [run_of_lt validate_crowded (by decide)] at h
    obtain ⟨report, elapsed, houtcome, -⟩ := h.of_outcome rfl
    cases houtcome

end Populate

end Soak
