import Soak.Load.Run
import Soak.Proofs.Load.Population
import Soak.Proofs.Session.Ledger

/-!
# The books of load runs

A load run calls a store that answers as it likes, and everything is written down; by
`Inevitably.of_recorded`, this covers every store.  `Load.Visit` says which calls are made for a
container, in which order, and how they depend on the answers.  The visits of a thread follow one
another, and what the run counts is what they consist of: `Load.Covers` is kept when shares are
joined, first within a thread and then among the threads (`Load.books_balance`).
-/

namespace Soak

/-- Whether a call opens or closes a container. -/
def Call.opensOrCloses : Call → Bool
  | openContainer .. | closeContainer .. => true
  | _ => false

/-- The container that a call names. -/
def Call.container? : Call → Option String
  | createContainer name .. | openContainer name .. | deleteContainer name .. => some name
  | _ => none

/-- Whether a call reads an item. -/
def Call.readsItem : Call → Bool
  | getItem .. => true
  | _ => false

namespace Dealing

/-- Whether a call failed, or an item that was read is `null`. -/
def failed : Dealing → Bool
  | ⟨.getItem .., .ok .null⟩ => true
  | ⟨_, .ok _⟩ => false
  | ⟨_, .error _⟩ => true

/-- Whether a container was not opened. -/
def refusesOpening : Dealing → Bool
  | ⟨.openContainer .., .error _⟩ => true
  | _ => false

lemma failed_eq {call : Call} (hcall : call.readsItem = false) (answer : call.Answer) :
    failed ⟨call, answer⟩ = !answer.isOk := by
  cases call with
  | getItem => cases hcall
  | _ => cases answer <;> rfl

lemma refusesOpening_eq_false {d : Dealing} (hd : d.call.opensOrCloses = false) :
    d.refusesOpening = false := by
  obtain ⟨call, answer⟩ := d
  cases call with
  | openContainer => cases hd
  | _ => rfl

end Dealing

namespace Action

/-- What an action on items calls for an item of an open container. -/
def itemCall? (c : LoadContext) : Action → Option (Container.Handle → String → Call)
  | addItem => some fun h id => .addItem h c.backend.itemType id c.value c.payload.attributes
  | getItem => some fun h id => .getItem h c.backend.itemType id .all
  | deleteItem => some fun h id => .deleteItem h c.backend.itemType id
  | updateItemValue => some fun h id => .updateItemValue h c.backend.itemType id c.value
  | addAttributes =>
    some fun h id => .addAttributes h c.backend.itemType id c.payload.attributes
  | updateAttributes =>
    some fun h id => .updateAttributes h c.backend.itemType id c.payload.attributes
  | deleteAttributes => some fun h id => .deleteAttributes h c.backend.itemType id c.payload.names
  | addContainer | openAndCloseContainer | deleteContainer | searchItems => none

/-- Whether a call counts as an operation: all do, apart from those that open and close the
container for the action. -/
def counts (action : Action) (d : Dealing) : Bool :=
  !(action.needsOpening && d.call.opensOrCloses)

/-- Whether a container was not opened for the action. -/
def skips (action : Action) (d : Dealing) : Bool :=
  action.needsOpening && d.refusesOpening

end Action

/-- The call that opens the container with a number. -/
abbrev LoadContext.opening (c : LoadContext) (number : Nat) : Call :=
  .openContainer (Naming.container c.backend.containerPrefix number) c.backend.credentials

namespace Load

/-- What an action asks of a container that is opened for it.  An action on items goes through
all of them, whatever it is answered; a search that was opened is read and closed. -/
inductive Body (c : LoadContext) (number : Nat) (h : Container.Handle) :
    Action → List Dealing → Prop where
  | items {action : Action} {call : Container.Handle → String → Call} {l : List Dealing}
    (hcall : action.itemCall? c = some call)
    (hl : l.map Dealing.call =
      (List.range' 1 c.items).map fun i => call h (Naming.bulkItem number i)) :
    Body c number h action l
  | notSearched (e : CallError) :
    Body c number h .searchItems
      [⟨.openSearch h c.backend.itemType c.payload.query .all, .error e⟩]
  | searched (search : Search.Handle)
    (page : (Call.fetchNextResults search (Nat.max c.items 1)).Answer)
    (closed : (Call.closeSearch search).Answer) :
    Body c number h .searchItems
      [⟨.openSearch h c.backend.itemType c.payload.query .all, .ok search⟩, ⟨_, page⟩,
        ⟨_, closed⟩]

/-- What is asked of the container with a number.  If it has to be opened, then nothing follows
an opening that fails, and one that succeeds is followed by the action and by a closing of the
same handle. -/
inductive Visit (c : LoadContext) (number : Nat) : Action → List Dealing → Prop where
  | skipped {action : Action} (hopening : action.needsOpening = true) (e : CallError) :
    Visit c number action [⟨c.opening number, .error e⟩]
  | opened {action : Action} (hopening : action.needsOpening = true) {h : Container.Handle}
    {body : List Dealing} (hbody : Body c number h action body)
    (closed : (Call.closeContainer h).Answer) :
    Visit c number action (⟨c.opening number, .ok h⟩ :: (body ++ [⟨_, closed⟩]))
  | created (answer : Except CallError Unit) :
    Visit c number .addContainer
      [⟨.createContainer (Naming.container c.backend.containerPrefix number)
        c.backend.storageType c.backend.storageConfig c.backend.credentials, answer⟩]
  | deleted (answer : Except CallError Unit) :
    Visit c number .deleteContainer
      [⟨.deleteContainer (Naming.container c.backend.containerPrefix number)
        c.backend.credentials, answer⟩]
  | notOpened (e : CallError) :
    Visit c number .openAndCloseContainer [⟨c.opening number, .error e⟩]
  | openedAndClosed (h : Container.Handle) (closed : (Call.closeContainer h).Answer) :
    Visit c number .openAndCloseContainer [⟨c.opening number, .ok h⟩, ⟨_, closed⟩]

/-- What is asked of the containers with these numbers, one after another. -/
def Visits (c : LoadContext) (action : Action) (numbers : List Nat) (l : List Dealing) : Prop :=
  ∃ visits, l = visits.flatten ∧ List.Forall₂ (fun n => Visit c n action) numbers visits

end Load

/-! ### Counting -/

namespace Tally

/-- What there is to be counted of calls that all count as operations. -/
def of (l : List Dealing) : Tally :=
  ⟨l.length, l.countP Dealing.failed⟩

lemma add_of (l l' : List Dealing) : (of l).add (of l') = of (l ++ l') := by
  simp [add, of]

lemma sum_cons (t : Tally) (rest : List Tally) : sum (t :: rest) = t.add (sum rest) := by
  have hfold (u : Tally) : rest.foldl add (t.add u) = t.add (rest.foldl add u) := by
    induction rest generalizing u with
    | nil => rfl
    | cons v rest ih =>
      have hassoc : (t.add u).add v = t.add (u.add v) := by
        simp only [add, Nat.add_assoc]
      rw [List.foldl_cons, List.foldl_cons, hassoc, ih]
  have hzero : (⟨0, 0⟩ : Tally).add t = t.add ⟨0, 0⟩ := by
    simp [add]
  exact (congrArg (rest.foldl add) hzero).trans (hfold _)

end Tally

namespace Load

/-- The share accounts for these calls, which were made for `count` containers. -/
structure Covers (action : Action) (count : Nat) (l : List Dealing) (share : Share) : Prop where
  spans : share.spans.length + l.countP action.skips = count
  operations : share.tally.operations = l.countP action.counts
  failures : share.tally.failures = l.countP Dealing.failed

namespace Covers

variable {action : Action} {count : Nat}

/-- **Shares are joined as their calls are.** -/
lemma join {ls : List (List Dealing)} {shares : List Share}
    (h : List.Forall₂ (Covers action count) ls shares) :
    Covers action (shares.length * count) ls.flatten (.join shares) := by
  induction h with
  | nil => exact ⟨by simp [Share.join], rfl, rfl⟩
  | @cons l share ls shares hfirst _ ih =>
    have hspans := hfirst.spans
    have hspans' := ih.spans
    have htally : (Share.join (share :: shares)).tally =
        share.tally.add (Share.join shares).tally :=
      Tally.sum_cons _ _
    refine ⟨?_, ?_, ?_⟩
    · simp only [Share.join, List.map_cons, List.flatten_cons, List.length_append,
        List.countP_append, List.length_cons, Nat.succ_mul] at hspans hspans' ⊢
      omega
    · rw [htally, List.flatten_cons, List.countP_append, ← hfirst.operations, ← ih.operations]
      rfl
    · rw [htally, List.flatten_cons, List.countP_append, ← hfirst.failures, ← ih.failures]
      rfl

lemma perm {l l' : List Dealing} {share : Share} (h : Covers action count l share)
    (hl : l.Perm l') : Covers action count l' share :=
  ⟨by rw [← hl.countP_eq]; exact h.spans, by rw [← hl.countP_eq]; exact h.operations,
    by rw [← hl.countP_eq]; exact h.failures⟩

end Covers

/-! ### Programs -/

variable {c : LoadContext} {action : Action} {number : Nat} {mayPanic : Prop}

/-- An answer is settled as it is counted. -/
lemma books_settle {α : Type} (target : Target) (what : String) {d : Dealing}
    {a : Except CallError α} (ha : d.failed = !a.isOk) :
    (target.settle what a).Books mayPanic fun l t => l = [] ∧ t = .of [d] := by
  cases a with
  | ok v =>
    have hd : d.failed = false := ha
    exact Program.books_pure ⟨rfl, by simp [Tally.of, hd]⟩
  | error e =>
    have hd : d.failed = true := ha
    exact Program.books_log (Program.books_pure ⟨rfl, by simp [Tally.of, hd]⟩)

lemma books_attempt {call : Call} (hcall : call.readsItem = false) (target : Target)
    (what : String) :
    (target.attempt what call).Books mayPanic fun l t =>
      ∃ answer, l = [⟨call, answer⟩] ∧ t = .of l :=
  Program.books_call fun answer =>
    (books_settle target what (Dealing.failed_eq hcall answer)).mono fun l t h =>
      ⟨answer, by rw [h.1], by rw [h.1, h.2]⟩

/-- Reading an item fails if the item is `null`. -/
lemma books_readItem (h : Container.Handle) (itemType id : String) :
    (readItem h itemType id).Books mayPanic fun l a => ∃ answer,
      l = [⟨.getItem h itemType id .all, answer⟩] ∧
        Dealing.failed ⟨.getItem h itemType id .all, answer⟩ = !a.isOk := by
  refine Program.books_call fun answer => ?_
  cases answer with
  | error e => exact Program.books_pure ⟨_, rfl, rfl⟩
  | ok value => cases value <;> exact Program.books_pure ⟨_, rfl, rfl⟩

/-- **An action on items goes through all of them**, and asks for each of them once. -/
lemma books_eachItem {call : Container.Handle → String → Call}
    (hcall : action.itemCall? c = some call) {h : Container.Handle}
    {perform : Container.Handle → String → Job (Except CallError Unit)}
    (hperform : ∀ id, (perform h id).Books mayPanic fun l a => ∃ answer,
      l = [⟨call h id, answer⟩] ∧ Dealing.failed ⟨call h id, answer⟩ = !a.isOk)
    (name what : String) :
    (Target.eachItem ⟨number, name, some h⟩ c.items what perform).Books mayPanic fun l t =>
      Body c number h action l ∧ t = .of l := by
  refine (Program.books_mapRange (P := fun i l t => (∃ answer,
    l = [⟨call h (Naming.bulkItem number i), answer⟩]) ∧ t = Tally.of l) fun i _ _ => ?_).then ?_
  · refine (hperform _).then ?_
    rintro _ a ⟨answer, rfl, hfailed⟩
    refine (books_settle _ what hfailed).mono ?_
    rintro _ t ⟨rfl, rfl⟩
    exact ⟨⟨answer, rfl⟩, rfl⟩
  · rintro _ _ ⟨parts, rfl, rfl, hparts⟩
    refine Program.books_pure ?_
    rw [List.append_nil]
    suffices h : _ ∧ _ from ⟨.items hcall h.1, h.2⟩
    generalize List.range' 1 c.items = is at hparts
    induction hparts with
    | nil => exact ⟨rfl, rfl⟩
    | @cons i part is parts hpart _ ih =>
      obtain ⟨⟨answer, hl⟩, ht⟩ := hpart
      constructor
      · rw [List.map_cons, List.flatten_cons, List.map_append, ih.1, hl]
        rfl
      · rw [List.map_cons, List.map_cons, Tally.sum_cons, ht, ih.2, Tally.add_of, List.flatten_cons]

lemma books_searchPage (name : String) (h : Container.Handle) :
    (searchPage c ⟨number, name, some h⟩).Books mayPanic fun l t =>
      Body c number h .searchItems l ∧ t = .of l := by
  refine Program.books_call fun opened => ?_
  refine (books_settle _ _ (Dealing.failed_eq rfl opened)).then ?_
  rintro _ _ ⟨rfl, rfl⟩
  cases opened with
  | error e => exact Program.books_pure ⟨.notSearched e, rfl⟩
  | ok search =>
    refine (books_attempt rfl _ _).then ?_
    rintro _ _ ⟨page, rfl, rfl⟩
    refine (books_attempt rfl _ _).then ?_
    rintro _ _ ⟨closed, rfl, rfl⟩
    refine Program.books_pure ⟨.searched search page closed, ?_⟩
    rw [Tally.add_of, Tally.add_of]
    rfl

/-- An action on a container that is opened for it. -/
lemma books_execute_open (hopening : action.needsOpening = true) (name : String)
    (h : Container.Handle) :
    (action.execute c ⟨number, name, some h⟩).Books mayPanic fun l t =>
      Body c number h action l ∧ t = .of l := by
  have hcall {call : Call} (hreads : call.readsItem = false) :
      (Job.call call).Books mayPanic fun l a =>
        ∃ answer, l = [⟨call, answer⟩] ∧ Dealing.failed ⟨call, answer⟩ = !a.isOk :=
    fun answer => ⟨answer, rfl, Dealing.failed_eq hreads answer⟩
  cases action with
  | addContainer | openAndCloseContainer | deleteContainer => cases hopening
  | getItem =>
    rw [Action.execute]
    exact books_eachItem rfl (fun id => books_readItem h _ id) name _
  | addItem | deleteItem | updateItemValue | addAttributes | updateAttributes
  | deleteAttributes =>
    rw [Action.execute]
    exact books_eachItem rfl (fun id => hcall rfl) name _
  | searchItems => exact books_searchPage name h

/-- An action on a container that is not opened for it. -/
lemma books_execute_closed (hopening : action.needsOpening = false) :
    (action.execute c ⟨number, Naming.container c.backend.containerPrefix number, none⟩).Books
      mayPanic fun l t => Visit c number action l ∧ t = .of l := by
  cases action with
  | addContainer =>
    refine (books_attempt rfl _ _).mono ?_
    rintro _ t ⟨answer, rfl, ht⟩
    exact ⟨.created answer, ht⟩
  | deleteContainer =>
    refine (books_attempt rfl _ _).mono ?_
    rintro _ t ⟨answer, rfl, ht⟩
    exact ⟨.deleted answer, ht⟩
  | openAndCloseContainer =>
    refine Program.books_call fun opened => ?_
    refine (books_settle _ _ (Dealing.failed_eq rfl opened)).then ?_
    rintro _ _ ⟨rfl, rfl⟩
    cases opened with
    | error e => exact Program.books_pure ⟨.notOpened e, rfl⟩
    | ok h =>
      refine (books_attempt rfl _ _).then ?_
      rintro _ _ ⟨closed, rfl, rfl⟩
      exact Program.books_pure ⟨.openedAndClosed h closed, Tally.add_of _ _⟩
  | _ => cases hopening

/-- An action that works on an open container neither opens nor closes one, and names none. -/
lemma Body.inside {h : Container.Handle} {l : List Dealing} (hl : Body c number h action l)
    {d : Dealing} (hd : d ∈ l) : d.call.opensOrCloses = false ∧ d.call.container? = none := by
  cases hl with
  | @items action call l hcall hl =>
    have hmem : d.call ∈ l.map Dealing.call := List.mem_map_of_mem hd
    rw [hl, List.mem_map] at hmem
    obtain ⟨i, -, hi⟩ := hmem
    rw [← hi]
    cases action with
    | addContainer | openAndCloseContainer | deleteContainer | searchItems => cases hcall
    | _ =>
      cases hcall
      exact ⟨rfl, rfl⟩
  | notSearched e =>
    obtain rfl := List.mem_singleton.1 hd
    exact ⟨rfl, rfl⟩
  | searched search page closed =>
    simp only [List.mem_cons, List.not_mem_nil, or_false] at hd
    obtain rfl | rfl | rfl := hd <;> exact ⟨rfl, rfl⟩

lemma Body.countP_skips {h : Container.Handle} {l : List Dealing}
    (hl : Body c number h action l) : l.countP action.skips = 0 :=
  List.countP_eq_zero.2 fun d hd => by
    simp [Action.skips, Dealing.refusesOpening_eq_false (hl.inside hd).1]

lemma Body.countP_counts {h : Container.Handle} {l : List Dealing}
    (hl : Body c number h action l) : l.countP action.counts = l.length :=
  List.countP_eq_length.2 fun d hd => by simp [Action.counts, (hl.inside hd).1]

/-- A share of an action for which no container is opened. -/
lemma covers_closed (hopening : action.needsOpening = false) (l : List Dealing) (span : Duration) :
    Covers action 1 l ⟨[span], .of l⟩ where
  spans := by
    rw [List.countP_eq_zero.2 fun d _ => by simp [Action.skips, hopening]]
    rfl
  operations := (List.countP_eq_length.2 fun d _ => by simp [Action.counts, hopening]).symm
  failures := rfl

/-- A share of an action between the opening and the closing of its container. -/
lemma Body.covers (hopening : action.needsOpening = true) {h : Container.Handle}
    {body : List Dealing} (hbody : Body c number h action body) (name credentials : String)
    (closed : (Call.closeContainer h).Answer) (span : Duration) :
    Covers action 1 (⟨.openContainer name credentials, .ok h⟩ :: (body ++ [⟨_, closed⟩]))
      ⟨[span], (Tally.of body).add ⟨0, (!closed.isOk).toNat⟩⟩ where
  spans := by
    simp [hbody.countP_skips, Action.skips, Dealing.refusesOpening]
  operations := by
    simp [hbody.countP_counts, Action.counts, Call.opensOrCloses, hopening, Tally.add, Tally.of]
  failures := by
    cases closed <;> simp [Tally.add, Tally.of, Dealing.failed, Except.isOk, Except.toBool]

lemma books_perform {target : Target} {P : List Dealing → Tally → Prop}
    (h : (action.execute c target).Books mayPanic P) :
    (perform c action target).Books mayPanic fun l share =>
      ∃ span t, share = ⟨[span], t⟩ ∧ P l t := by
  refine (Program.books_timed (P := fun l r => P l r.1) (h.mono fun l t hl _ => hl)).then ?_
  rintro l ⟨t, span⟩ hl
  exact Program.books_pure ⟨span, t, rfl, (List.append_nil l).symm ▸ hl⟩

/-- **The books of one container.** -/
lemma books_container (c : LoadContext) (action : Action) (number : Nat) :
    (container c action number).Books mayPanic fun l share =>
      Covers action 1 l share ∧ Visit c number action l := by
  unfold container
  cases hopening : action.needsOpening with
  | false =>
    refine (books_perform (books_execute_closed hopening)).mono ?_
    rintro l _ ⟨span, _, rfl, hl, rfl⟩
    exact ⟨covers_closed hopening l span, hl⟩
  | true =>
    refine Program.books_call fun opened => ?_
    cases opened with
    | error e =>
      refine Program.books_log (Program.books_pure ⟨⟨?_, ?_, rfl⟩, .skipped hopening e⟩)
      · simp [Action.skips, Dealing.refusesOpening, hopening]
      · simp [Action.counts, Call.opensOrCloses, hopening]
    | ok h =>
      refine (books_perform (books_execute_open hopening _ h)).then ?_
      rintro body _ ⟨span, _, rfl, hbody, rfl⟩
      refine Program.books_call fun closed => ?_
      have hcovers := hbody.covers hopening (Naming.container c.backend.containerPrefix number)
        c.backend.credentials closed span
      cases closed with
      | error e => exact Program.books_log (Program.books_pure ⟨hcovers, .opened hopening hbody _⟩)
      | ok u => exact Program.books_pure ⟨hcovers, .opened hopening hbody _⟩

/-- A thread without memory for its spans panics before it has made a call. -/
lemma containers_of_no_memory {first count : Nat} (hmemory : Job.maxBytes < count * 16) :
    containers c action first count = .panic "capacity overflow" := by
  unfold containers Job.reserveSpans Job.reserve
  rw [if_neg (Nat.not_le_of_lt hmemory)]
  rfl

/-- **The books of a thread.** -/
lemma books_containers {first count : Nat} (hmemory : count * 16 ≤ Job.maxBytes) :
    (containers c action first count).Books mayPanic fun l share =>
      Visits c action (List.range' first count) l ∧ Covers action count l share := by
  unfold containers Job.reserveSpans
  rw [Job.reserve_of_le hmemory, pure_bind]
  refine (Program.books_mapRange fun n _ _ => books_container c action n).then ?_
  rintro _ _ ⟨parts, rfl, rfl, hparts⟩
  refine Program.books_pure ?_
  rw [List.append_nil]
  have hlength : (parts.map Prod.snd).length = count := by
    rw [List.length_map, ← hparts.length_eq, List.length_range']
  have hflipped : List.Forall₂ (fun (part : List Dealing × Share) n =>
      Covers action 1 part.1 part.2 ∧ Visit c n action part.1) parts (List.range' first count) :=
    hparts.flip
  obtain ⟨hcovers, hvisits⟩ := (List.forall₂_and_left _ _).1 hflipped
  refine ⟨⟨_, rfl, List.forall₂_map_right_iff.2 hvisits.flip⟩, ?_⟩
  have hjoined : List.Forall₂ (Covers action 1) (parts.map Prod.fst) (parts.map Prod.snd) := by
    simpa only [List.forall₂_map_left_iff, List.forall₂_map_right_iff, List.forall₂_same]
  have hjoin := Covers.join hjoined
  rwa [hlength, Nat.mul_one] at hjoin

/-! ### Runs -/

/-- The container of a visit is named once, when it is created, opened or deleted. -/
lemma Visit.container?_eq {l : List Dealing} (hl : Visit c number action l) :
    (l.filterMap fun d => d.call.container?) =
      [Naming.container c.backend.containerPrefix number] := by
  cases hl with
  | opened hopening hbody closed =>
    have hnone := List.filterMap_eq_nil_iff.2 fun d hd => (hbody.inside hd).2
    rw [List.filterMap_cons, List.filterMap_append, hnone]
    rfl
  | _ => rfl

/-- The containers that are visited are named once each, in this order. -/
lemma Visits.filterMap_container? {numbers : List Nat} {l : List Dealing}
    (h : Visits c action numbers l) :
    (l.filterMap fun d => d.call.container?) =
      numbers.map (Naming.container c.backend.containerPrefix) := by
  obtain ⟨visits, rfl, h⟩ := h
  induction h with
  | nil => rfl
  | cons hvisit _ ih =>
    rw [List.flatten_cons, List.filterMap_append, hvisit.container?_eq, ih]
    rfl

/-- What the actions of a thread are given. -/
def context (b : Config.Backend) (seeds : Seeds) (payload : Payload) (items : Nat)
    (p : Partition) : LoadContext where
  backend := b
  payload := payload
  items := items
  value := ((seeds.stream p.index).alphanumeric valueLength).1

/-- **The books of a load run**: its threads visit the containers of their partitions, no
container is attempted twice, and the summary counts what was asked and answered. -/
structure Balanced (b : Config.Backend) (seeds : Seeds) (payload : Payload) (total items : Nat)
    (action : Action) (parts : List Partition) (log : Ledger Client) (summary : Summary) :
    Prop where
  clients : ∀ e ∈ log, ∃ k < parts.length, e.client = .thread k
  visits : ∀ (k : Nat) (p : Partition), parts[k]? = some p →
    Visits (context b seeds payload items p) action (List.range' (p.min + 1) p.size)
      (log.of (.thread k))
  attempts : (log.filterMap fun e => e.dealing.call.container?).Perm
    ((List.range' 1 total).map (Naming.container b.containerPrefix))
  spans : summary.spans + log.countP (fun e => action.skips e.dealing) = total
  operations : summary.operations = log.countP fun e => action.counts e.dealing
  failures : summary.failures = log.countP fun e => e.dealing.failed

section Threads

variable {b : Config.Backend} {seeds : Seeds} {payload : Payload} {threads total items : Nat}
  {parts : List Partition} {log : Ledger Client}

/-- If each thread does something for all containers of its partition, in order, then together
they do it for every container. -/
lemma filterMap_perm {β : Type} {f : Dealing → Option β} {g : Nat → β}
    (hsplit : Partition.split total threads = .ok parts)
    (hclients : ∀ e ∈ log, ∃ k < parts.length, e.client = .thread k)
    (hthreads : ∀ (k : Nat) (p : Partition), parts[k]? = some p →
      (log.of (.thread k)).filterMap f = (List.range' (p.min + 1) p.size).map g) :
    (log.filterMap fun e => f e.dealing).Perm ((List.range' 1 total).map g) := by
  obtain ⟨share, hpos, hworkers, rfl, rfl⟩ := Partition.split_eq_ok_iff.1 hsplit
  have hall := (Ledger.perm_of hclients).filterMap f
  rw [List.filterMap_map, List.filterMap_flatMap, List.length_map, List.length_range] at hall
  refine hall.trans (List.Perm.of_eq ?_)
  rw [← Partition.flatMap_range', List.map_flatMap]
  refine List.flatMap_congr fun k hk => ?_
  have hplace : ((List.range threads).map (Partition.ofShare share))[k]? =
      some (Partition.ofShare share k) := by
    simp [List.mem_range.1 hk]
  have hsize := Partition.size_of_split hsplit (List.mem_of_getElem? hplace)
  rw [Nat.mul_div_cancel_left share hworkers] at hsize
  rw [hthreads k _ hplace, hsize]
  rfl

/-- Together, the threads attempt every container once. -/
lemma attempts_perm (hsplit : Partition.split total threads = .ok parts)
    (hclients : ∀ e ∈ log, ∃ k < parts.length, e.client = .thread k)
    (hvisits : ∀ (k : Nat) (p : Partition), parts[k]? = some p →
      Visits (context b seeds payload items p) action (List.range' (p.min + 1) p.size)
        (log.of (.thread k))) :
    (log.filterMap fun e => e.dealing.call.container?).Perm
      ((List.range' 1 total).map (Naming.container b.containerPrefix)) :=
  filterMap_perm (f := fun d => d.call.container?) hsplit hclients fun k p hp =>
    (hvisits k p hp).filterMap_container?

/-- Together, the shares of the threads account for all that was asked. -/
lemma covers_total (hsplit : Partition.split total threads = .ok parts)
    (hclients : ∀ e ∈ log, ∃ k < parts.length, e.client = .thread k) {shares : List Share}
    (hlength : shares.length = parts.length)
    (hcovers : ∀ (k : Nat) (p : Partition) (share : Share), parts[k]? = some p →
      shares[k]? = some share → Covers action p.size (log.of (.thread k)) share) :
    Covers action total (log.map Ledger.Entry.dealing) (.join shares) := by
  have hthreads : List.Forall₂ (Covers action (total / threads))
      ((List.range parts.length).map fun k => log.of (.thread k)) shares := by
    refine List.forall₂_iff_get.2 ⟨by simp [hlength], fun k hk hk' => ?_⟩
    have hp := List.getElem?_eq_getElem (hlength ▸ hk')
    have hthread := hcovers k _ _ hp (List.getElem?_eq_getElem hk')
    rw [Partition.size_of_split hsplit (List.mem_of_getElem? hp)] at hthread
    simpa using hthread
  have hjoin := Covers.join hthreads
  rw [hlength, Partition.length_mul_of_split hsplit] at hjoin
  exact hjoin.perm (Ledger.perm_of hclients).symm

end Threads

/-- **The books of a load run balance**, whatever its calls are answered, and however the steps of
its threads mix.  The threads visit all of their containers in order, and so every container is
attempted once.  The summary counts as failures the calls that failed and the items that turned
out to be `null`, as operations all calls but those that open and close containers for the action,
and as spans the containers that were not skipped because they could not be opened.

There has to be memory for the handles of the threads and for the spans of each of them. -/
theorem books_balance {total threads : Nat} (hpos : 0 < total) (hdvd : threads ∣ total)
    {raw : String} {payload : Payload} (hpayload : Payload.parse action raw = .ok payload)
    (hmemory : Fits total threads) (b : Config.Backend) (seeds : Seeds) (items : Nat)
    (registry : Registry) (statuses : List Worker.Status) :
    ∃ parts, Partition.split total threads = .ok parts ∧
      Inevitably (World.moves (Service.ledger Client)) (fun _ _ _ _ => True)
        (fun outcome s => ∃ summary, outcome = .ok (.ok summary) ∧
          Balanced b seeds payload total items action parts s.backend summary)
        (.alone (run b seeds threads total items raw action)) ⟨[], registry, statuses⟩ := by
  obtain ⟨parts, hsplit⟩ := Partition.exists_split_of_dvd hpos hdvd
  refine ⟨parts, hsplit, Run.EndsOnLedger.inevitably ?_⟩
  unfold run
  rw [plan_eq_ok hsplit hmemory.partitions hpayload, Run.pure_then]
  refine Run.ends_ask (q := .clock) nofun fun start s hs => ?_
  rw [Job.reserve_of_le hmemory.handles, Run.pure_then]
  refine Run.ends_by_the_books False (R := fun p l share =>
    Visits (context b seeds payload items p) action (List.range' (p.min + 1) p.size) l ∧
      Covers action p.size l share)
    (fun p hp => ?_) (fun shares s' hlength hgrows hshares => ?_) fun h => h.elim
  · have hfits : p.size * 16 ≤ Job.maxBytes := by
      rw [Partition.size_of_split hsplit hp]
      exact hmemory.spans
    exact books_containers (c := context b seeds payload items p) hfits
  · refine Run.ends_ask (q := .clock) nofun fun stop s₁ hs₁ => ?_
    refine Run.ends_ask (q := .freshId) nofun fun runId s₂ hs₂ => ?_
    obtain ⟨log, hlog, hclients⟩ := hgrows
    rw [hs, List.nil_append] at hlog
    have hbooks (k : Nat) (p : Partition) (share : Share) (hp : parts[k]? = some p)
        (hshare : shares[k]? = some share) :
        Visits (context b seeds payload items p) action (List.range' (p.min + 1) p.size)
          (log.of (.thread k)) ∧ Covers action p.size (log.of (.thread k)) share := by
      obtain ⟨l, hl, hbooks⟩ := hshares k p share hp hshare
      rw [hlog, hs, show Ledger.of [] (Client.thread k) = [] from rfl, List.nil_append] at hl
      exact hl.symm ▸ hbooks
    have hvisits (k : Nat) (p : Partition) (hp : parts[k]? = some p) :=
      have hk := (List.getElem?_eq_some_iff.1 hp).1
      (hbooks k p _ hp (List.getElem?_eq_getElem (hlength.symm ▸ hk))).1
    have hcovers := covers_total hsplit hclients hlength fun k p share hp hshare =>
      (hbooks k p share hp hshare).2
    refine Run.ends_pure ⟨_, rfl, ?_⟩
    rw [hs₂, hs₁, hlog]
    refine ⟨hclients, hvisits, attempts_perm hsplit hclients hvisits, ?_,
      hcovers.operations.trans List.countP_map, hcovers.failures.trans List.countP_map⟩
    rw [← hcovers.spans, List.countP_map]
    rfl

/-- Two threads read three items in each of four containers.  There is a span for each container
that could be opened, and the operations are the calls that read an item. -/
theorem books_balance_reading :
    Inevitably (World.moves (Service.ledger Client)) (fun _ _ _ _ => True)
      (fun outcome s => ∃ summary, outcome = .ok (.ok summary) ∧
        summary.spans + s.backend.countP (fun e => e.dealing.refusesOpening) = 4 ∧
        summary.operations = s.backend.countP (fun e => !e.dealing.call.opensOrCloses) ∧
        Visits (context {} ⟨7⟩ { raw := "" } 3 ⟨1, 2, 3⟩) .getItem [3, 4]
          (s.backend.of (.thread 1)))
      (.alone (run {} ⟨7⟩ 2 4 3 "" .getItem)) ⟨[], .new 0, []⟩ := by
  have hpayload : Payload.parse .getItem "" = .ok { raw := "" } := rfl
  obtain ⟨parts, hsplit, hrun⟩ := books_balance (show 0 < 4 by decide) (show 2 ∣ 4 by decide)
    hpayload ⟨by decide, by decide⟩ {} ⟨7⟩ 3 (.new 0) []
  obtain rfl : [⟨0, 0, 1⟩, ⟨1, 2, 3⟩] = parts := Except.ok.inj hsplit
  refine hrun.mono (fun _ _ _ _ h => h) ?_
  rintro outcome s ⟨summary, rfl, hbooks⟩
  exact ⟨summary, rfl, hbooks.spans, hbooks.operations, hbooks.visits 1 _ rfl⟩

/-- With one thread for `2 ^ 60` containers, there is no memory for the spans: the thread panics
before it has made a call, and there is no summary.  With a thread for each of them, there is none
for the list of the partitions, and the main thread panics.  Without any containers, nothing is
shared out, although every number of threads divides zero. -/
theorem no_books_without_summary :
    Payload.parse .addContainer "" = .ok { raw := "" } ∧
      ∀ p ∈ [(1, 2 ^ 60), (2 ^ 60, 2 ^ 60), (1, 0)], p.1 ∣ p.2 ∧
        ¬ ∃ parts, Partition.split p.2 p.1 = .ok parts ∧
          Inevitably (World.moves (Service.ledger Client)) (fun _ _ _ _ => True)
            (fun outcome s => ∃ summary, outcome = .ok (.ok summary) ∧
              Balanced {} ⟨3⟩ { raw := "" } p.2 1 .addContainer parts s.backend summary)
            (.alone (run {} ⟨3⟩ p.1 p.2 1 "" .addContainer)) ⟨[], .new 0, []⟩ := by
  refine ⟨rfl, fun p hp => ?_⟩
  obtain rfl | rfl | rfl : p = (1, 2 ^ 60) ∨ p = (2 ^ 60, 2 ^ 60) ∨ p = (1, 0) := by simpa using hp
  · refine ⟨one_dvd _, ?_⟩
    rintro ⟨parts, hsplit, h⟩
    let now : Reading := ⟨.zero, default⟩
    have hends : Thread.EndsAs (thread {} ⟨3⟩ { raw := "" } 1 .addContainer ⟨0, 0, 2 ^ 60 - 1⟩)
        ("load_0-1152921504606846975", .error "capacity overflow") := by
      have hsize : Partition.size ⟨0, 0, 2 ^ 60 - 1⟩ = 2 ^ 60 := rfl
      unfold thread
      rw [hsize, containers_of_no_memory (by decide)]
      exact .panicked _ _
    -- the clock is read, and the thread is forked and panics
    have started := (h.step (.answered (a := now) rfl)).1
    have forked := (started.step .forks).1
    have joined := (forked.step (.joins (.cons hends .nil) .nil)).1
    -- the panic is logged, and the clock is read again
    have logged := (joined.step (.answered (a := ()) rfl)).1
    have stopped := (logged.step (.answered (a := now) rfl)).1
    obtain ⟨summary, hsummary, -⟩ := stopped.of_outcome rfl
    cases hsummary
  · refine ⟨Nat.dvd_refl _, ?_⟩
    rintro ⟨parts, -, h⟩
    have heven : Partition.checkEven (2 ^ 60) (2 ^ 60) = .ok () :=
      Partition.checkEven_eq_ok_iff.2 ⟨by decide, by decide, Nat.mod_self (2 ^ 60)⟩
    rw [run_of_lt heven (by decide)] at h
    obtain ⟨summary, hsummary, -⟩ := h.of_outcome rfl
    cases hsummary
  · refine ⟨one_dvd _, ?_⟩
    rintro ⟨parts, hsplit, -⟩
    cases hsplit

end Load

end Soak
