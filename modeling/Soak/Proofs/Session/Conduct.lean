import Mathlib.Algebra.BigOperators.Group.List.Basic
import Mathlib.Algebra.Group.Action.Defs
import Soak.Proofs.Session.Dealings
import Soak.Proofs.Session.Memory

/-!
# Runs whose threads are tenants

The main thread of a run has the world for itself between forks; what it asks then is
answered from the world as it is.  The threads of a fork are tenants, and watchers only look
on.  `Run.ends_fork_tenants` is the rule for such a fork: every thread ends with a value, has
what its program leaves it with, and apart from the containers of the threads the store is as
it was (`World.Leaves`).
-/

namespace Soak

/-! ### What is left alone -/

section Leaves

variable {ι : Type} {st : Store} {total : Nat} {names : Set String} {s s' : World (Shared ι)}
  {t : Tenant ι}

/-- There are `total` counters, and apart from the containers of some names and from searches
that clients have opened since, the store is as it was. -/
structure World.Leaves (st : Store) (total : Nat) (names : Set String) (s : World (Shared ι)) :
    Prop where
  coherent : s.backend.Coherent
  size : s.registry.size = total
  containers : ∀ name, name ∉ names → s.backend.store.containers[name]? = st.containers[name]?
  searches : ∀ k : Int, (∀ i, (i, k) ∉ s.backend.issued) →
    s.backend.store.searches[k]? = st.searches[k]?
  issued : ∀ p ∈ s.backend.issued, st.nextHandle ≤ p.2
  nextHandle : st.nextHandle ≤ s.backend.store.nextHandle

namespace World

/-- Before anybody has taken a number, everything is as it is. -/
lemma leaves_self (hs : s.backend.Coherent) (hissued : s.backend.issued = []) :
    s.Leaves s.backend.store s.registry.size names where
  coherent := hs
  size := rfl
  containers _ _ := rfl
  searches _ _ := rfl
  issued p hp := by
    rw [hissued] at hp
    cases hp
  nextHandle := Int.le_refl _

lemma quiet_of_issued (h : s.backend.issued = []) (i : ι) : s.Quiet i := by
  intro k hk
  rw [h] at hk
  cases hk

/-- A tenant leaves alone what is not its own. -/
lemma Leaves.of_keepsTo (hs : s.Leaves st total names) (h : t.KeepsTo s s')
    (hnames : t.names ⊆ names) : s'.Leaves st total names where
  coherent := h.coherent
  size := h.size.trans hs.size
  containers name hn := (h.containers name fun hmem => hn (hnames hmem)).trans
    (hs.containers name hn)
  searches k hk := (h.searches k (hk t.client)).trans
    (hs.searches k fun i hi => hk i (h.issued _ hi))
  issued p hp := (h.fresh p hp).elim (hs.issued p) fun hle => Int.le_trans hs.nextHandle hle
  nextHandle := Int.le_trans hs.nextHandle h.nextHandle

/-- If no client has a search open, then the searches are those that there were. -/
lemma Leaves.searches_eq (hs : s.Leaves st total names) (hst : st.Coherent)
    (hquiet : ∀ i, s.Quiet i) : s.backend.store.searches = st.searches := by
  refine Std.ExtTreeMap.ext_getElem? fun k => ?_
  by_cases hk : ∃ i, (i, k) ∈ s.backend.issued
  · obtain ⟨i, hi⟩ := hk
    have hnew : k ∉ st.searches := fun hmem =>
      absurd (hst.searches_lt k hmem) (Int.not_lt.2 (hs.issued _ hi))
    rw [hquiet i k hi, getElem?_neg _ _ hnew]
  · exact hs.searches k fun i hi => hk ⟨i, hi⟩

/-- If the containers that may have changed are closed, then those that are open are those that
were. -/
lemma Leaves.opened_eq (hs : s.Leaves st total names) (hst : st.Coherent)
    (hclosed : ∀ name ∈ names, s.backend.store.holder name = st.holder name) :
    s.backend.store.opened = st.opened := by
  refine Std.ExtTreeMap.ext_getElem? fun k => Option.ext fun name => ?_
  rw [hs.coherent.store.opened_iff, hst.opened_iff]
  by_cases hn : name ∈ names
  · rw [hclosed name hn]
  · rw [Store.holder, Store.holder, hs.containers name hn]

end World

/-- A tenant opens no search for another client. -/
lemma Tenant.KeepsTo.quiet (h : t.KeepsTo s s') {i : ι} (hi : i ≠ t.client) (hq : s.Quiet i) :
    s'.Quiet i := by
  intro k hk
  rw [h.searches k fun hk' => hi (h.coherent.eq_of_issued hk hk')]
  exact hq k (h.others i k hi hk)

end Leaves

/-! ### The main thread -/

namespace World

variable {α β : Type} {clock : Reading → Prop} {s : World (Shared Client)}
  {pledge : Moves requests (World (Shared Client))} {panics : String → Prop}

/-- The duty of a client that has the world for itself. -/
def sole (pledge : Moves requests (World (Shared Client))) (panics : String → Prop) :
    Duty requests (World (Shared Client)) where
  rely s s' := s' = s
  always _ := True
  pledge := pledge
  panics := panics

lemma stable_sole (s : World (Shared Client)) : (sole pledge panics).Stable (· = s) :=
  ⟨fun _ _ => trivial, fun _ _ hs hr => hr.trans hs⟩

lemma sole_pure {a : α} {R : α → World (Shared Client) → Prop} (h : R a s) :
    (pure a : Job α).Fulfils (steady clock .main) (sole pledge panics) R s :=
  Program.fulfils_pure (· = s) (stable_sole s) rfl fun _ hs => hs ▸ h

/-- What is answered without a call to the store is within the pledge. -/
def AllowsQuestions (pledge : Moves requests (World (Shared Client))) : Prop :=
  ∀ m s s', (∀ c a, m ≠ .answered (.call c) a) → s'.backend = s.backend → pledge m s s'

lemma allowsQuestions_true : AllowsQuestions fun _ _ _ => True :=
  fun _ _ _ _ _ => trivial

/-- What leaves all containers alone but those with some names is within the pledge. -/
def AllowsChanges (names : Set String) (pledge : Moves requests (World (Shared Client))) : Prop :=
  ∀ m s s', (∀ name ∉ names,
    s'.backend.store.containers[name]? = s.backend.store.containers[name]?) → pledge m s s'

lemma AllowsChanges.questions {names : Set String} (h : AllowsChanges names pledge) :
    AllowsQuestions pledge :=
  fun m s s' _ hbackend => h m s s' fun name _ => by rw [hbackend]

lemma AllowsChanges.mono {names names' : Set String} (h : AllowsChanges names pledge)
    (hsub : names' ⊆ names) : AllowsChanges names' pledge :=
  fun m s s' hkept => h m s s' fun name hname => hkept name fun hmem => hname (hsub hmem)

/-- What the main thread asks is answered from the world as it is. -/
lemma sole_question {q : Request} (hcall : ∀ c, q ≠ .call c)
    (hpledge : AllowsQuestions pledge)
    {R : Request.Answer q → World (Shared Client) → Prop}
    (h : ∀ a s', steady clock .main (.answered q a) s s' → R a s') :
    (Program.question (I := requests) q).Fulfils (steady clock .main) (sole pledge panics) R s := by
  refine ⟨(· = s), rfl, stable_sole s, fun s₁ s₂ _ hm => ?_, ?_⟩
  · cases q with
    | call c => exact (hcall c rfl).elim
    | _ => exact hm.1.elim
  · rintro a _ s' rfl hm
    refine ⟨hpledge _ _ _ (fun c a' heq => ?_) (backend_of_answered hcall hm.1),
      sole_pure (h a s' hm)⟩
    cases heq
    exact hcall c rfl

lemma sole_clock (hpledge : AllowsQuestions pledge) :
    Job.clock.Fulfils (steady clock .main) (sole pledge panics)
      (fun now s' => clock now ∧ s' = s) s :=
  sole_question (by simp) hpledge fun now _ hm => ⟨hm.2 now rfl, hm.1⟩

lemma sole_log (hpledge : AllowsQuestions pledge) (e : Log.Entry) :
    (Job.log e).Fulfils (steady clock .main) (sole pledge panics) (fun _ s' => s' = s) s :=
  sole_question (by simp) hpledge fun _ _ hm => hm.1

lemma sole_size (hpledge : AllowsQuestions pledge) :
    (Program.question (I := requests) .size).Fulfils (steady clock .main) (sole pledge panics)
      (fun n s' => n = s.registry.size ∧ s' = s) s :=
  sole_question (by simp) hpledge fun _ _ hm => hm.1

lemma sole_peek (hpledge : AllowsQuestions pledge) (n : Nat) :
    (Program.question (I := requests) (.peek n)).Fulfils (steady clock .main)
      (sole pledge panics) (fun a s' => a = s.registry.get n ∧ s' = s) s :=
  sole_question (by simp) hpledge fun _ _ hm => hm.1

lemma sole_statuses (hpledge : AllowsQuestions pledge) :
    (Program.question (I := requests) .statuses).Fulfils (steady clock .main)
      (sole pledge panics) (fun l s' => l = s.statuses ∧ s' = s) s :=
  sole_question (by simp) hpledge fun _ _ hm => hm.1

lemma sole_freshId (hpledge : AllowsQuestions pledge) :
    (Program.question (I := requests) .freshId).Fulfils (steady clock .main)
      (sole pledge panics) (fun _ s' => s' = s) s :=
  sole_question (by simp) hpledge fun _ _ hm => hm.1

lemma sole_enrol (hpledge : AllowsQuestions pledge) (size : Nat)
    (workers : List Worker.Status) :
    (Program.question (I := requests) (.enrol size workers)).Fulfils (steady clock .main)
      (sole pledge panics)
      (fun _ s' => s' = { s with registry := .new size, statuses := workers }) s :=
  sole_question (by simp) hpledge fun _ _ hm => hm.1

/-- Questions about one thing after another. -/
lemma sole_mapM {p : α → Job β} {f : α → β}
    (h : ∀ a, (p a).Fulfils (steady clock .main) (sole pledge panics)
      (fun b s' => b = f a ∧ s' = s) s) (l : List α) :
    (l.mapM p).Fulfils (steady clock .main) (sole pledge panics)
      (fun bs s' => bs = l.map f ∧ s' = s) s := by
  induction l with
  | nil => exact sole_pure ⟨rfl, rfl⟩
  | cons a l ih =>
    rw [List.mapM_cons]
    refine (h a).then ?_
    rintro b _ ⟨rfl, rfl⟩
    refine ih.then ?_
    rintro bs _ ⟨rfl, rfl⟩
    exact sole_pure ⟨rfl, rfl⟩

/-- The world with another store. -/
def after {ι : Type} (s : World (Shared ι)) (st : Store) : World (Shared ι) :=
  { s with backend := { s.backend with store := st } }

/-- A call that takes no number is answered as the store answers it. -/
lemma sole_call {c : Call} (htakes : c.takesNumber = false) (hs : s.backend.Coherent)
    {R : c.Answer → World (Shared Client) → Prop}
    (h : (s.after (s.backend.store.answer c).2).backend.Coherent →
      pledge (.answered (.call c) (s.backend.store.answer c).1) s
          (s.after (s.backend.store.answer c).2) ∧
        R (s.backend.store.answer c).1 (s.after (s.backend.store.answer c).2)) :
    (Job.call c).Fulfils (steady clock .main) (sole pledge panics) R s := by
  refine ⟨(· = s), rfl, stable_sole s, ?_, ?_⟩
  · rintro _ _ rfl ⟨⟨b, ⟨number, step⟩, -⟩, -⟩
    cases step with
    | took free takes =>
      rw [htakes] at takes
      cases takes
  · rintro a _ _ rfl ⟨⟨b, step, rfl⟩, -⟩
    have hb := hs.step step
    obtain ⟨rfl, rfl⟩ := Shared.Step.eq_answer step hs htakes
    obtain ⟨hpledge, hR⟩ := h hb
    exact ⟨hpledge, sole_pure hR⟩

/-! ### Watchers -/

/-- The duty of a client that only looks on. -/
def onlooker : Duty requests (World (Shared Client)) where
  rely _ _ := True
  always _ := True
  pledge m s s' := s' = s ∧ ∀ c a, m ≠ .answered (.call c) a
  panics _ := False

/-- A program that only looks on, whatever it sees, and does not panic. -/
def Onlooks (clock : Reading → Prop) (i : Client) (p : Job α) : Prop :=
  ∀ s, p.Fulfils (steady clock i) onlooker (fun _ _ => True) s

variable {i : Client}

lemma stable_onlooker : onlooker.Stable fun _ => True :=
  ⟨fun _ _ => trivial, fun _ _ _ _ => trivial⟩

lemma onlooks_pure (a : α) : Onlooks clock i (pure a) :=
  fun _ => Program.fulfils_pure _ stable_onlooker trivial fun _ _ => trivial

lemma Onlooks.bind {p : Job α} {next : α → Job β} (h : Onlooks clock i p)
    (hnext : ∀ a, Onlooks clock i (next a)) : Onlooks clock i (p >>= next) :=
  fun s => (h s).then fun a s' _ => hnext a s'

/-- A question whose answer changes nothing. -/
lemma onlooks_question {q : Request} (hcall : ∀ c, q ≠ .call c)
    (hsame : ∀ a (s s' : World (Shared Client)),
      moves (Shared.service Client) i (.answered q a) s s' → s' = s) :
    Onlooks clock i (Program.question (I := requests) q) := by
  intro s
  refine ⟨fun _ => True, trivial, stable_onlooker, fun s s' _ hm => ?_, fun a s s' _ hm => ?_⟩
  · cases q with
    | call c => exact (hcall c rfl).elim
    | _ => exact hm.1.elim
  · refine ⟨⟨hsame a s s' hm.1, fun c a' heq => ?_⟩, onlooks_pure a s'⟩
    cases heq
    exact hcall c rfl

/-- The clock shows what it may. -/
lemma onlooks_clock {next : Reading → Job α} (h : ∀ now, clock now → Onlooks clock i (next now)) :
    Onlooks clock i (Job.clock >>= next) := by
  refine fun s => Program.fulfils_question _ stable_onlooker trivial
    (fun _ _ _ hm => hm.1.elim) fun now s s' _ hm => ?_
  obtain ⟨hs, hnow⟩ := hm
  exact ⟨⟨hs, by simp⟩, h now (hnow now rfl) s'⟩

lemma onlooks_log (e : Log.Entry) : Onlooks clock i (Job.log e) :=
  onlooks_question (by simp) fun _ _ _ h => h

lemma onlooks_size : Onlooks clock i (Program.question (I := requests) .size) :=
  onlooks_question (by simp) fun _ _ _ h => h.2

lemma onlooks_peek (n : Nat) : Onlooks clock i (Program.question (I := requests) (.peek n)) :=
  onlooks_question (by simp) fun _ _ _ h => h.2

lemma onlooks_statuses : Onlooks clock i (Program.question (I := requests) .statuses) :=
  onlooks_question (by simp) fun _ _ _ h => h.2

lemma onlooks_pause (time : Duration) :
    Onlooks clock i (Program.question (I := requests) (.pause time)) :=
  onlooks_question (by simp) fun _ _ _ h => h

lemma onlooks_mapM {p : α → Job β} (h : ∀ a, Onlooks clock i (p a)) (l : List α) :
    Onlooks clock i (l.mapM p) := by
  induction l with
  | nil => exact onlooks_pure []
  | cons a l ih =>
    rw [List.mapM_cons]
    exact (h a).bind fun b => ih.bind fun bs => onlooks_pure _

/-! ### Threads that are neighbours -/

/-- The threads of a fork are tenants whose things are different, with containers among `names`. -/
structure Neighbours (tenant : Nat → Tenant Client) (count : Nat) (names : Set String) : Prop where
  client : ∀ k, (tenant k).client = .thread k
  among : ∀ k < count, (tenant k).names ⊆ names
  containers : ∀ j k, j < count → k < count → j ≠ k →
    ∀ name ∈ (tenant j).names, name ∉ (tenant k).names
  slots : ∀ j k, j < count → k < count → j ≠ k → ∀ n ∈ (tenant j).slots, n ∉ (tenant k).slots

variable {tenant : Nat → Tenant Client} {count total : Nat} {names : Set String}
  {pages : Nat → Holdings → Except CallError Json → Prop}
  {keeps : Client → Moves requests (World (Shared Client))} {st : Store}

/-- The duties in a fork: the threads are tenants, and everybody else looks on. -/
def duties (tenant : Nat → Tenant Client) (pages : Nat → Holdings → Except CallError Json → Prop)
    (count : Nat) : Client → Duty requests (World (Shared Client))
  | .thread k => if k < count then (tenant k).duty (pages k) else onlooker
  | _ => onlooker

lemma duties_thread {k : Nat} (hk : k < count) :
    duties tenant pages count (.thread k) = (tenant k).duty (pages k) :=
  if_pos hk

/-- Who is no thread of the fork looks on. -/
lemma duties_of_ne (hi : ∀ k < count, i ≠ .thread k) : duties tenant pages count i = onlooker := by
  cases i with
  | thread k => exact if_neg fun hk => hi k hk rfl
  | _ => rfl

/-- There are `total` counters, the store is as it was but for what the threads may change, and
nobody else has a search open. -/
def Shelters (st : Store) (total : Nat) (names : Set String) (count : Nat)
    (s : World (Shared Client)) : Prop :=
  s.Leaves st total names ∧ ∀ i, (∀ k < count, i ≠ .thread k) → s.Quiet i

/-- The duties fit together. -/
lemma duties_fit (hn : Neighbours tenant count names)
    (htenants : ∀ k < count, ∀ m s s', s.Leaves st total names →
      ((tenant k).duty (pages k)).pledge m s s' → keeps (.thread k) m s s')
    (hlookers : ∀ i m s s', s.Leaves st total names → onlooker.pledge m s s' → keeps i m s s') :
    Duties keeps (duties tenant pages count) (Shelters st total names count) where
  rely i j m s s' hij hs hp := by
    by_cases hi : ∃ k < count, i = .thread k
    · obtain ⟨k, hk, rfl⟩ := hi
      rw [duties_thread hk]
      intro hcoherent
      by_cases hj : ∃ l < count, j = .thread l
      · obtain ⟨l, hl, rfl⟩ := hj
        rw [duties_thread hl] at hp
        have hkl : k ≠ l := fun heq => hij (heq ▸ rfl)
        exact hp.1.undisturbed (by rw [hn.client, hn.client]; exact hij)
          (hn.containers k l hk hl hkl) (hn.slots k l hk hl hkl)
      · rw [duties_of_ne fun l hl heq => hj ⟨l, hl, heq⟩] at hp
        rw [hp.1]
        exact .refl _ hcoherent
    · rw [duties_of_ne fun k hk heq => hi ⟨k, hk, heq⟩]
      exact trivial
  keeps i m s s' hs hp := by
    by_cases hi : ∃ k < count, i = .thread k
    · obtain ⟨k, hk, rfl⟩ := hi
      rw [duties_thread hk] at hp
      exact htenants k hk m s s' hs.1 hp
    · rw [duties_of_ne fun k hk heq => hi ⟨k, hk, heq⟩] at hp
      exact hlookers i m s s' hs.1 hp
  inv i m s s' hs hp := by
    by_cases hi : ∃ k < count, i = .thread k
    · obtain ⟨k, hk, rfl⟩ := hi
      rw [duties_thread hk] at hp
      refine ⟨hs.1.of_keepsTo hp.1 (hn.among k hk), fun j hj => ?_⟩
      exact hp.1.quiet (by rw [hn.client]; exact hj k hk) (hs.2 j hj)
    · rw [duties_of_ne fun k hk heq => hi ⟨k, hk, heq⟩] at hp
      exact hp.1 ▸ hs

end World

namespace Run

variable {α β γ : Type} {clock : Reading → Prop}
  {keeps : Client → Moves requests (World (Shared Client))}
  {Q : Except String α → World (Shared Client) → Prop} {s : World (Shared Client)}

/-- A program of the main thread, and what follows. -/
lemma ends_then (hclock : ∃ now, clock now) {p : Job β} {R : β → World (Shared Client) → Prop}
    {next : β → Session α}
    (h : p.Fulfils (World.steady clock .main) (World.sole (keeps .main) fun _ => False) R s)
    (hnext : ∀ b s', R b s' → (next b).Ends (World.steady clock) keeps World.underway Q s') :
    (liftM p >>= next : Session α).Ends (World.steady clock) keeps World.underway Q s := by
  refine Ends.bind (Q := fun o s' => ∃ b, o = .ok b ∧ R b s')
    (ends_program (World.responsive hclock) (fun _ _ _ hp => hp) h (fun b s' hb => ⟨b, rfl, hb⟩)
      fun message _ hm _ => hm.elim) ?_ ?_
  · rintro b s' ⟨b', hb', hb⟩
    cases hb'
    exact hnext b s' hb
  · rintro message s' ⟨b, hb, -⟩
    cases hb

/-- None of the threads panicked, and these are their values. -/
def Values (ended : List (Ended β)) (values : List β) : Prop :=
  ended.map Prod.snd = values.map .ok

/-- Threads none of which panicked are settled without a word. -/
lemma Values.settle_eq {ended : List (Ended β)} {values : List β} (h : Values ended values)
    (event : Option PanicEvent) :
    settle event ended = (pure (values, none) : Session (List β × Option RunError)) := by
  unfold Values at h
  induction ended generalizing values with
  | nil =>
    obtain rfl : values = [] := by simpa using h.symm
    rfl
  | cons e ended ih =>
    cases values with
    | nil => simp at h
    | cons v values =>
      obtain ⟨name, outcome⟩ := e
      simp only [List.map_cons, List.cons.injEq] at h
      obtain ⟨rfl, h⟩ := h
      rw [settle, ih h]
      rfl

/-- A run goes on when the threads have been settled. -/
lemma Values.ends_settle {σ : Type} {moves keeps : Client → Moves requests σ}
    {busy : Client → σ → Option Request} {Q : Except String α → σ → Prop} {s : σ}
    {ended : List (Ended β)} {values : List β} (h : Values ended values)
    {event : Option PanicEvent} {next : List β × Option RunError → Session α}
    (hnext : (next (values, none)).Ends moves keeps busy Q s) :
    (settle event ended >>= next).Ends moves keeps busy Q s := by
  rw [h.settle_eq]
  exact hnext

/-- Threads that may not panic have values. -/
lemma exists_values {ended : List (Ended β)}
    {R : Nat → β → World (Shared Client) → Prop}
    {d : Nat → Duty requests (World (Shared Client))}
    (hpanics : ∀ k < ended.length, ∀ message, ¬ (d k).panics message)
    (h : ∀ (k : Nat) (e : Ended β), ended[k]? = some e → e.Meets (d k) (R k) s) :
    ∃ values, Values ended values ∧ values.length = ended.length ∧
      ∀ (k : Nat) (a : β), values[k]? = some a → R k a s := by
  induction ended generalizing R d with
  | nil => exact ⟨[], rfl, rfl, fun k a ha => by simp at ha⟩
  | cons e ended ih =>
    obtain ⟨name, outcome⟩ := e
    have hfirst := h 0 _ rfl
    cases outcome with
    | error message => exact (hpanics 0 (by simp) message hfirst).elim
    | ok value =>
      obtain ⟨values, hvalues, hlength, hR⟩ := ih (R := fun k => R (k + 1))
        (d := fun k => d (k + 1)) (fun k hk => hpanics (k + 1) (by simpa using hk))
        fun k e he => h (k + 1) e he
      refine ⟨value :: values, by simpa [Values] using hvalues, by simp [hlength],
        fun k a ha => ?_⟩
      cases k with
      | zero =>
        cases ha
        exact hfirst
      | succ k => exact hR k a ha

/-- Shares with the same number of spans each. -/
lemma length_spans {δ : Type} {shares : List β} {spans : β → List δ} {n : Nat}
    (h : ∀ share ∈ shares, (spans share).length = n) :
    (shares.map spans).flatten.length = shares.length * n := by
  rw [List.length_flatten, List.map_map, List.sum_eq_card_nsmul _ n (by simpa using h),
    List.length_map, smul_eq_mul]

lemma forkWatched_bind (threads : List (Thread requests β)) (watchers : List (Thread requests γ))
    (next : List (Ended β) × List (Ended γ) → Session α) :
    Run.forkWatched threads watchers >>= next =
      .fork threads watchers fun ended watched => next (ended, watched) :=
  rfl

lemma forkAll_bind (threads : List (Thread requests β)) (next : List (Ended β) → Session α) :
    Run.forkAll threads >>= next =
      .fork threads ([] : List (Thread requests Unit)) fun ended _ => next ended :=
  rfl

/-- When the threads of a fork have ended, each has what its program leaves it with, and nobody has
a search open. -/
lemma exists_of_joined {tenant : Nat → Tenant Client} {count : Nat}
    {pages : Nat → Holdings → Except CallError Json → Prop} {names : Set String} {st : Store}
    {total : Nat} {R : Nat → β → Holdings → Prop} (hn : World.Neighbours tenant count names)
    {ended : List (Ended β)} {watched : List (Ended γ)} (hs : World.Shelters st total names count s)
    (hlength : ended.length = count)
    (hended : ∀ (k : Nat) (e : Ended β), ended[k]? = some e →
      e.Meets (World.duties tenant pages count (.thread k))
        (fun a s => ∃ y, (y.search = none ∧ R k a y) ∧ (tenant k).Sees y s) s)
    (hwatched : ∀ (k : Nat) (e : Ended γ), watched[k]? = some e →
      e.Meets (World.duties tenant pages count (.watcher k)) (fun _ _ => True) s) :
    ∃ values watches, Values ended values ∧ Values watched watches ∧ values.length = count ∧
      watches.length = watched.length ∧ (∀ i, s.Quiet i) ∧
        ∀ (k : Nat) (a : β), values[k]? = some a → ∃ y, R k a y ∧ (tenant k).Sees y s := by
  obtain ⟨values, hvalues, hcount, hR⟩ := exists_values (fun k hk message => by
    rw [World.duties_thread (hlength ▸ hk)]
    exact id) hended
  obtain ⟨watches, hwatches, hcount', -⟩ := exists_values (fun k hk message => id) hwatched
  refine ⟨values, watches, hvalues, hwatches, hcount.trans hlength, hcount', fun i => ?_,
    fun k a ha => ?_⟩
  · by_cases hi : ∃ k < count, i = .thread k
    · obtain ⟨k, hk, rfl⟩ := hi
      obtain ⟨y, ⟨hnone, -⟩, hsees⟩ := hR k _ (List.getElem?_eq_getElem (by rwa [hcount, hlength]))
      exact hn.client k ▸ hsees.quiet hnone
    · exact hs.2 i fun k hk heq => hi ⟨k, hk, heq⟩
  · obtain ⟨y, ⟨-, hy⟩, hsees⟩ := hR k a ha
    exact ⟨y, hy, hsees⟩

/-- **The rule for a fork of tenants.**  Every thread ends with a value and has what its program
leaves it with, and apart from the containers of the threads the store is as it was. -/
lemma ends_fork_tenants (hclock : ∃ now, clock now) {tenant : Nat → Tenant Client}
    {pages : Nat → Holdings → Except CallError Json → Prop} {names : Set String} {st : Store}
    {total : Nat} {threads : List (Thread requests β)} {watchers : List (Thread requests γ)}
    {resume : List (Ended β) → List (Ended γ) → Session α} {R : Nat → β → Holdings → Prop}
    (hn : World.Neighbours tenant threads.length names)
    (htenants : ∀ k < threads.length, ∀ m s s', s.Leaves st total names →
      ((tenant k).duty (pages k)).pledge m s s' → keeps (.thread k) m s s')
    (hlookers : ∀ i m s s', s.Leaves st total names → World.onlooker.pledge m s s' →
      keeps i m s s')
    (hs : s.Leaves st total names) (hquiet : ∀ i, s.Quiet i)
    (hthreads : ∀ (k : Nat) (t : Thread requests β), threads[k]? = some t →
      (tenant k).Does clock (pages k) t.program s.holdings fun a y => y.search = none ∧ R k a y)
    (hwatchers : ∀ (k : Nat) (t : Thread requests γ), watchers[k]? = some t →
      World.Onlooks clock (.watcher k) t.program)
    (hjoin : ∀ ended watched values watches s', Values ended values → Values watched watches →
      values.length = threads.length → watches.length = watchers.length →
      s'.Leaves st total names → (∀ i, s'.Quiet i) →
      (∀ (k : Nat) (a : β), values[k]? = some a → ∃ y, R k a y ∧ (tenant k).Sees y s') →
      (resume ended watched).Ends (World.steady clock) keeps World.underway Q s') :
    (Run.fork threads watchers resume).Ends (World.steady clock) keeps World.underway Q s := by
  refine ends_fork (World.responsive hclock) (World.duties_fit hn htenants hlookers)
    (R := fun k a s' => ∃ y, (y.search = none ∧ R k a y) ∧ (tenant k).Sees y s')
    (W := fun _ _ _ => True) ⟨hs, fun i _ => hquiet i⟩ ?_ ?_ ?_
  · intro k t ht
    have hk := (List.getElem?_eq_some_iff.1 ht).1
    have hsees := Tenant.sees_of_quiet (tenant k) hs.coherent (hquiet _)
    have hdoes := hthreads k t ht s hsees
    rw [hn.client] at hdoes
    rwa [World.duties_thread hk]
  · intro k t ht
    exact hwatchers k t ht s
  · intro ended watched s' hs' hlength hended hlength' hwatched
    obtain ⟨values, watches, hvalues, hwatches, hcount, hcount', hquiet', hR⟩ :=
      exists_of_joined hn hs' hlength hended hwatched
    exact hjoin ended watched values watches s' hvalues hwatches hcount
      (hcount'.trans hlength') hs'.1 hquiet' hR

end Run

end Soak
