import Soak.Proofs.Session.Manners

/-!
# Runs by the books

A *ledger* is a store of which nothing is known: it answers every call as it likes, and writes
down who made the call and what was answered (`Service.ledger`).  What a program writes into it
does not depend on what other threads do.  `Program.Books` says what a program has asked and been
told when it ends, whatever it was told; it is proved along the program, and
`Run.ends_by_the_books` brings together the books of the threads of a fork.

The ledger stands for all stores: if the dealings of any other one are written down
(`Service.recorded`), then what is inevitable on a ledger holds of them whenever the run has ended
(`Inevitably.of_recorded`).
-/

namespace Soak

/-- A call with its answer. -/
structure Dealing where
  /-- The call. -/
  call : Call
  /-- The answer. -/
  answer : call.Answer

/-- A call with its answer, and the client that made it. -/
structure Ledger.Entry (ι : Type) where
  /-- The client. -/
  client : ι
  /-- The call with its answer. -/
  dealing : Dealing

/-- Everything that a store was asked, in the order of the answers. -/
abbrev Ledger (ι : Type) : Type :=
  List (Ledger.Entry ι)

/-- A store that answers as it likes and writes everything down. -/
def Service.ledger (ι : Type) : Service ι (Ledger ι) where
  prepares _ _ _ _ := False
  answers i c a l l' := l' = l ++ [⟨i, c, a⟩]

namespace Ledger

open scoped List

variable {ι : Type} {writers : ι → Prop} {l l' l'' : Ledger ι} {i j : ι}

/-- Entries of some clients were added. -/
def Grows (writers : ι → Prop) (l l' : Ledger ι) : Prop :=
  ∃ new, l' = l ++ new ∧ ∀ e ∈ new, writers e.client

lemma Grows.refl (l : Ledger ι) : Grows writers l l :=
  ⟨[], (List.append_nil l).symm, by simp⟩

lemma Grows.trans (h : Grows writers l l') (h' : Grows writers l' l'') : Grows writers l l'' := by
  obtain ⟨new, rfl, hnew⟩ := h
  obtain ⟨new', rfl, hnew'⟩ := h'
  refine ⟨new ++ new', List.append_assoc _ _ _, fun e he => ?_⟩
  exact (List.mem_append.1 he).elim (hnew e) (hnew' e)

variable [DecidableEq ι]

/-- What a client has asked and been told. -/
def of (l : Ledger ι) (i : ι) : List Dealing :=
  (l.filter (·.client = i)).map Entry.dealing

lemma of_append (l l' : Ledger ι) (i : ι) : (l ++ l').of i = l.of i ++ l'.of i := by
  simp [of]

@[simp] lemma of_singleton_self (d : Dealing) : of [⟨i, d⟩] i = [d] := by
  simp [of]

lemma mem_of_mem_of {d : Dealing} (h : d ∈ l.of i) : ∃ e ∈ l, e.dealing = d := by
  obtain ⟨e, he, hd⟩ := List.mem_map.1 h
  exact ⟨e, List.mem_of_mem_filter he, hd⟩

/-- Entries of others are not a client's own. -/
lemma Grows.of_eq (h : Grows (fun j => writers j ∧ j ≠ i) l l') : l'.of i = l.of i := by
  obtain ⟨new, rfl, hnew⟩ := h
  have hnone : new.filter (·.client = i) = [] :=
    List.filter_eq_nil_iff.2 fun e he => by simpa using (hnew e he).2
  rw [of_append, of, of, hnone, List.map_nil, List.append_nil]

/-- **All that was asked, client by client.** -/
lemma perm_of {l : Ledger Client} {count : Nat}
    (h : ∀ e ∈ l, ∃ k < count, e.client = .thread k) :
    (l.map Entry.dealing).Perm ((List.range count).flatMap fun k => l.of (.thread k)) := by
  induction count generalizing l with
  | zero =>
    cases l with
    | nil => rfl
    | cons e l =>
      obtain ⟨k, hk, -⟩ := h e List.mem_cons_self
      omega
  | succ count ih =>
    let own : Entry Client → Bool := fun e => e.client = .thread count
    have hothers := ih (l := l.filter fun e => !own e) fun e he => by
      obtain ⟨hmem, hother⟩ := List.mem_filter.1 he
      obtain ⟨k, hk, hclient⟩ := h e hmem
      refine ⟨k, Nat.lt_of_le_of_ne (Nat.le_of_lt_succ hk) ?_, hclient⟩
      rintro rfl
      simp [own, hclient] at hother
    have hsame : ∀ k ∈ List.range count,
        of (l.filter fun e => !own e) (.thread k) = l.of (.thread k) := by
      intro k hk
      have hne : k ≠ count := (List.mem_range.1 hk).ne
      simp only [of, List.filter_filter]
      congr 1
      refine List.filter_congr fun e _ => ?_
      by_cases he : e.client = .thread k <;> simp [own, he, hne]
    rw [List.range_succ, List.flatMap_append, List.flatMap_singleton]
    calc l.map Entry.dealing
      _ ~ ((l.filter fun e => !own e) ++ l.filter own).map Entry.dealing :=
          ((List.filter_append_perm own l).symm.trans List.perm_append_comm).map _
      _ = (l.filter fun e => !own e).map Entry.dealing ++ l.of (.thread count) :=
          List.map_append
      _ ~ _ := by
          refine (hothers.trans (List.Perm.of_eq ?_)).append_right _
          exact List.flatMap_congr hsame

end Ledger

/-! ### Programs -/

namespace Program

variable {α β : Type} {mayPanic : Prop}

/-- Whatever the program is told, it ends with a value, unless it may panic, and `P` holds of
what it has asked the store and been told, and of the value. -/
def Books (mayPanic : Prop) : Program requests α → (List Dealing → α → Prop) → Prop
  | .done a, P => P [] a
  | .ask (.call c) resume, P => ∀ answer, (resume answer).Books mayPanic
      fun l a => P (⟨c, answer⟩ :: l) a
  | .ask _ resume, P => ∀ answer, (resume answer).Books mayPanic P
  | .panic _, _ => mayPanic

lemma books_ask {q : Request} (hq : ∀ c, q ≠ .call c) {resume : q.Answer → Job α}
    {P : List Dealing → α → Prop} :
    (Program.ask (I := requests) q resume).Books mayPanic P ↔
      ∀ answer, (resume answer).Books mayPanic P := by
  cases q with
  | call c => exact absurd rfl (hq c)
  | _ => exact Iff.rfl

lemma Books.mono {p : Job α} {P P' : List Dealing → α → Prop} (h : p.Books mayPanic P)
    (hP : ∀ l a, P l a → P' l a) : p.Books mayPanic P' := by
  induction p generalizing P P' with
  | done a => exact hP [] a h
  | panic message => exact h
  | ask q resume ih =>
    by_cases hq : ∃ c, q = .call c
    · obtain ⟨c, rfl⟩ := hq
      exact fun answer => ih answer (h answer) fun l a => hP _ a
    · have hq : ∀ c, q ≠ .call c := fun c hc => hq ⟨c, hc⟩
      exact (books_ask hq).2 fun answer => ih answer ((books_ask hq).1 h answer) hP

/-- The rule for programs one after another. -/
lemma Books.bind {p : Job α} {next : α → Job β} {P : List Dealing → β → Prop}
    (h : p.Books mayPanic fun l a => (next a).Books mayPanic fun m b => P (l ++ m) b) :
    (p >>= next).Books mayPanic P := by
  induction p generalizing P with
  | done a => exact h
  | panic message => exact h
  | ask q resume ih =>
    by_cases hq : ∃ c, q = .call c
    · obtain ⟨c, rfl⟩ := hq
      exact fun answer => ih answer (h answer)
    · have hq : ∀ c, q ≠ .call c := fun c hc => hq ⟨c, hc⟩
      exact (books_ask hq).2 fun answer => ih answer ((books_ask hq).1 h answer)

/-- The rule for a program of which it is known what it asks. -/
lemma Books.then {p : Job α} {next : α → Job β} {R : List Dealing → α → Prop}
    {P : List Dealing → β → Prop} (h : p.Books mayPanic R)
    (hnext : ∀ l a, R l a → (next a).Books mayPanic fun m b => P (l ++ m) b) :
    (p >>= next).Books mayPanic P :=
  (h.mono hnext).bind

/-- The rule for the end of a program. -/
lemma books_pure {a : α} {P : List Dealing → α → Prop} (h : P [] a) :
    (pure a : Job α).Books mayPanic P :=
  h

/-- The rule for a call. -/
lemma books_call {c : Call} {next : c.Answer → Job α} {P : List Dealing → α → Prop}
    (h : ∀ answer, (next answer).Books mayPanic fun l a => P (⟨c, answer⟩ :: l) a) :
    (Job.call c >>= next).Books mayPanic P :=
  h

/-- The rule for a log entry. -/
lemma books_log {message : String} {fields : List (String × String)} {next : Unit → Job α}
    {P : List Dealing → α → Prop} (h : (next ()).Books mayPanic P) :
    (Job.logError message fields >>= next).Books mayPanic P :=
  fun _ => h

/-- The rule for a program that is timed. -/
lemma books_timed {p : Job α} {P : List Dealing → α × Duration → Prop}
    (h : p.Books mayPanic fun l a => ∀ time, P l (a, time)) :
    (Job.timed p).Books mayPanic P :=
  fun start => h.then fun l a ha stop => by
    show P (l ++ []) (a, _)
    rw [List.append_nil]
    exact ha _

/-- Every program does something. -/
lemma books_trivial (p : Job α) : p.Books True fun _ _ => True := by
  induction p with
  | done a => exact trivial
  | panic message => exact trivial
  | ask q resume ih =>
    cases q with
    | call c => exact ih
    | _ => exact ih

/-- **The rule for a loop**, with an invariant of what has been asked so far. -/
lemma books_foldRange {step : α → Nat → Job α} {P : Nat → List Dealing → α → Prop}
    {first count : Nat} {a : α} (hfirst : P first [] a)
    (hstep : ∀ n l a, first ≤ n → n < first + count → P n l a →
      (step a n).Books mayPanic fun m b => P (n + 1) (l ++ m) b) :
    (foldRange step first count a).Books mayPanic (P (first + count)) := by
  induction count generalizing first a P with
  | zero => exact hfirst
  | succ count ih =>
    refine (hstep first [] a (Nat.le_refl _) (by omega) hfirst).then fun l b hb => ?_
    have hnext : P (first + 1) (l ++ []) b := by rwa [List.append_nil]
    have hrest := ih (P := fun n m c => P n (l ++ m) c) hnext fun n m c hn hlt hc => by
      simpa only [List.append_assoc] using hstep n _ c (by omega) (by omega) hc
    rwa [Nat.add_right_comm] at hrest

/-- The rule for values one after another, with what was asked for each of them. -/
lemma books_mapRange {perform : Nat → Job α} {P : Nat → List Dealing → α → Prop}
    {first count : Nat}
    (h : ∀ n, first ≤ n → n < first + count → (perform n).Books mayPanic (P n)) :
    (mapRange perform first count).Books mayPanic fun l as => ∃ parts : List (List Dealing × α),
      l = (parts.map Prod.fst).flatten ∧ as = parts.map Prod.snd ∧
        List.Forall₂ (fun n part => P n part.1 part.2) (List.range' first count) parts := by
  rw [mapRange_eq_mapM]
  induction count generalizing first with
  | zero => exact ⟨[], rfl, rfl, .nil⟩
  | succ count ih =>
    rw [List.range'_succ, List.mapM_cons]
    refine (h first (Nat.le_refl _) (by omega)).then fun l a ha => ?_
    refine (ih fun n hn hlt => h n (by omega) (by omega)).then ?_
    rintro m as ⟨parts, rfl, rfl, hparts⟩
    exact books_pure ⟨(l, a) :: parts, by simp, rfl, .cons ha hparts⟩

end Program

/-! ### Threads -/

namespace World

variable {ι : Type}

/-- Every question is answered at once. -/
lemma responsive_ledger :
    Responsive (moves (Service.ledger ι)) fun _ _ => (none : Option Request) where
  prepared i q s s' h := by
    cases q with
    | call c =>
      obtain ⟨b, hb, -⟩ := h
      exact hb.elim
    | _ => exact h.elim
  answered _ _ _ _ _ _ _ := rfl
  others _ _ _ _ _ _ _ := rfl
  enabled i q s _ := by
    by_cases hq : ∃ c, q = .call c
    · obtain ⟨c, rfl⟩ := hq
      exact .inr ⟨.error (.io ""), _, _, rfl, rfl⟩
    · exact .inr (exists_answer (fun c hc => hq ⟨c, hc⟩) s)

/-- Nothing happens before an answer. -/
lemma not_prepared {i : ι} {q : Request} {s s' : World (Ledger ι)} :
    ¬ moves (Service.ledger ι) i (.prepared q) s s' :=
  fun h => absurd (responsive_ledger.prepared i q s s' h).2 nofun

variable [DecidableEq ι]

/-- The duty of a client that keeps to its own entries. -/
def scribe (writers : ι → Prop) (mayPanic : Prop) (i : ι) : Duty requests (World (Ledger ι)) where
  rely s s' := s'.backend.of i = s.backend.of i
  always _ := True
  pledge _ s s' := Ledger.Grows (fun j => writers j ∧ j = i) s.backend s'.backend
  panics _ := mayPanic

/-- What a client has written stays. -/
lemma stable_scribe (writers : ι → Prop) (mayPanic : Prop) {i : ι} (past : List Dealing) :
    (scribe writers mayPanic i).Stable fun s => s.backend.of i = past :=
  ⟨fun _ _ => trivial, fun _ _ hs hr => Eq.trans hr hs⟩

/-- The duties of clients fit together. -/
lemma duties_scribe (mayPanic : Prop) (l : Ledger Client) (writers : Client → Prop) :
    Duties (fun _ _ _ _ => True) (scribe writers mayPanic)
      fun s => Ledger.Grows writers l s.backend where
  rely i j m s s' hij _ h := by
    obtain ⟨new, hnew, hwriters⟩ := h
    have hothers : Ledger.Grows (fun k => writers k ∧ k ≠ i) s.backend s'.backend :=
      ⟨new, hnew, fun e he => ⟨(hwriters e he).1, fun heq => hij (heq ▸ (hwriters e he).2)⟩⟩
    exact hothers.of_eq
  keeps _ _ _ _ _ _ := trivial
  inv i m s s' hs h := by
    obtain ⟨new, hnew, hwriters⟩ := h
    exact hs.trans ⟨new, hnew, fun e he => (hwriters e he).1⟩

end World

namespace Program

variable {ι α : Type} [DecidableEq ι] {s : World (Ledger ι)} {writers : ι → Prop} {mayPanic : Prop}

/-- What a program asks is what its client writes. -/
lemma Books.fulfils {p : Job α} {P : List Dealing → α → Prop} {i : ι} (h : p.Books mayPanic P)
    (hi : writers i) {past : List Dealing} (hs : s.backend.of i = past) :
    p.Fulfils (World.moves (Service.ledger ι) i) (World.scribe writers mayPanic i)
      (fun a s' => ∃ l, s'.backend.of i = past ++ l ∧ P l a) s := by
  have hstable := World.stable_scribe writers mayPanic (i := i)
  induction p generalizing past P s with
  | done a =>
    exact ⟨_, hs, hstable past, fun s hs => ⟨[], hs.trans (List.append_nil past).symm, h⟩⟩
  | panic message => exact ⟨h, _, hs, hstable past⟩
  | ask q resume ih =>
    refine ⟨_, hs, hstable past,
      fun _ _ _ hm => absurd hm World.not_prepared, ?_⟩
    by_cases hq : ∃ c, q = .call c
    · obtain ⟨c, rfl⟩ := hq
      rintro answer s _ hs ⟨_, rfl, rfl⟩
      have hs' : Ledger.of (s.backend ++ [⟨i, c, answer⟩]) i = past ++ [⟨c, answer⟩] := by
        rw [Ledger.of_append, hs, Ledger.of_singleton_self]
      refine ⟨⟨_, rfl, by simpa using hi⟩, (ih answer (h answer) hs').mono ?_⟩
      rintro a s' ⟨l, hl, hP⟩
      exact ⟨⟨c, answer⟩ :: l, by rw [hl, List.append_assoc]; rfl, hP⟩
    · have hq : ∀ c, q ≠ .call c := fun c hc => hq ⟨c, hc⟩
      intro answer s s' hs hm
      have hsame := World.backend_of_answered hq hm
      have hgrows : Ledger.Grows (fun j => writers j ∧ j = i) s.backend s'.backend :=
        hsame.symm ▸ .refl _
      exact ⟨hgrows, ih answer ((books_ask hq).1 h answer) (hsame.symm ▸ hs)⟩

end Program

/-! ### Runs -/

namespace Run

variable {α β : Type} {Q : Except String α → World (Ledger Client) → Prop}
  {s : World (Ledger Client)}

/-- A run on a ledger inevitably ends like this. -/
abbrev EndsOnLedger (Q : Except String α → World (Ledger Client) → Prop) (r : Session α)
    (s : World (Ledger Client)) : Prop :=
  r.Ends (World.moves (Service.ledger Client)) (fun _ _ _ _ => True) (fun _ _ => none) Q s

lemma EndsOnLedger.inevitably {r : Session α} (h : r.EndsOnLedger Q s) :
    Inevitably (World.moves (Service.ledger Client)) (fun _ _ _ _ => True) Q (.alone r) s :=
  Ends.inevitably h fun _ => rfl

/-- What a run yields, it ends with. -/
lemma Yields.ends_on_ledger {V : Except String α → Prop} {r : Session α} (h : r.Yields .any V)
    (s : World (Ledger Client)) : r.EndsOnLedger (fun o _ => V o) s :=
  (h.ends World.responsive_ledger Manners.kept_any trivial).mono fun _ _ ho => ho.1

/-- What the main thread asks without calling the store leaves the ledger as it is. -/
lemma ends_ask {q : Request} (hq : ∀ c, q ≠ .call c) {next : q.Answer → Session α}
    (hnext : ∀ a s', s'.backend = s.backend → (next a).EndsOnLedger Q s') :
    (liftM (Program.question (I := requests) q) >>= next : Session α).EndsOnLedger Q s :=
  ends_asked World.responsive_ledger (fun _ => World.not_prepared)
    (fun _ _ _ => trivial) fun a s' move => hnext a s' (World.backend_of_answered hq move)

/-- Threads that have values have done what their duties leave them with. -/
lemma Values.meets {σ : Type} {ended : List (Ended β)} {values : List β}
    (h : Values ended values) {d : Nat → Duty requests σ} {R : Nat → β → σ → Prop} {s : σ}
    (hmeets : ∀ (k : Nat) (e : Ended β), ended[k]? = some e → e.Meets (d k) (R k) s) {k : Nat}
    {b : β} (hb : values[k]? = some b) : R k b s := by
  have hvalue : (ended.map Prod.snd)[k]? = some (.ok b) := by
    rw [show ended.map Prod.snd = values.map .ok from h, List.getElem?_map, hb]
    rfl
  rw [List.getElem?_map, Option.map_eq_some_iff] at hvalue
  obtain ⟨⟨name, _⟩, he, rfl⟩ := hvalue
  exact hmeets k _ he

/-- Threads are settled without a call. -/
lemma ends_settle_ledger (event : Option PanicEvent) (ended : List (Ended β)) :
    (settle event ended).EndsOnLedger
      (fun o s' => s'.backend = s.backend ∧ Settled ended o) s := by
  let quiet : Manners requests := ⟨fun q => ∀ c, q ≠ .call c, fun _ _ => True⟩
  have hkept : quiet.Kept (World.moves (Service.ledger Client)) (fun _ _ _ _ => True)
      fun s' => s'.backend = s.backend := by
    refine ⟨fun i q s s' _ _ hm => ?_, fun i q a s₁ s₂ hq hs hm => ⟨trivial, trivial, ?_⟩⟩
    · exact absurd hm World.not_prepared
    · exact (World.backend_of_answered hq hm).trans hs
  have hyields : (settle event ended).Yields quiet (Settled ended) :=
    yields_settle (fun _ _ => Request.noConfusion) event ended
  exact (hyields.ends World.responsive_ledger hkept rfl).mono fun o s' h => ⟨h.2, h.1⟩

/-- **The rule for a fork** of one thread for each of some parts.  The threads end by the books,
and what each of them has asked and been told is what its program says, unless one of them
panics. -/
lemma ends_by_the_books {δ : Type} (mayPanic : Prop) {event : Option PanicEvent} {parts : List δ}
    {thread : δ → Thread requests β} {R : δ → List Dealing → β → Prop}
    {next : List β × Option RunError → Session α}
    (hthreads : ∀ p ∈ parts, (thread p).program.Books mayPanic (R p))
    (hdone : ∀ values s', values.length = parts.length →
      Ledger.Grows (fun i => ∃ k < parts.length, i = .thread k) s.backend s'.backend →
      (∀ (k : Nat) (p : δ) (b : β), parts[k]? = some p → values[k]? = some b →
        ∃ l, s'.backend.of (.thread k) = s.backend.of (.thread k) ++ l ∧ R p l b) →
      (next (values, none)).EndsOnLedger Q s')
    (hpanic : mayPanic → ∀ values text s',
      (next (values, some (.panicked text))).EndsOnLedger Q s') :
    (Run.forkAll (parts.map thread) >>= fun ended => settle event ended >>= next).EndsOnLedger Q
      s := by
  have hduties := World.duties_scribe mayPanic s.backend
    fun i => ∃ k < parts.length, i = .thread k
  rw [forkAll_bind]
  refine ends_fork World.responsive_ledger hduties
    (R := fun k b s' => ∃ p l, parts[k]? = some p ∧
      s'.backend.of (.thread k) = s.backend.of (.thread k) ++ l ∧ R p l b)
    (W := fun _ _ _ => True) (.refl _) (fun k t ht => ?_) (fun k t ht => by cases ht)
    fun ended _ s' hgrows hlength hmeets _ _ => ?_
  · obtain ⟨p, hp, rfl⟩ := Option.map_eq_some_iff.1 (List.getElem?_map ▸ ht)
    have hbooks := hthreads p (List.mem_of_getElem? hp)
    refine (hbooks.fulfils ⟨k, (List.getElem?_eq_some_iff.1 hp).1, rfl⟩ rfl).mono ?_
    rintro b s' ⟨l, hl, hR⟩
    exact ⟨p, l, hp, hl, hR⟩
  · rw [List.length_map] at hlength
    refine (ends_settle_ledger event ended).bind ?_ ?_
    · rintro _ s'' ⟨hsame, ⟨values, hvalues, ⟨⟩⟩ | ⟨⟨e, he, message, hmessage⟩, values, text, ⟨⟩⟩⟩
      · have hcount : values.length = ended.length := by
          simpa using (congrArg List.length hvalues).symm
        refine hdone values s'' (hcount.trans hlength) (hsame ▸ hgrows) fun k p b hp hb => ?_
        obtain ⟨q, l, hq, hl, hR⟩ := hvalues.meets hmeets hb
        obtain rfl := Option.some.inj (hq.symm.trans hp)
        exact ⟨l, hsame ▸ hl, hR⟩
      · obtain ⟨k, hk⟩ := List.mem_iff_getElem?.1 he
        have hmeets := hmeets k e hk
        unfold Ended.Meets at hmeets
        rw [hmessage] at hmeets
        exact hpanic hmeets values text s''
    · rintro message s'' ⟨-, ⟨values, -, ⟨⟩⟩ | ⟨-, values, text, ⟨⟩⟩⟩

end Run

/-! ### Any store -/

/-- A store whose dealings are written down beside it. -/
def Service.recorded {ι τ : Type} (S : Service ι τ) : Service ι (τ × Ledger ι) where
  prepares i c s s' := S.prepares i c s.1 s'.1 ∧ s'.2 = s.2
  answers i c a s s' := S.answers i c a s.1 s'.1 ∧ s'.2 = s.2 ++ [⟨i, c, a⟩]

/-- The world with nothing but the ledger in place of the store. -/
def World.written {ι τ : Type} (s : World (τ × Ledger ι)) : World (Ledger ι) :=
  ⟨s.backend.2, s.registry, s.statuses⟩

section Recorded

variable {ι τ α β : Type} {S : Service ι τ} {i : ι}

lemma World.written_of_prepared {q : Request} {s s' : World (τ × Ledger ι)}
    (h : moves S.recorded i (.prepared q) s s') : s'.written = s.written := by
  cases q with
  | call c =>
    obtain ⟨b, ⟨-, hb⟩, rfl⟩ := h
    exact congrArg (fun l => (⟨l, s.registry, s.statuses⟩ : World (Ledger ι))) hb
  | _ => exact h.elim

lemma World.written_of_answered {q : Request} {a : q.Answer} {s s' : World (τ × Ledger ι)}
    (h : moves S.recorded i (.answered q a) s s') :
    moves (Service.ledger ι) i (.answered q a) s.written s'.written := by
  cases q with
  | call c =>
    obtain ⟨b, ⟨-, hb⟩, rfl⟩ := h
    exact ⟨b.2, hb, rfl⟩
  | log | clock | freshId | pause | enrol =>
    obtain rfl := h
    rfl
  | size | peek | readSlot | statuses =>
    obtain ⟨ha, rfl⟩ := h
    exact ⟨ha, rfl⟩
  | writeSlot view n v =>
    unfold moves at h ⊢
    cases hset : s.registry.viewSet view n v with
    | ok r =>
      obtain ⟨ha, rfl⟩ : a = .ok () ∧ s' = { s with registry := r } := by simpa [hset] using h
      simp [written, hset, ha]
    | error e =>
      obtain ⟨ha, rfl⟩ : a = .error e ∧ s' = s := by simpa [hset] using h
      simp [written, hset, ha]
  | record worker nowMs aborted =>
    have hrecord : (a, s') = s.record worker nowMs aborted := h
    show (a, s'.written) = s.written.record worker nowMs aborted
    unfold record at hrecord ⊢
    cases hstatus : s.statuses[worker]? with
    | none =>
      rw [hstatus] at hrecord
      obtain ⟨rfl, rfl⟩ := Prod.mk.inj hrecord
      simp [written, hstatus]
    | some status =>
      rw [hstatus] at hrecord
      obtain ⟨rfl, rfl⟩ := Prod.mk.inj hrecord
      simp [written, hstatus]

variable {S : Service Client τ} {s s' : World (τ × Ledger Client)} {c c' : Course requests α}

lemma Thread.Step.written {i : Client} {t t' : Thread requests β} {m : Move requests}
    (h : t.Step (World.moves S.recorded i) s m t' s') :
    (t' = t ∧ s'.written = s.written) ∨
      t.Step (World.moves (Service.ledger Client) i) s.written m t' s'.written := by
  cases h with
  | prepared move => exact .inl ⟨rfl, World.written_of_prepared move⟩
  | answered move => exact .inr (.answered (World.written_of_answered move))

/-- A step on a store is a step on the ledger, or makes no difference to it. -/
lemma Course.Step.written {l : Option (Client × Move requests)}
    (h : c.Step (World.moves S.recorded) s l c' s') :
    (c' = c ∧ s'.written = s.written) ∨
      c.Step (World.moves (Service.ledger Client)) s.written l c' s'.written := by
  cases h with
  | prepared move => exact .inl ⟨rfl, World.written_of_prepared move⟩
  | answered move => exact .inr (.answered (World.written_of_answered move))
  | forks => exact .inr .forks
  | thread place step =>
    obtain ⟨rfl, hsame⟩ | hstep := step.written
    · exact .inl ⟨by rw [Thread.set_self place], hsame⟩
    · exact .inr (.thread place hstep)
  | watcher place step =>
    obtain ⟨rfl, hsame⟩ | hstep := step.written
    · exact .inl ⟨by rw [Thread.set_self place], hsame⟩
    · exact .inr (.watcher place hstep)
  | joins hthreads hwatchers => exact .inr (.joins hthreads hwatchers)

/-- **The ledger stands for every store.**  What a run inevitably ends with on a ledger holds
whenever it has ended on a store whose dealings are written down. -/
theorem Inevitably.of_recorded {keeps : Client → Moves requests (World (Ledger Client))}
    {Q : Except String α → World (Ledger Client) → Prop}
    (h : Inevitably (World.moves (Service.ledger Client)) keeps Q c s.written)
    (steps : Relation.ReflTransGen
      (fun x y : Course requests α × World (τ × Ledger Client) =>
        ∃ l, x.1.Step (World.moves S.recorded) x.2 l y.1 y.2) (c, s) (c', s'))
    {outcome : Except String α} (hc : c'.outcome? = some outcome) : Q outcome s'.written := by
  suffices hreached : ∀ x, Relation.ReflTransGen _ (c, s) x →
      Inevitably (World.moves (Service.ledger Client)) keeps Q x.1 x.2.written from
    (hreached (c', s') steps).of_outcome hc
  intro x hx
  induction hx with
  | refl => exact h
  | tail _ step ih =>
    obtain ⟨l, step⟩ := step
    obtain ⟨hcourse, hsame⟩ | hstep := step.written
    · rw [hcourse, hsame]
      exact ih
    · exact (ih.step hstep).1

end Recorded

end Soak
