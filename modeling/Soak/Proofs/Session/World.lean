import Soak.Proofs.Session.Duty
import Soak.Session.Request

/-!
# The world around the threads

The threads of a longevity run share a store, the counters of the containers and the status
of every worker.  `World.moves` says what each of their questions does to these.  The store
is a service of which nothing is fixed: what it answers, and what it does in the meantime,
are relations that a theorem may leave open or fill in.  Clocks show anything, and pauses
end as they like.

The rules below `World.moves` are those of `Program.fulfils_question` for the questions of
workers and monitors.
-/

namespace Soak

/-- A store as its clients see it. -/
structure Service (ι τ : Type) where
  /-- What may happen on behalf of a client that waits for the answer to a call. -/
  prepares : ι → Call → τ → τ → Prop
  /-- What a call may be answered. -/
  answers : ι → (call : Call) → call.Answer → τ → τ → Prop

/-- A store that may do anything at any time. -/
def Service.any (ι τ : Type) : Service ι τ where
  prepares _ _ _ _ := True
  answers _ _ _ _ _ := True

/-- What the threads share. -/
structure World (τ : Type) where
  /-- The store. -/
  backend : τ
  /-- The counters of the containers. -/
  registry : Registry
  /-- The status of every worker. -/
  statuses : List Worker.Status

namespace World

variable {ι τ α : Type}

/-- The number of iterations of a worker, and the world with its status replaced. -/
def record (s : World τ) (worker nowMs : Nat) (aborted : Bool) : Nat × World τ :=
  match s.statuses[worker]? with
  | none => (0, s)
  | some status =>
    let status := status.record nowMs aborted
    (status.iterations, { s with statuses := s.statuses.set worker status })

/-- What the steps of a thread do. -/
def moves (S : Service ι τ) (i : ι) : Moves requests (World τ)
  | .prepared (.call c), s, s' => ∃ b, S.prepares i c s.backend b ∧ s' = { s with backend := b }
  | .prepared _, _, _ => False
  | .answered (.call c) a, s, s' =>
    ∃ b, S.answers i c a s.backend b ∧ s' = { s with backend := b }
  | .answered (.log _) _, s, s' => s' = s
  | .answered .clock _, s, s' => s' = s
  | .answered .freshId _, s, s' => s' = s
  | .answered (.enrol size workers) _, s, s' =>
    s' = { s with registry := .new size, statuses := workers }
  | .answered .size n, s, s' => n = s.registry.size ∧ s' = s
  | .answered (.peek index) a, s, s' => a = s.registry.get index ∧ s' = s
  | .answered (.readSlot view index) a, s, s' => a = s.registry.viewGet view index ∧ s' = s
  | .answered (.writeSlot view index value) a, s, s' =>
    match s.registry.viewSet view index value with
    | .ok registry => a = .ok () ∧ s' = { s with registry }
    | .error e => a = .error e ∧ s' = s
  | .answered .statuses l, s, s' => l = s.statuses ∧ s' = s
  | .answered (.record worker nowMs aborted) n, s, s' => (n, s') = s.record worker nowMs aborted
  | .answered (.pause _) _, s, s' => s' = s

variable {S : Service ι τ} {i : ι} {d : Duty requests (World τ)} {Q : α → World τ → Prop}
  {s : World τ}

/-- Everything but a call is answered, whatever the store does. -/
lemma exists_answer {q : Request} (hq : ∀ c, q ≠ .call c) (s : World τ) :
    ∃ a s', moves S i (.answered q a) s s' := by
  cases q with
  | call c => exact absurd rfl (hq c)
  | log e => exact ⟨(), s, rfl⟩
  | clock => exact ⟨⟨.zero, default⟩, s, rfl⟩
  | freshId => exact ⟨"", s, rfl⟩
  | enrol size workers => exact ⟨(), _, rfl⟩
  | size => exact ⟨_, s, rfl, rfl⟩
  | peek n => exact ⟨_, s, rfl, rfl⟩
  | readSlot view n => exact ⟨_, s, rfl, rfl⟩
  | writeSlot view n v =>
    cases hset : s.registry.viewSet view n v with
    | ok r => exact ⟨.ok (), { s with registry := r }, by simp [moves, hset]⟩
    | error e => exact ⟨.error e, s, by simp [moves, hset]⟩
  | statuses => exact ⟨_, s, rfl, rfl⟩
  | record worker nowMs aborted => exact ⟨_, _, rfl⟩
  | pause t => exact ⟨true, s, rfl⟩

/-- The rule for a call. -/
lemma fulfils_call {c : Call} {next : c.Answer → Job α} (J : World τ → Prop) (hst : d.Stable J)
    (hs : J s)
    (hprep : ∀ s b, J s → S.prepares i c s.backend b →
      d.pledge (.prepared (.call c)) s { s with backend := b } ∧ J { s with backend := b })
    (hans : ∀ a s b, J s → S.answers i c a s.backend b →
      d.pledge (.answered (.call c) a) s { s with backend := b } ∧
        (next a).Fulfils (moves S i) d Q { s with backend := b }) :
    (Job.call c >>= next).Fulfils (moves S i) d Q s := by
  refine Program.fulfils_question J hst hs ?_ ?_
  · rintro s _ hJ ⟨b, hb, rfl⟩
    exact hprep s b hJ hb
  · rintro a s _ hJ ⟨b, hb, rfl⟩
    exact hans a s b hJ hb

/-- The rule for a log entry. -/
lemma fulfils_log {e : Log.Entry} {next : Unit → Job α} (J : World τ → Prop) (hst : d.Stable J)
    (hs : J s) (hpledge : ∀ s, J s → d.pledge (.answered (.log e) ()) s s)
    (hnext : ∀ s, J s → (next ()).Fulfils (moves S i) d Q s) :
    (Job.log e >>= next).Fulfils (moves S i) d Q s := by
  refine Program.fulfils_question J hst hs (fun _ _ _ h => h.elim) ?_
  rintro ⟨⟩ s _ hJ rfl
  exact ⟨hpledge _ hJ, hnext _ hJ⟩

/-- The rule for the clock. -/
lemma fulfils_clock {next : Reading → Job α} (J : World τ → Prop) (hst : d.Stable J) (hs : J s)
    (hpledge : ∀ now s, J s → d.pledge (.answered .clock now) s s)
    (hnext : ∀ now s, J s → (next now).Fulfils (moves S i) d Q s) :
    (Job.clock >>= next).Fulfils (moves S i) d Q s := by
  refine Program.fulfils_question J hst hs (fun _ _ _ h => h.elim) ?_
  rintro now s _ hJ rfl
  exact ⟨hpledge now _ hJ, hnext now _ hJ⟩

/-- The rule for a counter that is read through a view. -/
lemma fulfils_readSlot {view : Partition} {n : Nat} {v : Int}
    {next : Except SetupError Int → Job α} (J : World τ → Prop) (hst : d.Stable J) (hs : J s)
    (hread : ∀ s, J s → s.registry.viewGet view n = .ok v)
    (hpledge : ∀ s, J s → d.pledge (.answered (.readSlot view n) (.ok v)) s s)
    (hnext : ∀ s, J s → (next (.ok v)).Fulfils (moves S i) d Q s) :
    (Program.question (I := requests) (.readSlot view n) >>= next).Fulfils (moves S i) d Q s := by
  refine Program.fulfils_question J hst hs (fun _ _ _ h => h.elim) ?_
  rintro a s _ hJ ⟨ha, rfl⟩
  obtain rfl : a = .ok v := ha.trans (hread _ hJ)
  exact ⟨hpledge _ hJ, hnext _ hJ⟩

/-- The rule for a counter that is written through a view. -/
lemma fulfils_writeSlot {view : Partition} {n : Nat} {v : Int}
    {next : Except SetupError Unit → Job α} (J : World τ → Prop) (hst : d.Stable J) (hs : J s)
    (hwrite : ∀ s, J s → ∃ r, s.registry.viewSet view n v = .ok r ∧
      d.pledge (.answered (.writeSlot view n v) (.ok ())) s { s with registry := r } ∧
      (next (.ok ())).Fulfils (moves S i) d Q { s with registry := r }) :
    (Program.question (I := requests) (.writeSlot view n v) >>= next).Fulfils (moves S i) d Q
      s := by
  refine Program.fulfils_question J hst hs (fun _ _ _ h => h.elim) ?_
  intro a s s' hJ hm
  obtain ⟨r, hr, hpledge, hnext⟩ := hwrite s hJ
  simp only [moves, hr] at hm
  obtain ⟨rfl, rfl⟩ := hm
  exact ⟨hpledge, hnext⟩

/-- The rule for the number of counters. -/
lemma fulfils_size {total : Nat} {next : Nat → Job α} (J : World τ → Prop) (hst : d.Stable J)
    (hs : J s) (hsize : ∀ s, J s → s.registry.size = total)
    (hpledge : ∀ s, J s → d.pledge (.answered .size total) s s)
    (hnext : ∀ s, J s → (next total).Fulfils (moves S i) d Q s) :
    (Program.question (I := requests) .size >>= next).Fulfils (moves S i) d Q s := by
  refine Program.fulfils_question J hst hs (fun _ _ _ h => h.elim) ?_
  rintro n s _ hJ ⟨hn, rfl⟩
  obtain rfl : n = total := hn.trans (hsize _ hJ)
  exact ⟨hpledge _ hJ, hnext _ hJ⟩

/-- The rule for a counter that the monitor reads. -/
lemma fulfils_peek {n : Nat} {next : Except SetupError Int → Job α} (J : World τ → Prop)
    (hst : d.Stable J) (hs : J s)
    (hpledge : ∀ a s, J s → d.pledge (.answered (.peek n) a) s s)
    (hnext : ∀ s, J s → (next (s.registry.get n)).Fulfils (moves S i) d Q s) :
    (Program.question (I := requests) (.peek n) >>= next).Fulfils (moves S i) d Q s := by
  refine Program.fulfils_question J hst hs (fun _ _ _ h => h.elim) ?_
  rintro a s _ hJ ⟨rfl, rfl⟩
  exact ⟨hpledge _ _ hJ, hnext _ hJ⟩

/-- The rule for the statuses of the workers. -/
lemma fulfils_statuses {next : List Worker.Status → Job α} (J : World τ → Prop)
    (hst : d.Stable J) (hs : J s)
    (hpledge : ∀ l s, J s → d.pledge (.answered .statuses l) s s)
    (hnext : ∀ l s, J s → (next l).Fulfils (moves S i) d Q s) :
    (Program.question (I := requests) .statuses >>= next).Fulfils (moves S i) d Q s := by
  refine Program.fulfils_question J hst hs (fun _ _ _ h => h.elim) ?_
  rintro l s _ hJ ⟨-, rfl⟩
  exact ⟨hpledge _ _ hJ, hnext _ _ hJ⟩

end World

end Soak
