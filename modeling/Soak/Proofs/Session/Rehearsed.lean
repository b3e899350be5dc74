import Soak.Proofs.Session.Faulty
import Soak.Proofs.Session.Pool
import Soak.Rehearsal.Recorder

/-!
# Rehearsals are runs

A recorder that lets calls do nothing but succeed or fail answers the questions of a thread
as the world with a faulty store may do.  So whatever it rehearses can happen in a pool:
`Recorder.Shows.reaches_of_turn` turns the rehearsal of a turn into a run in which one
thread takes its turn and the others wait.
-/

namespace Soak

namespace FaultRule

/-- What happens in place of a call is what one of the rules says. -/
lemma exists_rule_of_apply {c : Call} {container : String} {rules : List FaultRule}
    {counts : List Nat} {effect : Effect} (h : (apply c container rules counts).1 = some effect) :
    ∃ rule ∈ rules, rule.effect = effect := by
  induction rules generalizing counts with
  | nil => cases h
  | cons rule rules ih =>
    simp only [apply] at h
    split at h
    · split at h
      · exact ⟨rule, List.mem_cons_self, Option.some.inj h⟩
      · obtain ⟨other, hmem, heq⟩ := ih h
        exact ⟨other, List.mem_cons_of_mem rule hmem, heq⟩
    · obtain ⟨other, hmem, heq⟩ := ih h
      exact ⟨other, List.mem_cons_of_mem rule hmem, heq⟩

end FaultRule

namespace Recorder

/-- The calls that a recorder does not make only fail. -/
def OnlyFails (r : Recorder) : Prop :=
  ∀ rule ∈ r.rules, ∃ e, rule.effect = .fail e

@[simp] lemma remember_store (r : Recorder) (c : Call) (a : c.Answer) :
    (r.remember c a).store = r.store := by
  unfold remember
  split <;> rfl

@[simp] lemma remember_rules (r : Recorder) (c : Call) (a : c.Answer) :
    (r.remember c a).rules = r.rules := by
  unfold remember
  split <;> rfl

@[simp] lemma remember_registry (r : Recorder) (c : Call) (a : c.Answer) :
    (r.remember c a).registry = r.registry := by
  unfold remember
  split <;> rfl

@[simp] lemma remember_statuses (r : Recorder) (c : Call) (a : c.Answer) :
    (r.remember c a).statuses = r.statuses := by
  unfold remember
  split <;> rfl

/-- A call is answered by the store, or it fails as one of the rules says. -/
lemma call_cases {r : Recorder} (hr : r.OnlyFails) (thread : String) (c : Call) :
    ∃ a r', r.call thread c = (.ok a, r') ∧ r'.rules = r.rules ∧ r'.registry = r.registry ∧
      r'.statuses = r.statuses ∧
      ((a = (r.store.answer c).1 ∧ r'.store = (r.store.answer c).2) ∨
        (r.rules ≠ [] ∧ (∃ e, a = .error e) ∧ r'.store = r.store)) := by
  cases hp : FaultRule.apply c (r.containerOf c) r.rules (r.counts.getD thread []) with
  | mk effect counts =>
    cases effect with
    | none =>
      simp only [call, hp]
      refine ⟨_, _, rfl, ?_, ?_, ?_, .inl ⟨rfl, ?_⟩⟩ <;> simp [write]
    | some effect =>
      obtain ⟨rule, hmem, rfl⟩ := FaultRule.exists_rule_of_apply (congrArg Prod.fst hp)
      obtain ⟨e, he⟩ := hr rule hmem
      simp only [call, hp, he]
      refine ⟨_, _, rfl, ?_, ?_, ?_, .inr ⟨List.ne_nil_of_mem hmem, ⟨e, rfl⟩, ?_⟩⟩ <;> simp [write]

variable {ι β ω : Type}

/-- A world in which no call is underway is what a recorder says it is. -/
structure Shows (r : Recorder) (s : World (Faulty ι)) : Prop where
  store : s.backend.shared.store = r.store
  free : ∀ i, s.backend.shared.pending i = none
  registry : s.registry = r.registry
  statuses : s.statuses = r.statuses

variable [DecidableEq ι]

/-- A question is answered, perhaps after something has happened before. -/
def Answered (i : ι) (q : Request) (a : q.Answer) (s s' : World (Faulty ι)) : Prop :=
  World.moves (Faulty.service ι) i (.answered q a) s s' ∨
    ∃ t, World.moves (Faulty.service ι) i (.prepared q) s t ∧
      World.moves (Faulty.service ι) i (.answered q a) t s'

variable {r r' : Recorder} {s : World (Faulty ι)} {i : ι}

/-- The answer of the store to a call, in one step or in two. -/
lemma Shows.answer (h : r.Shows s) (c : Call) :
    ∃ t : Shared ι, t.store = (r.store.answer c).2 ∧ (∀ j, t.pending j = none) ∧
      Answered i (.call c) (r.store.answer c).1 s
        { s with backend := { s.backend with shared := t } } := by
  rw [← h.store]
  by_cases htakes : c.takesNumber = true
  · -- the number is taken, and the call is concluded at once
    rw [Store.answer_eq_conclude htakes]
    have step := Shared.Step.took (h.free i) htakes
    refine ⟨(s.backend.shared.take i c).conclude i c s.backend.shared.store.allocate.1, rfl,
      fun j => ?_, .inr ⟨_, ⟨_, .took step, rfl⟩, _, .answered (.concluded ?_), rfl⟩⟩
    · by_cases hj : j = i
      · simp [Shared.conclude, hj]
      · simp [Shared.conclude, Shared.take, hj, h.free j]
    · simp [Shared.take]
  · have htakes : c.takesNumber = false := by simpa using htakes
    exact ⟨{ s.backend.shared with store := (s.backend.shared.store.answer c).2 }, rfl, h.free,
      .inl ⟨_, .answered (.answered (h.free i) htakes), rfl⟩⟩

/-- What a recorder answers can be answered in the world. -/
lemma Shows.respond (h : r.Shows s) (hr : r.OnlyFails) (thread : String) (q : Request) :
    ∃ a r' s', r.respond thread q = (.ok a, r') ∧ r'.rules = r.rules ∧ r'.Shows s' ∧
      (r.rules = [] → s'.backend.failures = s.backend.failures) ∧ Answered i q a s s' := by
  cases q with
  | call c =>
    obtain ⟨a, r', hcall, hrules, hregistry, hstatuses, hwhat⟩ := call_cases hr thread c
    rcases hwhat with ⟨rfl, hstore⟩ | ⟨hne, ⟨e, rfl⟩, hstore⟩
    · obtain ⟨t, ht, hfree, hanswered⟩ := h.answer (i := i) c
      refine ⟨_, r', { s with backend := { s.backend with shared := t } }, hcall, hrules,
        ⟨?_, hfree, ?_, ?_⟩, fun _ => rfl, hanswered⟩
      · rw [hstore, ← ht]
      · rw [hregistry, ← h.registry]
      · rw [hstatuses, ← h.statuses]
    · refine ⟨_, r', _, hcall, hrules, ?_, fun hnil => (hne hnil).elim,
        .inl ⟨_, .failed (h.free i) e, rfl⟩⟩
      exact ⟨h.store.trans hstore.symm, h.free, h.registry.trans hregistry.symm,
        h.statuses.trans hstatuses.symm⟩
  | log entry => exact ⟨_, _, s, rfl, rfl, ⟨h.store, h.free, h.registry, h.statuses⟩, fun _ => rfl,
      .inl rfl⟩
  | clock => exact ⟨_, _, s, rfl, rfl, h, fun _ => rfl, .inl rfl⟩
  | freshId => exact ⟨_, _, s, rfl, rfl, h, fun _ => rfl, .inl rfl⟩
  | enrol size workers =>
    exact ⟨_, _, { s with registry := .new size, statuses := workers }, rfl, rfl,
      ⟨h.store, h.free, rfl, rfl⟩, fun _ => rfl, .inl rfl⟩
  | size => exact ⟨_, _, s, rfl, rfl, h, fun _ => rfl, .inl ⟨by rw [h.registry], rfl⟩⟩
  | peek index => exact ⟨_, _, s, rfl, rfl, h, fun _ => rfl, .inl ⟨by rw [h.registry], rfl⟩⟩
  | readSlot view index =>
    exact ⟨_, _, s, rfl, rfl, h, fun _ => rfl, .inl ⟨by rw [h.registry], rfl⟩⟩
  | writeSlot view index value =>
    simp only [Recorder.respond]
    cases hset : r.registry.viewSet view index value with
    | ok registry =>
      refine ⟨_, _, { s with registry }, rfl, rfl, ⟨h.store, h.free, rfl, h.statuses⟩,
        fun _ => rfl, .inl ?_⟩
      simp [World.moves, h.registry, hset]
    | error e =>
      refine ⟨_, _, s, rfl, rfl, h, fun _ => rfl, .inl ?_⟩
      simp [World.moves, h.registry, hset]
  | statuses => exact ⟨_, _, s, rfl, rfl, h, fun _ => rfl, .inl ⟨h.statuses.symm, rfl⟩⟩
  | record worker nowMs aborted =>
    simp only [Recorder.respond, Recorder.record]
    cases hw : r.statuses[worker]? with
    | none =>
      refine ⟨_, _, s, rfl, rfl, h, fun _ => rfl, .inl ?_⟩
      simp [World.moves, World.record, h.statuses, hw]
    | some status =>
      refine ⟨_, _, { s with statuses := r.statuses.set worker (status.record nowMs aborted) },
        rfl, rfl, ⟨h.store, h.free, h.registry, rfl⟩, fun _ => rfl, .inl ?_⟩
      simp [World.moves, World.record, h.statuses, hw]
  | pause time =>
    simp only [Recorder.respond, Recorder.pause]
    split
    · exact ⟨_, _, s, rfl, rfl, h, fun _ => rfl, .inl rfl⟩
    · exact ⟨_, _, s, rfl, rfl, ⟨h.store, h.free, h.registry, h.statuses⟩, fun _ => rfl, .inl rfl⟩

/-! ### Runs -/

/-- What a rehearsal ended with, without the actor of the next turn. -/
lemma eq_of_map_fst {out : Except String (β × ω) × Recorder} {result : β}
    (h : out.1.map Prod.fst = .ok result) : ∃ next, out = (.ok (result, next), out.2) := by
  obtain ⟨outcome, r⟩ := out
  cases outcome with
  | error message => cases h
  | ok v =>
    obtain ⟨value, next⟩ := v
    cases h
    exact ⟨next, rfl⟩

open Pool

variable {turn : ω → Job (β × ω)} {P₀ P : Pool ι requests (World (Faulty ι)) ω β}

/-- A program that was rehearsed can be run in a pool. -/
lemma Shows.reaches_of_run (h : r.Shows P.state) (hr : r.OnlyFails) {thread : String}
    {p : Job (β × ω)} {s₀ : World (Faulty ι)} {v : β × ω}
    (hrun : p.run host.toRespondent thread r = (.ok v, r'))
    (now : (P.desk i).current = some (s₀, p))
    (run : Reaches (World.moves (Faulty.service ι)) turn P₀ P) :
    ∃ s', r'.Shows s' ∧ r'.rules = r.rules ∧
      (r.rules = [] → s'.backend.failures = P.state.backend.failures) ∧
      Reaches (World.moves (Faulty.service ι)) turn P₀
        (P.update i s' { P.desk i with current := some (s₀, .done v) }) := by
  induction p generalizing r P with
  | done w =>
    cases hrun
    refine ⟨P.state, h, rfl, fun _ => rfl, ?_⟩
    have hsame : P.update i P.state { P.desk i with current := some (s₀, .done v) } = P := by
      rw [← now]
      simp [Pool.update]
    rwa [hsame]
  | ask q resume ih =>
    obtain ⟨a, r₁, s₁, hres, hrules, hshows, hquiet, hmoves⟩ := h.respond (i := i) hr thread q
    have hrun : (resume a).run host.toRespondent thread r₁ = (.ok v, r') := by
      rw [← hrun]
      simp [Program.run, host, hres]
    -- the question is answered as in the rehearsal, and the rest of the program follows
    let P₁ := P.update i s₁ { P.desk i with current := some (s₀, resume a) }
    have run₁ : Reaches (World.moves (Faulty.service ι)) turn P₀ P₁ := by
      rcases hmoves with hm | ⟨t, hprep, hm⟩
      · exact run.tail (.answered now hm)
      · have now' : ((P.update i t (P.desk i)).desk i).current = some (s₀, .ask q resume) := by
          simpa [Pool.update] using now
        have := (run.tail (.prepared now hprep)).tail (.answered now' hm)
        simpa [P₁, Pool.update] using this
    have hr₁ : r₁.OnlyFails := fun rule hmem => hr rule (hrules ▸ hmem)
    obtain ⟨s', hshows', hrules', hquiet', run'⟩ :=
      ih a (P := P₁) hshows hr₁ hrun (by simp [P₁, Pool.update]) run₁
    refine ⟨s', hshows', hrules'.trans hrules, fun hnil => ?_, ?_⟩
    · rw [hquiet' (hrules.trans hnil)]
      exact hquiet hnil
    · simpa [P₁, Pool.update] using run'
  | panic message => cases hrun

/-- **A rehearsed turn is a run** in which one thread takes its turn and the others wait. -/
lemma Shows.reaches_of_turn (h : r.Shows P.state) (hr : r.OnlyFails) {thread : String} {w : ω}
    {result : β} {next : ω} (free : (P.desk i).current = none) (hactor : (P.desk i).actor = w)
    (hrun : (turn w).run host.toRespondent thread r = (.ok (result, next), r'))
    (run : Reaches (World.moves (Faulty.service ι)) turn P₀ P) :
    ∃ P', r'.Shows P'.state ∧ r'.OnlyFails ∧
      (r.rules = [] → P'.state.backend.failures = P.state.backend.failures) ∧
      P'.desk i = ⟨⟨P.state, result, P'.state⟩ :: (P.desk i).past, next, none⟩ ∧
      (∀ j, j ≠ i → P'.desk j = P.desk j) ∧
      Reaches (World.moves (Faulty.service ι)) turn P₀ P' := by
  subst hactor
  let P₁ := P.update i P.state
    { P.desk i with current := some (P.state, turn (P.desk i).actor) }
  have now : (P₁.desk i).current = some (P.state, turn (P.desk i).actor) := by
    simp [P₁, Pool.update]
  obtain ⟨s', hshows, hrules, hquiet, run'⟩ :=
    Shows.reaches_of_run (P := P₁) h hr hrun now (run.began i free)
  have ended : ((P₁.update i s' { P₁.desk i with
      current := some (P.state, .done (result, next)) }).desk i).current =
        some (P.state, .done (result, next)) := by
    simp [Pool.update]
  refine ⟨_, hshows, fun rule hmem => hr rule (hrules ▸ hmem), hquiet, ?_, ?_,
    run'.tail (.ended ended)⟩
  · simp [P₁, Pool.update]
  · intro j hj
    simp [P₁, Pool.update, hj]

end Recorder

end Soak
