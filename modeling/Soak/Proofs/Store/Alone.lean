import Soak.Proofs.Store.Ownership

/-!
# A client among others and alone

A client that calls a store together with others takes some of the numbers that the store gives
out, and alone it would take the next ones in turn (`renumber`).  Up to this renaming, its
containers and what is open under its numbers are at any time the same in both stores
(`Shared.Solo`): its own steps are mirrored, and those of the other clients go unnoticed.
-/

namespace Soak

/-! ### Numbers for one client -/

/-- The numbers that were taken become the next ones from a number on, in the order in which
they were taken; what is below remains, and what is above makes room. -/
def renumber (base : Int) (taken : List Int) (n : Int) : Int :=
  if n ∈ taken then base + taken.idxOf n else if n < base then n else n + taken.length

variable {base : Int} {taken : List Int}

lemma renumber_injective (base : Int) (taken : List Int) :
    Function.Injective (renumber base taken) := by
  intro m n h
  unfold renumber at h
  have hlt (k : Int) (hk : k ∈ taken) : taken.idxOf k < taken.length :=
    List.idxOf_lt_length_of_mem hk
  by_cases hm : m ∈ taken <;> by_cases hn : n ∈ taken
  · simp only [hm, hn, if_true] at h
    exact (List.idxOf_inj hm).1 (by omega)
  · have := hlt m hm
    rw [if_pos hm, if_neg hn] at h
    split at h <;> omega
  · have := hlt n hn
    rw [if_neg hm, if_pos hn] at h
    split at h <;> omega
  · rw [if_neg hm, if_neg hn] at h
    split at h <;> split at h <;> omega

lemma renumber_of_lt {n : Int} (hn : n < base) (hbase : ∀ k ∈ taken, base ≤ k) :
    renumber base taken n = n := by
  have hno : n ∉ taken := fun hm => absurd (hbase n hm) (by omega)
  simp [renumber, hno, hn]

/-- The numbers are used in the order in which they were taken. -/
lemma renumber_of_append {past : List Int} {n : Int} (hnodup : taken.Nodup)
    (hstart : past ++ [n] <+: taken) : renumber base taken n = base + past.length := by
  obtain ⟨rest, rfl⟩ := hstart
  have hno : n ∉ past := fun hm => by
    rw [List.append_assoc, List.nodup_append] at hnodup
    exact hnodup.2.2 n hm n (by simp) rfl
  simp [renumber, List.idxOf_append, hno]

/-! ### Runs of one client -/

/-- A call and its answer. -/
abbrev Exchange : Type :=
  (call : Call) × call.Answer

/-- The call and its answer with other handles. -/
def Exchange.rename (ρ : Int → Int) (x : Exchange) : Exchange :=
  ⟨x.1.rename ρ, renameAnswer ρ (x.1.renameReply ρ) x.2⟩

/-- One call after another is answered. -/
def Store.serve (s : Store) : List Call → List Exchange × Store
  | [] => ([], s)
  | call :: calls =>
    let rest := (s.answer call).2.serve calls
    (⟨call, (s.answer call).1⟩ :: rest.1, rest.2)

lemma Store.serve_snoc (s : Store) (calls : List Call) (call : Call) :
    s.serve (calls ++ [call]) =
      ((s.serve calls).1 ++ [⟨call, ((s.serve calls).2.answer call).1⟩],
        ((s.serve calls).2.answer call).2) := by
  induction calls generalizing s with
  | nil => rfl
  | cons c calls ih => simp [serve, ih]

/-- The number that is given out next is not in use. -/
lemma Store.Coherent.nextHandle_fresh {s : Store} (hs : s.Coherent) :
    s.nextHandle ∉ s.opened ∧ s.nextHandle ∉ s.searches :=
  ⟨fun hm => Int.lt_irrefl _ (hs.opened_lt _ hm), fun hm => Int.lt_irrefl _ (hs.searches_lt _ hm)⟩

/-- A call that takes a number and is answered at once leaves the handles in order. -/
lemma Store.Coherent.answer_of_takes {s : Store} (hs : s.Coherent) {call : Call}
    (htakes : call.takesNumber = true) : (s.answer call).2.Coherent ∧
      (s.answer call).2.nextHandle = s.nextHandle + 1 := by
  rw [Store.answer_eq_conclude htakes]
  have hlt : s.allocate.1 < s.allocate.2.nextHandle := Int.lt_succ _
  obtain ⟨hopened, hsearches⟩ := hs.nextHandle_fresh
  obtain ⟨hc, hnext, -, -⟩ := hs.allocate.conclude hlt hopened hsearches htakes
  exact ⟨hc, hnext⟩

namespace Shared

variable {ι : Type} [DecidableEq ι]

/-- The call of a client that is answered in a step. -/
def Event.exchange? (i : ι) : Event ι → Option Exchange
  | .answered client call a => if client = i then some ⟨call, a⟩ else none
  | .took _ _ _ => none

variable {own : Set String} {r s s' : Shared ι} {e : Event ι} {ds es : List (Event ι)} {i : ι}

/-! ### One client among others -/

/-- What a client sees of a store among others is what it sees of a store of its own. -/
structure Solo (own : Set String) (ρ : Int → Int) (base : Int) (i : ι) (es : List (Event ι))
    (s : Shared ι) (t : Store) : Prop where
  /-- The stores mirror each other. -/
  mirrors : Store.Mirrors ρ own (fun k => (i, k) ∈ s.issued) s.store t
  /-- The handles of the store of its own are in order. -/
  coherent : t.Coherent
  /-- A client that does not wait has used all the numbers that it took. -/
  free : s.pending i = none → t.nextHandle = base + (es.filterMap (Event.takenBy? i)).length
  /-- A client that waits has yet to use the last one. -/
  waiting : ∀ call n, s.pending i = some (call, n) →
    ρ n = t.nextHandle ∧ t.nextHandle + 1 = base + (es.filterMap (Event.takenBy? i)).length

variable {ρ : Int → Int} {base : Int} {t : Store}

/-- The steps of the other clients go unnoticed. -/
lemma Solo.other (h : Solo own ρ base i es s t) (hun : Unnoticed own i s s')
    (hne : e.client ≠ i) : Solo own ρ base i (es ++ [e]) s' t := by
  have htaken : (es ++ [e]).filterMap (Event.takenBy? i) = es.filterMap (Event.takenBy? i) := by
    rw [List.filterMap_append]
    simp [Event.takenBy?, hne]
  refine ⟨⟨fun n hn => ?_, fun k hk => ?_, fun k hk => ?_⟩, h.coherent, ?_, ?_⟩
  · rw [hun.containers n hn]
    exact h.mirrors.containers n hn
  · rw [hun.opened k (hun.issued k hk)]
    exact h.mirrors.opened k (hun.issued k hk)
  · rw [hun.searches k (hun.issued k hk)]
    exact h.mirrors.searches k (hun.issued k hk)
  · rw [hun.pending, htaken]
    exact h.free
  · rw [hun.pending, htaken]
    exact h.waiting

/-- The client takes a number. -/
lemma Solo.took (h : Solo own ρ base i es s t) (hs : s.Coherent) {call : Call} {n : Int}
    (step : Step s (.took i call n) s')
    (hρ : ρ n = base + (es.filterMap (Event.takenBy? i)).length) :
    Solo own ρ base i (es ++ [.took i call n]) s' t := by
  have htaken : ((es ++ [Event.took i call n]).filterMap (Event.takenBy? i)).length =
      (es.filterMap (Event.takenBy? i)).length + 1 := by
    simp [Event.takenBy?, Event.client, Event.number?]
  cases step with
  | took free takes =>
    have hnext : ρ s.store.nextHandle = t.nextHandle := hρ.trans (h.free free).symm
    -- the number is fresh in both stores
    obtain ⟨hopened, hsearches⟩ := hs.store.nextHandle_fresh
    obtain ⟨hopened', hsearches'⟩ := h.coherent.nextHandle_fresh
    refine ⟨⟨h.mirrors.containers, fun k hk => ?_, fun k hk => ?_⟩, h.coherent,
      fun hp => ?_, fun c m hp => ?_⟩
    · rcases List.mem_cons.1 hk with heq | hk
      · obtain rfl := congrArg Prod.snd heq
        show t.opened[ρ s.store.nextHandle]? = s.store.opened[s.store.nextHandle]?
        rw [hnext, Std.ExtTreeMap.getElem?_eq_none hopened,
          Std.ExtTreeMap.getElem?_eq_none hopened']
      · exact h.mirrors.opened k hk
    · rcases List.mem_cons.1 hk with heq | hk
      · obtain rfl := congrArg Prod.snd heq
        show t.searches[ρ s.store.nextHandle]? = s.store.searches[s.store.nextHandle]?
        rw [hnext, Std.ExtTreeMap.getElem?_eq_none hsearches,
          Std.ExtTreeMap.getElem?_eq_none hsearches']
      · exact h.mirrors.searches k hk
    · simp [take] at hp
    · simp only [take, Function.update_self, Option.some.injEq, Prod.mk.injEq] at hp
      obtain ⟨-, rfl⟩ := hp
      refine ⟨hnext, ?_⟩
      rw [htaken, h.free free]
      push_cast
      omega

/-- The client is answered: the store of its own gives the same answer. -/
lemma Solo.answered (h : Solo own ρ base i es s t) (hs : s.Coherent)
    (hρ : Function.Injective ρ) {call : Call} {a : call.Answer}
    (step : Step s (.answered i call a) s')
    (hcall : call.Within own fun k => (i, k) ∈ s.issued)
    (hin : ∀ k, (i, k) ∈ s.issued → ∀ n, s.store.opened[k]? = some n → n ∈ own) :
    (t.answer (call.rename ρ)).1 = renameAnswer ρ (call.renameReply ρ) a ∧
      Solo own ρ base i (es ++ [.answered i call a]) s' (t.answer (call.rename ρ)).2 := by
  have htaken : (es ++ [Event.answered i call a]).filterMap (Event.takenBy? i) =
      es.filterMap (Event.takenBy? i) := by
    simp [Event.takenBy?, Event.number?]
  cases step with
  | @concluded _ _ number waiting =>
    have htakes := hs.pending_takes i call number waiting
    have htakes' : (call.rename ρ).takesNumber = true := by rw [Call.takesNumber_rename, htakes]
    obtain ⟨hnumber, hcount⟩ := h.waiting call number waiting
    have hmirrors : Store.Mirrors ρ own (fun k => (i, k) ∈ s.issued) s.store t.allocate.2 :=
      ⟨h.mirrors.containers, h.mirrors.opened, h.mirrors.searches⟩
    have halike := hmirrors.conclude hρ htakes hcall hin number
    obtain ⟨hcoherent, hnext⟩ := h.coherent.answer_of_takes htakes'
    have he : t.answer (call.rename ρ) = t.allocate.2.conclude (ρ number) (call.rename ρ) := by
      rw [Store.answer_eq_conclude htakes', hnumber]
      rfl
    refine ⟨he ▸ halike.1, he ▸ halike.2, hcoherent, fun _ => ?_, fun c m hp => ?_⟩
    · rw [hnext, htaken, hcount]
    · simp [conclude] at hp
  | answered free takes =>
    have htakes' : (call.rename ρ).takesNumber = false := by rw [Call.takesNumber_rename, takes]
    have halike := h.mirrors.answer hρ takes hcall hin
    obtain ⟨hcoherent, hnext, -, -⟩ := h.coherent.answer htakes'
    refine ⟨halike.1, halike.2, hcoherent, fun _ => ?_, fun c m hp => ?_⟩
    · rw [hnext, htaken, h.free free]
    · rw [show s.pending i = some (c, m) from hp] at free
      cases free

/-- At the start the two stores are the same. -/
lemma solo_start (hr : r.Coherent) (own : Set String) (hfree : r.pending i = none)
    (hρ : ∀ n < r.store.nextHandle, ρ n = n) :
    Solo own ρ r.store.nextHandle i [] r r.store := by
  have hmine (k : Int) (hk : (i, k) ∈ r.issued) : ρ k = k := hρ k (hr.issued_lt _ hk)
  refine ⟨⟨fun n _ => ?_, fun k hk => by rw [hmine k hk], fun k hk => by rw [hmine k hk]⟩,
    hr.store, by simp, by simp [hfree]⟩
  -- what is open already keeps its handle
  cases hc : r.store.containers[n]? with
  | none => rfl
  | some c =>
    have hc' : c.rename ρ = c := by
      obtain ⟨metadata, items, openHandle⟩ := c
      cases openHandle with
      | none => rfl
      | some k =>
        have ho : r.store.opened[k]? = some n :=
          (hr.store.opened_iff k n).2 (Store.holder_eq_some_iff.2 ⟨_, hc, rfl⟩)
        have hmem : k ∈ r.store.opened := by
          rw [Std.ExtTreeMap.mem_iff_isSome_getElem?, ho]
          rfl
        simp [Container.rename, hρ k (hr.store.opened_lt k hmem)]
    rw [Option.map_some, hc']

/-- A client among others receives what a client alone receives. -/
lemma Run.solo (hreach : Run (start .empty) ds r) (hfree : r.pending i = none)
    (hinj : Function.Injective ρ) (hbelow : ∀ n < r.store.nextHandle, ρ n = n) {taken : List Int}
    (htaken : ∀ past n, past ++ [n] <+: taken → ρ n = r.store.nextHandle + past.length)
    (run : Run r es s) {own : ι → Set String} (hapart : ∀ j, j ≠ i → ∀ n ∈ own j, n ∉ own i)
    (hown : ∀ e ∈ es, Discreet (own e.client) e.client (ds ++ es))
    (hstart : es.filterMap (Event.takenBy? i) <+: taken) :
    ∃ t, r.store.serve ((es.filterMap (Event.exchange? i)).map fun x => x.1.rename ρ) =
        ((es.filterMap (Event.exchange? i)).map (Exchange.rename ρ), t) ∧
      Solo (own i) ρ r.store.nextHandle i es s t := by
  have hr := (coherent_start Store.coherent_empty).run hreach
  induction run with
  | nil => exact ⟨r.store, rfl, solo_start hr (own i) hfree hbelow⟩
  | @snoc u v es e run step ih =>
    have hreach' := hreach.append run
    have hu := hr.run run
    rw [← List.append_assoc] at hown
    have hstart' := (List.prefix_append _ _).trans (List.filterMap_append ▸ hstart)
    obtain ⟨t, hserve, hsolo⟩ := ih
      (fun d hd => (hown d (List.mem_append_left _ hd)).of_append) hstart'
    have hnow := hown e (by simp)
    have hin (k : Int) (hk : (e.client, k) ∈ u.issued) (n : String)
        (ho : u.store.opened[k]? = some n) : n ∈ own e.client :=
      hreach'.own_of_opened hnow.of_append hk ho
    cases e with
    | took j call n =>
      have hout : (es ++ [Event.took j call n]).filterMap (Event.exchange? i) =
          es.filterMap (Event.exchange? i) := by
        rw [List.filterMap_append]
        exact List.append_nil _
      refine ⟨t, hout ▸ hserve, ?_⟩
      by_cases hj : j = i
      · subst hj
        refine hsolo.took hu step (htaken _ n ?_)
        simpa [Event.takenBy?, Event.client, Event.number?] using hstart
      · exact hsolo.other (step.unnoticed_took hj) hj
    | answered j call a =>
      have hwithin := hnow _ call a [] rfl
      have hcall : call.Within (own j) fun k => (j, k) ∈ u.issued :=
        ⟨hwithin.name, fun k hk => hreach'.issued_of_handedTo (hwithin.handle k hk),
          fun k hk => hreach'.issued_of_handedTo (hwithin.search k hk)⟩
      by_cases hj : j = i
      · subst hj
        obtain ⟨hanswer, hsolo'⟩ := hsolo.answered hu hinj step hcall hin
        refine ⟨_, ?_, hsolo'⟩
        have hout : [Event.answered j call a].filterMap (Event.exchange? j) = [⟨call, a⟩] := by
          simp [Event.exchange?]
        rw [List.filterMap_append, hout, List.map_append, List.map_append, List.map_singleton,
          List.map_singleton, Store.serve_snoc, hserve, hanswer]
        rfl
      · refine ⟨t, by simpa [Event.exchange?, hj] using hserve, hsolo.other ?_ hj⟩
        exact step.unnoticed_answered hu hj (hapart j hj) hcall fun k n hk ho => hin k hk n ho

/-- **Clients of different containers do not notice each other.**  Take any state that clients
have brought a store to, and let clients go on from there, each of which names containers of its
own only, and passes only handles that were handed out to it before.  Then, whatever the order of
their steps, the answers that a client receives whose containers are not those of others are the
ones that it would receive alone, with its handles under other numbers; and its containers are in
the end what they would be then. -/
theorem clients_do_not_interfere (hreach : Run (start .empty) ds r) (hrun : Run r es s)
    {own : ι → Set String} (hown : ∀ e ∈ es, Discreet (own e.client) e.client (ds ++ es))
    (hfree : r.pending i = none) (hapart : ∀ j, j ≠ i → ∀ n ∈ own j, n ∉ own i) :
    ∃ ρ : Int → Int, Function.Injective ρ ∧ ∃ t : Store,
      r.store.serve ((es.filterMap (Event.exchange? i)).map fun x => x.1.rename ρ) =
        ((es.filterMap (Event.exchange? i)).map (Exchange.rename ρ), t) ∧
      ∀ name ∈ own i, t.containers[name]? =
        s.store.containers[name]?.map (Container.rename ρ) := by
  have hr := (coherent_start Store.coherent_empty).run hreach
  let taken := es.filterMap (Event.takenBy? i)
  have hnodup : taken.Nodup := by
    have hall : ((ds ++ es).filterMap Event.number?).Nodup := by
      rw [← List.nodup_reverse, ← (hreach.append hrun).issued]
      exact (hr.run hrun).issued_nodup
    rw [List.filterMap_append] at hall
    exact (takenBy_sublist i es).nodup (List.nodup_append.1 hall).2.1
  have hbase (k : Int) (hk : k ∈ taken) : r.store.nextHandle ≤ k :=
    (hrun.le_of_number? hr).2 k ((takenBy_sublist i es).subset hk)
  obtain ⟨t, hserve, hsolo⟩ := hreach.solo hfree (renumber_injective r.store.nextHandle taken)
    (fun n hn => renumber_of_lt hn hbase) (fun past n => renumber_of_append hnodup) hrun
    hapart hown (List.prefix_refl _)
  exact ⟨_, renumber_injective _ _, t, hserve, hsolo.mirrors.containers⟩

/-- One client searches its container while another one opens a container. -/
theorem clients_do_not_interfere_while_searching :
    ∃ (r s : Shared Bool) (ds es : List (Event Bool)), Run (start .empty) ds r ∧ Run r es s ∧
      ds.filterMap (Event.handedTo? false) = [1] ∧
      es.filterMap (Event.handedTo? false) = [3] ∧ es.filterMap (Event.handedTo? true) = [2] ∧
      ∃ ρ : Int → Int, Function.Injective ρ ∧ ∃ t : Store,
        r.store.serve [.addItem ⟨ρ 1⟩ "t" "x" "v" ∅, .openSearch ⟨ρ 1⟩ "t" "" .all] =
          ([⟨.addItem ⟨ρ 1⟩ "t" "x" "v" ∅, .ok ()⟩,
            ⟨.openSearch ⟨ρ 1⟩ "t" "" .all, .ok ⟨ρ 3⟩⟩], t) ∧
        t.containers["a"]? = s.store.containers["a"]?.map (Container.rename ρ) := by
  let own (i : Bool) : Set String := {n | n = if i then "b" else "a"}
  let creation (name : String) : Call := .createContainer name "default" "\x7b\x7d" "\x7b\x7d"
  let opening (name : String) : Call := .openContainer name "\x7b\x7d"
  let addition : Call := .addItem ⟨1⟩ "t" "x" "v" ∅
  let search : Call := .openSearch ⟨1⟩ "t" "" .all
  let before : List (Event Bool) := [] ++ [.answered false (creation "a") (.ok ())] ++
    [.answered true (creation "b") (.ok ())] ++ [.took false (opening "a") 1] ++
    [.answered false (opening "a") (.ok ⟨1⟩)]
  let after (past : List (Event Bool)) : List (Event Bool) := past ++
    [.took true (opening "b") 2] ++ [.answered false addition (.ok ())] ++
    [.took false search 3] ++ [.answered true (opening "b") (.ok ⟨2⟩)] ++
    [.answered false search (.ok ⟨3⟩)]
  let answered (s : Shared Bool) (call : Call) : Shared Bool :=
    { s with store := (s.store.answer call).2 }
  let created := answered (answered (start .empty) (creation "a")) (creation "b")
  let r := (created.take false (opening "a")).conclude false (opening "a") 1
  have hreach : Run (start .empty) before r := Run.nil (start .empty)
    |>.snoc (@Step.answered _ _ _ false (creation "a") rfl rfl)
    |>.snoc (@Step.answered _ _ _ true (creation "b") rfl rfl)
    |>.snoc (@Step.took _ _ _ false (opening "a") rfl rfl)
    |>.snoc (@Step.concluded _ _ _ false (opening "a") 1 rfl)
  have hrun : Run r (after []) _ := Run.nil r
    |>.snoc (@Step.took _ _ _ true (opening "b") rfl rfl)
    |>.snoc (@Step.answered _ _ _ false addition rfl rfl)
    |>.snoc (@Step.took _ _ _ false search rfl rfl)
    |>.snoc (@Step.concluded _ _ _ true (opening "b") 2 rfl)
    |>.snoc (@Step.concluded _ _ _ false search 3 rfl)
  have hapart : ∀ j, j ≠ false → ∀ n ∈ own j, n ∉ own false := by
    rintro (_ | _) hj n rfl hn
    · exact hj rfl
    · exact absurd (show "b" = "a" from hn) (by decide)
  have hname {mine : Int → Prop} {i : Bool} {call : Call} {name : String}
      (hcall : call = creation name ∨ call = opening name) (hn : name ∈ own i) :
      call.Within (own i) mine := by
    rcases hcall with rfl | rfl <;>
      exact ⟨by rintro _ ⟨⟩; exact hn, by rintro _ ⟨⟩, by rintro _ ⟨⟩⟩
  have hhandle {mine : Int → Prop} {call : Call} (hcall : call = addition ∨ call = search)
      (hmine : mine 1) : call.Within (own false) mine := by
    rcases hcall with rfl | rfl <;>
      exact ⟨by rintro _ ⟨⟩, by rintro _ ⟨⟩; exact hmine, by rintro _ ⟨⟩⟩
  have hfalse : Discreet (own false) false (after before) := discreet_nil (own false) false
    |>.snoc (by rintro _ _ ⟨⟩; exact hname (.inl rfl) rfl)
    |>.snoc (by rintro _ _ ⟨⟩)
    |>.snoc (by rintro _ _ ⟨⟩)
    |>.snoc (by rintro _ _ ⟨⟩; exact hname (.inr rfl) rfl)
    |>.snoc (by rintro _ _ ⟨⟩)
    |>.snoc (by rintro _ _ ⟨⟩; exact hhandle (.inl rfl) (List.mem_singleton_self 1))
    |>.snoc (by rintro _ _ ⟨⟩)
    |>.snoc (by rintro _ _ ⟨⟩)
    |>.snoc (by rintro _ _ ⟨⟩; exact hhandle (.inr rfl) (List.mem_singleton_self 1))
  have htrue : Discreet (own true) true (after before) := discreet_nil (own true) true
    |>.snoc (by rintro _ _ ⟨⟩)
    |>.snoc (by rintro _ _ ⟨⟩; exact hname (.inl rfl) rfl)
    |>.snoc (by rintro _ _ ⟨⟩)
    |>.snoc (by rintro _ _ ⟨⟩)
    |>.snoc (by rintro _ _ ⟨⟩)
    |>.snoc (by rintro _ _ ⟨⟩)
    |>.snoc (by rintro _ _ ⟨⟩)
    |>.snoc (by rintro _ _ ⟨⟩; exact hname (.inr rfl) rfl)
    |>.snoc (by rintro _ _ ⟨⟩)
  have hown : ∀ e ∈ after [], Discreet (own e.client) e.client (before ++ after []) := by
    intro e he
    cases e.client with
    | false => exact hfalse
    | true => exact htrue
  obtain ⟨ρ, hρ, t, hserve, hcontainers⟩ :=
    clients_do_not_interfere hreach hrun hown rfl hapart
  exact ⟨r, _, before, after [], hreach, hrun, rfl, rfl, rfl, ρ, hρ, t, hserve, hcontainers "a" rfl⟩

end Shared

end Soak
