import Soak.Proofs.Session.Tenant
import Soak.Proofs.Store.Inside

/-!
# What the questions of a tenant are answered

`Tenant.Does` says what a program of a tenant does: from what the tenant has when the
program begins, to what it has when the program ends with a value.  There is one rule for
each way of putting programs together, and one for each question.  Nothing that other
clients do appears in them.
-/

namespace Soak

/-- A loop has come to `n` in its range, and goes through one container after another: those
that it has been to are as `after` says, the others as `before` says. -/
structure Holdings.Midway (name : Nat → String) (before after : Nat → Option Container → Prop)
    (first count n : Nat) (x : Holdings) : Prop where
  search : x.search = none
  containers : ∀ m, first ≤ m → m < first + count →
    (if m < n then after m else before m) (x.container (name m))

namespace Holdings.Midway

variable {name : Nat → String} {before after : Nat → Option Container → Prop}
  {first count n : Nat} {x : Holdings}

lemma start (hsearch : x.search = none)
    (h : ∀ m, first ≤ m → m < first + count → before m (x.container (name m))) :
    Midway name before after first count first x :=
  ⟨hsearch, fun m hm hlt => by rw [if_neg (by omega)]; exact h m hm hlt⟩

lemma now (h : Midway name before after first count n x) (hfirst : first ≤ n)
    (hlt : n < first + count) : before n (x.container (name n)) := by
  have hn := h.containers n hfirst hlt
  rwa [if_neg (Nat.lt_irrefl n)] at hn

lemma next (h : Midway name before after first count n x) (hname : Function.Injective name)
    {c : Option Container} (hc : after n c) :
    Midway name before after first count (n + 1) (x.put (name n) c) := by
  refine ⟨h.search, fun m hm hlt => ?_⟩
  by_cases heq : m = n
  · rw [heq, if_pos (Nat.lt_succ_self n), put_container_self]
    exact hc
  · have hiff : m < n + 1 ↔ m < n := by omega
    rw [put_container_of_ne fun h => heq (hname h)]
    simpa only [hiff] using h.containers m hm hlt

lemma finish (h : Midway name before after first count (first + count) x) {m : Nat}
    (hm : first ≤ m) (hlt : m < first + count) : after m (x.container (name m)) := by
  have hm := h.containers m hm hlt
  rwa [if_pos hlt] at hm

end Holdings.Midway

/-- The container of a name is open under a handle, with the content that it should have, and
everything else is as it was. -/
def Holdings.Ajar (x : Holdings) (name : String) (h : Container.Handle)
    (content : Container → Prop) (y : Holdings) : Prop :=
  ∃ d : Container, d.openHandle = some h.number ∧ content d ∧ y = x.put name (some d)

namespace Tenant

variable {ι : Type} [DecidableEq ι] {α β : Type} {clock : Reading → Prop} {t : Tenant ι}
  {pages : Holdings → Except CallError Json → Prop} {x y : Holdings} {P : α → Holdings → Prop}
  {name : String}

/-- A tenant that has `x` runs the program to a value and has then what `P` says. -/
def Does (t : Tenant ι) (clock : Reading → Prop) (pages : Holdings → Except CallError Json → Prop)
    (p : Job α) (x : Holdings) (P : α → Holdings → Prop) : Prop :=
  ∀ s, t.Sees x s → p.Fulfils (World.steady clock t.client) (t.duty pages)
    (fun a s' => ∃ y, P a y ∧ t.Sees y s') s

lemma Does.mono {p : Job α} {P' : α → Holdings → Prop} (h : t.Does clock pages p x P)
    (hP : ∀ a y, P a y → P' a y) : t.Does clock pages p x P' :=
  fun s hs => (h s hs).mono fun a _ ⟨y, hy, hs'⟩ => ⟨y, hP a y hy, hs'⟩

lemma Does.bind {p : Job α} {next : α → Job β} {Q : β → Holdings → Prop}
    (h : t.Does clock pages p x P) (hnext : ∀ a y, P a y → t.Does clock pages (next a) y Q) :
    t.Does clock pages (p >>= next) x Q :=
  fun s hs => (h s hs).then fun a s' ⟨y, hy, hs'⟩ => hnext a y hy s' hs'

lemma does_pure {a : α} (h : P a x) : t.Does clock pages (pure a) x P :=
  fun _ hs => Program.fulfils_pure _ (stable_sees t pages x) hs fun _ hs => ⟨x, h, hs⟩

/-- A loop over a range, with what is known before each number. -/
lemma does_foldRange {step : α → Nat → Job α} (R : Nat → α → Holdings → Prop) {first count : Nat}
    (hstep : ∀ n a y, first ≤ n → n < first + count → R n a y →
      t.Does clock pages (step a n) y (R (n + 1)))
    {a : α} (h : R first a x) :
    t.Does clock pages (Program.foldRange step first count a) x (R (first + count)) := by
  induction count generalizing first a x with
  | zero => exact does_pure h
  | succ count ih =>
    refine (hstep first a x (Nat.le_refl _) (by omega) h).bind fun b y hb => ?_
    have hrest := ih (fun n a y hn hlt => hstep n a y (by omega) (by omega)) hb
    rwa [Nat.add_right_comm, Nat.add_assoc] at hrest

/-- A loop that collects values, with what is known of those that it has collected. -/
lemma does_collect {perform : Nat → Job α} (R : Nat → List α → Holdings → Prop) {first count : Nat}
    (hperform : ∀ n values y, first ≤ n → n < first + count → R n values y →
      t.Does clock pages (perform n) y fun a z => R (n + 1) (values ++ [a]) z)
    (h : R first [] x) :
    t.Does clock pages (Program.mapRange perform first count) x (R (first + count)) := by
  unfold Program.mapRange
  refine (does_foldRange (fun n values y => R n values.reverse y)
    (fun n values y hfirst hlt hR => ?_) h).bind fun values y hR => does_pure hR
  refine (hperform n _ y hfirst hlt hR).bind fun a z hz => does_pure ?_
  rwa [List.reverse_cons]

/-- A loop that collects values of a kind. -/
lemma does_mapRange {perform : Nat → Job α} (V : α → Prop) (R : Nat → Holdings → Prop)
    {first count : Nat}
    (hperform : ∀ n y, first ≤ n → n < first + count → R n y →
      t.Does clock pages (perform n) y fun a z => V a ∧ R (n + 1) z)
    (h : R first x) :
    t.Does clock pages (Program.mapRange perform first count) x fun values y =>
      values.length = count ∧ (∀ a ∈ values, V a) ∧ R (first + count) y := by
  refine (does_collect
    (fun n values y => first + values.length = n ∧ (∀ a ∈ values, V a) ∧ R n y)
    (fun n values y hfirst hlt hn => ?_) ⟨Nat.add_zero first, by simp, h⟩).mono ?_
  · obtain ⟨hlength, hvalues, hR⟩ := hn
    refine (hperform n y hfirst hlt hR).mono ?_
    rintro a z ⟨hV, hR'⟩
    refine ⟨by rw [List.length_append, List.length_singleton]; omega, fun b hb => ?_, hR'⟩
    exact (List.mem_append.1 hb).elim (hvalues b) fun hb => List.mem_singleton.1 hb ▸ hV
  · rintro values y ⟨hlength, hvalues, hR⟩
    exact ⟨Nat.add_left_cancel hlength, hvalues, hR⟩

/-- The rule for a question that leaves everything of the tenant as it is. -/
lemma does_question {q : Request} {P : Request.Answer q → Holdings → Prop}
    (hcall : ∀ c, q ≠ .call c)
    (hanswer : ∀ a s s', t.Sees x s →
      World.moves (Shared.service ι) t.client (.answered q a) s s' →
      t.KeepsTo s s' ∧ ∃ y, P a y ∧ t.Sees y s') :
    t.Does clock pages (Program.question (I := requests) q) x P := by
  intro s hs
  refine ⟨t.Sees x, hs, stable_sees t pages x, fun s s' _ hm => ?_, fun a s s' hs hm => ?_⟩
  · cases q with
    | call c => exact (hcall c rfl).elim
    | _ => exact hm.1.elim
  · obtain ⟨hkeeps, y, hy, hs'⟩ := hanswer a s s' hs hm.1
    refine ⟨⟨hkeeps, fun k n a' heq => ?_⟩,
      Program.fulfils_pure _ (stable_sees t pages y) hs' fun _ hs => ⟨y, hy, hs⟩⟩
    cases heq
    exact (hcall _ rfl).elim

/-- A question that does nothing. -/
lemma does_nothing {q : Request} (hcall : ∀ c, q ≠ .call c)
    (hmoves : ∀ a (s s' : World (Shared ι)),
      World.moves (Shared.service ι) t.client (.answered q a) s s' →
      s'.backend = s.backend ∧ s'.registry = s.registry) :
    t.Does clock pages (Program.question (I := requests) q) x fun _ y => y = x := by
  refine does_question hcall fun a s s' hs hm => ?_
  obtain ⟨hbackend, hregistry⟩ := hmoves a s s' hm
  refine ⟨.of_backend hs.coherent hbackend (by rw [hregistry]) (by simp [hregistry]), x, rfl, ?_⟩
  constructor
  · exact hbackend ▸ hs.coherent
  · exact hbackend ▸ hs.containers
  · exact hregistry ▸ hs.slots
  · exact hbackend ▸ hs.searches
  · exact hbackend ▸ hs.issued

lemma does_log (e : Log.Entry) : t.Does clock pages (Job.log e) x fun _ y => y = x :=
  does_nothing (by simp) fun _ _ _ h => by cases h; exact ⟨rfl, rfl⟩

lemma does_clock : t.Does clock pages Job.clock x fun _ y => y = x :=
  does_nothing (by simp) fun _ _ _ h => by cases h; exact ⟨rfl, rfl⟩

/-- Something is timed. -/
lemma does_timed {p : Job α} (h : t.Does clock pages p x P) :
    t.Does clock pages (Job.timed p) x fun a y => P a.1 y := by
  unfold Job.timed
  refine does_clock.bind fun start y hy => hy ▸ h.bind fun a z hz => ?_
  exact does_clock.bind fun stop z' hz' => hz' ▸ does_pure hz

lemma does_statuses :
    t.Does clock pages (Program.question (I := requests) .statuses) x fun _ y => y = x :=
  does_nothing (by simp) fun _ _ _ h => by cases h.2; exact ⟨rfl, rfl⟩

lemma does_record (worker nowMs : Nat) (aborted : Bool) :
    t.Does clock pages (Program.question (I := requests) (.record worker nowMs aborted)) x
      fun _ y => y = x := by
  refine does_nothing (by simp) fun a s s' h => ?_
  obtain rfl : s' = (s.record worker nowMs aborted).2 := congrArg Prod.snd h
  unfold World.record
  split <;> exact ⟨rfl, rfl⟩

/-! ### Counters -/

variable {view : Partition} {n : Nat} {v : Int}

/-- A counter of the tenant is read. -/
lemma does_readSlot (hview : view.contains n = true) (hn : n ∈ t.slots)
    (hv : x.slot n = some v) :
    t.Does clock pages (Program.question (I := requests) (.readSlot view n)) x
      fun a y => a = .ok v ∧ y = x := by
  refine does_question (by simp) fun a s s' hs hm => ?_
  obtain ⟨ha, rfl⟩ := hm
  have hslot := (hs.slots n hn).trans hv
  exact ⟨.refl t hs.coherent, x, ⟨ha.trans (Registry.viewGet_eq hview hslot), rfl⟩, hs⟩

/-- A counter of the tenant is written. -/
lemma does_writeSlot (hview : view.contains n = true) (hn : n ∈ t.slots)
    (hv : x.slot n = some v) (w : Int) :
    t.Does clock pages (Program.question (I := requests) (.writeSlot view n w)) x
      fun a y => a = .ok () ∧ y = x.write n w := by
  refine does_question (by simp) fun a s s' hs hm => ?_
  obtain ⟨hlt, -⟩ := Array.getElem?_eq_some_iff.1 ((hs.slots n hn).trans hv)
  have hr : s.registry.viewSet view n w = .ok (s.registry.write n w) :=
    Registry.viewSet_eq hview hlt
  simp only [World.moves, hr] at hm
  obtain ⟨rfl, rfl⟩ := hm
  have hother : ∀ m, m ≠ n → (s.registry.write n w).counters[m]? = s.registry.counters[m]? :=
    fun m hm => Registry.counters_write_of_ne hm
  refine ⟨.of_backend hs.coherent rfl Registry.size_write fun m hm => hother m ?_, _, ⟨rfl, rfl⟩,
    hs.coherent, hs.containers, fun m hm => ?_, hs.searches, hs.issued⟩
  · rintro rfl
    exact hm hn
  · by_cases hmn : m = n
    · rw [hmn, Holdings.write_slot_self]
      exact Registry.counters_write_self hlt
    · rw [Holdings.write_slot_of_ne hmn]
      exact (hother m hmn).trans (hs.slots m hm)

/-! ### Calls -/

/-- The rule for a call. -/
lemma does_call {c : Call} {P : c.Answer → Holdings → Prop}
    (hpages : ∀ k n, c = .fetchNextResults k n → ∀ a, (∃ y, P a y) →
      ∀ a' : Except CallError Json, HEq a a' → pages x a')
    (hanswer : ∀ a s b, t.Sees x s → s.backend.Step (.answered t.client c a) b →
      ∃ y, P a y ∧ t.KeepsTo s { s with backend := b } ∧ t.Sees y { s with backend := b }) :
    t.Does clock pages (Job.call c) x P := by
  intro s hs
  refine ⟨t.Sees x, hs, stable_sees t pages x, fun s s' hs hm => ?_, fun a s s' hs hm => ?_⟩
  · obtain ⟨⟨b, ⟨number, step⟩, rfl⟩, -⟩ := hm
    obtain ⟨hkeeps, hs'⟩ := hs.took step
    exact ⟨⟨hkeeps, by simp⟩, hs'⟩
  · obtain ⟨⟨b, step, rfl⟩, -⟩ := hm
    obtain ⟨y, hy, hkeeps, hs'⟩ := hanswer a s b hs step
    refine ⟨⟨hkeeps, fun k n a' heq => ?_⟩,
      Program.fulfils_pure _ (stable_sees t pages y) hs' fun _ hs => ⟨y, hy, hs⟩⟩
    injection heq with hq ha
    injection hq with hc
    exact ⟨x, hs, hpages k n hc a ⟨y, hy⟩ a' ha⟩

/-- The rule for a call that is answered at once and opens and reads no search: it changes
the container that it is about. -/
lemma does_answer {c : Call} {r : c.Answer} {d : Option Container}
    (htakes : c.takesNumber = false) (hsearch : c.searchHandle? = none) (hname : name ∈ t.names)
    (habout : About x c name)
    (hanswer : ∀ st : Store, st.Coherent → st.containers[name]? = x.container name →
      (st.answer c).1 = r ∧ (st.answer c).2.containers[name]? = d) :
    t.Does clock pages (Job.call c) x fun a y => a = r ∧ y = x.put name d := by
  refine does_call ?_ fun a s b hs step => ?_
  · rintro k n rfl
    cases hsearch
  · obtain ⟨rfl, rfl⟩ := step.eq_answer hs.coherent htakes
    obtain ⟨ha, hd⟩ := hanswer _ hs.coherent.store (hs.containers name hname)
    have hframe := s.backend.store.frame_answer htakes
    have hsubject : ∀ m, s.backend.store.subject c = some m → m = name :=
      fun m hm => habout.subject hs hname hm
    refine ⟨_, ⟨ha, rfl⟩, hs.answered step (fun m hm => hsubject m hm ▸ hname)
      (by simp [hsearch]) (fun m hm => ?_) rfl (fun k hk => ?_) hs.issued⟩
    · by_cases heq : m = name
      · rw [heq, Holdings.put_container_self]
        exact hd
      · rw [Holdings.put_container_of_ne heq]
        exact (hframe.containers m fun h => heq (hsubject m h)).trans (hs.containers m hm)
    · exact (hframe.searches k (by simp [hsearch])).trans (hs.searches k hk)

/-- A container that does not exist is created. -/
lemma does_create (hname : name ∈ t.names) (hne : name ≠ "") (hnone : x.container name = none)
    {config credentials : String} (hconfig : (Json.ofText? config).isSome)
    (hcredentials : (Json.ofText? credentials).isSome) (storageType : String) :
    t.Does clock pages (Job.call (.createContainer name storageType config credentials)) x
      fun a y => a = .ok () ∧ y = x.put name (some .empty) := by
  refine does_answer rfl rfl hname (about_of_name rfl rfl) fun st hst hc => ?_
  rcases Store.createContainer_of_absent hne (hc.trans hnone) config credentials with
    he | ⟨-, hnot⟩
  · simp only [Store.answer, he]
    exact ⟨trivial, Store.put_containers_self _ _ _⟩
  · exact (hnot ⟨hconfig, hcredentials⟩).elim

/-- Without JSON texts no container is created. -/
lemma does_create_fail (hname : name ∈ t.names) {config credentials : String}
    (hnot : ¬ ((Json.ofText? config).isSome ∧ (Json.ofText? credentials).isSome))
    (storageType : String) :
    t.Does clock pages (Job.call (.createContainer name storageType config credentials)) x
      fun a y => (∃ e, a = .error e) ∧ y = x := by
  obtain ⟨e, he⟩ :
      ∃ e, ∀ st : Store, st.createContainer name config credentials = (.error e, st) := by
    unfold Store.createContainer Store.requireJson
    split
    · exact ⟨_, fun _ => rfl⟩
    · by_cases h1 : (Json.ofText? config).isSome
      · by_cases h2 : (Json.ofText? credentials).isSome
        · exact (hnot ⟨h1, h2⟩).elim
        · rw [if_pos h1, if_neg h2]
          exact ⟨_, fun _ => rfl⟩
      · rw [if_neg h1]
        exact ⟨_, fun _ => rfl⟩
  refine (does_answer (r := .error e) (d := x.container name) rfl rfl hname
    (about_of_name rfl rfl) fun st _ hc => ?_).mono ?_
  · simp only [Store.answer, he]
    exact ⟨trivial, hc⟩
  · rintro a y ⟨rfl, rfl⟩
    exact ⟨⟨e, rfl⟩, Holdings.put_self rfl⟩

/-- What deleting a container is answered. -/
def removal (credentials name : String) : Option Container → Except CallError Unit
  | none => if (Json.ofText? credentials).isSome then .error (.containerNotFound name)
    else .error (.invalidStructure .credentials)
  | some c => if (Json.ofText? credentials).isSome then
      if c.openHandle.isSome then .error (.containerAlreadyOpen name) else .ok ()
    else .error (.invalidStructure .credentials)

/-- A container is deleted if it exists and is closed. -/
lemma does_delete (hname : name ∈ t.names) (credentials : String) :
    t.Does clock pages (Job.call (.deleteContainer name credentials)) x fun a y =>
      a = removal credentials name (x.container name) ∧
        y = if a.isOk then x.put name none else x := by
  by_cases hcredentials : (Json.ofText? credentials).isSome
  · cases hc : x.container name with
    | none =>
      refine (does_answer (r := .error (.containerNotFound name)) (d := none) rfl rfl hname
        (about_of_name rfl rfl) fun st _ hst => ?_).mono ?_
      · rw [hc] at hst
        simp [Store.answer, Store.deleteContainer, Store.requireJson, hcredentials, hst]
      · rintro a y ⟨rfl, rfl⟩
        exact ⟨by simp [removal, hcredentials], Holdings.put_self hc⟩
    | some d =>
      by_cases hopen : d.openHandle.isSome
      · refine (does_answer (r := .error (.containerAlreadyOpen name)) (d := some d) rfl rfl
          hname (about_of_name rfl rfl) fun st _ hst => ?_).mono ?_
        · rw [hc] at hst
          simp [Store.answer, Store.deleteContainer, Store.requireJson, hcredentials, hst, hopen]
        · rintro a y ⟨rfl, rfl⟩
          exact ⟨by simp [removal, hcredentials, hopen], Holdings.put_self hc⟩
      · refine (does_answer (r := .ok ()) (d := none) rfl rfl hname
          (about_of_name rfl rfl) fun st _ hst => ?_).mono ?_
        · rw [hc] at hst
          simp [Store.answer, Store.deleteContainer, Store.requireJson, hcredentials, hst, hopen]
        · rintro a y ⟨rfl, rfl⟩
          exact ⟨by simp [removal, hcredentials, hopen], rfl⟩
  · refine (does_answer (r := .error (.invalidStructure .credentials))
      (d := x.container name) rfl rfl hname (about_of_name rfl rfl) fun st _ hst => ?_).mono ?_
    · simpa [Store.answer, Store.deleteContainer, Store.requireJson, hcredentials] using hst
    · rintro a y ⟨rfl, rfl⟩
      refine ⟨?_, Holdings.put_self rfl⟩
      cases x.container name <;> simp [removal, hcredentials]

variable {d : Container} {h : Container.Handle}

/-- An open container answers for itself. -/
lemma does_inside {c : Call} (hcall : c.inside? = some h) (hname : name ∈ t.names)
    (hd : x.container name = some d) (hh : d.openHandle = some h.number) :
    t.Does clock pages (Job.call c) x fun a y =>
      a = (d.respond c).1 ∧ y = x.put name (some (d.respond c).2) := by
  obtain ⟨hnone, hhandle, hsearch, htakes⟩ := Call.of_inside hcall
  exact does_answer htakes hsearch hname (about_of_handle hnone hhandle hd hh) fun st hst hc =>
    hst.answer_inside (hc.trans hd) hh hcall

/-- An open container is closed. -/
lemma does_close (hname : name ∈ t.names) (hd : x.container name = some d)
    (hh : d.openHandle = some h.number) :
    t.Does clock pages (Job.call (.closeContainer h)) x fun a y =>
      a = .ok () ∧ y = x.put name (some { d with openHandle := none }) :=
  does_answer rfl rfl hname (about_of_handle rfl rfl hd hh) fun _ hst hc =>
    hst.closeContainer_of_handle (hc.trans hd) hh

/-- A closed container is opened. -/
lemma does_open (hname : name ∈ t.names) (hd : x.container name = some d)
    (hclosed : d.openHandle = none) {credentials : String}
    (hcredentials : (Json.ofText? credentials).isSome) :
    t.Does clock pages (Job.call (.openContainer name credentials)) x fun a y =>
      ∃ h : Container.Handle, a = .ok h ∧
        y = x.put name (some { d with openHandle := some h.number }) := by
  refine does_call (by simp) fun a s b hs step => ?_
  obtain ⟨number, hissued, hfresh, rfl, rfl⟩ := step.eq_conclude hs.coherent hcredentials
  have hc := (hs.containers name hname).trans hd
  have he := Store.attach_of_closed hc hclosed number
  simp only [Store.conclude, he] at step ⊢
  refine ⟨_, ⟨⟨number⟩, rfl, rfl⟩, hs.answered step ?_ (by simp [Call.searchHandle?])
    (fun m hm => ?_) rfl (fun k hk => ?_) hs.issued⟩
  · intro m hm
    obtain rfl : m = name := (about_of_name rfl rfl : About x _ name).subject hs hname hm
    exact hname
  · simp only [Shared.conclude, Store.conclude, he, Store.put_containers]
    by_cases heq : name = m
    · rw [if_pos heq, ← heq, Holdings.put_container_self]
    · rw [if_neg heq, Holdings.put_container_of_ne (Ne.symm heq)]
      exact hs.containers m hm
  · simp only [Shared.conclude, Store.conclude, he, Store.put_searches]
    exact hs.searches k hk

/-! ### What is done between opening a container and closing it -/

section Ajar

variable {content content' : Container → Prop}

/-- A container is opened to work on it. -/
lemma does_enter (content : Container → Prop) (hname : name ∈ t.names)
    (hd : x.container name = some d) (hclosed : d.openHandle = none) {credentials : String}
    (hcredentials : (Json.ofText? credentials).isSome)
    (hcontent : ∀ k, content { d with openHandle := k }) :
    t.Does clock pages (Job.call (.openContainer name credentials)) x fun a y =>
      ∃ h : Container.Handle, a = .ok h ∧ x.Ajar name h content y := by
  refine (does_open hname hd hclosed hcredentials).mono ?_
  rintro a y ⟨h, rfl, rfl⟩
  exact ⟨h, rfl, _, rfl, hcontent _, rfl⟩

/-- A call works on the container that is open. -/
lemma does_within {c : Call} {R : c.Answer → Prop} (hcall : c.inside? = some h)
    (hname : name ∈ t.names) (hy : x.Ajar name h content y)
    (hrespond : ∀ d, content d → R (d.respond c).1 ∧ content' (d.respond c).2) :
    t.Does clock pages (Job.call c) y fun a z => R a ∧ x.Ajar name h content' z := by
  obtain ⟨d, hopen, hd, rfl⟩ := hy
  obtain ⟨hR, hd'⟩ := hrespond d hd
  refine (does_inside hcall hname Holdings.put_container_self hopen).mono ?_
  rintro a z ⟨rfl, rfl⟩
  exact ⟨hR, _, by rwa [Container.respond_openHandle], hd', Holdings.put_put _⟩

/-- The container is closed when the work is done. -/
lemma does_leave (hname : name ∈ t.names) (hy : x.Ajar name h content y) :
    t.Does clock pages (Job.call (.closeContainer h)) y fun a z =>
      a = .ok () ∧ ∃ d, content d ∧ z = x.put name (some { d with openHandle := none }) := by
  obtain ⟨d, hopen, hd, rfl⟩ := hy
  refine (does_close hname Holdings.put_container_self hopen).mono ?_
  rintro a z ⟨rfl, rfl⟩
  exact ⟨rfl, d, hd, Holdings.put_put _⟩

end Ajar

/-! ### Searches -/

/-- An open container is searched. -/
lemma does_openSearch (hname : name ∈ t.names) (hd : x.container name = some d)
    (hh : d.openHandle = some h.number) (hnone : x.search = none) {text : String} {query : Query}
    (hquery : Query.parse text = .ok query) (itemType : String) (options : Search.Options) :
    t.Does clock pages (Job.call (.openSearch h itemType text options)) x fun a y =>
      ∃ k : Search.Handle, a = .ok k ∧
        y = x.seek (some (k.number,
          ⟨(Store.results d itemType query options.itemOptions).length,
            Store.results d itemType query options.itemOptions, options⟩)) := by
  refine does_call (by simp) fun a s b hs step => ?_
  have htakes : (Call.openSearch h itemType text options).takesNumber = true := by
    simp [Call.takesNumber, hquery, Except.toBool]
  obtain ⟨number, hissued, hfresh, rfl, rfl⟩ := step.eq_conclude hs.coherent htakes
  have hc := (hs.containers name hname).trans hd
  have he := hs.coherent.store.beginSearch_of_handle hc hh itemType query options number
  simp only [Store.conclude, hquery, he] at step ⊢
  refine ⟨_, ⟨⟨number⟩, rfl, rfl⟩, hs.answered step ?_ (by simp [Call.searchHandle?])
    (fun m hm => ?_) rfl (fun k hk => ?_) ?_⟩
  · intro m hm
    obtain rfl : m = name := (about_of_handle rfl rfl hd hh).subject hs hname hm
    exact hname
  · simp only [Shared.conclude, Store.conclude, hquery, he]
    exact hs.containers m hm
  · simp only [Shared.conclude, Store.conclude, hquery, he, Std.ExtTreeMap.getElem?_insert,
      Std.compare_eq_iff_eq]
    by_cases heq : number = k
    · rw [if_pos heq, Holdings.cursor_self (by rw [Holdings.seek_search, heq])]
    · rw [if_neg heq, Holdings.cursor_of_ne (Holdings.seek_search) (Ne.symm heq), hs.searches k hk,
        Holdings.cursor_of_none hnone]
  · rintro k q ⟨⟩
    exact hissued

variable {k : Search.Handle} {q : Search}

/-- The next results of a search are read. -/
lemma does_fetch (hq : x.search = some (k.number, q)) {count : Nat}
    (hpages : pages x (.ok (q.page count).toJson)) :
    t.Does clock pages (Job.call (.fetchNextResults k count)) x fun a y =>
      a = .ok (q.page count).toJson ∧
        y = x.seek (some (k.number, { q with pending := q.pending.drop count })) := by
  refine does_call ?_ fun a s b hs step => ?_
  · rintro _ _ ⟨⟩ a ⟨y, rfl, -⟩ a' heq
    cases heq
    exact hpages
  · obtain ⟨rfl, rfl⟩ := step.eq_answer hs.coherent rfl
    have hcursor := hs.cursor hq
    refine ⟨_, ⟨Store.fetchNextResults_of_search hcursor count, rfl⟩, hs.answered step (by
        simp [Store.subject, Call.containerName?, Call.containerHandle?]) ?_ (fun m hm => ?_) rfl
      (fun j hj => ?_) ?_⟩
    · rintro k' ⟨⟩
      exact hs.issued _ _ hq
    · simp only [Store.answer, Store.fetchNextResults_containers]
      exact hs.containers m hm
    · simp only [Store.answer, Store.fetchNextResults, hcursor, Std.ExtTreeMap.getElem?_insert,
        Std.compare_eq_iff_eq]
      by_cases heq : k.number = j
      · rw [if_pos heq, Holdings.cursor_self (by rw [Holdings.seek_search, heq])]
      · rw [if_neg heq, Holdings.cursor_of_ne Holdings.seek_search (Ne.symm heq),
          hs.searches j hj, Holdings.cursor_of_ne hq (Ne.symm heq)]
    · rintro k' q' ⟨⟩
      exact hs.issued _ _ hq

/-- A search is ended. -/
lemma does_closeSearch (hq : x.search = some (k.number, q)) :
    t.Does clock pages (Job.call (.closeSearch k)) x fun a y =>
      a = .ok () ∧ y = x.seek none := by
  refine does_call (by simp) fun a s b hs step => ?_
  obtain ⟨rfl, rfl⟩ := step.eq_answer hs.coherent rfl
  have hcursor := hs.cursor hq
  have hmem : s.backend.store.searches.contains k.number = true := by
    rw [Std.ExtTreeMap.contains_iff_mem, Std.ExtTreeMap.mem_iff_isSome_getElem?, hcursor]
    rfl
  refine ⟨_, ⟨by simp [Store.answer, Store.closeSearch, hmem], rfl⟩, hs.answered step (by
      simp [Store.subject, Call.containerName?, Call.containerHandle?]) ?_ (fun m hm => ?_) rfl
    (fun j hj => ?_) (by simp)⟩
  · rintro k' ⟨⟩
    exact hs.issued _ _ hq
  · simp only [Store.answer, Store.closeSearch_containers]
    exact hs.containers m hm
  · simp only [Store.answer, Store.closeSearch, hmem, if_true, Std.ExtTreeMap.getElem?_erase,
      Std.compare_eq_iff_eq]
    rw [Holdings.cursor_of_none Holdings.seek_search]
    by_cases heq : k.number = j
    · rw [if_pos heq]
    · rw [if_neg heq, hs.searches j hj, Holdings.cursor_of_ne hq (Ne.symm heq)]

end Tenant

end Soak
