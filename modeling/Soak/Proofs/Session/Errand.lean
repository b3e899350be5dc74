import Soak.Proofs.Session.Conduct
import Soak.Proofs.Store.Refusals

/-!
# Programs that put everything back

A program on an errand opens containers and searches, and closes them again, whatever its calls
are answered.  What it finds may be anything: containers that do not exist, that exist already,
or that somebody else has open.

`Holdings.Kept` is what such a program leaves of what it had, and `Holdings.Visits` what holds
while it has a container open.  There is one rule for each call, which covers all of its answers,
and by them `Tenant.Preserves` is proved along a program.  `Job.restores_of_preserves` leads from
there to runs of the program: however its clock goes, it ends with the open handles and the
searches that there were before (`Job.Restores`).
-/

namespace Soak

namespace Holdings

/-- The handle under which a container is open. -/
def holder (x : Holdings) (name : String) : Option Int :=
  (x.container name).bind Container.openHandle

/-- Nothing has been opened or closed for good, and no counter has come or gone; and if something
was only read, then nothing has changed in the containers. -/
structure Kept (reads : Bool) (x y : Holdings) : Prop where
  slots : ∀ n, (y.slot n).isSome = (x.slot n).isSome
  search : y.search = x.search
  holder : ∀ name, y.holder name = x.holder name
  contents : reads = true → ∀ name, y.container name = x.container name

/-- A container that was closed is open under a handle, nothing else has been opened or closed,
and no counter has come or gone; and if the container is only read, then nothing has changed in
it. -/
structure Visits (reads : Bool) (x : Holdings) (name : String) (h : Container.Handle)
    (y : Holdings) : Prop where
  slots : ∀ n, (y.slot n).isSome = (x.slot n).isSome
  search : y.search = x.search
  others : ∀ n, n ≠ name → y.container n = x.container n
  closed : x.holder name = none
  opened : ∃ d, y.container name = some d ∧ d.openHandle = some h.number
  contents : reads = true → ∀ d, y.container name = some d →
    x.container name = some { d with openHandle := none }

/-- A search is open, and nothing else is different. -/
def Searches (x : Holdings) (k : Search.Handle) (y : Holdings) : Prop :=
  ∃ q, y = x.seek (some (k.number, q))

variable {reads : Bool} {x y z : Holdings} {name : String} {h : Container.Handle}

lemma Kept.refl (reads : Bool) (x : Holdings) : Kept reads x x :=
  ⟨fun _ => rfl, rfl, fun _ => rfl, fun _ _ => rfl⟩

lemma Kept.trans (hxy : Kept reads x y) (hyz : Kept reads y z) : Kept reads x z where
  slots n := (hyz.slots n).trans (hxy.slots n)
  search := hyz.search.trans hxy.search
  holder name := (hyz.holder name).trans (hxy.holder name)
  contents hreads name := (hyz.contents hreads name).trans (hxy.contents hreads name)

/-- A container is replaced by one that is open or closed as it was. -/
lemma kept_put {c : Option Container} (hc : c.bind Container.openHandle = x.holder name) :
    Kept false x (x.put name c) where
  slots _ := rfl
  search := rfl
  holder n := by
    by_cases hn : n = name
    · rw [hn, holder, put_container_self, hc]
    · rw [holder, put_container_of_ne hn, holder]
  contents hreads := by cases hreads

/-- A counter that there is may be written. -/
lemma isSome_write {n : Nat} (hn : (x.slot n).isSome) (v : Int) (m : Nat) :
    ((x.write n v).slot m).isSome = (x.slot m).isSome := by
  by_cases hm : m = n
  · rw [hm, write_slot_self, hn, Option.isSome_some]
  · rw [write_slot_of_ne hm]

lemma Kept.write (hy : Kept reads x y) {n : Nat} (hn : (y.slot n).isSome) (v : Int) :
    Kept reads x (y.write n v) :=
  ⟨fun m => (isSome_write hn v m).trans (hy.slots m), hy.search, hy.holder, hy.contents⟩

lemma Visits.write (hy : x.Visits reads name h y) {n : Nat} (hn : (y.slot n).isSome) (v : Int) :
    x.Visits reads name h (y.write n v) :=
  ⟨fun m => (isSome_write hn v m).trans (hy.slots m), hy.search, hy.others, hy.closed, hy.opened,
    hy.contents⟩

/-- A visit begins when a closed container is opened. -/
lemma visits_put {d : Container} (hd : x.container name = some d) (hclosed : d.openHandle = none) :
    x.Visits reads name h (x.put name (some { d with openHandle := some h.number })) where
  slots _ := rfl
  search := rfl
  others n hn := put_container_of_ne hn
  closed := by rw [holder, hd, Option.bind_some, hclosed]
  opened := ⟨_, put_container_self, rfl⟩
  contents _ e he := by
    rw [put_container_self] at he
    obtain rfl := Option.some.inj he
    rw [hd, ← hclosed]

/-- A visit goes on when the container is worked on. -/
lemma Visits.put {d e : Container} (hy : x.Visits reads name h y) (hd : y.container name = some d)
    (hhandle : e.openHandle = d.openHandle) (hsame : reads = true → e = d) :
    x.Visits reads name h (y.put name (some e)) where
  slots := hy.slots
  search := hy.search
  others n hn := (put_container_of_ne hn).trans (hy.others n hn)
  closed := hy.closed
  opened := by
    obtain ⟨d', hd', hopen⟩ := hy.opened
    obtain rfl := Option.some.inj (hd.symm.trans hd')
    exact ⟨e, put_container_self, hhandle.trans hopen⟩
  contents hreads e' he' := by
    rw [put_container_self] at he'
    obtain rfl := Option.some.inj he'
    rw [hsame hreads]
    exact hy.contents hreads d hd

/-- A visit ends when the container is closed. -/
lemma Visits.leave {d : Container} (hy : x.Visits reads name h y)
    (hd : y.container name = some d) :
    Kept reads x (y.put name (some { d with openHandle := none })) where
  slots := hy.slots
  search := hy.search
  holder n := by
    by_cases hn : n = name
    · rw [hn, hy.closed, holder, put_container_self, Option.bind_some]
    · rw [holder, put_container_of_ne hn, hy.others n hn, holder]
  contents hreads n := by
    by_cases hn : n = name
    · rw [hn, put_container_self, hy.contents hreads d hd]
    · exact (put_container_of_ne hn).trans (hy.others n hn)

end Holdings

namespace Tenant

variable {ι : Type} [DecidableEq ι] {clock : Reading → Prop} {t : Tenant ι}
  {pages : Holdings → Except CallError Json → Prop} {x y : Holdings} {name : String}
  {reads : Bool} {h : Container.Handle}

/-! ### Calls with whatever answer -/

/-- A call that is refused changes nothing. -/
lemma does_refused {c : Call} (hfetch : ∀ k n, c ≠ .fetchNextResults k n)
    (hrefused : ∀ a s b, t.Sees x s → s.backend.Step (.answered t.client c a) b →
      ∃ e, a = .error e) :
    t.Does clock pages (Job.call c) x fun a y => (∃ e, a = .error e) ∧ y = x := by
  refine does_call (fun k n hc => (hfetch k n hc).elim) fun a s b hs step => ?_
  have hissued : b.issued = s.backend.issued := by cases step <;> rfl
  have hb : b.Coherent := hs.coherent.step step
  obtain ⟨e, rfl⟩ := hrefused a s b hs step
  have hstore : b.store = s.backend.store := step.store_of_error hs.coherent
  refine ⟨x, ⟨⟨e, rfl⟩, rfl⟩, ?_, ?_⟩
  · constructor <;> simp only [hstore, hissued]
    · exact hb
    · exact fun _ _ => trivial
    · exact fun _ _ => trivial
    · exact fun _ _ => trivial
    · exact fun _ hp => hp
    · exact fun _ _ _ hk => hk
    · exact fun _ hp => .inl hp
    · exact Int.le_refl _
  · constructor
    · exact hb
    · simpa only [hstore] using hs.containers
    · exact hs.slots
    · simpa only [hstore, hissued] using hs.searches
    · simpa only [hissued] using hs.issued

/-- A container is created, or there is one, or something is wrong with the texts. -/
lemma does_create_any (hname : name ∈ t.names) (hne : name ≠ "")
    (storageType config credentials : String) :
    t.Does clock pages (Job.call (.createContainer name storageType config credentials)) x
      fun a y => (∃ e, a = .error e) ∧ y = x ∨
        a = .ok () ∧ (Json.ofText? credentials).isSome ∧ x.container name = none ∧
          y = x.put name (some .empty) := by
  cases hc : x.container name with
  | none =>
    by_cases htexts : (Json.ofText? config).isSome ∧ (Json.ofText? credentials).isSome
    · refine (does_create hname hne hc htexts.1 htexts.2 storageType).mono ?_
      rintro _ _ ⟨rfl, rfl⟩
      exact .inr ⟨rfl, htexts.2, rfl, rfl⟩
    · exact (does_create_fail hname htexts storageType).mono fun _ _ hy => .inl hy
  | some d =>
    refine (does_refused (by simp) fun a s b hs step => ?_).mono fun _ _ hy => .inl hy
    obtain ⟨rfl, -⟩ := step.eq_answer hs.coherent rfl
    have hexists : s.backend.store.hasContainer name = true := by
      rw [Store.hasContainer, Std.ExtTreeMap.contains_eq_isSome_getElem?, hs.containers name hname,
        hc, Option.isSome_some]
    simp only [Store.answer, Store.createContainer, hexists, if_true, if_neg hne]
    split <;> exact ⟨_, rfl⟩

/-- Either way, nothing is opened or closed. -/
lemma does_create_kept (hname : name ∈ t.names) (hne : name ≠ "")
    (storageType config credentials : String) :
    t.Does clock pages (Job.call (.createContainer name storageType config credentials)) x
      fun _ y => x.Kept false y := by
  refine (does_create_any hname hne storageType config credentials).mono ?_
  rintro _ _ (⟨-, rfl⟩ | ⟨-, -, hc, rfl⟩)
  · exact .refl false _
  · refine Holdings.kept_put ?_
    rw [Holdings.holder, hc]
    rfl

/-- A container that is deleted was closed. -/
lemma closed_of_removal {credentials : String} {c : Option Container}
    (hok : (removal credentials name c).isOk = true) : c.bind Container.openHandle = none := by
  cases c with
  | none => rfl
  | some d =>
    by_contra hopen
    have hsome : d.openHandle.isSome = true := Option.isSome_iff_ne_none.2 hopen
    rw [removal, if_pos hsome] at hok
    split at hok <;> cases hok

/-- A container is deleted, which closes nothing, or the call is refused. -/
lemma does_delete_kept (hname : name ∈ t.names) (credentials : String) :
    t.Does clock pages (Job.call (.deleteContainer name credentials)) x
      fun _ y => x.Kept false y := by
  refine (does_delete hname credentials).mono ?_
  rintro a _ ⟨rfl, rfl⟩
  split
  · next hok =>
    have hclosed : x.holder name = none := closed_of_removal hok
    exact Holdings.kept_put hclosed.symm
  · exact .refl false x

/-- A closed container is opened, or the call is refused. -/
lemma does_open_any (hname : name ∈ t.names) (credentials : String) :
    t.Does clock pages (Job.call (.openContainer name credentials)) x fun a y =>
      (∃ e, a = .error e) ∧ y = x ∨
        ∃ (h : Container.Handle) (d : Container), a = .ok h ∧ (Json.ofText? credentials).isSome ∧
          x.container name = some d ∧ d.openHandle = none ∧
            y = x.put name (some { d with openHandle := some h.number }) := by
  by_cases hcan : (Json.ofText? credentials).isSome ∧
      ∃ d, x.container name = some d ∧ d.openHandle = none
  · obtain ⟨hcredentials, d, hd, hclosed⟩ := hcan
    refine (does_open hname hd hclosed hcredentials).mono ?_
    rintro _ _ ⟨h, rfl, rfl⟩
    exact .inr ⟨h, d, rfl, hcredentials, hd, hclosed, rfl⟩
  · refine (does_refused (by simp) fun a s b hs step => ?_).mono fun a y hy => .inl hy
    cases htakes : (Call.openContainer name credentials).takesNumber with
    | true =>
      obtain ⟨number, -, -, rfl, -⟩ := step.eq_conclude hs.coherent htakes
      rcases s.backend.store.attach_cases name number with ⟨e, he⟩ | ⟨d, hd, hclosed, -⟩
      · exact ⟨e, congrArg Prod.fst he⟩
      · exact (hcan ⟨htakes, d, (hs.containers name hname).symm.trans hd, hclosed⟩).elim
    | false =>
      obtain ⟨rfl, -⟩ := step.eq_answer hs.coherent htakes
      have hbad : Json.ofText? credentials = none := by simpa [Call.takesNumber] using htakes
      exact ⟨.invalidStructure .credentials, by
        simp [Store.answer, Store.openContainer, Store.requireJson, hbad]⟩

/-- A container that is opened is visited. -/
lemma does_open_visits (reads : Bool) (hname : name ∈ t.names) (credentials : String) :
    t.Does clock pages (Job.call (.openContainer name credentials)) x fun a y =>
      (∃ e, a = .error e) ∧ y = x ∨ ∃ h, a = .ok h ∧ x.Visits reads name h y := by
  refine (does_open_any hname credentials).mono ?_
  rintro _ _ (hrefused | ⟨h, d, rfl, -, hd, hclosed, rfl⟩)
  · exact .inl hrefused
  · exact .inr ⟨h, rfl, Holdings.visits_put hd hclosed⟩

/-- A call works on the container that is visited. -/
lemma does_inside_visits {c : Call} (hcall : c.inside? = some h) (hname : name ∈ t.names)
    (hy : x.Visits reads name h y) (hreads : reads = true → ∀ d : Container, (d.respond c).2 = d) :
    t.Does clock pages (Job.call c) y fun _ z => x.Visits reads name h z := by
  obtain ⟨d, hd, hopen⟩ := hy.opened
  refine (does_inside hcall hname hd hopen).mono ?_
  rintro _ _ ⟨-, rfl⟩
  exact hy.put hd (Container.respond_openHandle c) fun h => hreads h d

/-- The container that is visited is closed. -/
lemma does_close_kept (hname : name ∈ t.names) (hy : x.Visits reads name h y) :
    t.Does clock pages (Job.call (.closeContainer h)) y fun _ z => x.Kept reads z := by
  obtain ⟨d, hd, hopen⟩ := hy.opened
  refine (does_close hname hd hopen).mono ?_
  rintro _ _ ⟨-, rfl⟩
  exact hy.leave hd

/-- The container that is visited is searched, unless the query is none. -/
lemma does_openSearch_visits (hname : name ∈ t.names) (hy : x.Visits reads name h y)
    (hnone : y.search = none) (itemType text : String) (options : Search.Options) :
    t.Does clock pages (Job.call (.openSearch h itemType text options)) y fun a z =>
      (∃ e, a = .error e) ∧ z = y ∨ ∃ k, a = .ok k ∧ y.Searches k z := by
  obtain ⟨d, hd, hopen⟩ := hy.opened
  cases hquery : Query.parse text with
  | ok query =>
    refine (does_openSearch hname hd hopen hnone hquery itemType options).mono ?_
    rintro _ _ ⟨k, rfl, rfl⟩
    exact .inr ⟨k, rfl, _, rfl⟩
  | error fault =>
    refine (does_refused (by simp) fun a s b hs step => ?_).mono fun a z hz => .inl hz
    have htakes : (Call.openSearch h itemType text options).takesNumber = false := by
      simp [Call.takesNumber, hquery, Except.toBool]
    obtain ⟨rfl, -⟩ := step.eq_answer hs.coherent htakes
    exact ⟨.invalidQuery fault, by simp [Store.answer, Store.openSearch, hquery]⟩

/-- A search is ended, and there is none as before. -/
lemma does_closeSearch_searches {k : Search.Handle} (hnone : x.search = none)
    (hy : x.Searches k y) :
    t.Does clock pages (Job.call (.closeSearch k)) y fun _ z => z = x := by
  obtain ⟨q, rfl⟩ := hy
  refine (does_closeSearch Holdings.seek_search).mono ?_
  rintro _ _ ⟨-, rfl⟩
  rw [Holdings.seek_seek, ← hnone, Holdings.seek_self]

/-- A counter is read; whoever gets to see one has it in view. -/
lemma does_readSlot_any {view : Partition} {n : Nat}
    (hslots : view.contains n = true → n ∈ t.slots) :
    t.Does clock pages (Program.question (I := requests) (.readSlot view n)) x fun a y =>
      y = x ∧ ∀ v, a = .ok v → view.contains n = true ∧ x.slot n = some v := by
  refine does_question (by simp) fun a s s' hs hm => ?_
  obtain ⟨rfl, rfl⟩ := hm
  refine ⟨.refl t hs.coherent, x, ⟨rfl, fun v hv => ?_⟩, hs⟩
  obtain ⟨hview, hvalue⟩ := Registry.viewGet_eq_ok_iff.1 hv
  exact ⟨hview, (hs.slots n (hslots hview)).symm.trans hvalue⟩

/-! ### Programs -/

section Preserves

variable {α β : Type} {I : Holdings → Prop} {p : Job α} {next : α → Job β}

/-- A tenant whose things are as `I` says runs the program to a value, whatever its clock and
its pages show, and then they are as `I` says again. -/
def Preserves (t : Tenant ι) (I : Holdings → Prop) (p : Job α) : Prop :=
  ∀ y, I y → t.Does (fun _ => True) (fun _ _ => True) p y fun _ z => I z

lemma preserves_pure (a : α) : t.Preserves I (pure a : Job α) := by
  intro y hy
  exact does_pure hy

lemma Preserves.bind (h : t.Preserves I p) (hnext : ∀ a, t.Preserves I (next a)) :
    t.Preserves I (p >>= next) := by
  intro y hy
  exact (h y hy).bind fun a z hz => hnext a z hz

lemma preserves_log (e : Log.Entry) : t.Preserves I (Job.log e) := by
  intro y hy
  refine (does_log e).mono ?_
  rintro _ _ rfl
  exact hy

lemma preserves_clock : t.Preserves I Job.clock := by
  intro y hy
  refine does_clock.mono ?_
  rintro _ _ rfl
  exact hy

lemma Preserves.timed (h : t.Preserves I p) : t.Preserves I (Job.timed p) := by
  intro y hy
  exact does_timed (h y hy)

lemma preserves_foldRange {step : α → Nat → Job α} {first count : Nat}
    (h : ∀ a n, first ≤ n → n < first + count → t.Preserves I (step a n)) (a : α) :
    t.Preserves I (Program.foldRange step first count a) := by
  intro y hy
  exact does_foldRange (fun _ _ => I) (fun n a z hn hlt hz => h a n hn hlt z hz) hy

lemma preserves_mapRange {perform : Nat → Job α} {first count : Nat}
    (h : ∀ n, first ≤ n → n < first + count → t.Preserves I (perform n)) :
    t.Preserves I (Program.mapRange perform first count) := by
  intro y hy
  refine (does_mapRange (fun _ => True) (fun _ => I) (fun n y hn hlt hy => ?_) hy).mono ?_
  · exact (h n hn hlt y hy).mono fun _ _ hz => ⟨trivial, hz⟩
  · exact fun _ _ hz => hz.2.2

lemma preserves_create (hname : name ∈ t.names) (hne : name ≠ "")
    (storageType config credentials : String) :
    t.Preserves (x.Kept false)
      (Job.call (.createContainer name storageType config credentials)) := by
  intro y hy
  refine (does_create_kept hname hne storageType config credentials).mono ?_
  intro _ z hz
  exact hy.trans hz

lemma preserves_delete (hname : name ∈ t.names) (credentials : String) :
    t.Preserves (x.Kept false) (Job.call (.deleteContainer name credentials)) := by
  intro y hy
  refine (does_delete_kept hname credentials).mono ?_
  intro _ z hz
  exact hy.trans hz

lemma preserves_inside {c : Call} (hcall : c.inside? = some h) (hname : name ∈ t.names)
    (hreads : reads = true → ∀ d : Container, (d.respond c).2 = d) :
    t.Preserves (x.Visits reads name h) (Job.call c) := by
  intro y hy
  exact does_inside_visits hcall hname hy hreads

/-- The next results of a search are read, whatever they are. -/
lemma preserves_fetch (k : Search.Handle) (count : Nat) :
    t.Preserves (x.Searches k) (Job.call (.fetchNextResults k count)) := by
  rintro _ ⟨q, rfl⟩
  refine (does_fetch Holdings.seek_search trivial).mono ?_
  rintro _ _ ⟨-, rfl⟩
  exact ⟨_, rfl⟩

/-- A container is visited, unless it cannot be opened. -/
lemma preserves_open {next : Except CallError Container.Handle → Job β} (hname : name ∈ t.names)
    (credentials : String) (hrefused : ∀ e, t.Preserves (x.Kept reads) (next (.error e)))
    (hopened : ∀ h y z, x.Kept reads y → y.Visits reads name h z →
      t.Does (fun _ => True) (fun _ _ => True) (next (.ok h)) z fun _ w => y.Kept reads w) :
    t.Preserves (x.Kept reads) (Job.call (.openContainer name credentials) >>= next) := by
  intro y hy
  refine (does_open_visits reads hname credentials).bind ?_
  rintro _ z (⟨⟨e, rfl⟩, rfl⟩ | ⟨h, rfl, hz⟩)
  · exact hrefused e z hy
  · exact (hopened h y z hy hz).mono fun _ _ hw => hy.trans hw

/-- The container that is visited is searched, and the search is ended, unless the query is
none. -/
lemma preserves_openSearch {next : Except CallError Search.Handle → Job β} (hname : name ∈ t.names)
    (hnone : x.search = none) (itemType text : String) (options : Search.Options)
    (hrefused : ∀ e, t.Preserves (x.Visits reads name h) (next (.error e)))
    (hopened : ∀ k (y z : Holdings), y.search = none → y.Searches k z →
      t.Does (fun _ => True) (fun _ _ => True) (next (.ok k)) z fun _ w => w = y) :
    t.Preserves (x.Visits reads name h)
      (Job.call (.openSearch h itemType text options) >>= next) := by
  intro y hy
  have hnone' : y.search = none := hy.search.trans hnone
  refine (does_openSearch_visits hname hy hnone' itemType text options).bind ?_
  rintro _ z (⟨⟨e, rfl⟩, rfl⟩ | ⟨k, rfl, hz⟩)
  · exact hrefused e z hy
  · refine (hopened k y z hnone' hz).mono ?_
    rintro _ _ rfl
    exact hy

end Preserves

end Tenant

/-! ### Runs -/

/-- What holds at first and what every step keeps holds at the end of a program that nobody
disturbs. -/
lemma Program.Fulfils.alone {I : Interface} {σ α : Type} {moves : Moves I σ} {d : Duty I σ}
    {p : Program I α} {Q : α → σ → Prop} {s : σ} (h : p.Fulfils moves d Q s) (inv : σ → Prop)
    (hs : inv s) (hinv : ∀ m s s', inv s → d.pledge m s s' → inv s') :
    p.Fulfils moves { d with rely := fun s s' => s' = s } (fun a s => Q a s ∧ inv s) s := by
  have hstable {J : σ → Prop} (hJ : d.Stable J) :
      Duty.Stable { d with rely := fun s s' => s' = s } fun s => J s ∧ inv s :=
    ⟨fun s hs => hJ.always s hs.1, fun _ _ hs hr => hr ▸ hs⟩
  induction p generalizing s with
  | done a =>
    obtain ⟨J, hJ, hst, hend⟩ := h
    exact ⟨_, ⟨hJ, hs⟩, hstable hst, fun s hs => ⟨hend s hs.1, hs.2⟩⟩
  | panic message =>
    obtain ⟨hpanics, J, hJ, hst⟩ := h
    exact ⟨hpanics, _, ⟨hJ, hs⟩, hstable hst⟩
  | ask q resume ih =>
    obtain ⟨J, hJ, hst, hprep, hans⟩ := h
    refine ⟨_, ⟨hJ, hs⟩, hstable hst, fun s s' hs hm => ?_, fun a s s' hs hm => ?_⟩
    · obtain ⟨hpledge, hJ'⟩ := hprep s s' hs.1 hm
      exact ⟨hpledge, hJ', hinv _ _ _ hs.2 hpledge⟩
    · obtain ⟨hpledge, hrest⟩ := hans a s s' hs.1 hm
      exact ⟨hpledge, ih a hrest (hinv _ _ _ hs.2 hpledge)⟩

/-- The same handles are open to the same containers, the same searches have the same results
before them, and no container has changed but for those of some names. -/
structure Store.Restored (changed : Set String) (st st' : Store) : Prop where
  opened : st'.opened = st.opened
  searches : st'.searches = st.searches
  containers : ∀ name ∉ changed, st'.containers[name]? = st.containers[name]?

/-- A program that runs alone comes to an end, with a value or with a panic, and restores the
store but for the containers `changed`.  No step of it touches containers that are not among
`touched`. -/
def Job.Restores {α : Type} (touched changed : Set String) (p : Job α)
    (s : World (Shared Client)) : Prop :=
  Inevitably (World.moves (Shared.service Client))
    (fun _ _ s s' => ∀ name ∉ touched,
      s'.backend.store.containers[name]? = s.backend.store.containers[name]?)
    (fun _ s' => s.backend.store.Restored changed s'.backend.store)
    (.alone (Run.ofProgram p)) s

namespace Job

variable {α : Type} {p : Job α} {names : Set String} {st : Store} {registry : Registry}
  {statuses : List Worker.Status}

/-- A program that panics at once has done nothing. -/
lemma restores_panic (message : String) (touched changed : Set String)
    (s : World (Shared Client)) : Restores touched changed (.panic message : Job α) s :=
  .ended rfl ⟨rfl, rfl, fun _ _ => rfl⟩

/-- **A program that leaves a tenant what it had restores the store** when it has the store for
itself. -/
lemma restores_of_preserves (reads : Bool) (slots : Set Nat) (hst : st.Coherent)
    (h : ∀ x : Holdings, x.search = none →
      Tenant.Preserves ⟨Client.main, names, slots⟩ (x.Kept reads) p) :
    p.Restores names (if reads then ∅ else names) ⟨.start st, registry, statuses⟩ := by
  let t : Tenant Client := ⟨.main, names, slots⟩
  let s : World (Shared Client) := ⟨.start st, registry, statuses⟩
  have hs : s.backend.Coherent := Shared.coherent_start hst
  have hquiet : ∀ i, s.Quiet i := World.quiet_of_issued rfl
  -- what the tenant does not have stays as it is at every step
  have halone := (h s.holdings rfl s.holdings (.refl reads _) s
    (t.sees_of_quiet hs (hquiet _))).alone
    (fun s' => s'.Leaves st registry.size names ∧ ∀ i ≠ Client.main, s'.Quiet i)
    ⟨World.leaves_self hs rfl, fun i _ => hquiet i⟩
    fun m s₁ s₂ hinv hpledge => ⟨hinv.1.of_keepsTo hpledge.1 subset_rfl,
      fun i hi => hpledge.1.quiet hi (hinv.2 i hi)⟩
  have hkeeps : ∀ m s₁ s₂, (t.duty fun _ _ => True).pledge m s₁ s₂ → ∀ name ∉ names,
      s₂.backend.store.containers[name]? = s₁.backend.store.containers[name]? :=
    fun m s₁ s₂ hpledge => hpledge.1.containers
  unfold Restores
  rw [← World.steady_true]
  refine (Run.ends_program (World.responsive World.exists_reading) hkeeps halone ?_
    fun _ _ hpanics _ => hpanics.elim).inevitably fun _ => rfl
  rintro a s' ⟨⟨y, hy, hsees⟩, hleaves, hothers⟩
  constructor
  · refine hleaves.opened_eq hst fun name hname => ?_
    rw [Store.holder, Store.holder, hsees.containers name hname]
    exact hy.holder name
  · refine hleaves.searches_eq hst fun i => ?_
    by_cases hi : i = .main
    · rw [hi]
      exact hsees.quiet hy.search
    · exact hothers i hi
  · intro name hname
    by_cases hmem : name ∈ names
    · cases reads with
      | true => exact (hsees.containers name hmem).trans (hy.contents rfl name)
      | false => exact (hname hmem).elim
    · exact hleaves.containers name hmem

end Job

end Soak
