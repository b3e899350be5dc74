import Mathlib.Data.List.Basic
import Mathlib.Data.List.Induction
import Soak.Proofs.Longevity.Census
import Soak.Proofs.Longevity.Counters
import Soak.Rehearsal.Recorder

/-!
# Scans between other events

Counters are written, workers record iterations and give signs of life, and monitors scan, in
any order (`Monitor.Event`).  What a slot holds is then what was last written to it, and what
is known of a worker are the iterations that it has recorded and its latest activity
(`Recorder.Tells`).  A scan reports exactly that and leaves everything as it is but the log.
-/

namespace Soak

namespace Program

variable {I : Interface} {α β σ : Type} {r : Respondent I σ} {thread : String} {s s' : σ}

/-- What follows a program that has ended goes on where it ended. -/
lemma run_bind_of_ok {p : Program I α} {a : α} (h : p.run r thread s = (.ok a, s'))
    (next : α → Program I β) : (p >>= next).run r thread s = (next a).run r thread s' := by
  induction p generalizing s with
  | done b =>
    cases h
    rfl
  | ask q resume ih =>
    simp only [bind_ask, run] at h ⊢
    split at h
    · next answer t hq => exact ih answer h
    · cases h
  | panic message => cases h

/-- Programs that leave the state alone, one after another. -/
lemma run_mapM {f : α → Program I β} {g : α → β}
    (h : ∀ a, (f a).run r thread s = (.ok (g a), s)) (l : List α) :
    (l.mapM f).run r thread s = (.ok (l.map g), s) := by
  induction l with
  | nil => rfl
  | cons a l ih =>
    rw [List.mapM_cons, run_bind_of_ok (h a), run_bind_of_ok ih]
    rfl

end Program

/-! ### A scan by itself -/

namespace Recorder

variable {r : Recorder} {m : Monitor}

/-- The log after workers were found idle. -/
def warned (r : Recorder) (nowMs : Nat) (workers : List Worker.Status) : Recorder :=
  { r with trace := (workers.map fun w => (main, TraceEntry.log
      ⟨.warning, "Worker has not reported activity",
        [("worker", w.name), ("idle_ms", toString (w.idleTime nowMs).millis)]⟩)).reverse ++
    r.trace }

lemma rehearseJob_snapshot (r : Recorder) :
    r.rehearseJob Monitor.snapshot = (.ok r.registry.counters.toList, r) := by
  have hpeek (n : Nat) : (Monitor.peek n).run host.toRespondent main r =
      (.ok (r.registry.get n), r) := rfl
  have hsize : (Program.question (I := requests) .size).run host.toRespondent main r =
      (.ok r.registry.size, r) := rfl
  unfold rehearseJob Monitor.snapshot
  rw [Program.run_bind_of_ok hsize, Program.run_bind_of_ok (Program.run_mapM hpeek _),
    Registry.filterMap_get]
  rfl

lemma rehearseJob_warn (r : Recorder) (nowMs : Nat) (workers : List Worker.Status) :
    r.rehearseJob (Monitor.warn nowMs workers) = (.ok (), r.warned nowMs workers) := by
  induction workers generalizing r with
  | nil => rfl
  | cons w workers ih =>
    have hfirst : (Job.logWarning "Worker has not reported activity"
        [("worker", w.name), ("idle_ms", toString (w.idleTime nowMs).millis)]).run
          host.toRespondent main r = (.ok (), r.warned nowMs [w]) := rfl
    have hrest := ih (r.warned nowMs [w])
    unfold rehearseJob at hrest ⊢
    rw [Monitor.warn, Program.run_bind_of_ok hfirst, hrest]
    simp [warned]

/-- A scan reports on the counters and the workers as they are. -/
lemma rehearseJob_scan (hfits : m.Fits) (r : Recorder) (nowMs : Nat) :
    r.rehearseJob (m.scan nowMs) =
      (.ok (.ofState m.maxExpected m.staleAfter r.registry.counters.toList r.statuses nowMs),
        r.warned nowMs (Monitor.Report.staleWorkers r.statuses m.staleAfter nowMs)) := by
  have hstatuses : (Program.question (I := requests) .statuses).run host.toRespondent main r =
      (.ok r.statuses, r) := rfl
  rw [Monitor.scan_eq hfits]
  unfold rehearseJob
  rw [Program.run_bind_of_ok r.rehearseJob_snapshot, Program.run_bind_of_ok hstatuses,
    Program.run_bind_of_ok (r.rehearseJob_warn nowMs _)]
  rfl

/-- Without the memory for it there is no report. -/
lemma rehearseJob_scan_of_not_fits (hfits : ¬ m.Fits) (r : Recorder) (nowMs : Nat) :
    r.rehearseJob (m.scan nowMs) = (.error "capacity overflow", r) := by
  have hreserve : Job.reserve (m.maxExpected.toNat + 1) 8 = .panic "capacity overflow" :=
    if_neg hfits
  unfold rehearseJob Monitor.scan
  rw [hreserve]
  rfl

/-- A scan changes nothing but the log, whether it comes to a report or not. -/
lemma exists_trace_of_scan (r : Recorder) (m : Monitor) (nowMs : Nat) :
    ∃ lines, (r.rehearseJob (m.scan nowMs)).2 = { r with trace := lines ++ r.trace } := by
  by_cases hfits : m.Fits
  · rw [rehearseJob_scan hfits]
    exact ⟨_, rfl⟩
  · rw [rehearseJob_scan_of_not_fits hfits]
    exact ⟨[], rfl⟩

end Recorder

/-! ### Histories -/

namespace Monitor

/-- What may happen to that which a scan reads, or beside it. -/
inductive Event where
  /-- A counter is written through the view of a partition. -/
  | write (view : Partition) (slot : Nat) (value : Int)
  /-- A worker records an iteration that ended at a time in milliseconds. -/
  | record (worker nowMs : Nat) (aborted : Bool)
  /-- A worker gives a sign of life at a time in milliseconds. -/
  | touch (worker nowMs : Nat)
  /-- A monitor scans at a time in milliseconds. -/
  | scan (monitor : Monitor) (nowMs : Nat)

namespace Event

/-- The value that is written to a slot. -/
def written? (slot : Nat) : Event → Option Int
  | write view n value => if view.contains n ∧ n = slot then some value else none
  | _ => none

/-- The time of an activity of a worker. -/
def activity? (worker : Nat) : Event → Option Nat
  | record w nowMs _ | touch w nowMs => if w = worker then some nowMs else none
  | _ => none

/-- Whether a worker records an iteration. -/
def records (worker : Nat) : Event → Bool
  | record w _ _ => w = worker
  | _ => false

/-- Whether a worker records an iteration that was aborted. -/
def aborts (worker : Nat) : Event → Bool
  | record w _ aborted => w = worker && aborted
  | _ => false

end Event

/-- What the last event with news brought. -/
def latest {α : Type} (news : Event → Option α) (default : α) (history : List Event) : α :=
  (history.filterMap news).getLast?.getD default

section latest

variable {α : Type} {news : Event → Option α} {default a : α} {history before rest : List Event}
  {e : Event}

lemma latest_concat : latest news default (history ++ [e]) =
    (news e).getD (latest news default history) := by
  unfold latest
  cases he : news e with
  | none => simp [List.filterMap_append, he]
  | some a => simp [List.filterMap_append, he]

/-- What nobody contradicts stays true. -/
lemma latest_of_news (he : news e = some a) (hrest : ∀ e ∈ rest, news e = none) :
    latest news default (before ++ e :: rest) = a := by
  have hnothing : rest.filterMap news = [] := List.filterMap_eq_nil_iff.2 hrest
  simp [latest, List.filterMap_append, he, hnothing]

end latest

/-- What a slot holds. -/
def slotAfter (history : List Event) (slot : Nat) : Int :=
  latest (Event.written? slot) Registry.absent history

/-- When a worker was last active that began at `start`. -/
def lastActive (history : List Event) (worker start : Nat) : Nat :=
  latest (Event.activity? worker) start history

/-- What is known of a worker that began at `start`. -/
def statusAfter (history : List Event) (worker : Nat) (partition : Partition) (start : Nat) :
    Worker.Status where
  partition := partition
  iterations := history.countP (Event.records worker)
  aborted := history.countP (Event.aborts worker)
  lastSeenMs := lastActive history worker start

/-- There is no news of a worker. -/
structure Event.Spares (worker : Nat) (e : Event) : Prop where
  activity : e.activity? worker = none
  records : e.records worker = false
  aborts : e.aborts worker = false

lemma Event.Spares.of_record {worker other nowMs : Nat} {aborted : Bool} (h : worker ≠ other) :
    (record worker nowMs aborted).Spares other where
  activity := if_neg h
  records := decide_eq_false h
  aborts := by
    show (decide (worker = other) && aborted) = false
    rw [decide_eq_false h, Bool.false_and]

lemma Event.Spares.of_touch {worker other nowMs : Nat} (h : worker ≠ other) :
    (touch worker nowMs).Spares other where
  activity := if_neg h
  records := rfl
  aborts := rfl

section concat

variable {history : List Event} {e : Event} {slot worker start : Nat} {p : Partition}

lemma slotAfter_concat : slotAfter (history ++ [e]) slot =
    (e.written? slot).getD (slotAfter history slot) :=
  latest_concat

lemma lastActive_concat : lastActive (history ++ [e]) worker start =
    (e.activity? worker).getD (lastActive history worker start) :=
  latest_concat

lemma statusAfter_of_spares (h : e.Spares worker) :
    statusAfter (history ++ [e]) worker p start = statusAfter history worker p start := by
  simp [statusAfter, lastActive_concat, h.activity, h.records, h.aborts]

end concat

end Monitor

namespace Recorder

/-- The recorder after an event. -/
def after (r : Recorder) : Monitor.Event → Recorder
  | .write view slot value => (r.respond main (.writeSlot view slot value)).2
  | .record worker nowMs aborted => (r.respond main (.record worker nowMs aborted)).2
  | .touch worker nowMs => { r with statuses := r.statuses.modify worker (·.touch nowMs) }
  | .scan m nowMs => (r.rehearseJob (m.scan nowMs)).2

/-- The recorder with new counters and workers, each of which begins at a time. -/
def begun (r : Recorder) (size : Nat) (workers : List (Partition × Nat)) : Recorder :=
  (r.respond main (.enrol size (workers.map fun w => .new w.1 w.2))).2

/-- The recorder after a history. -/
def lived (r : Recorder) (size : Nat) (workers : List (Partition × Nat))
    (history : List Monitor.Event) : Recorder :=
  history.foldl after (r.begun size workers)

lemma after_write {r : Recorder} {view : Partition} {slot : Nat} {value : Int}
    (hview : view.contains slot = true) (hslot : slot < r.registry.size) :
    r.after (.write view slot value) = { r with registry := r.registry.write slot value } := by
  simp only [after, respond, Registry.viewSet_eq hview hslot]

/-- A write outside the view or the counters changes nothing. -/
lemma after_write_of_refused {r : Recorder} {view : Partition} {slot : Nat} {value : Int}
    (h : ¬ (view.contains slot = true ∧ slot < r.registry.size)) :
    r.after (.write view slot value) = r := by
  have hrefused : ∃ e, r.registry.viewSet view slot value = .error e := by
    unfold Registry.viewSet Registry.checkView
    cases hview : view.contains slot with
    | true => exact ⟨_, if_neg fun hslot => h ⟨hview, hslot⟩⟩
    | false => exact ⟨_, rfl⟩
  obtain ⟨e, he⟩ := hrefused
  simp only [after, respond, he]

lemma after_record {r : Recorder} {worker nowMs : Nat} {aborted : Bool} :
    r.after (.record worker nowMs aborted) =
      { r with statuses := r.statuses.modify worker (·.record nowMs aborted) } := by
  simp only [after, respond, record]
  rw [List.modify_eq_set_getElem?]
  cases r.statuses[worker]? with
  | none => rfl
  | some status => rfl

/-- The counters and the workers tell what has happened to them. -/
structure Tells (size : Nat) (workers : List (Partition × Nat)) (history : List Monitor.Event)
    (r : Recorder) : Prop where
  counters : r.registry.counters.toList = (List.range size).map (Monitor.slotAfter history)
  statuses : r.statuses = workers.zipIdx.map fun w =>
    Monitor.statusAfter history w.2 w.1.1 w.1.2

namespace Tells

variable {size : Nat} {workers : List (Partition × Nat)} {history : List Monitor.Event}
  {e : Monitor.Event} {r r' : Recorder}

/-- Nothing is known before anything has happened. -/
lemma begun (r : Recorder) (size : Nat) (workers : List (Partition × Nat)) :
    Tells size workers [] (r.begun size workers) where
  counters := by
    show (Array.replicate size Registry.absent).toList =
      (List.range size).map fun _ => Registry.absent
    rw [Array.toList_replicate, List.map_const', List.length_range]
  statuses := by
    show (workers.map fun w => Worker.Status.new w.1 w.2) = _
    refine List.ext_getElem? fun j => ?_
    rw [List.getElem?_map, List.getElem?_map, List.getElem?_zipIdx]
    cases workers[j]? with
    | none => rfl
    | some w => rfl

/-- The workers when one of them has news. -/
lemma statuses_modify (h : r.Tells size workers history) {worker : Nat}
    {change : Worker.Status → Worker.Status}
    (hself : ∀ p start, change (Monitor.statusAfter history worker p start) =
      Monitor.statusAfter (history ++ [e]) worker p start)
    (hother : ∀ j p start, j ≠ worker → Monitor.statusAfter history j p start =
      Monitor.statusAfter (history ++ [e]) j p start) :
    r.statuses.modify worker change = workers.zipIdx.map fun w =>
      Monitor.statusAfter (history ++ [e]) w.2 w.1.1 w.1.2 := by
  rw [h.statuses]
  refine List.ext_getElem? fun j => ?_
  rw [List.getElem?_modify, List.getElem?_map, List.getElem?_map, List.getElem?_zipIdx]
  cases workers[j]? with
  | none => rfl
  | some w =>
    by_cases hj : worker = j
    · subst hj
      simp [hself]
    · simp [hj, hother j _ _ (Ne.symm hj)]

/-- The counters when one of them is written. -/
lemma counters_set (h : r.Tells size workers history) {slot : Nat} {value : Int}
    (hself : Monitor.slotAfter (history ++ [e]) slot = value)
    (hother : ∀ n, n ≠ slot →
      Monitor.slotAfter (history ++ [e]) n = Monitor.slotAfter history n) :
    (r.registry.write slot value).counters.toList =
      (List.range size).map (Monitor.slotAfter (history ++ [e])) := by
  simp only [Registry.write, Array.toList_setIfInBounds, h.counters]
  refine List.ext_getElem (by simp) fun n _ _ => ?_
  rw [List.getElem_set, List.getElem_map, List.getElem_map, List.getElem_range]
  by_cases hn : slot = n
  · rw [if_pos hn, ← hn, hself]
  · rw [if_neg hn, hother n (Ne.symm hn)]

/-- Events without news of the counters leave them what they are. -/
lemma counters_concat (h : r.Tells size workers history)
    (hquiet : ∀ n < size, e.written? n = none) :
    r.registry.counters.toList = (List.range size).map (Monitor.slotAfter (history ++ [e])) := by
  rw [h.counters]
  refine List.map_congr_left fun n hn => ?_
  rw [Monitor.slotAfter_concat, hquiet n (List.mem_range.1 hn), Option.getD_none]

/-- Events without news of the workers leave them what they are. -/
lemma statuses_concat (h : r.Tells size workers history) (hquiet : ∀ j, e.Spares j) :
    r.statuses = workers.zipIdx.map fun w =>
      Monitor.statusAfter (history ++ [e]) w.2 w.1.1 w.1.2 := by
  rw [h.statuses]
  exact List.map_congr_left fun w _ => (Monitor.statusAfter_of_spares (hquiet w.2)).symm

lemma size_registry (h : r.Tells size workers history) : r.registry.size = size := by
  have hlength := congrArg List.length h.counters
  simpa [Registry.size] using hlength

lemma write (h : r.Tells size workers history) (view : Partition) (slot : Nat) (value : Int) :
    (r.after (.write view slot value)).Tells size workers
      (history ++ [.write view slot value]) := by
  have hspares (j : Nat) : (Monitor.Event.write view slot value).Spares j := ⟨rfl, rfl, rfl⟩
  have hother (n : Nat) (hn : ¬ (view.contains slot = true ∧ slot = n)) :
      (Monitor.Event.write view slot value).written? n = none :=
    if_neg hn
  by_cases hwritten : view.contains slot = true ∧ slot < r.registry.size
  · have hself : (Monitor.Event.write view slot value).written? slot = some value :=
      if_pos ⟨hwritten.1, rfl⟩
    rw [after_write hwritten.1 hwritten.2]
    refine ⟨h.counters_set ?_ fun n hn => ?_, h.statuses_concat hspares⟩
    · rw [Monitor.slotAfter_concat, hself, Option.getD_some]
    · rw [Monitor.slotAfter_concat, hother n fun hself => hn hself.2.symm, Option.getD_none]
  · rw [after_write_of_refused hwritten]
    refine ⟨h.counters_concat fun n hn => hother n ?_, h.statuses_concat hspares⟩
    rintro ⟨hview, rfl⟩
    exact hwritten ⟨hview, by rwa [h.size_registry]⟩

lemma record (h : r.Tells size workers history) (worker nowMs : Nat) (aborted : Bool) :
    (r.after (.record worker nowMs aborted)).Tells size workers
      (history ++ [.record worker nowMs aborted]) := by
  rw [after_record]
  refine ⟨h.counters_concat fun _ _ => rfl,
    h.statuses_modify (fun p start => ?_) fun j p start hj => ?_⟩
  · simp [Monitor.statusAfter, Worker.Status.record, Worker.Status.touch,
      Monitor.lastActive_concat, Monitor.Event.activity?, Monitor.Event.records,
      Monitor.Event.aborts, List.countP_cons]
  · exact (Monitor.statusAfter_of_spares (.of_record (Ne.symm hj))).symm

lemma touch (h : r.Tells size workers history) (worker nowMs : Nat) :
    (r.after (.touch worker nowMs)).Tells size workers (history ++ [.touch worker nowMs]) := by
  refine ⟨h.counters_concat fun _ _ => rfl,
    h.statuses_modify (fun p start => ?_) fun j p start hj => ?_⟩
  · simp [Monitor.statusAfter, Worker.Status.touch, Monitor.lastActive_concat,
      Monitor.Event.activity?, Monitor.Event.records, Monitor.Event.aborts]
  · exact (Monitor.statusAfter_of_spares (.of_touch (Ne.symm hj))).symm

lemma scan (h : r.Tells size workers history) (m : Monitor) (nowMs : Nat) :
    (r.after (.scan m nowMs)).Tells size workers (history ++ [.scan m nowMs]) := by
  obtain ⟨lines, hscan⟩ := exists_trace_of_scan r m nowMs
  have hafter : r.after (.scan m nowMs) = { r with trace := lines ++ r.trace } := hscan
  rw [hafter]
  exact ⟨h.counters_concat fun _ _ => rfl, h.statuses_concat fun _ => ⟨rfl, rfl, rfl⟩⟩

/-- Every event is told. -/
lemma after (h : r.Tells size workers history) (e : Monitor.Event) :
    (r.after e).Tells size workers (history ++ [e]) := by
  cases e with
  | write view slot value => exact h.write view slot value
  | record worker nowMs aborted => exact h.record worker nowMs aborted
  | touch worker nowMs => exact h.touch worker nowMs
  | scan m nowMs => exact h.scan m nowMs

end Tells

lemma tells_lived (r : Recorder) (size : Nat) (workers : List (Partition × Nat))
    (history : List Monitor.Event) : (r.lived size workers history).Tells size workers history := by
  induction history using List.reverseRecOn with
  | nil => exact Tells.begun r size workers
  | append_singleton history e ih =>
    unfold lived at ih ⊢
    rw [List.foldl_concat]
    exact ih.after e

end Recorder

/-! ### What a scan reports -/

namespace Monitor

/-- Whether a worker has been idle for too long. -/
def Stale (m : Monitor) (history : List Event) (nowMs worker start : Nat) : Prop :=
  ((Duration.ofMillis (lastActive history worker start)).add m.staleAfter).nanos <
    (Duration.ofMillis nowMs).nanos

instance (m : Monitor) (history : List Event) (nowMs worker start : Nat) :
    Decidable (m.Stale history nowMs worker start) :=
  inferInstanceAs (Decidable (_ < _))

namespace Report

/-- What a scan is to report after a history: every slot in its place, for which there always
is a bin, every worker with its iterations, and exactly the workers that have been idle for
too long. -/
structure Accurate (m : Monitor) (size : Nat) (workers : List (Partition × Nat))
    (history : List Event) (nowMs : Nat) (report : Report) : Prop where
  notCreated : report.notCreated = (List.range size).countP fun n => slotAfter history n < 0
  length : report.regular.length = (max m.maxExpected 0).toNat + 1
  regular : ∀ k < report.regular.length, report.regular[k]? = some ((List.range size).countP
    fun n => slotAfter history n = (k : Int) ∧ slotAfter history n ≤ m.maxExpected)
  irregular : report.irregular = (List.range size).countP
    fun n => 0 ≤ slotAfter history n ∧ m.maxExpected < slotAfter history n
  inBounds : ((List.range size).map (slotAfter history)).foldlM (tallied? m.maxExpected)
    (Array.replicate (m.maxExpected.toNat + 1) 0) = some report.regular.toArray
  total : report.total = size
  perWorker : report.perWorker = workers.zipIdx.map fun w =>
    ("Containers_" ++ w.1.1.text, history.countP (Event.records w.2))
  iterations : report.iterations = (report.perWorker.map Prod.snd).sum
  stale : report.stale = (workers.zipIdx.filter fun w => m.Stale history nowMs w.2 w.1.2).map
    fun w => "Containers_" ++ w.1.1.text

variable {m : Monitor} {size nowMs : Nat} {workers : List (Partition × Nat)}
  {history : List Event}

lemma regular_ofState {counters : List Int} {statuses : List Worker.Status} :
    (ofState m.maxExpected m.staleAfter counters statuses nowMs).regular =
      (List.range (m.maxExpected.toNat + 1)).map fun n : Nat =>
        counters.countP fun v => v = (n : Int) ∧ v ≤ m.maxExpected :=
  histogram_eq_countP m.maxExpected counters

lemma length_regular {counters : List Int} {statuses : List Worker.Status} :
    (ofState m.maxExpected m.staleAfter counters statuses nowMs).regular.length =
      m.maxExpected.toNat + 1 := by
  rw [regular_ofState, List.length_map, List.length_range]

/-- A worker that has been idle for too long is one whose time is over. -/
lemma idle_iff_stale {worker start : Nat} {p : Partition} :
    m.staleAfter.nanos < ((statusAfter history worker p start).idleTime nowMs).nanos ↔
      m.Stale history nowMs worker start := by
  simp only [Worker.Status.idleTime, statusAfter, Stale, Duration.ofMillis, Duration.add]
  omega

lemma staleWorkers_of_tells {r : Recorder} (h : r.Tells size workers history) :
    staleWorkers r.statuses m.staleAfter nowMs =
      (workers.zipIdx.filter fun w => m.Stale history nowMs w.2 w.1.2).map
        fun w => statusAfter history w.2 w.1.1 w.1.2 := by
  have hsame : ∀ w ∈ workers.zipIdx,
      decide (m.staleAfter.nanos < ((statusAfter history w.2 w.1.1 w.1.2).idleTime nowMs).nanos) =
        decide (m.Stale history nowMs w.2 w.1.2) :=
    fun w _ => decide_eq_decide.2 idle_iff_stale
  rw [← List.filter_congr hsame, staleWorkers, h.statuses, List.filter_map]
  rfl

/-- What the counters and the workers tell is what the report tells. -/
lemma accurate_of_tells {r : Recorder} (h : r.Tells size workers history) :
    Accurate m size workers history nowMs
      (.ofState m.maxExpected m.staleAfter r.registry.counters.toList r.statuses nowMs) where
  notCreated := by
    show r.registry.counters.toList.countP (· < 0) = _
    rw [h.counters, List.countP_map]
    rfl
  length := by
    rw [length_regular]
    omega
  regular k hk := by
    rw [length_regular] at hk
    rw [regular_ofState, List.getElem?_map, List.getElem?_range hk, Option.map_some, h.counters,
      List.countP_map]
    rfl
  irregular := by
    show (r.registry.counters.toList.countP fun v => 0 ≤ v && m.maxExpected < v) = _
    rw [h.counters, List.countP_map]
    refine List.countP_congr fun n _ => ?_
    simp
  inBounds := by
    rw [← h.counters]
    exact foldlM_tallied?_eq_histogram
  total := by
    rw [total_ofState, h.counters, List.length_map, List.length_range]
  perWorker := by
    show r.statuses.map (fun w => (w.name, w.iterations)) = _
    rw [h.statuses, List.map_map]
    rfl
  iterations := by
    show (r.statuses.map Worker.Status.iterations).sum =
      ((r.statuses.map fun w => (w.name, w.iterations)).map Prod.snd).sum
    rw [List.map_map]
    rfl
  stale := by
    show (staleWorkers r.statuses m.staleAfter nowMs).map Worker.Status.name = _
    rw [staleWorkers_of_tells h, List.map_map]
    rfl

/-- Who has just been active is not stale, and is not taken for stale unless another worker
goes by the same name. -/
lemma Accurate.not_stale {report : Report} (h : Accurate m size workers history nowMs report)
    {before rest : List Event} {e : Event} (hhistory : history = before ++ e :: rest)
    {j t : Nat} {w : Partition × Nat} (hj : workers[j]? = some w)
    (he : e.activity? j = some t) (hrest : ∀ e ∈ rest, e.activity? j = none)
    (hsoon : (Duration.ofMillis nowMs).nanos ≤ ((Duration.ofMillis t).add m.staleAfter).nanos) :
    ¬ m.Stale history nowMs j w.2 ∧
      ((∀ (i : Nat) (v : Partition × Nat), workers[i]? = some v →
        "Containers_" ++ v.1.text = "Containers_" ++ w.1.text → i = j) →
        "Containers_" ++ w.1.text ∉ report.stale) := by
  have hlast : lastActive history j w.2 = t := by
    rw [hhistory]
    exact latest_of_news he hrest
  have hfresh : ¬ m.Stale history nowMs j w.2 := by
    unfold Stale
    rw [hlast]
    exact Nat.not_lt.2 hsoon
  refine ⟨hfresh, fun hnames hmem => ?_⟩
  rw [h.stale] at hmem
  obtain ⟨⟨v, i⟩, hv, hname⟩ := List.mem_map.1 hmem
  obtain ⟨hplace, hstale⟩ := List.mem_filter.1 hv
  have hi : workers[i]? = some v := List.mk_mem_zipIdx_iff_getElem?.1 hplace
  obtain rfl := hnames i v hi hname
  obtain rfl := Option.some.inj (hi.symm.trans hj)
  exact hfresh (of_decide_eq_true hstale)

end Report

/-- **A scan reports what has happened.**  Whatever has been written, recorded and scanned
before, a scan that has the memory for its histogram reports accurately on every slot and
every worker; who has been active recently is not stale.  No scan changes anything but the
log. -/
theorem scan_is_accurate (r : Recorder) (size : Nat) (workers : List (Partition × Nat))
    (history : List Event) (m : Monitor) (hfits : m.Fits) (nowMs : Nat) :
    (∃ report lines, (r.lived size workers history).rehearseJob (m.scan nowMs) =
        (.ok report, { r.lived size workers history with
          trace := lines ++ (r.lived size workers history).trace }) ∧
      report.Accurate m size workers history nowMs ∧
      ∀ before e rest, history = before ++ e :: rest →
        ∀ j t w, workers[j]? = some w → e.activity? j = some t →
          (∀ e ∈ rest, e.activity? j = none) →
          (Duration.ofMillis nowMs).nanos ≤ ((Duration.ofMillis t).add m.staleAfter).nanos →
          ¬ m.Stale history nowMs j w.2 ∧
            ((∀ (i : Nat) (v : Partition × Nat), workers[i]? = some v →
              "Containers_" ++ v.1.text = "Containers_" ++ w.1.text → i = j) →
              "Containers_" ++ w.1.text ∉ report.stale)) ∧
    (r.lived size workers history).Tells size workers history ∧
    ∀ (m' : Monitor) (t : Nat), ∃ lines,
      ((r.lived size workers history).rehearseJob (m'.scan t)).2 =
        { r.lived size workers history with
          trace := lines ++ (r.lived size workers history).trace } := by
  have htells := r.tells_lived size workers history
  refine ⟨?_, htells, Recorder.exists_trace_of_scan _⟩
  rw [Recorder.rehearseJob_scan hfits]
  have haccurate : Report.Accurate m size workers history nowMs _ :=
    Report.accurate_of_tells htells
  exact ⟨_, _, rfl, haccurate, fun before e rest hhistory j t w hj he hrest hsoon =>
    haccurate.not_stale hhistory hj he hrest hsoon⟩

/-- One of two workers fills its container and is active to the end; the other one does
nothing after its first sign of life. -/
def oneIdle : List Event :=
  [.write ⟨0, 0, 0⟩ 0 3, .touch 1 100, .scan ⟨2, .ofSecs 30, .ofSecs 1, .zero⟩ 200,
    .record 0 500 false]

/-- A second and a half later, the other one is reported. -/
theorem scan_of_oneIdle : ∃ report lines,
    ((Recorder.new [] ⟨2024, 1, 2, 3, 4, 5, 0⟩).lived 2 [(⟨0, 0, 0⟩, 0), (⟨1, 1, 1⟩, 0)]
      oneIdle).rehearseJob ((⟨2, .ofSecs 30, .ofSecs 1, .zero⟩ : Monitor).scan 1500) =
        (.ok report, { (Recorder.new [] ⟨2024, 1, 2, 3, 4, 5, 0⟩).lived 2
          [(⟨0, 0, 0⟩, 0), (⟨1, 1, 1⟩, 0)] oneIdle with
            trace := lines ++ ((Recorder.new [] ⟨2024, 1, 2, 3, 4, 5, 0⟩).lived 2
              [(⟨0, 0, 0⟩, 0), (⟨1, 1, 1⟩, 0)] oneIdle).trace }) ∧
      report.notCreated = 1 ∧ report.irregular = 1 ∧ report.regular.length = 3 ∧
      report.total = 2 ∧ report.stale = ["Containers_" ++ (⟨1, 1, 1⟩ : Partition).text] ∧
      ¬ (⟨2, .ofSecs 30, .ofSecs 1, .zero⟩ : Monitor).Stale oneIdle 1500 0 0 := by
  obtain ⟨⟨report, lines, hscan, haccurate, hrecent⟩, -, -⟩ :=
    scan_is_accurate (.new [] ⟨2024, 1, 2, 3, 4, 5, 0⟩) 2 [(⟨0, 0, 0⟩, 0), (⟨1, 1, 1⟩, 0)]
      oneIdle ⟨2, .ofSecs 30, .ofSecs 1, .zero⟩ (by unfold Fits; decide) 1500
  refine ⟨report, lines, hscan, haccurate.notCreated.trans (by decide),
    haccurate.irregular.trans (by decide), haccurate.length.trans (by decide), haccurate.total,
    haccurate.stale.trans rfl, ?_⟩
  exact (hrecent (oneIdle.take 3) (.record 0 500 false) [] rfl 0 500 (⟨0, 0, 0⟩, 0) rfl rfl (by simp)
    (by decide)).1

/-- A scan for whose histogram there is no memory panics, so that there is no report. -/
theorem scan_panics_beyond_memory :
    (((Recorder.new [] ⟨2024, 1, 2, 3, 4, 5, 0⟩).lived 1 [(⟨0, 0, 0⟩, 0)] []).rehearseJob
      ((⟨2 ^ 62, .ofSecs 30, .ofSecs 60, .zero⟩ : Monitor).scan 0)).1 =
        .error "capacity overflow" ∧
    ¬ ∃ report s, ((Recorder.new [] ⟨2024, 1, 2, 3, 4, 5, 0⟩).lived 1 [(⟨0, 0, 0⟩, 0)]
      []).rehearseJob ((⟨2 ^ 62, .ofSecs 30, .ofSecs 60, .zero⟩ : Monitor).scan 0) =
        (.ok report, s) := by
  have hfits : ¬ (⟨2 ^ 62, .ofSecs 30, .ofSecs 60, .zero⟩ : Monitor).Fits := by
    unfold Fits
    decide
  rw [Recorder.rehearseJob_scan_of_not_fits hfits]
  refine ⟨rfl, ?_⟩
  rintro ⟨report, s, h⟩
  cases (Prod.mk.inj h).1

end Monitor

end Soak
