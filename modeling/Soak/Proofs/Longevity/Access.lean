import Soak.Longevity.Run
import Soak.Proofs.Longevity.Counters
import Soak.Proofs.Longevity.Crew
import Soak.Proofs.Session.Manners

/-!
# Nobody is refused a counter

While there are as many counters as there are containers, a worker that goes through the view of
its partition is never refused one, whatever the store answers: it asks for no counter outside
(`Worker.yields_run`), and a counter inside is always there (`Registry.kept_manners`).  The same
is true of the monitor, which asks how many counters there are before it reads them.
-/

namespace Soak

/-- Whether the access to a counter is refused. -/
def Move.refusesAccess : Move requests → Bool
  | .answered (.peek _) (.error _) => true
  | .answered (.readSlot _ _) (.error _) => true
  | .answered (.writeSlot _ _ _) (.error _) => true
  | _ => false

lemma World.registry_record {τ : Type} (s : World τ) (worker nowMs : Nat) (aborted : Bool) :
    (s.record worker nowMs aborted).2.registry = s.registry := by
  unfold World.record
  split <;> rfl

namespace Registry

/-- No counter is asked for. -/
def aloof : Manners requests where
  asks
    | .call _ | .log _ | .clock | .freshId => True
    | _ => False
  told _ _ := True

lemma kept_aloof {τ : Type} (S : Service Client τ) :
    aloof.Kept (World.moves S) (fun _ m _ _ => m.refusesAccess = false) fun _ => True where
  prepared _ _ _ _ _ _ _ := ⟨rfl, trivial⟩
  answered i q a s s' hq _ _ := by
    cases q with
    | call | log | clock | freshId => exact ⟨trivial, rfl, trivial⟩
    | _ => exact hq.elim

/-- Only counters that are there and in view are asked for, and no new ones are made.  Then they
are granted. -/
def manners (total : Nat) : Manners requests where
  asks
    | .enrol _ _ => False
    | .peek n => n < total
    | .readSlot view n => view.contains n = true ∧ n < total
    | .writeSlot view n _ => view.contains n = true ∧ n < total
    | _ => True
  told
    | .size, n => n = total
    | .peek _, a => ∃ v, a = .ok v
    | .readSlot _ _, a => ∃ v, a = .ok v
    | .writeSlot _ _ _, a => a = .ok ()
    | _, _ => True

/-- **Counters are granted** while there are enough of them, whatever the store does. -/
lemma kept_manners {τ : Type} (S : Service Client τ) (total : Nat) :
    (manners total).Kept (World.moves S) (fun _ m _ _ => m.refusesAccess = false)
      fun s => s.registry.size = total where
  prepared i q s s' _ hs hm := by
    cases q with
    | call c =>
      obtain ⟨b, -, rfl⟩ := hm
      exact ⟨rfl, hs⟩
    | _ => exact hm.elim
  answered i q a s s' hq hs hm := by
    cases q with
    | call c =>
      obtain ⟨b, -, rfl⟩ := hm
      exact ⟨trivial, rfl, hs⟩
    | log | clock | freshId | pause =>
      obtain rfl := hm
      exact ⟨trivial, rfl, hs⟩
    | enrol => exact hq.elim
    | size =>
      obtain ⟨rfl, rfl⟩ := hm
      exact ⟨hs, rfl, hs⟩
    | statuses =>
      obtain ⟨-, rfl⟩ := hm
      exact ⟨trivial, rfl, hs⟩
    | record worker nowMs aborted =>
      have hs' : s' = (s.record worker nowMs aborted).2 := congrArg Prod.snd hm
      refine ⟨trivial, rfl, ?_⟩
      rw [hs', World.registry_record]
      exact hs
    | peek n =>
      obtain ⟨rfl, rfl⟩ := hm
      obtain ⟨v, hv⟩ := exists_counter (show n < s'.registry.size from hs.symm ▸ hq)
      rw [get_eq_ok_iff.2 hv]
      exact ⟨⟨v, rfl⟩, rfl, hs⟩
    | readSlot view n =>
      obtain ⟨rfl, rfl⟩ := hm
      obtain ⟨v, hv⟩ := exists_counter (show n < s'.registry.size from hs.symm ▸ hq.2)
      rw [viewGet_eq hq.1 hv]
      exact ⟨⟨v, rfl⟩, rfl, hs⟩
    | writeSlot view n v =>
      have hset := viewSet_eq (v := v) hq.1 (show n < s.registry.size from hs.symm ▸ hq.2)
      unfold World.moves at hm
      simp only [hset] at hm
      obtain ⟨rfl, rfl⟩ := hm
      exact ⟨rfl, rfl, size_write.trans hs⟩

end Registry

open Registry (manners)
open Program (yields_pure yields_ask yields_question yields_mapM yields_reserve yields_later)

namespace Worker

variable {w : Worker} {total : Nat} {h : Container.Handle} {name : String} {counter : Int}

lemma yields_logFailed (message container : String) (fields : List (String × String))
    (e : CallError) :
    (w.logFailed message container fields e).Yields (manners total) fun _ => True :=
  .ask trivial fun _ _ => .done trivial

lemma yields_logNothing (message container : String) (counter : Int) :
    (w.logNothing message container counter).Yields (manners total) fun _ => True :=
  .ask trivial fun _ _ => .done trivial

lemma yields_addItem : (w.addItem h name counter).Yields (manners total) fun _ => True := by
  unfold addItem
  generalize w.rng.alphanumeric valueLength = drawn
  refine yields_ask trivial fun a _ => ?_
  cases a with
  | ok u => exact yields_pure trivial
  | error e => exact (yields_logFailed _ _ _ e).bind fun _ _ => yields_pure trivial

lemma yields_deleteItem : (w.deleteItem h name counter).Yields (manners total) fun _ => True := by
  unfold deleteItem
  split
  · exact (yields_logNothing _ _ _).bind fun _ _ => yields_pure trivial
  · refine yields_ask trivial fun a _ => ?_
    cases a with
    | ok u => exact yields_pure trivial
    | error e => exact (yields_logFailed _ _ _ e).bind fun _ _ => yields_pure trivial

lemma yields_mutate : (w.mutate h name counter).Yields (manners total) fun _ => True := by
  unfold mutate
  split
  · exact yields_addItem
  · exact yields_deleteItem.bind fun _ _ => yields_pure trivial

lemma yields_readAndUpdate :
    (w.readAndUpdate h name counter).Yields (manners total) fun _ => True := by
  unfold readAndUpdate
  split
  · exact (yields_logNothing _ _ _).bind fun _ _ => yields_pure trivial
  · refine yields_ask trivial fun a _ => ?_
    cases a
    case' error e _ => refine (yields_logFailed _ _ _ e).bind fun _ _ => ?_
    -- whether the item was read or not, it is updated
    all_goals
      refine yields_ask trivial fun now _ => yields_ask trivial fun a _ => ?_
      cases a with
      | ok u => exact yields_pure trivial
      | error e => exact (yields_logFailed _ _ _ e).bind fun _ _ => yields_pure trivial

lemma yields_comparePage (page : Json) :
    (w.comparePage name counter page).Yields (manners total) fun _ => True := by
  unfold comparePage
  split
  · exact (yields_question trivial).bind fun _ _ => yields_pure trivial
  · exact (yields_question trivial).bind fun _ _ => yields_pure trivial
  · dsimp only
    split
    · exact (yields_question trivial).bind fun _ _ => yields_pure trivial
    · exact yields_pure trivial

lemma yields_compareCount :
    (w.compareCount h name counter).Yields (manners total) fun _ => True := by
  refine yields_ask trivial fun opened _ => ?_
  cases opened with
  | error e => exact (yields_logFailed _ _ _ e).bind fun _ _ => yields_pure trivial
  | ok search =>
    refine yields_ask trivial fun page _ => yields_ask trivial fun _ _ => ?_
    cases page with
    | error e => exact (yields_logFailed _ _ _ e).bind fun _ _ => yields_pure trivial
    | ok page => exact yields_comparePage page

/-- The iteration on a container in view ends without an error of its own. -/
lemma yields_visit {n : Nat} (hview : w.view.contains n = true) (hn : n < total) (before : Int) :
    (w.visit n before).Yields (manners total) fun r => ∃ it, r.1 = .ok it := by
  refine yields_ask trivial fun opened _ => ?_
  cases opened with
  | error e => exact (yields_logFailed _ _ _ e).bind fun _ _ => yields_pure ⟨_, rfl⟩
  | ok h =>
    refine yields_mutate.bind fun r _ => yields_ask ⟨hview, hn⟩ ?_
    rintro _ rfl
    refine yields_readAndUpdate.bind fun rng _ => yields_compareCount.bind fun reported _ => ?_
    refine yields_ask trivial fun closed _ => ?_
    cases closed with
    | error e => exact (yields_logFailed _ _ _ e).bind fun _ _ => yields_pure ⟨_, rfl⟩
    | ok u => exact yields_pure ⟨_, rfl⟩

lemma yields_attend {n : Nat} (hview : w.view.contains n = true) (hn : n < total) :
    (w.attend n).Yields (manners total) fun r => ∃ it, r.1 = .ok it := by
  refine yields_ask ⟨hview, hn⟩ ?_
  rintro _ ⟨counter, rfl⟩
  dsimp only
  split
  · refine yields_ask trivial fun created _ => ?_
    cases created with
    | error e => exact (yields_logFailed _ _ _ e).bind fun _ _ => yields_pure ⟨_, rfl⟩
    | ok u =>
      refine yields_ask ⟨hview, hn⟩ ?_
      rintro _ rfl
      exact yields_visit hview hn 0
  · exact yields_visit hview hn counter

/-- An iteration ends without an error of its own, and the worker keeps its view. -/
lemma yields_iterate (hordered : w.view.min ≤ w.view.max) (hmax : w.view.max < total) :
    w.iterate.Yields (manners total) fun r => (∃ it, r.1 = .ok it) ∧ r.2.view = w.view := by
  have hpick := contains_pick hordered
  rw [iterate_eq]
  refine (yields_attend (w := w.picked) hpick ?_).bind fun r hr => yields_pure ⟨hr, rfl⟩
  exact (Partition.contains_iff.1 hpick).2.trans_lt hmax

lemma yields_turn (hordered : w.view.min ≤ w.view.max) (hmax : w.view.max < total)
    (epoch deadline : Duration) : (w.turn epoch deadline).Yields (manners total)
      fun r => ∀ next, r = some next → next.view = w.view := by
  refine yields_ask trivial fun now _ => ?_
  dsimp only
  split
  · exact yields_pure nofun
  · refine (yields_iterate hordered hmax).bind ?_
    rintro ⟨_, next⟩ ⟨⟨it, rfl⟩, hnext⟩
    refine yields_ask trivial fun _ _ => yields_ask trivial fun _ _ => yields_pure ?_
    rintro _ ⟨⟩
    exact hnext

/-- **A worker asks for no counter outside of its view**, and is granted every one it asks for. -/
lemma yields_run (hordered : w.view.min ≤ w.view.max) (hmax : w.view.max < total)
    (epoch deadline : Duration) : (w.run epoch deadline).Yields (manners total) fun _ => True := by
  have hturns (fuel : Nat) : (turns epoch deadline fuel w).Yields (manners total)
      fun _ => True := by
    induction fuel generalizing w with
    | zero => exact .panic _
    | succ fuel ih =>
      refine (yields_turn hordered hmax epoch deadline).bind fun r hr => ?_
      cases r with
      | none => exact yields_pure trivial
      | some next =>
        have hview := hr next rfl
        exact ih (hview ▸ hordered) (hview ▸ hmax)
  exact (hturns endless).bind fun _ _ => yields_ask trivial fun _ _ => yields_pure trivial

end Worker

/-- Nothing is asked of the store. -/
def calm : Manners requests where
  asks q := ∀ c, q ≠ .call c
  told _ _ := True

namespace Monitor

/-- A monitor may look at the clock, at all counters and at the workers, and log what it sees. -/
structure Welcome (mn : Manners requests) : Prop where
  clock : mn.asks .clock
  size : mn.asks .size
  peek : ∀ n k, mn.told .size n → k < n → mn.asks (.peek k)
  statuses : mn.asks .statuses
  log : ∀ e, mn.asks (.log e)

lemma welcome_manners (total : Nat) : Welcome (manners total) where
  clock := trivial
  size := trivial
  peek _ _ hn hk := hn ▸ hk
  statuses := trivial
  log _ := trivial

lemma welcome_calm : Welcome calm := by
  constructor <;> intros <;> nofun

variable {m : Monitor} {mn : Manners requests}

lemma Welcome.yields_snapshot (h : Welcome mn) : snapshot.Yields mn fun _ => True := by
  refine yields_ask h.size fun n hn => ?_
  refine (yields_mapM (V := fun _ => True) fun k hk => ?_).bind fun _ _ => yields_pure trivial
  exact .ask (h.peek n k hn (List.mem_range.1 hk)) fun _ _ => .done trivial

lemma Welcome.yields_warn (h : Welcome mn) (nowMs : Nat) (workers : List Worker.Status) :
    (warn nowMs workers).Yields mn fun _ => True := by
  induction workers with
  | nil => exact yields_pure trivial
  | cons w workers ih => exact yields_ask (h.log _) fun _ _ => ih

lemma Welcome.yields_scanNow (h : Welcome mn) : m.scanNow.Yields mn fun _ => True := by
  refine yields_ask h.clock fun now _ => ?_
  refine (yields_reserve _ _).bind fun _ _ => ?_
  refine h.yields_snapshot.bind fun _ _ => yields_ask h.statuses fun workers _ => ?_
  exact (h.yields_warn _ _).bind fun _ _ => yields_pure trivial

lemma yields_watch {total : Nat} (fuel scans : Nat) :
    (m.watch fuel scans).Yields (manners total) fun _ => True := by
  induction fuel generalizing scans with
  | zero => exact .panic _
  | succ fuel ih =>
    refine yields_ask trivial fun now _ => (yields_later _ _).bind fun _ _ => ?_
    refine yields_ask trivial fun ended _ => ?_
    cases ended with
    | true => exact yields_pure trivial
    | false => exact (welcome_manners total).yields_scanNow.bind fun _ _ => ih _

end Monitor

end Soak
