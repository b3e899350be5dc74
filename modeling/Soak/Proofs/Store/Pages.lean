import Soak.Proofs.Limit
import Soak.Store.Basic

/-!
# Pages that are read back

Answers are passed on as JSON.  What is written as a page of search results is read back
as the same page, with all of its records and their attributes, as long as the number of
results fits into 64 bits.
-/

namespace Soak

/-- A list is read back if each of its entries is. -/
lemma mapM_map_eq_some {α β : Type} {f : α → β} {g : β → Option α} {l : List α}
    (h : ∀ a ∈ l, g (f a) = some a) : (l.map f).mapM g = some l := by
  rw [List.mapM_map]
  exact (mapM_eq_some_map (f := g ∘ f) (g := id) h).trans (by rw [List.map_id])

namespace Attributes

lemma ofPairs_toList (t : Attributes) : ofPairs t.toList = t := by
  refine Std.ExtTreeMap.ext_getElem? fun name => ?_
  cases h : t[name]? with
  | some value =>
    have hmem : (name, value) ∈ t.toList :=
      Std.ExtTreeMap.mem_toList_iff_getElem?_eq_some.2 h
    exact Std.ExtTreeMap.getElem?_ofList_of_mem Std.ReflCmp.compare_self
      Std.ExtTreeMap.distinct_keys_toList hmem
  | none =>
    have hmem : name ∉ t := by simpa using h
    exact Std.ExtTreeMap.getElem?_ofList_of_contains_eq_false (by simpa using hmem)

/-- Attributes are read back as they were written. -/
lemma ofJson?_toJson (t : Attributes) : ofJson? t.toJson = some t := by
  have h : (t.toList.map fun p : String × String => (p.1, Json.str p.2)).mapM pair? =
      some t.toList :=
    mapM_map_eq_some fun _ _ => rfl
  show ((t.toList.map fun p => (p.1, Json.str p.2)).mapM pair?).map ofPairs = some t
  rw [h, Option.map_some, ofPairs_toList]

end Attributes

/-- Records are read back as they were written. -/
lemma Item.Record.ofJson?_toJson (r : Item.Record) : ofJson? r.toJson = some r := by
  obtain ⟨id, itemType, value, tags⟩ := r
  have hstr (text : String) : Json.optional? Json.str? (.str text) = some (some text) := rfl
  have htags (t : Attributes) : Json.optional? Attributes.ofJson? t.toJson = some (some t) := by
    show (Attributes.ofJson? t.toJson).map some = _
    rw [Attributes.ofJson?_toJson, Option.map_some]
  -- the parts that were not asked for are left out
  cases itemType <;> cases value <;> cases tags <;>
    simp [ofJson?, toJson, Json.fields, Json.field?, Json.fieldOr, Json.str?, hstr, htags,
      List.lookup_cons]

/-- **Pages are read back as they were written.** -/
theorem Search.Page.ofJson?_toJson {p : Search.Page} (h : ∀ n ∈ p.totalCount, n < 2 ^ 64) :
    ofJson? p.toJson = some p := by
  obtain ⟨totalCount, records⟩ := p
  have hcount : Json.optional? Json.nat64? (totalCount.elim .null fun n => .int n) =
      some totalCount := by
    cases totalCount with
    | none => rfl
    | some n =>
      show (if n < 2 ^ 64 then some n else none).map some = some (some n)
      rw [if_pos (h n rfl), Option.map_some]
  have hrecords : Json.optional? (Json.list? Item.Record.ofJson?)
      (records.elim .null fun rs => .arr (rs.map Item.Record.toJson)) = some records := by
    cases records with
    | none => rfl
    | some rs =>
      show ((rs.map Item.Record.toJson).mapM Item.Record.ofJson?).map some = _
      rw [mapM_map_eq_some fun r _ => r.ofJson?_toJson, Option.map_some]
  simp [ofJson?, toJson, Json.fields, Json.fieldOr, List.lookup_cons, hcount, hrecords]

end Soak
