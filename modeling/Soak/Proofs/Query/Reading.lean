import Soak.Proofs.Text.Bytes
import Soak.Store.Basic

/-!
# What the text of a query says

`IsQuery` is the grammar of queries on JSON values, and `Satisfies` reads a value directly as
a condition on attributes.  The parser accepts exactly the values of the grammar, and what it
makes of a value holds of the attributes that satisfy the value.

The proof follows the value.  For each part of it, `Agrees` ties what the parser returns to
the grammar and to the reading of that part.
-/

namespace Soak

namespace Query

/-! ### The grammar -/

/-- The operators that compare an attribute with a text. -/
def textOperators : List String :=
  ["$eq", "$neq", "$gt", "$gte", "$lt", "$lte", "$like"]

/-- What may be asked of an attribute: a text, or an object with one operator. -/
inductive IsCondition : Json → Prop
  /-- A text. -/
  | text (s : String) : IsCondition (.str s)
  /-- An operator with a text. -/
  | operator {op : String} (h : op ∈ textOperators) (s : String) :
      IsCondition (.obj [(op, .str s)])
  /-- An array of texts. -/
  | oneOf (values : List String) : IsCondition (.obj [("$in", .arr (values.map .str))])

mutual

/-- An object of the grammar. -/
inductive IsQuery : Json → Prop
  /-- An object all of whose members are in the grammar. -/
  | obj {members : List (String × Json)} (h : ∀ m ∈ members, IsEntry m.1 m.2) :
      IsQuery (.obj members)

/-- A member of an object of the grammar. -/
inductive IsEntry : String → Json → Prop
  /-- All of the objects of an array. -/
  | and {items : List Json} (h : ∀ j ∈ items, IsQuery j) : IsEntry "$and" (.arr items)
  /-- One of the objects of an array. -/
  | or {items : List Json} (h : ∀ j ∈ items, IsQuery j) : IsEntry "$or" (.arr items)
  /-- Not an object. -/
  | not {part : Json} (h : IsQuery part) : IsEntry "$not" part
  /-- A condition on an attribute, whose name does not begin with a dollar sign. -/
  | tag {name : String} {condition : Json} (hname : name.toList.head? ≠ some '$')
      (h : IsCondition condition) : IsEntry name condition

end

/-! ### The direct reading -/

/-- What an operator says of the text of an attribute. -/
def Compares (op text operand : String) : Prop :=
  match op with
  | "$eq" => text = operand
  | "$neq" => text ≠ operand
  | "$gt" => Text.BytesLess operand text
  | "$gte" => ¬Text.BytesLess text operand
  | "$lt" => Text.BytesLess text operand
  | "$lte" => ¬Text.BytesLess operand text
  | "$like" => Soak.like text operand = true
  | _ => False

/-- What a condition says of the text of an attribute. -/
def MeetsCondition (text : String) : Json → Prop
  | .str s => text = s
  | .obj [("$in", .arr values)] => .str text ∈ values
  | .obj [(op, .str s)] => Compares op text s
  | _ => False

mutual

/-- Whether attributes satisfy an object: all of its members. -/
def Satisfies (attributes : Attributes) : Json → Prop
  | .obj members => ∀ m, (_ : m ∈ members) → SatisfiesEntry attributes m.1 m.2
  | _ => False
termination_by j => (sizeOf j, 0)
decreasing_by
  obtain ⟨name, value⟩ := m
  have := List.sizeOf_lt_of_mem ‹(name, value) ∈ members›
  simp only [Prod.mk.sizeOf_spec] at this
  simp_wf
  omega

/-- Whether attributes satisfy a member of an object. -/
def SatisfiesEntry (attributes : Attributes) : String → Json → Prop
  | "$and", .arr items => ∀ j, (_ : j ∈ items) → Satisfies attributes j
  | "$or", .arr items => ∃ j, ∃ _ : j ∈ items, Satisfies attributes j
  | "$not", part => ¬Satisfies attributes part
  | name, condition => ∃ text, attributes[name]? = some text ∧ MeetsCondition text condition
termination_by _ j => (sizeOf j, 1)
decreasing_by
  · have := List.sizeOf_lt_of_mem ‹j ∈ items›
    simp_wf
    omega
  · have := List.sizeOf_lt_of_mem ‹j ∈ items›
    simp_wf
    omega
  · exact .right _ Nat.zero_lt_one

end

lemma satisfies_obj {attributes : Attributes} {members : List (String × Json)} :
    Satisfies attributes (.obj members) ↔
      ∀ m ∈ members, SatisfiesEntry attributes m.1 m.2 := by
  rw [Satisfies]

lemma satisfiesEntry_and {attributes : Attributes} {items : List Json} :
    SatisfiesEntry attributes "$and" (.arr items) ↔ ∀ j ∈ items, Satisfies attributes j := by
  rw [SatisfiesEntry]

lemma satisfiesEntry_or {attributes : Attributes} {items : List Json} :
    SatisfiesEntry attributes "$or" (.arr items) ↔ ∃ j ∈ items, Satisfies attributes j := by
  rw [SatisfiesEntry]
  simp only [exists_prop]

lemma satisfiesEntry_not {attributes : Attributes} {part : Json} :
    SatisfiesEntry attributes "$not" part ↔ ¬Satisfies attributes part := by
  rw [SatisfiesEntry]

lemma ne_of_head? {name op : String} (hname : name.toList.head? ≠ some '$')
    (hop : op.toList.head? = some '$') : name ≠ op := by
  rintro rfl
  exact hname hop

/-- A name that does not begin with a dollar sign is that of an attribute. -/
lemma satisfiesEntry_tag {attributes : Attributes} {name : String} {condition : Json}
    (hname : name.toList.head? ≠ some '$') :
    SatisfiesEntry attributes name condition ↔
      ∃ text, attributes[name]? = some text ∧ MeetsCondition text condition := by
  rw [SatisfiesEntry]
  · exact ne_of_head? hname (by decide +kernel)
  · exact fun _ h => absurd h (ne_of_head? hname (by decide +kernel))
  · exact fun _ h => absurd h (ne_of_head? hname (by decide +kernel))

/-! ### The parser follows the grammar -/

/-- A query holds of the attributes that satisfy a condition. -/
def Means (q : Query) (satisfied : Attributes → Prop) : Prop :=
  ∀ attributes, holds attributes q = true ↔ satisfied attributes

/-- What is made of a part of a value tells whether the part is in the grammar, and then means
what the part says. -/
def Agrees {α : Type} (made : Except QueryFault α) (grammatical : Prop) (meant : α → Prop) :
    Prop :=
  match made with
  | .ok a => grammatical ∧ meant a
  | .error _ => ¬grammatical

lemma Agrees.imp {α : Type} {made : Except QueryFault α} {grammatical grammatical' : Prop}
    {meant meant' : α → Prop} (h : Agrees made grammatical meant)
    (hgrammar : grammatical' ↔ grammatical) (hmeant : ∀ a, meant a → meant' a) :
    Agrees made grammatical' meant' := by
  cases made with
  | error e => exact fun h' => h (hgrammar.1 h')
  | ok a => exact ⟨hgrammar.2 h.1, hmeant a h.2⟩

lemma Agrees.map {α β : Type} {made : Except QueryFault α} {grammatical grammatical' : Prop}
    {meant : α → Prop} {meant' : β → Prop} (h : Agrees made grammatical meant) (f : α → β)
    (hgrammar : grammatical' ↔ grammatical) (hmeant : ∀ a, meant a → meant' (f a)) :
    Agrees (made.map f) grammatical' meant' := by
  cases made with
  | error e => exact fun h' => h (hgrammar.1 h')
  | ok a => exact ⟨hgrammar.2 h.1, hmeant a h.2⟩

lemma holdsOf_iff {attributes : Attributes} {name : String} {test : String → Bool} :
    holdsOf attributes name test = true ↔
      ∃ text, attributes[name]? = some text ∧ test text = true := by
  unfold holdsOf
  cases attributes[name]? <;> simp

/-! #### Conditions on an attribute -/

lemma isCondition_obj_iff {op : String} {value : Json} :
    IsCondition (.obj [(op, value)]) ↔
      (op ∈ textOperators ∧ ∃ s, value = .str s) ∨
        op = "$in" ∧ ∃ values : List String, value = .arr (values.map .str) := by
  constructor
  · intro h
    cases h with
    | operator h s => exact .inl ⟨h, s, rfl⟩
    | oneOf values => exact .inr ⟨rfl, values, rfl⟩
  · rintro (⟨hop, s, rfl⟩ | ⟨rfl, values, rfl⟩)
    · exact .operator hop s
    · exact .oneOf values

lemma operands_map (values : List String) : operands (values.map .str) = .ok values := by
  induction values with
  | nil => rfl
  | cons s rest ih => simp [operands, operand, ih]

lemma eq_map_of_operands {items : List Json} {values : List String}
    (h : operands items = .ok values) : items = values.map .str := by
  induction items generalizing values with
  | nil =>
    obtain rfl : [] = values := Except.ok.inj h
    rfl
  | cons j rest ih =>
    cases j with
    | str s =>
      cases hrest : operands rest with
      | error e => simp [operands, operand, hrest] at h
      | ok ss =>
        obtain rfl : s :: ss = values := by simpa [operands, operand, hrest] using h
        rw [List.map_cons, ← ih hrest]
    | _ => simp [operands, operand] at h

lemma meetsCondition_text {text op s : String} :
    MeetsCondition text (.obj [(op, .str s)]) ↔ Compares op text s := by
  unfold MeetsCondition
  split <;> simp_all

/-- The operators with a text are made alike: the text is needed, and then compared with. -/
lemma exists_make {op : String} (hop : op ∈ textOperators) (name : String) :
    ∃ make : String → Query,
      (∀ value, ofOperator name op value = match operand value with
        | .ok s => .ok (make s)
        | .error e => .error e) ∧
      ∀ s, Means (make s) fun attributes =>
        ∃ text, attributes[name]? = some text ∧ Compares op text s := by
  simp only [textOperators, List.mem_cons, List.not_mem_nil, or_false] at hop
  rcases hop with rfl | rfl | rfl | rfl | rfl | rfl | rfl
  · exact ⟨.eq name, fun _ => rfl, fun _ _ => by simp [holds, holdsOf_iff, Compares]⟩
  · exact ⟨.neq name, fun _ => rfl, fun _ _ => by simp [holds, holdsOf_iff, Compares]⟩
  · refine ⟨.gt name, fun _ => rfl, fun _ _ => ?_⟩
    simp only [holds, holdsOf_iff, decide_eq_true_eq, Compares, Text.lt_iff_bytesLess]
  · refine ⟨.gte name, fun _ => rfl, fun _ _ => ?_⟩
    simp only [holds, holdsOf_iff, decide_eq_true_eq, Compares, Text.lt_iff_bytesLess]
  · refine ⟨.lt name, fun _ => rfl, fun _ _ => ?_⟩
    simp only [holds, holdsOf_iff, decide_eq_true_eq, Compares, Text.lt_iff_bytesLess]
  · refine ⟨.lte name, fun _ => rfl, fun _ _ => ?_⟩
    simp only [holds, holdsOf_iff, decide_eq_true_eq, Compares, Text.lt_iff_bytesLess]
  · exact ⟨.like name, fun _ => rfl, fun _ _ => by simp only [holds, holdsOf_iff, Compares]⟩

lemma ofOperator_unknown {op : String} (hop : op ∉ textOperators) (hin : op ≠ "$in")
    (name : String) (value : Json) : ofOperator name op value = .error (.unknownOperator op) := by
  simp only [textOperators, List.mem_cons, List.not_mem_nil, or_false, not_or] at hop
  unfold ofOperator
  split <;> first | rfl | simp_all

lemma agrees_operator (name op : String) (value : Json) :
    Agrees (ofOperator name op value) (IsCondition (.obj [(op, value)]))
      (Means · fun attributes => ∃ text, attributes[name]? = some text ∧
        MeetsCondition text (.obj [(op, value)])) := by
  by_cases hop : op ∈ textOperators
  · obtain ⟨make, hmake, hholds⟩ := exists_make hop name
    rw [hmake]
    cases value with
    | str s =>
      refine ⟨.operator hop s, fun attributes => ?_⟩
      simp only [hholds s attributes, meetsCondition_text]
    | _ =>
      -- only a text can be compared with
      rw [operand]
      · rw [Agrees, isCondition_obj_iff]
        rintro (⟨-, s, hs⟩ | ⟨rfl, -⟩)
        · cases hs
        · exact absurd hop (by decide)
      · simp
  · by_cases hin : op = "$in"
    · subst hin
      cases value with
      | arr items =>
        cases hitems : operands items with
        | error e =>
          simp only [ofOperator, hitems, Agrees, isCondition_obj_iff]
          rintro (⟨h, -⟩ | ⟨-, values, hv⟩)
          · exact hop h
          · obtain rfl := Json.arr.inj hv
            rw [operands_map] at hitems
            cases hitems
        | ok values =>
          obtain rfl := eq_map_of_operands hitems
          simp only [ofOperator, hitems]
          refine ⟨.oneOf values, fun attributes => ?_⟩
          simp [holds, holdsOf_iff, MeetsCondition]
      | _ =>
        simp only [ofOperator, Agrees, isCondition_obj_iff]
        rintro (⟨h, -⟩ | ⟨-, values, hv⟩)
        · exact hop h
        · cases hv
    · rw [ofOperator_unknown hop hin, Agrees, isCondition_obj_iff]
      rintro (⟨h, -⟩ | ⟨h, -⟩)
      · exact hop h
      · exact hin h

lemma agrees_condition (name : String) (condition : Json) :
    Agrees (ofCondition name condition) (IsCondition condition)
      (Means · fun attributes => ∃ text, attributes[name]? = some text ∧
        MeetsCondition text condition) := by
  match condition with
  | .str s =>
    refine ⟨.text s, fun attributes => ?_⟩
    simp [holds, holdsOf_iff, MeetsCondition]
  | .obj [(op, value)] => exact agrees_operator name op value
  | .obj [] | .obj (_ :: _ :: _) | .null | .bool _ | .int _ | .real _ | .arr _ | .unreadable =>
    exact fun h => by cases h

/-! #### Objects -/

lemma isQuery_obj_iff {members : List (String × Json)} :
    IsQuery (.obj members) ↔ ∀ m ∈ members, IsEntry m.1 m.2 :=
  ⟨fun h => by cases h; assumption, .obj⟩

lemma isEntry_iff {name : String} {value : Json} :
    IsEntry name value ↔
      (name = "$and" ∧ ∃ items, value = .arr items ∧ ∀ j ∈ items, IsQuery j) ∨
      (name = "$or" ∧ ∃ items, value = .arr items ∧ ∀ j ∈ items, IsQuery j) ∨
      (name = "$not" ∧ IsQuery value) ∨
      (name.toList.head? ≠ some '$' ∧ IsCondition value) := by
  constructor
  · intro h
    cases h with
    | and h => exact .inl ⟨rfl, _, rfl, h⟩
    | or h => exact .inr (.inl ⟨rfl, _, rfl, h⟩)
    | not h => exact .inr (.inr (.inl ⟨rfl, h⟩))
    | tag hname h => exact .inr (.inr (.inr ⟨hname, h⟩))
  · rintro (⟨rfl, items, rfl, h⟩ | ⟨rfl, items, rfl, h⟩ | ⟨rfl, h⟩ | ⟨hname, h⟩)
    · exact .and h
    · exact .or h
    · exact .not h
    · exact .tag hname h

lemma isEntry_and_iff {value : Json} :
    IsEntry "$and" value ↔ ∃ items, value = .arr items ∧ ∀ j ∈ items, IsQuery j := by
  simp [isEntry_iff]

lemma isEntry_or_iff {value : Json} :
    IsEntry "$or" value ↔ ∃ items, value = .arr items ∧ ∀ j ∈ items, IsQuery j := by
  simp [isEntry_iff]

lemma isEntry_not_iff {part : Json} : IsEntry "$not" part ↔ IsQuery part := by
  simp [isEntry_iff]

lemma isEntry_tag_iff {name : String} (hname : name.toList.head? ≠ some '$')
    {condition : Json} : IsEntry name condition ↔ IsCondition condition := by
  have hand : name ≠ "$and" := ne_of_head? hname (by decide +kernel)
  have hor : name ≠ "$or" := ne_of_head? hname (by decide +kernel)
  have hnot : name ≠ "$not" := ne_of_head? hname (by decide +kernel)
  rw [isEntry_iff]
  simp [hand, hor, hnot, hname]

/-- Every query of a list means what the value in its place says. -/
def AllMean {β : Type} (satisfied : Attributes → β → Prop) (parts : List β)
    (qs : List Query) : Prop :=
  List.Forall₂ (fun part q => Means q (satisfied · part)) parts qs

lemma AllMean.means_and {β : Type} {satisfied : Attributes → β → Prop} {parts : List β}
    {qs : List Query} (h : AllMean satisfied parts qs) :
    Means (.and qs) fun attributes => ∀ part ∈ parts, satisfied attributes part := by
  intro attributes
  rw [holds]
  induction h with
  | nil => simp [allHold]
  | cons hq _ ih =>
    rw [allHold, Bool.and_eq_true, hq attributes, ih]
    exact List.forall_mem_cons.symm

lemma AllMean.means_or {β : Type} {satisfied : Attributes → β → Prop} {parts : List β}
    {qs : List Query} (h : AllMean satisfied parts qs) :
    Means (.or qs) fun attributes => ∃ part ∈ parts, satisfied attributes part := by
  intro attributes
  rw [holds]
  induction h with
  | nil => simp [anyHolds]
  | cons hq _ ih =>
    rw [anyHolds, Bool.or_eq_true, hq attributes, ih]
    simp only [List.mem_cons, exists_eq_or_imp]

lemma holds_conjunction (attributes : Attributes) (qs : List Query) :
    holds attributes (conjunction qs) = holds attributes (.and qs) := by
  match qs with
  | [] => rfl
  | [q] => simp [conjunction, holds, allHold]
  | _ :: _ :: _ => rfl

lemma AllMean.means_conjunction {members : List (String × Json)} {qs : List Query}
    (h : AllMean (fun attributes m => SatisfiesEntry attributes m.1 m.2) members qs) :
    Means (conjunction qs) (Satisfies · (.obj members)) := by
  intro attributes
  rw [holds_conjunction]
  exact (h.means_and attributes).trans satisfies_obj.symm

/-! #### What is made of a member -/

lemma ofMember_and (items : List Json) :
    ofMember "$and" (.arr items) = (ofItems items).map .and := by
  cases h : ofItems items <;> simp [ofMember, h, Except.map]

lemma ofMember_or (items : List Json) :
    ofMember "$or" (.arr items) = (ofItems items).map .or := by
  cases h : ofItems items <;> simp [ofMember, h, Except.map]

lemma ofMember_not (members : List (String × Json)) :
    ofMember "$not" (.obj members) =
      (ofMembers members).map fun qs => .not (conjunction qs) := by
  cases h : ofMembers members <;> simp [ofMember, h, Except.map]

lemma ofMember_tag {name : String} (hname : name.toList.head? ≠ some '$') (condition : Json) :
    ofMember name condition = ofCondition name condition := by
  have hand : name ≠ "$and" := ne_of_head? hname (by decide +kernel)
  have hor : name ≠ "$or" := ne_of_head? hname (by decide +kernel)
  have hnot : name ≠ "$not" := ne_of_head? hname (by decide +kernel)
  unfold ofMember
  rw [if_neg hand, if_neg hor, if_neg hnot, if_neg hname]

/-- A member that begins with a dollar sign is refused unless its name and its value are
those of a combinator. -/
lemma ofMember_refused {name : String} {value : Json} (hname : name.toList.head? = some '$')
    (hand : name = "$and" → ∀ items, value ≠ .arr items)
    (hor : name = "$or" → ∀ items, value ≠ .arr items)
    (hnot : name = "$not" → ∀ members, value ≠ .obj members) :
    ∃ fault, ofMember name value = .error fault := by
  unfold ofMember
  split_ifs with h1 h2 h3
  · split
    · exact absurd rfl (hand h1 _)
    · exact ⟨_, rfl⟩
  · split
    · exact absurd rfl (hor h2 _)
    · exact ⟨_, rfl⟩
  · split
    · exact absurd rfl (hnot h3 _)
    · exact ⟨_, rfl⟩
  · exact ⟨_, rfl⟩

/-- The other members that begin with a dollar sign are not in the grammar. -/
lemma not_isEntry {name : String} {value : Json} (hname : name.toList.head? = some '$')
    (hand : name = "$and" → ∀ items, value ≠ .arr items)
    (hor : name = "$or" → ∀ items, value ≠ .arr items)
    (hnot : name = "$not" → ∀ members, value ≠ .obj members) : ¬IsEntry name value := by
  rw [isEntry_iff]
  rintro (⟨h, items, hv, -⟩ | ⟨h, items, hv, -⟩ | ⟨h, ⟨⟩⟩ | ⟨h, -⟩)
  · exact hand h items hv
  · exact hor h items hv
  · exact hnot h _ rfl
  · exact h hname

mutual

lemma agrees_members (members : List (String × Json)) :
    Agrees (ofMembers members) (∀ m ∈ members, IsEntry m.1 m.2)
      (AllMean (fun attributes m => SatisfiesEntry attributes m.1 m.2) members) := by
  match members with
  | [] => exact ⟨by simp, .nil⟩
  | (name, value) :: rest =>
    have hmember := agrees_member name value
    have hrest := agrees_members rest
    rw [ofMembers]
    cases hm : ofMember name value with
    | error e =>
      rw [hm] at hmember
      exact fun h => hmember (h _ List.mem_cons_self)
    | ok q =>
      rw [hm] at hmember
      cases hr : ofMembers rest with
      | error e =>
        rw [hr] at hrest
        exact fun h => hrest fun m hm => h m (List.mem_cons_of_mem _ hm)
      | ok qs =>
        rw [hr] at hrest
        exact ⟨List.forall_mem_cons.2 ⟨hmember.1, hrest.1⟩, .cons hmember.2 hrest.2⟩

lemma agrees_member (name : String) (value : Json) :
    Agrees (ofMember name value) (IsEntry name value)
      (Means · fun attributes => SatisfiesEntry attributes name value) := by
  by_cases hname : name.toList.head? = some '$'
  · by_cases hand : name = "$and" ∧ ∃ items, value = .arr items
    · obtain ⟨rfl, items, rfl⟩ := hand
      rw [ofMember_and]
      refine (agrees_items items).map _ ?_ fun qs h attributes => ?_
      · simp [isEntry_and_iff]
      · exact (h.means_and attributes).trans satisfiesEntry_and.symm
    by_cases hor : name = "$or" ∧ ∃ items, value = .arr items
    · obtain ⟨rfl, items, rfl⟩ := hor
      rw [ofMember_or]
      refine (agrees_items items).map _ ?_ fun qs h attributes => ?_
      · simp [isEntry_or_iff]
      · exact (h.means_or attributes).trans satisfiesEntry_or.symm
    by_cases hnot : name = "$not" ∧ ∃ members, value = .obj members
    · obtain ⟨rfl, members, rfl⟩ := hnot
      rw [ofMember_not]
      refine (agrees_members members).map _ ?_ fun qs h attributes => ?_
      · rw [isEntry_not_iff, isQuery_obj_iff]
      · rw [holds, Bool.not_eq_true', ← Bool.not_eq_true, h.means_conjunction attributes]
        exact satisfiesEntry_not.symm
    · -- a dollar sign, but no combinator
      have hand' : name = "$and" → ∀ items, value ≠ .arr items :=
        fun h items hv => hand ⟨h, items, hv⟩
      have hor' : name = "$or" → ∀ items, value ≠ .arr items :=
        fun h items hv => hor ⟨h, items, hv⟩
      have hnot' : name = "$not" → ∀ members, value ≠ .obj members :=
        fun h members hv => hnot ⟨h, members, hv⟩
      obtain ⟨fault, h⟩ := ofMember_refused hname hand' hor' hnot'
      rw [h]
      exact not_isEntry hname hand' hor' hnot'
  · rw [ofMember_tag hname]
    refine (agrees_condition name value).imp (isEntry_tag_iff hname) fun q h attributes => ?_
    exact (h attributes).trans (satisfiesEntry_tag hname).symm

lemma agrees_items (items : List Json) :
    Agrees (ofItems items) (∀ j ∈ items, IsQuery j) (AllMean Satisfies items) := by
  match items with
  | [] => exact ⟨by simp, .nil⟩
  | .obj members :: rest =>
    have hmembers := agrees_members members
    have hrest := agrees_items rest
    rw [ofItems]
    cases hm : ofMembers members with
    | error e =>
      rw [hm] at hmembers
      exact fun h => hmembers (isQuery_obj_iff.1 (h _ List.mem_cons_self))
    | ok qs =>
      rw [hm] at hmembers
      cases hr : ofItems rest with
      | error e =>
        rw [hr] at hrest
        exact fun h => hrest fun j hj => h j (List.mem_cons_of_mem _ hj)
      | ok others =>
        rw [hr] at hrest
        refine ⟨List.forall_mem_cons.2 ⟨isQuery_obj_iff.2 hmembers.1, hrest.1⟩, ?_⟩
        exact .cons hmembers.2.means_conjunction hrest.2
  | .arr _ :: _ | .null :: _ | .bool _ :: _ | .int _ :: _ | .real _ :: _ | .str _ :: _
  | .unreadable :: _ => exact fun h => nomatch h _ List.mem_cons_self

end

lemma ofJson_obj (members : List (String × Json)) :
    ofJson (.obj members) = (ofMembers members).map conjunction := by
  cases h : ofMembers members <;> simp [ofJson, h, Except.map]

lemma agrees_ofJson (j : Json) :
    Agrees (ofJson j) (IsQuery j) (Means · fun attributes => Satisfies attributes j) := by
  match j with
  | .obj members =>
    rw [ofJson_obj]
    exact (agrees_members members).map _ isQuery_obj_iff fun qs h => h.means_conjunction
  | .arr _ | .null | .bool _ | .int _ | .real _ | .str _ | .unreadable => exact nofun

end Query

/-! ### Blank texts -/

lemma Text.isDigit_of_isBlank {c : Char} (h : isBlank c = true) : c.isDigit = false := by
  simp only [isBlank, blankRuns, List.any_cons, List.any_nil, Bool.or_false, Bool.or_eq_true,
    Bool.and_eq_true, decide_eq_true_eq] at h
  rw [← Bool.not_eq_true, Char.isDigit_iff_toNat]
  have h0 : '0'.toNat = 48 := rfl
  have h9 : '9'.toNat = 57 := rfl
  omega

lemma Json.readNumber_of_blank {cs : List Char}
    (h : ∀ c rest, cs = c :: rest → Text.isBlank c = true) (negative : Bool) :
    readNumber negative cs = none := by
  have hdigits : (digits cs).1 = [] := by
    cases cs with
    | nil => rfl
    | cons c rest => simp [digits, Text.isDigit_of_isBlank (h c rest rfl)]
  unfold readNumber
  split
  · rfl
  · next hd => simp [hd] at hdigits
  · next hnil _ hd =>
    rw [hd] at hdigits
    exact absurd hdigits hnil

lemma Json.readValue_of_blank {cs : List Char} (h : ∀ c ∈ cs, Text.isBlank c = true)
    (fuel depth : Nat) : readValue fuel depth cs = none := by
  have hspace : ∀ c rest, skipSpace cs = c :: rest → Text.isBlank c = true := by
    intro c rest hc
    refine h c ((List.dropWhile_sublist isSpace).mem ?_)
    rw [skipSpace] at hc
    simp [hc]
  cases fuel with
  | zero => rfl
  | succ fuel =>
    rw [readValue]
    split
    case h_8 => exact readNumber_of_blank hspace false
    -- no other token begins with a blank
    all_goals
      next hc => exact absurd (hspace _ _ hc) (by decide)

/-- A blank text is not JSON. -/
lemma Json.ofText?_of_allBlank {text : String} (h : Text.allBlank text = true) :
    ofText? text = none := by
  rw [Text.allBlank, List.all_eq_true] at h
  simp only [ofText?, document?, readValue_of_blank h, Option.bind_none]

namespace Query

/-- **What the text of a query says.**  Of the texts that are JSON, exactly those of the
grammar are accepted, and what is accepted holds of the attributes that satisfy the value of
the text.  A blank text is accepted and holds of all attributes, any other text is refused,
and a search whose query is refused is refused for its query. -/
theorem parse_reads (text : String) :
    (∀ j, Json.ofText? text = some j →
      ((∃ q, parse text = .ok q) ↔ IsQuery j) ∧
      ∀ q, parse text = .ok q →
        ∀ attributes, holds attributes q = true ↔ Satisfies attributes j) ∧
    (Text.allBlank text = true →
      ∃ q, parse text = .ok q ∧ ∀ attributes, holds attributes q = true) ∧
    (Text.allBlank text = false → Json.ofText? text = none →
      ∃ fault, parse text = .error fault) ∧
    ∀ fault, parse text = .error fault → ∀ (s : Store) (h : Container.Handle)
      (itemType : String) (options : Search.Options),
      s.openSearch h itemType text options = (.error (.invalidQuery fault), s) := by
  refine ⟨fun j hj => ?_, fun hblank => ?_, fun hblank hnone => ?_, fun fault hf s h _ _ => ?_⟩
  · have hblank : ¬Text.allBlank text = true := fun hb => by
      rw [Json.ofText?_of_allBlank hb] at hj
      cases hj
    have hagrees := agrees_ofJson j
    simp only [parse, if_neg hblank, hj]
    cases hq : ofJson j with
    | error e =>
      rw [hq] at hagrees
      exact ⟨iff_of_false (by simp) hagrees, by simp⟩
    | ok q =>
      rw [hq] at hagrees
      refine ⟨iff_of_true ⟨q, rfl⟩ hagrees.1, ?_⟩
      rintro _ ⟨rfl⟩
      exact hagrees.2
  · refine ⟨.and [], by rw [parse, if_pos hblank], fun attributes => ?_⟩
    simp [holds, allHold]
  · exact ⟨.malformed, by simp [parse, hblank, hnone]⟩
  · rw [Store.openSearch, hf]

/-- An attribute that is missing is neither equal nor unequal to a text. -/
theorem parse_reads_unequal :
    ∃ j q, Json.ofText? "\x7b\"a\":\x7b\"$neq\":\"1\"\x7d\x7d" = some j ∧
      parse "\x7b\"a\":\x7b\"$neq\":\"1\"\x7d\x7d" = .ok q ∧ IsQuery j ∧
      holds ∅ q = false ∧ ¬Satisfies ∅ j := by
  have hread : (Json.ofText? "\x7b\"a\":\x7b\"$neq\":\"1\"\x7d\x7d").isSome := by decide +kernel
  have hparse : (parse "\x7b\"a\":\x7b\"$neq\":\"1\"\x7d\x7d").toOption.map (holds ∅) =
      some false := by decide +kernel
  obtain ⟨j, hj⟩ := Option.isSome_iff_exists.1 hread
  obtain ⟨haccepts, hmeans⟩ := (parse_reads _).1 _ hj
  cases hq : parse "\x7b\"a\":\x7b\"$neq\":\"1\"\x7d\x7d" with
  | error e =>
    rw [hq] at hparse
    cases hparse
  | ok q =>
    rw [hq] at hparse
    have hfalse : holds ∅ q = false := Option.some.inj hparse
    refine ⟨j, q, hj, rfl, haccepts.1 ⟨q, hq⟩, hfalse, ?_⟩
    rw [← hmeans q hq, hfalse]
    exact Bool.false_ne_true

end Query

end Soak
