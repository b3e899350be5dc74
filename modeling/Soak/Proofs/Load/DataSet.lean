import Soak.Populate
import Soak.Proofs.Load.Stock

/-!
# The data of a population

What a population puts into a container is drawn from the generator of its thread, item after
item and container after container.  `Populate.drawContainer` draws a container without a
store, and `Populate.dataSet` says with which generator: it depends on the configuration, the
seeds and the number of the container, and on nothing else.

`Populate.Specified` is what is wanted of the container with a number, and the container that
is drawn for it is as wanted (`Populate.specified_dataSet`).
-/

namespace Soak

/-- A text of so many letters and digits. -/
structure Text.Alphanumeric (length : Nat) (text : String) : Prop where
  length_eq : text.length = length
  letters : ∀ c ∈ text.toList, c.isAlphanum = true

namespace Generator

lemma isAlphanum_of_mem_alphabet : ∀ c ∈ alphabet, c.isAlphanum = true := by
  have hall : alphabet.all Char.isAlphanum = true := by decide
  exact List.all_eq_true.1 hall

lemma letterOf?_isAlphanum {w : UInt32} {c : Char} (h : letterOf? w = some c) :
    c.isAlphanum = true :=
  isAlphanum_of_mem_alphabet c (List.mem_of_getElem? h)

lemma letterFuel_isAlphanum (fuel : Nat) (g : Generator) :
    (letterFuel fuel g).1.isAlphanum = true := by
  induction fuel generalizing g with
  | zero =>
    unfold letterFuel
    dsimp only
    cases h : letterOf? g.nextWord.1 with
    | none => rfl
    | some c => exact letterOf?_isAlphanum h
  | succ fuel ih =>
    unfold letterFuel
    dsimp only
    split
    · next c h => exact letterOf?_isAlphanum h
    · exact ih _

lemma letters_isAlphanum (n : Nat) (g : Generator) :
    ∀ c ∈ (letters n g).1, c.isAlphanum = true := by
  induction n generalizing g with
  | zero => simp [letters]
  | succ n ih =>
    -- by the equation: otherwise the letter is drawn to see that there is one
    simp only [letters, List.forall_mem_cons]
    exact ⟨letterFuel_isAlphanum patience g, ih _⟩

/-- A text that is drawn is as long as it should be. -/
lemma alphanumeric_spec (length : Nat) (g : Generator) :
    Text.Alphanumeric length (g.alphanumeric length).1 where
  length_eq := (String.length_ofList).trans (length_letters length g)
  letters c hc := by
    rw [alphanumeric, String.toList_ofList] at hc
    exact letters_isAlphanum length g c hc

end Generator

namespace Populate

/-! ### What is drawn -/

/-- The attributes of an item, with the generator behind them. -/
def drawTags (c : Config.Populate) (item : Nat) (g : Generator) : Attributes × Generator :=
  attributesOf c.attributeTemplate item (customItems c.itemsPerContainer c.customPercent)
    c.randomAttributeLen g

/-- The first items of a container, with the generator behind them. -/
def drawItems (b : Config.Backend) (c : Config.Populate) (number : Nat) (value : String)
    (g : Generator) : Nat → Std.ExtTreeMap Item.Key Item Item.Key.compare × Generator
  | 0 => (∅, g)
  | n + 1 =>
    let (items, g) := drawItems b c number value g n
    let (tags, g) := drawTags c (n + 1) g
    (items.insert ⟨b.itemType, Naming.bulkItem number (n + 1)⟩ ⟨value, tags⟩, g)

/-- A closed container with all of its items, and the generator behind it. -/
def drawContainer (b : Config.Backend) (c : Config.Populate) (number : Nat) (g : Generator) :
    Container × Generator :=
  let (value, g) := g.alphanumeric c.valueLen
  let (items, g) := drawItems b c number value g c.itemsPerContainer
  (⟨"", items, none⟩, g)

/-- The generator when `count` containers from `first` on have been drawn. -/
def generatorAfter (b : Config.Backend) (c : Config.Populate) (first : Nat) (g : Generator) :
    Nat → Generator
  | 0 => g
  | count + 1 => (drawContainer b c (first + count) (generatorAfter b c first g count)).2

/-- The container with a number, drawn by the thread of a partition. -/
def dataIn (b : Config.Backend) (c : Config.Populate) (seeds : Seeds) (p : Partition)
    (number : Nat) : Container :=
  (drawContainer b c number
    (generatorAfter b c (p.min + 1) (seeds.stream p.index) (number - (p.min + 1)))).1

/-- The container with a number, counted from one. -/
def dataSet (b : Config.Backend) (c : Config.Populate) (seeds : Seeds) (number : Nat) :
    Container :=
  let share := c.totalContainers / c.threads
  dataIn b c seeds (.ofShare share ((number - 1) / share)) number

/-! ### What is wanted -/

/-- Random values under the names of a template. -/
structure Randomised (template : Attributes) (length : Nat) (tags : Attributes) : Prop where
  names : ∀ name, name ∈ tags ↔ name ∈ template
  values : ∀ (name value : String), tags[name]? = some value → Text.Alphanumeric length value

/-- What is wanted of a container: it is closed and has exactly the items with its number and
the numbers from one on.  All of them have the same random value; the first ones, as many as the
percentage says, have the attributes of the template, and the others random ones. -/
structure Specified (b : Config.Backend) (c : Config.Populate) (number : Nat) (d : Container) :
    Prop where
  closed : d.openHandle = none
  metadata : d.metadata = ""
  stocked : ∀ key, key ∈ d.items ↔
    ∃ i, 1 ≤ i ∧ i ≤ c.itemsPerContainer ∧ key = ⟨b.itemType, Naming.bulkItem number i⟩
  value : ∃ value, Text.Alphanumeric c.valueLen value ∧
    ∀ (key : Item.Key) (item : Item), d.items[key]? = some item → item.value = value
  custom : ∀ (i : Nat) (item : Item), i ≤ c.itemsPerContainer * c.customPercent / 100 →
    d.items[Item.Key.mk b.itemType (Naming.bulkItem number i)]? = some item →
    item.tags = c.attributeTemplate
  random : ∀ (i : Nat) (item : Item), c.itemsPerContainer * c.customPercent / 100 < i →
    d.items[Item.Key.mk b.itemType (Naming.bulkItem number i)]? = some item →
    Randomised c.attributeTemplate c.randomAttributeLen item.tags

variable {b : Config.Backend} {c : Config.Populate} {number : Nat}

/-! ### What is drawn is as wanted -/

lemma map_fst_randomValues (length : Nat) (names : List String) (g : Generator) :
    (randomValues length names g).1.map Prod.fst = names := by
  induction names generalizing g with
  | nil => rfl
  | cons name rest ih => exact congrArg (name :: ·) (ih _)

lemma randomValues_spec (length : Nat) (names : List String) (g : Generator) :
    ∀ p ∈ (randomValues length names g).1, Text.Alphanumeric length p.2 := by
  induction names generalizing g with
  | nil => simp [randomValues]
  | cons name rest ih =>
    intro p hp
    rcases List.mem_cons.1 hp with rfl | hp
    · exact g.alphanumeric_spec length
    · exact ih _ p hp

/-- Random values under the keys of a template. -/
lemma randomised_ofPairs (template : Attributes) (length : Nat) (g : Generator) :
    Randomised template length (.ofPairs (randomValues length template.keys g).1) := by
  have hfst := map_fst_randomValues length template.keys g
  have hspec := randomValues_spec length template.keys g
  generalize (randomValues length template.keys g).1 = pairs at hfst hspec
  have hnames : ∀ name, name ∈ Attributes.ofPairs pairs ↔ name ∈ template := by
    intro name
    rw [Attributes.ofPairs, Std.ExtTreeMap.mem_ofList, hfst, List.contains_iff_mem,
      Std.ExtTreeMap.mem_keys]
  refine ⟨hnames, fun name value hvalue => ?_⟩
  have hmem : name ∈ pairs.map Prod.fst := by
    rw [hfst, Std.ExtTreeMap.mem_keys, ← hnames, Std.ExtTreeMap.mem_iff_isSome_getElem?, hvalue]
    rfl
  obtain ⟨⟨_, drawn⟩, hpair, rfl⟩ := List.mem_map.1 hmem
  -- no name is drawn for twice
  have hdistinct : pairs.Pairwise fun p q => ¬ compare p.1 q.1 = .eq := by
    have hkeys := Std.ExtTreeMap.distinct_keys (t := template)
    rw [← hfst, List.pairwise_map] at hkeys
    exact hkeys
  have hdrawn : (Attributes.ofPairs pairs)[_]? = some drawn :=
    Std.ExtTreeMap.getElem?_ofList_of_mem Std.ReflCmp.compare_self hdistinct hpair
  obtain rfl := Option.some.inj (hvalue.symm.trans hdrawn)
  exact hspec _ hpair

lemma drawTags_of_le {i : Nat} (h : i ≤ c.itemsPerContainer * c.customPercent / 100)
    (g : Generator) : (drawTags c i g).1 = c.attributeTemplate := by
  unfold drawTags attributesOf customItems
  rw [if_pos h]

lemma drawTags_of_lt {i : Nat} (h : c.itemsPerContainer * c.customPercent / 100 < i)
    (g : Generator) :
    Randomised c.attributeTemplate c.randomAttributeLen (drawTags c i g).1 := by
  unfold drawTags attributesOf customItems
  rw [if_neg (Nat.not_le.2 h)]
  exact randomised_ofPairs _ _ _

lemma mem_drawItems {value : String} {g : Generator} {n : Nat} {key : Item.Key} :
    key ∈ (drawItems b c number value g n).1 ↔
      ∃ i, 1 ≤ i ∧ i ≤ n ∧ key = ⟨b.itemType, Naming.bulkItem number i⟩ := by
  induction n with
  | zero =>
    simp only [drawItems, Std.ExtTreeMap.not_mem_empty, false_iff]
    rintro ⟨i, hi, hle, -⟩
    omega
  | succ n ih =>
    simp only [drawItems, Std.ExtTreeMap.mem_insert, Std.LawfulEqCmp.compare_eq_iff_eq, ih]
    constructor
    · rintro (rfl | ⟨i, hi, hle, rfl⟩)
      · exact ⟨n + 1, by omega, Nat.le_refl _, rfl⟩
      · exact ⟨i, hi, by omega, rfl⟩
    · rintro ⟨i, hi, hle, rfl⟩
      rcases Nat.lt_or_eq_of_le hle with hlt | rfl
      · exact .inr ⟨i, hi, by omega, rfl⟩
      · exact .inl rfl

/-- Every item has the value of its container, and the attributes that were drawn for it. -/
lemma getElem?_drawItems {value : String} {g : Generator} {n i : Nat} (hi : 1 ≤ i) (hle : i ≤ n) :
    ∃ g', (drawItems b c number value g n).1[Item.Key.mk b.itemType (Naming.bulkItem number i)]? =
      some ⟨value, (drawTags c i g').1⟩ := by
  induction n with
  | zero => omega
  | succ n ih =>
    simp only [drawItems, Std.ExtTreeMap.getElem?_insert, Std.LawfulEqCmp.compare_eq_iff_eq]
    by_cases heq : n + 1 = i
    · subst heq
      exact ⟨_, if_pos rfl⟩
    · rw [if_neg fun h => heq (Naming.bulkItem_inj_right.1 (Item.Key.mk.inj h).2)]
      exact ih (by omega)

/-- What is known of an item of a container that is drawn. -/
lemma of_getElem?_drawContainer {g : Generator} {key : Item.Key} {item : Item}
    (h : (drawContainer b c number g).1.items[key]? = some item) :
    ∃ i g', key = ⟨b.itemType, Naming.bulkItem number i⟩ ∧
      item = ⟨(g.alphanumeric c.valueLen).1, (drawTags c i g').1⟩ := by
  have hmem : key ∈ (drawContainer b c number g).1.items := by
    rw [Std.ExtTreeMap.mem_iff_isSome_getElem?, h]
    rfl
  obtain ⟨i, hi, hle, rfl⟩ := mem_drawItems.1 hmem
  obtain ⟨g', hdrawn⟩ := getElem?_drawItems hi hle
  exact ⟨i, g', rfl, Option.some.inj (h.symm.trans hdrawn)⟩

/-- **A container that is drawn is as wanted**, with whichever generator. -/
lemma specified_drawContainer (g : Generator) :
    Specified b c number (drawContainer b c number g).1 where
  closed := rfl
  metadata := rfl
  stocked _ := mem_drawItems
  value := by
    refine ⟨_, g.alphanumeric_spec c.valueLen, fun key item hitem => ?_⟩
    obtain ⟨i, g', -, rfl⟩ := of_getElem?_drawContainer hitem
    rfl
  custom i item hle hitem := by
    obtain ⟨j, g', hkey, rfl⟩ := of_getElem?_drawContainer hitem
    obtain rfl := Naming.bulkItem_inj_right.1 (Item.Key.mk.inj hkey).2
    exact drawTags_of_le hle g'
  random i item hlt hitem := by
    obtain ⟨j, g', hkey, rfl⟩ := of_getElem?_drawContainer hitem
    obtain rfl := Naming.bulkItem_inj_right.1 (Item.Key.mk.inj hkey).2
    exact drawTags_of_lt hlt g'

/-- **The data of a population is as wanted**: each of its containers, whatever the seeds. -/
lemma specified_dataSet (seeds : Seeds) : Specified b c number (dataSet b c seeds number) :=
  specified_drawContainer _

/-- It has the items that a load run counts on. -/
lemma Specified.stands {d : Container} (h : Specified b c number d) :
    Load.Stands b number (some c.itemsPerContainer) (some d) :=
  ⟨d, rfl, h.closed, fun key => by simp only [h.stocked, Finset.mem_Icc, and_assoc]⟩

/-! ### Which generator it is drawn with -/

/-- What the thread of a partition draws is the data of the population. -/
lemma dataIn_eq_dataSet {parts : List Partition}
    (hsplit : Partition.split c.totalContainers c.threads = .ok parts) {p : Partition}
    (hp : p ∈ parts) (hfirst : p.min + 1 ≤ number) (hlast : number < p.min + 1 + p.size)
    (seeds : Seeds) : dataIn b c seeds p number = dataSet b c seeds number := by
  obtain ⟨share, hshare, hworkers, htotal, rfl⟩ := Partition.split_eq_ok_iff.1 hsplit
  obtain ⟨worker, -, rfl⟩ := List.mem_map.1 hp
  have hplace : (number - 1) / share = worker := by
    have hnext : (worker + 1) * share = worker * share + share := Nat.succ_mul worker share
    simp only [Partition.ofShare, Partition.size] at hfirst hlast
    rw [Nat.div_eq_iff hshare]
    omega
  unfold dataSet
  dsimp only
  rw [htotal, Nat.mul_div_cancel_left share hworkers, hplace]

end Populate

end Soak
