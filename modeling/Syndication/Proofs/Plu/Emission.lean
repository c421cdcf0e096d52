import Syndication.Plu.Expansion
import Syndication.Proofs.Plu.RoundTrip
import Syndication.Proofs.Sequence.FirstPlaces
import Syndication.View.Materialize

/-!
# What an expansion emits

The units of a product are listed here without regard to repetitions, codes and
delimiters, in walking order. Against that list the expansion is measured: it succeeds
exactly for the products whose units are all well-formed, whose texts all have a code and
no two of whose texts share one, and then it emits the texts of the list, each once, at its
first place. Every detail assigns to its texts exactly their codes, and so does the map
that publication stores.

The expansion carries two accumulators through the walk. `Emitted.Holds` and
`Contribution.Holds` say what they stand for, and one lemma says what a single emission
does to them.
-/

namespace Syndication

/-- A sequence of results succeeds when both parts do. -/
theorem except_bind_ok_iff {ε α β : Type} {first : Except ε α} {next : α → Except ε β} {value : β} :
    (first >>= next) = .ok value ↔ ∃ middle, first = .ok middle ∧ next middle = .ok value := by
  cases first with
  | ok middle =>
    refine ⟨fun reached => ⟨middle, rfl, reached⟩, ?_⟩
    rintro ⟨_, ⟨rfl⟩, reached⟩
    exact reached
  | error cause => exact ⟨nofun, by rintro ⟨_, impossible, _⟩; cases impossible⟩

/-- A sequence of results fails when the first part does, or the second after it. -/
theorem except_bind_error_iff {ε α β : Type} {first : Except ε α} {next : α → Except ε β}
    {cause : ε} : (first >>= next) = .error cause ↔
      first = .error cause ∨ ∃ middle, first = .ok middle ∧ next middle = .error cause := by
  cases first with
  | ok middle =>
    refine ⟨fun failed => Or.inr ⟨middle, rfl, failed⟩, ?_⟩
    rintro (impossible | ⟨_, ⟨rfl⟩, failed⟩)
    · cases impossible
    · exact failed
  | error earlier =>
    constructor
    · intro failed
      cases failed
      exact Or.inl rfl
    · rintro (same | ⟨_, impossible, _⟩)
      · cases same
        rfl
      · cases impossible

/-! ## Units -/

/-- The units that a variant of an item has, in order of emission. -/
def Product.variantUnits (product : Product) (type : OptionType) (item : OptionItem)
    (variant : Variant) : List Plu :=
  (item.unitSegments type).map fun segments =>
    ⟨product.id, product.version, variant.id, segments.1, segments.2⟩

/-- The units that an option has, in walking order. -/
def Product.optionUnits (product : Product) (option : ProductOption) : List Plu :=
  option.items.flatMap fun item => item.variants.flatMap (product.variantUnits option.type item)

/-- The units of a product in walking order, repetitions included. -/
def Product.units (product : Product) : List Plu := product.options.flatMap product.optionUnits

/-- The canonical texts of a product's units in walking order, repetitions included. -/
def Product.texts (product : Product) : List String := product.units.map Plu.text

/-- No unit of the product has a delimiter in its departure or time slot. -/
def Product.WellFormed (product : Product) : Prop := ∀ unit ∈ product.units, unit.WellFormed

/-- A map assigns to texts exactly their codes: under each code it has the text with that
code, if there is one. -/
def Coding.Assigns (coding : Coding) (texts : List String) (hashes : PluHashes) : Prop :=
  ∀ code text, hashes[code]? = some text ↔ text ∈ texts ∧ coding.code text = .ok code

/-- Two texts with one code are the same text where a map assigns both their codes. -/
theorem Coding.Assigns.injective {coding : Coding} {texts : List String} {hashes : PluHashes}
    (assigns : coding.Assigns texts hashes) {first second code : String} (firstIn : first ∈ texts)
    (secondIn : second ∈ texts) (firstCode : coding.code first = .ok code)
    (secondCode : coding.code second = .ok code) : first = second := by
  have firstOwns := (assigns code first).mpr ⟨firstIn, firstCode⟩
  have secondOwns := (assigns code second).mpr ⟨secondIn, secondCode⟩
  exact Option.some.inj (firstOwns.symm.trans secondOwns)

/-- One more text can be assigned its code when no text before it has that code. -/
theorem Coding.Assigns.insert {coding : Coding} {texts : List String} {hashes : PluHashes}
    (assigns : coding.Assigns texts hashes) {text code : String}
    (coded : coding.code text = .ok code) (free : ∀ other ∈ texts, coding.code other ≠ .ok code) :
    coding.Assigns (texts ++ [text]) (hashes.insert code text) := by
  intro other owner
  simp only [Std.ExtTreeMap.getElem?_insert, Std.compare_eq_iff_eq, List.mem_append,
    List.mem_singleton]
  split
  case isTrue same =>
    subst same
    constructor
    · rintro ⟨rfl⟩
      exact ⟨Or.inr rfl, coded⟩
    · rintro ⟨member | rfl, ownerCode⟩
      · exact absurd ownerCode (free owner member)
      · rfl
  case isFalse different =>
    rw [assigns other owner]
    constructor
    · rintro ⟨member, ownerCode⟩
      exact ⟨Or.inl member, ownerCode⟩
    · rintro ⟨member | rfl, ownerCode⟩
      · exact ⟨member, ownerCode⟩
      · exact absurd (Except.ok.inj (coded.symm.trans ownerCode)) different

/-- Every unit of a product carries the product's identifier. -/
theorem Product.productId_of_mem_units {product : Product} {unit : Plu}
    (member : unit ∈ product.units) : unit.productId = product.id := by
  simp only [units, optionUnits, variantUnits, List.mem_flatMap, List.mem_map] at member
  obtain ⟨_, _, _, _, _, _, _, _, rfl⟩ := member
  rfl

namespace Expansion

variable {coding : Coding} {product : Product}

/-- The texts of a variant's units can be formed exactly when the units are well-formed. -/
theorem variantTexts_ok_iff {type : OptionType} {item : OptionItem} {variant : Variant}
    {texts : List String} :
    variantTexts product type item variant = .ok texts ↔
      (∀ unit ∈ product.variantUnits type item variant, unit.WellFormed) ∧
        texts = (product.variantUnits type item variant).map Plu.text := by
  unfold variantTexts Product.variantUnits
  induction item.unitSegments type generalizing texts with
  | nil => simp [pure, Except.pure, eq_comm]
  | cons segments rest inductionHypothesis =>
    have formed : ∀ text, unitText product variant segments = .ok text ↔
        (⟨product.id, product.version, variant.id, segments.1, segments.2⟩ : Plu).WellFormed ∧
          text =
            (⟨product.id, product.version, variant.id, segments.1, segments.2⟩ : Plu).text := by
      intro text
      have made := Plu.make_ok_iff
        ⟨product.id, product.version, variant.id, segments.1, segments.2⟩
      unfold unitText
      cases result : Plu.make product.id product.version variant.id segments.1 segments.2 with
      | ok plu =>
        obtain ⟨wellFormed, rfl⟩ := (made plu).mp result
        simp [Except.map, wellFormed, eq_comm]
      | error cause =>
        have malformed := mt (fun wellFormed => (made _).mpr ⟨wellFormed, rfl⟩) (by simp [result])
        simp [Except.map, malformed]
    rw [List.mapM_cons, except_bind_ok_iff]
    simp only [except_bind_ok_iff, formed, inductionHypothesis, pure, Except.pure, Except.ok.injEq,
      List.map_cons, List.mem_cons, forall_eq_or_imp]
    constructor
    · rintro ⟨_, ⟨first, rfl⟩, _, ⟨others, rfl⟩, rfl⟩
      exact ⟨⟨first, others⟩, rfl⟩
    · rintro ⟨⟨first, others⟩, rfl⟩
      exact ⟨_, ⟨first, rfl⟩, _, ⟨others, rfl⟩, rfl⟩

/-- Emitting two lists in turn is emitting them as one. -/
theorem emitAll_append (first second : List String) (emitted : Emitted)
    (contribution : Contribution) :
    emitAll coding (first ++ second) emitted contribution =
      emitAll coding first emitted contribution >>= fun reached =>
        emitAll coding second reached.1 reached.2 := by
  induction first generalizing emitted contribution with
  | nil => rfl
  | cons text rest inductionHypothesis =>
    simp only [List.cons_append, emitAll]
    cases emit coding text emitted contribution with
    | error cause => rfl
    | ok reached => exact inductionHypothesis reached.1 reached.2

/-- Visiting the variants of an item succeeds exactly when their units are well-formed and
their texts can be emitted. -/
theorem visitVariants_ok_iff {option : ProductOption} {item : OptionItem} {variants : List Variant}
    {emitted : Emitted} {contribution : Contribution} {reached : Emitted × Contribution} :
    visitVariants coding product option item variants emitted contribution = .ok reached ↔
      (∀ unit ∈ variants.flatMap (product.variantUnits option.type item), unit.WellFormed) ∧
        emitAll coding ((variants.flatMap (product.variantUnits option.type item)).map Plu.text)
          emitted contribution = .ok reached := by
  induction variants generalizing emitted contribution with
  | nil => simp [visitVariants, emitAll]
  | cons variant rest inductionHypothesis =>
    have formed : ∀ texts, (variantTexts product option.type item variant).mapError
        (ExpansionError.malformed option.id) = .ok texts ↔
        variantTexts product option.type item variant = .ok texts := by
      intro texts
      cases variantTexts product option.type item variant with
      | error cause => exact ⟨nofun, nofun⟩
      | ok own =>
        show (Except.ok own : Except ExpansionError (List String)) = .ok texts ↔ _
        rw [Except.ok.injEq, Except.ok.injEq]
    rw [visitVariants, except_bind_ok_iff]
    simp only [formed, variantTexts_ok_iff, List.flatMap_cons, List.map_append, emitAll_append,
      except_bind_ok_iff, inductionHypothesis, List.forall_mem_append]
    constructor
    · rintro ⟨_, ⟨first, rfl⟩, step, emittedFirst, others, emittedRest⟩
      exact ⟨⟨first, others⟩, step, emittedFirst, emittedRest⟩
    · rintro ⟨⟨first, others⟩, step, emittedFirst, emittedRest⟩
      exact ⟨_, ⟨first, rfl⟩, step, emittedFirst, others, emittedRest⟩

/-- Visiting the items of an option succeeds exactly when the option's units are well-formed
and their texts can be emitted. -/
theorem visitItems_ok_iff {option : ProductOption} {items : List OptionItem} {emitted : Emitted}
    {contribution : Contribution} {reached : Emitted × Contribution} :
    visitItems coding product option items emitted contribution = .ok reached ↔
      (∀ unit ∈ product.optionUnits { option with items }, unit.WellFormed) ∧
        emitAll coding ((product.optionUnits { option with items }).map Plu.text)
          emitted contribution = .ok reached := by
  unfold Product.optionUnits
  induction items generalizing emitted contribution with
  | nil => simp [visitItems, emitAll]
  | cons item rest inductionHypothesis =>
    rw [visitItems, except_bind_ok_iff]
    simp only [List.flatMap_cons, List.map_append, emitAll_append, except_bind_ok_iff,
      inductionHypothesis, visitVariants_ok_iff, List.forall_mem_append]
    constructor
    · rintro ⟨step, ⟨first, emittedFirst⟩, others, emittedRest⟩
      exact ⟨⟨first, others⟩, step, emittedFirst, emittedRest⟩
    · rintro ⟨⟨first, others⟩, step, emittedFirst, emittedRest⟩
      exact ⟨step, ⟨first, emittedFirst⟩, others, emittedRest⟩

/-! ## Accumulators -/

/-- The accumulator of a walk stands for the texts seen: it knows them and no others, all of
them have a code, and the owner of a code is the one text seen that has it. -/
structure Emitted.Holds (coding : Coding) (emitted : Emitted) (seen : List String) : Prop where
  known : ∀ text, emitted.codes.contains text = true ↔ text ∈ seen
  owned : coding.Assigns seen emitted.owners
  coded : ∀ text ∈ seen, ∃ code, coding.code text = .ok code

/-- A contribution stands for its texts: it lists them and maps exactly their codes. -/
structure Contribution.Holds (coding : Coding) (contribution : Contribution) (texts : List String) :
    Prop where
  listed : contribution.plus = texts
  mapped : coding.Assigns texts contribution.hashes

/-- Nothing has been seen at first. -/
theorem Emitted.holds_empty : Emitted.empty.Holds coding [] := by
  constructor <;> simp [Emitted.empty, Coding.Assigns]

/-- Nothing has been contributed at first. -/
theorem Contribution.holds_empty : Contribution.empty.Holds coding [] := by
  constructor <;> simp [Contribution.empty, Coding.Assigns]

/-- Emitting a text that was seen changes nothing. -/
theorem emit_seen {emitted : Emitted} {seen : List String} (holds : emitted.Holds coding seen)
    {text : String} (member : text ∈ seen) (contribution : Contribution) :
    emit coding text emitted contribution = .ok (emitted, contribution) := by
  rw [emit, if_pos ((holds.known text).mpr member)]

/-- Emitting a new text succeeds exactly when it has a code that no text seen has. -/
theorem emit_fresh_ok_iff {emitted : Emitted} {seen : List String}
    (holds : emitted.Holds coding seen) {text : String} (fresh : text ∉ seen)
    {contribution : Contribution} {reached : Emitted × Contribution} :
    emit coding text emitted contribution = .ok reached ↔
      ∃ code, coding.code text = .ok code ∧ (∀ other ∈ seen, coding.code other ≠ .ok code) ∧
        reached = (⟨emitted.codes.insert text code, emitted.owners.insert code text⟩,
          ⟨contribution.plus ++ [text], contribution.hashes.insert code text⟩) := by
  rw [emit, if_neg (mt (holds.known text).mp fresh)]
  cases coded : coding.code text with
  | error cause => simp
  | ok code =>
    have unowned : emitted.owners[code]? = none ↔ ∀ other ∈ seen, coding.code other ≠ .ok code := by
      rw [Option.eq_none_iff_forall_ne_some]
      constructor
      · intro free other member same
        exact free other ((holds.owned code other).mpr ⟨member, same⟩)
      · intro free other owns
        have owner := (holds.owned code other).mp owns
        exact free other owner.1 owner.2
    simp only [Except.ok.injEq, exists_eq_left', ← unowned]
    cases owner : emitted.owners[code]? with
    | none => simp [eq_comm]
    | some first => simp

/-- A new text with a code of its own joins what the accumulator stands for. -/
theorem Emitted.Holds.insert {emitted : Emitted} {seen : List String}
    (holds : emitted.Holds coding seen) {text code : String} (coded : coding.code text = .ok code)
    (free : ∀ other ∈ seen, coding.code other ≠ .ok code) :
    Emitted.Holds coding ⟨emitted.codes.insert text code, emitted.owners.insert code text⟩
      (seen ++ [text]) where
  known other := by
    simp only [Std.ExtTreeMap.contains_insert, Bool.or_eq_true, holds.known, List.mem_append,
      List.mem_singleton, beq_iff_eq, Std.compare_eq_iff_eq]
    rw [or_comm, eq_comm]
  owned := holds.owned.insert coded free
  coded other member := by
    rcases List.mem_append.mp member with earlier | last
    · exact holds.coded other earlier
    · exact ⟨code, (List.mem_singleton.mp last) ▸ coded⟩

/-- A new text with a code of its own joins what a contribution stands for. -/
theorem Contribution.Holds.insert {contribution : Contribution} {texts : List String}
    (holds : contribution.Holds coding texts) {text code : String}
    (coded : coding.code text = .ok code) (free : ∀ other ∈ texts, coding.code other ≠ .ok code) :
    Contribution.Holds coding ⟨contribution.plus ++ [text], contribution.hashes.insert code text⟩
      (texts ++ [text]) where
  listed := by rw [holds.listed]
  mapped := holds.mapped.insert coded free

/-! ## Walks -/

/-- The texts of a list that were not seen before, each once, at its first place. -/
def news (seen texts : List String) : List String := (texts.removeAll seen).eraseDups

/-- The news of a list are its members that were not seen before. -/
theorem mem_news {seen texts : List String} {text : String} :
    text ∈ news seen texts ↔ text ∈ texts ∧ text ∉ seen := by
  simp [news, List.removeAll]

/-- Before anything was seen every text is news, once. -/
theorem news_of_nothing (texts : List String) : news [] texts = texts.eraseDups := by
  have all : texts.removeAll [] = texts := List.filter_eq_self.mpr (by simp)
  rw [news, all]

/-- A text that was seen is no news. -/
theorem news_cons_seen {seen : List String} {text : String} (member : text ∈ seen)
    (rest : List String) : news seen (text :: rest) = news seen rest := by
  simp [news, List.removeAll, member]

/-- The news of two lists in turn: those of the first, and those of the second after them. -/
theorem news_append (seen first second : List String) :
    news seen (first ++ second) = news seen first ++ news (seen ++ news seen first) second := by
  have rest : (second.removeAll seen).removeAll (first.removeAll seen) =
      second.removeAll (seen ++ news seen first) := by
    simp only [List.removeAll, List.filter_filter]
    apply List.filter_congr
    intro text _
    by_cases met : text ∈ seen <;> by_cases listed : text ∈ first <;>
      simp [mem_news, met, listed]
  unfold news at rest ⊢
  rw [← rest, ← List.eraseDups_append, List.removeAll, List.removeAll, List.removeAll,
    List.filter_append]

/-- A text that was not seen is the first news of a list that begins with it. -/
theorem news_cons_fresh {seen : List String} {text : String} (fresh : text ∉ seen)
    (rest : List String) : news seen (text :: rest) = text :: news (seen ++ [text]) rest := by
  have single : news seen [text] = [text] := by
    simp [news, List.removeAll, fresh, List.eraseDups_cons]
  have split := news_append seen [text] rest
  rwa [single] at split

/-- Emitting texts adds their news to what both accumulators stand for.

Induct over the texts. One that was seen changes neither accumulator; a new one joins both,
and the contribution stays within what was seen. -/
theorem emitAll_holds {texts seen own : List String} {emitted : Emitted}
    {contribution : Contribution} {reached : Emitted × Contribution}
    (holds : emitted.Holds coding seen) (contributed : contribution.Holds coding own)
    (inside : ∀ text ∈ own, text ∈ seen)
    (ran : emitAll coding texts emitted contribution = .ok reached) :
    reached.1.Holds coding (seen ++ news seen texts) ∧
      reached.2.Holds coding (own ++ news seen texts) := by
  induction texts generalizing seen own emitted contribution with
  | nil =>
    cases ran
    simpa [news, List.removeAll] using ⟨holds, contributed⟩
  | cons text rest inductionHypothesis =>
    rw [emitAll, except_bind_ok_iff] at ran
    obtain ⟨step, emittedFirst, emittedRest⟩ := ran
    by_cases member : text ∈ seen
    · rw [emit_seen holds member] at emittedFirst
      cases emittedFirst
      rw [news_cons_seen member]
      exact inductionHypothesis holds contributed inside emittedRest
    · obtain ⟨code, coded, free, rfl⟩ := (emit_fresh_ok_iff holds member).mp emittedFirst
      have contributedFree : ∀ other ∈ own, coding.code other ≠ .ok code := fun other earlier =>
        free other (inside other earlier)
      have insideNext : ∀ other ∈ own ++ [text], other ∈ seen ++ [text] := by
        intro other earlier
        rcases List.mem_append.mp earlier with old | new
        · exact List.mem_append_left [text] (inside other old)
        · exact List.mem_append_right seen new
      have grown := inductionHypothesis (holds.insert coded free)
        (contributed.insert coded contributedFree) insideNext emittedRest
      simpa only [news_cons_fresh member, List.append_assoc, List.singleton_append] using grown

/-- Texts can be emitted when all of them have a code and no two texts, seen or emitted, share
one. -/
theorem emitAll_succeeds {texts seen : List String} {emitted : Emitted}
    (contribution : Contribution) (holds : emitted.Holds coding seen)
    (coded : ∀ text ∈ texts, ∃ code, coding.code text = .ok code)
    (injective : ∀ first ∈ seen ++ texts, ∀ second ∈ seen ++ texts, ∀ code,
      coding.code first = .ok code → coding.code second = .ok code → first = second) :
    ∃ reached, emitAll coding texts emitted contribution = .ok reached := by
  induction texts generalizing seen emitted contribution with
  | nil => exact ⟨_, rfl⟩
  | cons text rest inductionHypothesis =>
    have restCoded := fun other member => coded other (List.mem_cons_of_mem text member)
    by_cases member : text ∈ seen
    · have narrow : ∀ other ∈ seen ++ rest, other ∈ seen ++ text :: rest := by
        intro other
        simp only [List.mem_append, List.mem_cons]
        exact Or.imp_right Or.inr
      rw [emitAll, emit_seen holds member]
      exact inductionHypothesis contribution holds restCoded
        fun first firstIn second secondIn =>
          injective first (narrow first firstIn) second (narrow second secondIn)
    · obtain ⟨code, textCode⟩ := coded text List.mem_cons_self
      have free : ∀ other ∈ seen, coding.code other ≠ .ok code := by
        intro other earlier sameCode
        have same := injective other (List.mem_append_left _ earlier) text
          (List.mem_append_right seen List.mem_cons_self) code sameCode textCode
        exact member (same ▸ earlier)
      have step : emit coding text emitted contribution = .ok _ :=
        (emit_fresh_ok_iff holds member).mpr ⟨code, textCode, free, rfl⟩
      rw [emitAll, step]
      refine inductionHypothesis _ (holds.insert textCode free) restCoded ?_
      simpa only [List.append_assoc, List.singleton_append] using injective

/-- What a walk over options has emitted: their units are well-formed, the details list the
news of their texts in order and assign them their codes, and all that was seen in the end has
codes that tell it apart. -/
theorem visitOptions_ok {options : List ProductOption} {seen : List String} {emitted : Emitted}
    {details : List PluDetail} (holds : emitted.Holds coding seen)
    (ran : visitOptions coding product options emitted = .ok details) :
    (∀ unit ∈ options.flatMap product.optionUnits, unit.WellFormed) ∧
      details.flatMap PluDetail.plus =
        news seen ((options.flatMap product.optionUnits).map Plu.text) ∧
      (∀ detail ∈ details, coding.Assigns detail.plus detail.hashes) ∧
      ∃ reached : Emitted, reached.Holds coding
        (seen ++ news seen ((options.flatMap product.optionUnits).map Plu.text)) := by
  induction options generalizing seen emitted details with
  | nil =>
    cases ran
    exact ⟨nofun, rfl, nofun, emitted, by simpa [news, List.removeAll] using holds⟩
  | cons option rest inductionHypothesis =>
    simp only [visitOptions, except_bind_ok_iff, Except.ok.injEq] at ran
    obtain ⟨step, visited, others, visitedRest, rfl⟩ := ran
    obtain ⟨wellFormed, emittedAll⟩ := visitItems_ok_iff.mp visited
    obtain ⟨reached, contributed⟩ :=
      emitAll_holds holds Contribution.holds_empty nofun emittedAll
    obtain ⟨restWellFormed, restListed, restAssigned, final, finalHolds⟩ :=
      inductionHypothesis reached visitedRest
    have listed : (detail? option step.2).toList.flatMap PluDetail.plus = step.2.plus := by
      unfold detail?
      split
      case isTrue empty => simpa using (List.isEmpty_iff.mp empty).symm
      case isFalse => simp
    have assigned : ∀ detail ∈ (detail? option step.2).toList,
        coding.Assigns detail.plus detail.hashes := by
      intro detail member
      unfold detail? at member
      split at member
      case isTrue => simp at member
      case isFalse =>
        obtain rfl : detail = _ := by simpa using member
        show coding.Assigns step.2.plus step.2.hashes
        rw [contributed.listed]
        exact contributed.mapped
    refine ⟨?_, ?_, ?_, final, ?_⟩
    · rw [List.flatMap_cons, List.forall_mem_append]
      exact ⟨wellFormed, restWellFormed⟩
    · rw [List.flatMap_append, listed, restListed, contributed.listed, List.flatMap_cons,
        List.map_append, news_append]
      rfl
    · rw [List.forall_mem_append]
      exact ⟨assigned, restAssigned⟩
    · rw [List.flatMap_cons, List.map_append, news_append, ← List.append_assoc]
      exact finalHolds

/-- A walk over options succeeds when their units are well-formed and all texts, seen or to be
emitted, have codes that tell them apart. -/
theorem visitOptions_succeeds {options : List ProductOption} {seen : List String}
    {emitted : Emitted} (holds : emitted.Holds coding seen)
    (wellFormed : ∀ unit ∈ options.flatMap product.optionUnits, unit.WellFormed)
    (coded : ∀ text ∈ (options.flatMap product.optionUnits).map Plu.text,
      ∃ code, coding.code text = .ok code)
    (injective : ∀ first ∈ seen ++ (options.flatMap product.optionUnits).map Plu.text,
      ∀ second ∈ seen ++ (options.flatMap product.optionUnits).map Plu.text, ∀ code,
        coding.code first = .ok code → coding.code second = .ok code → first = second) :
    ∃ details, visitOptions coding product options emitted = .ok details := by
  induction options generalizing seen emitted with
  | nil => exact ⟨[], rfl⟩
  | cons option rest inductionHypothesis =>
    rw [List.flatMap_cons, List.forall_mem_append] at wellFormed
    rw [List.flatMap_cons, List.map_append] at coded injective
    rw [List.forall_mem_append] at coded
    have firstPart : ∀ text ∈ seen ++ (product.optionUnits option).map Plu.text,
        text ∈ seen ++ ((product.optionUnits option).map Plu.text ++
          (rest.flatMap product.optionUnits).map Plu.text) := by
      intro text
      simp only [List.mem_append]
      exact Or.imp_right Or.inl
    obtain ⟨step, emittedAll⟩ := emitAll_succeeds Contribution.empty holds coded.1
      fun first firstIn second secondIn =>
        injective first (firstPart first firstIn) second (firstPart second secondIn)
    have reached := (emitAll_holds holds Contribution.holds_empty nofun emittedAll).1
    have secondPart : ∀ text ∈ (seen ++ news seen ((product.optionUnits option).map Plu.text)) ++
          (rest.flatMap product.optionUnits).map Plu.text,
        text ∈ seen ++ ((product.optionUnits option).map Plu.text ++
          (rest.flatMap product.optionUnits).map Plu.text) := by
      intro text
      simp only [List.mem_append, mem_news]
      rintro ((old | new) | later)
      · exact Or.inl old
      · exact Or.inr (Or.inl new.1)
      · exact Or.inr (Or.inr later)
    obtain ⟨details, visitedRest⟩ := inductionHypothesis reached wellFormed.2 coded.2
      fun first firstIn second secondIn =>
        injective first (secondPart first firstIn) second (secondPart second secondIn)
    refine ⟨(detail? option step.2).toList ++ details, ?_⟩
    rw [visitOptions, visitItems_ok_iff.mpr ⟨wellFormed.1, emittedAll⟩]
    show (visitOptions coding product rest step.1 >>= _) = _
    rw [visitedRest]
    rfl

end Expansion

/-! ## Products -/

/-- The condition on which a product can be expanded: its units are well-formed, and their
texts have codes that tell them apart. -/
structure Product.Codable (coding : Coding) (product : Product) : Prop where
  wellFormed : product.WellFormed
  coded : ∀ text ∈ product.texts, ∃ code, coding.code text = .ok code
  injective : ∀ first ∈ product.texts, ∀ second ∈ product.texts, ∀ code,
    coding.code first = .ok code → coding.code second = .ok code → first = second

variable {coding : Coding} {product : Product}

/-- What an expansion gives: the texts of the product, each once and in order, every detail
with the codes of its own. -/
theorem Product.expand_ok {details : List PluDetail}
    (expanded : product.expand coding = .ok details) :
    product.Codable coding ∧ details.flatMap PluDetail.plus = product.texts.eraseDups ∧
      ∀ detail ∈ details, coding.Assigns detail.plus detail.hashes := by
  obtain ⟨wellFormed, listed, assigned, reached, holds⟩ :=
    Expansion.visitOptions_ok Expansion.Emitted.holds_empty expanded
  rw [Expansion.news_of_nothing] at listed holds
  have seen : ∀ text ∈ product.texts, text ∈ [] ++ product.texts.eraseDups := fun text member =>
    List.mem_eraseDups.mpr member
  refine ⟨⟨wellFormed, ?_, ?_⟩, listed, assigned⟩
  · intro text member
    exact holds.coded text (seen text member)
  · intro first firstIn second secondIn code
    exact holds.owned.injective (seen first firstIn) (seen second secondIn)

/-- A product can be expanded exactly when its texts can be told apart by their codes. -/
theorem Product.expand_ok_iff :
    (∃ details, product.expand coding = .ok details) ↔ product.Codable coding := by
  constructor
  · rintro ⟨details, expanded⟩
    exact (product.expand_ok expanded).1
  · intro codable
    exact Expansion.visitOptions_succeeds Expansion.Emitted.holds_empty codable.wellFormed
      codable.coded codable.injective

/-- A union assigns the texts of both maps, provided that no two of them share a code. -/
theorem Coding.Assigns.union {first second : List String} {left right : PluHashes}
    (assignsLeft : coding.Assigns first left) (assignsRight : coding.Assigns second right)
    (injective : ∀ text ∈ first ++ second, ∀ other ∈ first ++ second, ∀ code,
      coding.code text = .ok code → coding.code other = .ok code → text = other) :
    coding.Assigns (first ++ second) (left ∪ right) := by
  intro code text
  have look : (left ∪ right)[code]? = right[code]?.or left[code]? := by
    simp [Std.ExtTreeMap.getElem?_union]
  rw [look, Option.or_eq_some_iff, assignsRight code text, assignsLeft code text, List.mem_append]
  constructor
  · rintro (⟨member, coded⟩ | ⟨_, member, coded⟩)
    · exact ⟨Or.inr member, coded⟩
    · exact ⟨Or.inl member, coded⟩
  · rintro ⟨member, coded⟩
    by_cases late : text ∈ second
    · exact Or.inl ⟨late, coded⟩
    · have early : text ∈ first := member.resolve_right late
      refine Or.inr ⟨?_, early, coded⟩
      rw [Option.eq_none_iff_forall_ne_some]
      intro other found
      obtain ⟨otherIn, otherCode⟩ := (assignsRight code other).mp found
      have same := injective text (List.mem_append_left second early) other
        (List.mem_append_right first otherIn) code coded otherCode
      exact late (same ▸ otherIn)

/-- The union of the maps of several details assigns the texts of all of them. -/
theorem assigns_foldl_details {details : List PluDetail} {before : List String}
    {hashes : PluHashes} (assigns : coding.Assigns before hashes)
    (assigned : ∀ detail ∈ details, coding.Assigns detail.plus detail.hashes)
    (injective : ∀ text ∈ before ++ details.flatMap PluDetail.plus,
      ∀ other ∈ before ++ details.flatMap PluDetail.plus, ∀ code,
        coding.code text = .ok code → coding.code other = .ok code → text = other) :
    coding.Assigns (before ++ details.flatMap PluDetail.plus)
      (details.foldl (fun hashes detail => hashes ∪ detail.hashes) hashes) := by
  induction details generalizing before hashes with
  | nil => simpa using assigns
  | cons detail rest inductionHypothesis =>
    rw [List.forall_mem_cons] at assigned
    rw [List.flatMap_cons, ← List.append_assoc] at injective ⊢
    refine inductionHypothesis (assigns.union assigned.1 ?_) assigned.2 injective
    intro text textIn other otherIn
    exact injective text (List.mem_append_left _ textIn) other (List.mem_append_left _ otherIn)

/-- What materializing a product gives: a view of the product with the details of its
expansion, and a map that assigns exactly the product's texts their codes. -/
theorem Product.materialize_ok {materialized : Materialized}
    (formed : product.materialize coding = .ok materialized) :
    product.expand coding = .ok materialized.view.details ∧
      materialized.view.productId = product.id ∧
      coding.Assigns product.texts materialized.hashes := by
  unfold Product.materialize at formed
  obtain ⟨details, expanded, same⟩ := except_bind_ok_iff.mp formed
  cases same
  obtain ⟨codable, listed, assigned⟩ := product.expand_ok expanded
  refine ⟨expanded, rfl, ?_⟩
  have members : ∀ text, text ∈ [] ++ details.flatMap PluDetail.plus ↔ text ∈ product.texts := by
    intro text
    rw [List.nil_append, listed, List.mem_eraseDups]
  have all : coding.Assigns ([] ++ details.flatMap PluDetail.plus)
      (details.foldl (fun hashes detail => hashes ∪ detail.hashes) ∅) := by
    refine assigns_foldl_details (by intro code text; simp) assigned ?_
    intro text textIn other otherIn
    exact codable.injective text ((members text).mp textIn) other ((members other).mp otherIn)
  intro code text
  rw [← members text]
  exact all code text

/-- The view is the product flattened, and the texts published with it are its texts. -/
theorem Product.view_of_materialize {materialized : Materialized}
    (formed : product.materialize coding = .ok materialized) :
    ∃ details, product.expand coding = .ok details ∧
      materialized.view = ⟨product.id, product.version, product.title,
        product.variants.map PlacedVariant.row, details⟩ ∧
      materialized.hashes = materialized.view.hashes := by
  unfold Product.materialize at formed
  obtain ⟨details, expanded, same⟩ := except_bind_ok_iff.mp formed
  cases same
  exact ⟨details, expanded, rfl, rfl⟩

/-- Products with the same view publish the same texts with it. -/
theorem Product.materialize_eq_of_view {other : Product} {materialized : Materialized}
    {otherMaterialized : Materialized} (formed : product.materialize coding = .ok materialized)
    (otherFormed : other.materialize coding = .ok otherMaterialized)
    (same : otherMaterialized.view = materialized.view) : otherMaterialized = materialized := by
  obtain ⟨_, _, _, hashes⟩ := product.view_of_materialize formed
  obtain ⟨_, _, _, otherHashes⟩ := other.view_of_materialize otherFormed
  have sameHashes : otherMaterialized.hashes = materialized.hashes := by
    rw [otherHashes, hashes, same]
  cases materialized
  cases otherMaterialized
  cases same
  cases sameHashes
  rfl

/-- Materializing a product succeeds exactly when expanding it does. -/
theorem Product.materialize_ok_iff :
    (∃ materialized, product.materialize coding = .ok materialized) ↔ product.Codable coding := by
  rw [← Product.expand_ok_iff]
  constructor
  · rintro ⟨materialized, formed⟩
    exact ⟨_, (product.materialize_ok formed).1⟩
  · rintro ⟨details, expanded⟩
    exact ⟨_, by rw [Product.materialize, expanded]; rfl⟩

end Syndication
