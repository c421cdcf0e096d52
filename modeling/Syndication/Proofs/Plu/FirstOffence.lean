import Syndication.Proofs.Plu.OptionSpace

/-!
# Why an expansion fails

An expansion makes its checks in walking order. For each variant of an item it first checks the
departure and time slot of every unit, and then, text by text, that the text has a code and that no
different text emitted before has the same one. `FirstOffence` says which check is the first that
is not passed, and with what error; nothing in it depends on how repetitions are kept track of.

The expansion fails exactly with the first offence. In particular it fails exactly when some
departure or time slot in use has a delimiter, some text has no code, or two different texts share
one. A text that comes up again is never an offence.
-/

namespace Syndication

open Expansion

/-- What an expansion checks. -/
inductive Check where
  /-- The departure and the time slot of a unit of an option have no delimiter. -/
  | formed (optionId : Int64) (unit : Plu)
  /-- A text has a code, and one that no different text has. -/
  | coded (text : String)

/-- The texts that are emitted once some checks have been passed. -/
def Check.emitted (checks : List Check) : List String :=
  checks.filterMap fun
    | .formed _ _ => none
    | .coded text => some text

/-- A check is not passed after some texts have been emitted. -/
inductive Check.Offends (coding : Coding) (emitted : List String) :
    Check → ExpansionError → Prop
  /-- The departure has the delimiter. -/
  | departure {optionId : Int64} {unit : Plu} (delimited : Plu.hasDelimiter unit.schedule = true) :
      Offends coding emitted (.formed optionId unit)
        (.malformed optionId (.delimiterInSegment unit.schedule))
  /-- The time slot has the delimiter, and the departure has not. -/
  | slot {optionId : Int64} {unit : Plu} (free : Plu.hasDelimiter unit.schedule = false)
      (delimited : Plu.hasDelimiter unit.round = true) :
      Offends coding emitted (.formed optionId unit)
        (.malformed optionId (.delimiterInSegment unit.round))
  /-- The text has no code. -/
  | uncoded {text : String} {cause : CodeError} (refused : coding.code text = .error cause) :
      Offends coding emitted (.coded text) (.uncoded cause)
  /-- A different text that was emitted before has the code of the text. -/
  | collision {first text code : String} (earlier : first ∈ emitted) (different : first ≠ text)
      (firstCode : coding.code first = .ok code) (textCode : coding.code text = .ok code) :
      Offends coding emitted (.coded text) (.collision code first text)

/-- Checks are passed one after the other when some texts have been emitted before. -/
inductive Check.Passed (coding : Coding) : List String → List Check → Prop
  | nil {emitted : List String} : Passed coding emitted []
  | cons {emitted : List String} {check : Check} {rest : List Check}
      (passes : ∀ error, ¬check.Offends coding emitted error)
      (later : Passed coding (emitted ++ Check.emitted [check]) rest) :
      Passed coding emitted (check :: rest)

/-- The first of some checks that is not passed fails with an error, when some texts have been
emitted before. -/
inductive Check.FirstOffence (coding : Coding) : List String → List Check → ExpansionError → Prop
  | here {emitted : List String} {check : Check} {rest : List Check} {error : ExpansionError}
      (offends : check.Offends coding emitted error) :
      FirstOffence coding emitted (check :: rest) error
  | later {emitted : List String} {check : Check} {rest : List Check} {error : ExpansionError}
      (passes : ∀ error, ¬check.Offends coding emitted error)
      (offence : FirstOffence coding (emitted ++ Check.emitted [check]) rest error) :
      FirstOffence coding emitted (check :: rest) error

namespace Product

/-- The checks of a variant: all of its units are checked for the delimiter before any of their
texts is coded. -/
def checksOfVariant (product : Product) (option : ProductOption) (item : OptionItem)
    (variant : Variant) : List Check :=
  (product.variantUnits option.type item variant).map (Check.formed option.id) ++
    (product.spaceOfVariant option item variant).map Check.coded

/-- The checks of an option, in walking order. -/
def checksOfOption (product : Product) (option : ProductOption) : List Check :=
  option.items.flatMap fun item => item.variants.flatMap fun variant =>
    product.checksOfVariant option item variant

/-- The checks of a product, in walking order. -/
def checks (product : Product) : List Check :=
  product.groups.flatMap fun group => group.options.flatMap fun option =>
    product.checksOfOption option

end Product

/-! ## Sequences of checks -/

namespace Check

variable {coding : Coding} {seen texts : List String} {first second : List Check}
  {error other : ExpansionError}

/-- The texts of two sequences of checks are emitted in turn. -/
theorem emitted_append (first second : List Check) :
    emitted (first ++ second) = emitted first ++ emitted second := List.filterMap_append

/-- Checks of units emit nothing. -/
theorem emitted_formed (optionId : Int64) (units : List Plu) :
    emitted (units.map (formed optionId)) = [] := by
  simp [emitted]

/-- Checks of texts emit the texts. -/
theorem emitted_coded (texts : List String) : emitted (texts.map coded) = texts := by
  simp [emitted]

/-- Two sequences of checks are passed when both are. -/
theorem Passed.append (passed : Passed coding seen first)
    (later : Passed coding (seen ++ emitted first) second) :
    Passed coding seen (first ++ second) := by
  induction passed with
  | nil => simpa [emitted] using later
  | @cons seen check rest passes _ inductionHypothesis =>
    refine .cons passes (inductionHypothesis ?_)
    rwa [← List.singleton_append, emitted_append, ← List.append_assoc] at later

/-- An offence among the first checks is the first of all. -/
theorem FirstOffence.append_left (offence : FirstOffence coding seen first error)
    (second : List Check) : FirstOffence coding seen (first ++ second) error := by
  induction offence with
  | here offends => exact .here offends
  | later passes _ inductionHypothesis => exact .later passes inductionHypothesis

/-- When the first checks are passed, the first offence is that of the checks after them. -/
theorem Passed.append_right (passed : Passed coding seen first)
    (offence : FirstOffence coding (seen ++ emitted first) second error) :
    FirstOffence coding seen (first ++ second) error := by
  induction passed with
  | nil => simpa [emitted] using offence
  | @cons seen check rest passes _ inductionHypothesis =>
    refine .later passes (inductionHypothesis ?_)
    rwa [← List.singleton_append, emitted_append, ← List.append_assoc] at offence

/-- Checks that are passed have no offence. -/
theorem Passed.not_firstOffence (passed : Passed coding seen first) :
    ¬FirstOffence coding seen first error := by
  intro offence
  induction offence with
  | here offends =>
    cases passed with
    | cons passes _ => exact passes _ offends
  | later _ _ inductionHypothesis =>
    cases passed with
    | cons _ later => exact inductionHypothesis later

/-- No two of some texts share a code. -/
def Apart (coding : Coding) (texts : List String) : Prop :=
  ∀ first ∈ texts, ∀ second ∈ texts, ∀ code,
    coding.code first = .ok code → coding.code second = .ok code → first = second

/-- A check that is passed keeps the codes of the texts emitted apart. -/
theorem Apart.of_passes {check : Check} (apart : Apart coding seen)
    (passes : ∀ error, ¬check.Offends coding seen error) :
    Apart coding (seen ++ emitted [check]) := by
  cases check with
  | formed optionId unit => simpa [emitted] using apart
  | coded text =>
    have free : ∀ first ∈ seen, ∀ code, coding.code first = .ok code →
        coding.code text = .ok code → first = text := by
      intro first firstIn code firstCode textCode
      by_contra different
      exact passes _ (.collision firstIn different firstCode textCode)
    intro first firstIn second secondIn code firstCode secondCode
    rcases List.mem_append.mp firstIn with firstEarlier | firstLast <;>
      rcases List.mem_append.mp secondIn with secondEarlier | secondLast
    · exact apart first firstEarlier second secondEarlier code firstCode secondCode
    · obtain rfl : second = text := List.mem_singleton.mp secondLast
      exact free first firstEarlier code firstCode secondCode
    · obtain rfl : first = text := List.mem_singleton.mp firstLast
      exact (free second secondEarlier code secondCode firstCode).symm
    · exact (List.mem_singleton.mp firstLast).trans (List.mem_singleton.mp secondLast).symm

/-- A check fails with one error only, as long as the texts emitted have different codes. -/
theorem Offends.unique {check : Check} (apart : Apart coding seen)
    (offends : check.Offends coding seen error) (again : check.Offends coding seen other) :
    error = other := by
  cases offends with
  | departure delimited =>
    cases again with
    | departure => rfl
    | slot free => exact absurd (delimited.symm.trans free) (by decide)
  | slot free =>
    cases again with
    | departure delimited => exact absurd (delimited.symm.trans free) (by decide)
    | slot => rfl
  | uncoded refused =>
    cases again with
    | uncoded refusedAgain => rw [Except.error.inj (refused.symm.trans refusedAgain)]
    | collision _ _ _ textCode => cases refused.symm.trans textCode
  | collision earlier _ firstCode textCode =>
    cases again with
    | uncoded refused => cases textCode.symm.trans refused
    | collision earlierAgain _ firstCodeAgain textCodeAgain =>
      obtain rfl := Except.ok.inj (textCode.symm.trans textCodeAgain)
      rw [apart _ earlier _ earlierAgain _ firstCode firstCodeAgain]

/-- There is only one first offence, as long as the texts emitted before have different codes. -/
theorem FirstOffence.unique (apart : Apart coding seen)
    (offence : FirstOffence coding seen first error)
    (again : FirstOffence coding seen first other) : error = other := by
  induction offence with
  | here offends =>
    cases again with
    | here offendsAgain => exact offends.unique apart offendsAgain
    | later passes => exact absurd offends (passes _)
  | later passes _ inductionHypothesis =>
    cases again with
    | here offends => exact absurd offends (passes _)
    | later _ offenceAgain => exact inductionHypothesis (apart.of_passes passes) offenceAgain

/-- The first offence is that of a check before which all checks are passed. -/
theorem FirstOffence.split (offence : FirstOffence coding seen first error) :
    ∃ before check after, first = before ++ check :: after ∧ Passed coding seen before ∧
      check.Offends coding (seen ++ emitted before) error := by
  induction offence with
  | here offends => exact ⟨[], _, _, rfl, .nil, by simpa [emitted] using offends⟩
  | later passes _ inductionHypothesis =>
    obtain ⟨before, check, after, rfl, passed, offends⟩ := inductionHypothesis
    refine ⟨_ :: before, check, after, rfl, .cons passes passed, ?_⟩
    rwa [List.append_assoc, ← emitted_append, List.singleton_append] at offends

/-- A collision is found between two different texts with one code, of which the first was emitted
before the second. -/
theorem FirstOffence.collision {code earlier text : String}
    (offence : FirstOffence coding [] first (.collision code earlier text)) :
    earlier ≠ text ∧ coding.code earlier = .ok code ∧ coding.code text = .ok code ∧
      [earlier, text].Sublist (emitted first) := by
  obtain ⟨before, check, after, rfl, _, offends⟩ := offence.split
  cases offends with
  | collision earlierIn different firstCode textCode =>
    refine ⟨different, firstCode, textCode, ?_⟩
    have inBefore : [earlier].Sublist (emitted before) := List.singleton_sublist.mpr earlierIn
    have atHead : [text].Sublist (emitted (coded text :: after)) :=
      List.singleton_sublist.mpr List.mem_cons_self
    rw [emitted_append]
    exact inBefore.append atHead

/-- A malformed text is that of a unit that is checked for the option reported. -/
theorem FirstOffence.malformed {optionId : Int64} {cause : PluError}
    (offence : FirstOffence coding seen first (.malformed optionId cause)) :
    ∃ unit, formed optionId unit ∈ first ∧ ∃ segment, Plu.hasDelimiter segment = true ∧
      (segment = unit.schedule ∨ segment = unit.round) ∧ cause = .delimiterInSegment segment := by
  obtain ⟨before, check, after, rfl, _, offends⟩ := offence.split
  have checked : check ∈ before ++ check :: after :=
    List.mem_append_right before List.mem_cons_self
  cases offends with
  | departure delimited => exact ⟨_, checked, _, delimited, Or.inl rfl, rfl⟩
  | slot _ delimited => exact ⟨_, checked, _, delimited, Or.inr rfl, rfl⟩

end Check

/-! ## The walk -/

namespace Expansion

open Check

variable {coding : Coding} {product : Product} {seen : List String} {emitted : Emitted}

/-- What has been seen matters only as a set of texts. -/
theorem Emitted.Holds.congr {other : List String} (holds : emitted.Holds coding seen)
    (same : ∀ text, text ∈ seen ↔ text ∈ other) : emitted.Holds coding other where
  known text := (holds.known text).trans (same text)
  owned code text := by rw [holds.owned code text, same]
  coded text member := holds.coded text ((same text).mpr member)

/-- The result of a part of the walk that makes some checks after some texts were seen: if it
succeeds, all of them are passed and something holds of the value; if it fails, then with their
first offence. -/
def Judged {α : Type} (coding : Coding) (seen : List String) (checks : List Check)
    (holds : α → Prop) : Except ExpansionError α → Prop
  | .ok value => Passed coding seen checks ∧ holds value
  | .error error => FirstOffence coding seen checks error

/-- Of two parts in a row the second makes its checks when the first has passed its own. -/
theorem Judged.bind {α β : Type} {first second : List Check} {holds : α → Prop}
    {after : β → Prop} {result : Except ExpansionError α} {next : α → Except ExpansionError β}
    (judged : Judged coding seen first holds result)
    (later : ∀ value, holds value →
      Judged coding (seen ++ Check.emitted first) second after (next value)) :
    Judged coding seen (first ++ second) after (result >>= next) := by
  cases result with
  | error error => exact FirstOffence.append_left judged second
  | ok value =>
    obtain ⟨passed, held⟩ := judged
    have judgedNext := later value held
    show Judged coding seen (first ++ second) after (next value)
    cases reached : next value with
    | error error =>
      rw [reached] at judgedNext
      exact passed.append_right judgedNext
    | ok final =>
      rw [reached] at judgedNext
      exact ⟨passed.append judgedNext.1, judgedNext.2⟩

/-- The result of a part of the walk that makes some checks after some texts were seen. If it
succeeds, its accumulator stands for the texts seen and those emitted. -/
def Walked (coding : Coding) (seen : List String) (checks : List Check)
    (result : Except ExpansionError (Emitted × Contribution)) : Prop :=
  Judged coding seen checks (fun reached => reached.1.Holds coding (seen ++ Check.emitted checks))
    result

/-- Two parts of a walk in a row are one. -/
theorem Walked.followed {first second : List Check}
    {result : Except ExpansionError (Emitted × Contribution)}
    {next : Emitted × Contribution → Except ExpansionError (Emitted × Contribution)}
    (walked : Walked coding seen first result)
    (later : ∀ reached : Emitted × Contribution,
      reached.1.Holds coding (seen ++ Check.emitted first) →
        Walked coding (seen ++ Check.emitted first) second (next reached)) :
    Walked coding seen (first ++ second) (result >>= next) := by
  rw [Walked, Check.emitted_append, ← List.append_assoc]
  exact Judged.bind walked later

/-- A value that is only changed needs no check. -/
theorem Judged.map {α β : Type} {checks : List Check} {holds : α → Prop} {after : β → Prop}
    {result : Except ExpansionError α} (judged : Judged coding seen checks holds result)
    (change : α → β) (changed : ∀ value, holds value → after (change value)) :
    Judged coding seen checks after (result >>= fun value => .ok (change value)) := by
  cases result with
  | error error => exact judged
  | ok value => exact ⟨judged.1, changed value judged.2⟩

/-- Emitting a text makes its check. -/
theorem walked_emit (holds : emitted.Holds coding seen) (text : String)
    (contribution : Contribution) :
    Walked coding seen [.coded text] (emit coding text emitted contribution) := by
  by_cases member : text ∈ seen
  · -- A text that was seen has a code, which no other text seen has.
    rw [emit_seen holds member]
    refine ⟨.cons ?_ .nil, holds.congr ?_⟩
    · intro error offends
      cases offends with
      | uncoded refused =>
        obtain ⟨code, textCode⟩ := holds.coded text member
        cases textCode.symm.trans refused
      | collision earlier different firstCode textCode =>
        exact different (holds.owned.injective earlier member firstCode textCode)
    · intro other
      show other ∈ seen ↔ other ∈ seen ++ [text]
      rw [List.mem_append, List.mem_singleton]
      exact ⟨Or.inl, fun known => known.elim id fun same => same ▸ member⟩
  · rw [emit, if_neg (mt (holds.known text).mp member)]
    cases textCode : coding.code text with
    | error cause => exact .here (.uncoded textCode)
    | ok code =>
      dsimp only
      cases owner : emitted.owners[code]? with
      | some first =>
        obtain ⟨earlier, firstCode⟩ := (holds.owned code first).mp owner
        have different : first ≠ text := fun same => member (same ▸ earlier)
        exact .here (.collision earlier different firstCode textCode)
      | none =>
        have free : ∀ other ∈ seen, coding.code other ≠ .ok code := by
          intro other earlier otherCode
          have owns := (holds.owned code other).mpr ⟨earlier, otherCode⟩
          cases owner.symm.trans owns
        refine ⟨.cons ?_ .nil, holds.insert textCode free⟩
        intro error offends
        cases offends with
        | uncoded refused => cases textCode.symm.trans refused
        | collision earlier _ firstCode sameCode =>
          obtain rfl := Except.ok.inj (textCode.symm.trans sameCode)
          exact free _ earlier firstCode

/-- Emitting texts makes their checks in order. -/
theorem walked_emitAll (holds : emitted.Holds coding seen) (texts : List String)
    (contribution : Contribution) :
    Walked coding seen (texts.map .coded) (emitAll coding texts emitted contribution) := by
  induction texts generalizing seen emitted contribution with
  | nil => exact ⟨.nil, by simpa [Check.emitted] using holds⟩
  | cons text rest inductionHypothesis =>
    rw [emitAll, List.map_cons, ← List.singleton_append]
    exact (walked_emit holds text contribution).followed fun reached reachedHolds =>
      inductionHypothesis reachedHolds reached.2

/-- Forming the text of a unit makes the check of the unit. -/
theorem judged_unitText (optionId : Int64) (variant : Variant) (segments : String × String) :
    let unit : Plu := ⟨product.id, product.version, variant.id, segments.1, segments.2⟩
    Judged coding seen [.formed optionId unit] (· = unit.text)
      ((unitText product variant segments).mapError (.malformed optionId)) := by
  intro unit
  unfold unitText Plu.make
  cases departure : Plu.hasDelimiter segments.1 with
  | true => exact .here (.departure departure)
  | false =>
    cases slot : Plu.hasDelimiter segments.2 with
    | true => exact .here (.slot departure slot)
    | false =>
      refine ⟨.cons ?_ .nil, rfl⟩
      intro error offends
      cases offends with
      | departure delimited => cases departure.symm.trans delimited
      | slot _ delimited => cases slot.symm.trans delimited

/-- An error on the way is handed on with its cause. -/
theorem mapError_bind {ε ε' α β : Type} (wrap : ε → ε') (first : Except ε α)
    (next : α → Except ε β) :
    (first >>= next).mapError wrap = first.mapError wrap >>= fun value =>
      (next value).mapError wrap := by
  cases first <;> rfl

/-- Forming the texts of a variant makes the checks of its units. -/
theorem judged_variantTexts (option : ProductOption) (item : OptionItem) (variant : Variant) :
    Judged coding seen
      ((product.variantUnits option.type item variant).map (Check.formed option.id))
      (· = product.spaceOfVariant option item variant)
      ((variantTexts product option.type item variant).mapError (.malformed option.id)) := by
  rw [product.spaceOfVariant_eq]
  unfold variantTexts Product.variantUnits
  induction item.unitSegments option.type generalizing seen with
  | nil => exact ⟨.nil, rfl⟩
  | cons segments rest inductionHypothesis =>
    rw [List.mapM_cons, mapError_bind, List.map_cons, List.map_cons, List.map_cons,
      ← List.singleton_append]
    refine (judged_unitText option.id variant segments).bind ?_
    rintro _ rfl
    rw [mapError_bind]
    refine inductionHypothesis.map _ ?_
    rintro _ rfl
    rfl

/-- Visiting a variant makes its checks: those of its units, and then those of its texts. -/
theorem walked_variant (holds : emitted.Holds coding seen) (option : ProductOption)
    (item : OptionItem) (variant : Variant) (contribution : Contribution) :
    Walked coding seen (product.checksOfVariant option item variant) (do
      let texts ←
        (variantTexts product option.type item variant).mapError (.malformed option.id)
      emitAll coding texts emitted contribution) := by
  refine (judged_variantTexts option item variant).bind ?_
  rintro _ rfl
  rw [Product.checksOfVariant, Check.emitted_append, Check.emitted_formed, List.append_nil,
    List.nil_append]
  exact walked_emitAll holds _ contribution

/-- Visiting the variants of an item makes their checks in order. -/
theorem walked_visitVariants (holds : emitted.Holds coding seen) (option : ProductOption)
    (item : OptionItem) (variants : List Variant) (contribution : Contribution) :
    Walked coding seen
      (variants.flatMap fun variant => product.checksOfVariant option item variant)
      (visitVariants coding product option item variants emitted contribution) := by
  induction variants generalizing seen emitted contribution with
  | nil => exact ⟨.nil, by simpa [Check.emitted] using holds⟩
  | cons variant rest inductionHypothesis =>
    have first : Walked coding seen (product.checksOfVariant option item variant) _ :=
      walked_variant holds option item variant contribution
    have walked := first.followed fun reached reachedHolds =>
      inductionHypothesis reachedHolds reached.2
    rw [bind_assoc] at walked
    exact walked

/-- Visiting the items of an option makes their checks in order. -/
theorem walked_visitItems (holds : emitted.Holds coding seen) (option : ProductOption)
    (items : List OptionItem) (contribution : Contribution) :
    Walked coding seen
      (items.flatMap fun item => item.variants.flatMap fun variant =>
        product.checksOfVariant option item variant)
      (visitItems coding product option items emitted contribution) := by
  induction items generalizing seen emitted contribution with
  | nil => exact ⟨.nil, by simpa [Check.emitted] using holds⟩
  | cons item rest inductionHypothesis =>
    rw [visitItems, List.flatMap_cons]
    exact (walked_visitVariants holds option item item.variants contribution).followed
      fun reached reachedHolds => inductionHypothesis reachedHolds reached.2

/-- Visiting options makes their checks in order. -/
theorem judged_visitOptions (holds : emitted.Holds coding seen) (options : List ProductOption) :
    Judged coding seen (options.flatMap fun option => product.checksOfOption option)
      (fun _ => True) (visitOptions coding product options emitted) := by
  induction options generalizing seen emitted with
  | nil => exact ⟨.nil, trivial⟩
  | cons option rest inductionHypothesis =>
    rw [visitOptions, List.flatMap_cons]
    refine (walked_visitItems holds option option.items Contribution.empty).bind
      fun reached reachedHolds => ?_
    exact (inductionHypothesis reachedHolds).map _ fun _ _ => trivial

end Expansion

/-! ## The whole expansion -/

/-- Some unit that a variant of an item has in an option of a type would have the delimiter. A list
uses neither departures nor time slots, and a round uses one of them only along with the other. -/
def OptionItem.UsesDelimiter (item : OptionItem) : OptionType → Prop
  | .list => False
  | .schedule => ∃ schedule ∈ item.schedules, Plu.hasDelimiter schedule = true
  | .round =>
    (item.rounds ≠ [] ∧ ∃ schedule ∈ item.schedules, Plu.hasDelimiter schedule = true) ∨
      (item.schedules ≠ [] ∧ ∃ round ∈ item.rounds, Plu.hasDelimiter round = true)

/-- The delimiter is used when it is in a departure or time slot of a unit. -/
theorem OptionItem.usesDelimiter_iff (item : OptionItem) (type : OptionType) :
    item.UsesDelimiter type ↔ ∃ segments ∈ item.unitSegments type,
      Plu.hasDelimiter segments.1 = true ∨ Plu.hasDelimiter segments.2 = true := by
  have free : Plu.hasDelimiter "" = false := rfl
  cases type with
  | list => simp [UsesDelimiter, unitSegments, free]
  | schedule => simp [UsesDelimiter, unitSegments, free]
  | round =>
    simp only [UsesDelimiter, unitSegments, List.mem_flatMap, List.mem_map]
    constructor
    · rintro (⟨slots, schedule, scheduleIn, delimited⟩ | ⟨departures, round, roundIn, delimited⟩)
      · obtain ⟨round, roundIn⟩ := List.exists_mem_of_ne_nil _ slots
        exact ⟨_, ⟨schedule, scheduleIn, round, roundIn, rfl⟩, Or.inl delimited⟩
      · obtain ⟨schedule, scheduleIn⟩ := List.exists_mem_of_ne_nil _ departures
        exact ⟨_, ⟨schedule, scheduleIn, round, roundIn, rfl⟩, Or.inr delimited⟩
    · rintro ⟨_, ⟨schedule, scheduleIn, round, roundIn, rfl⟩, delimited | delimited⟩
      · exact Or.inl ⟨List.ne_nil_of_mem roundIn, schedule, scheduleIn, delimited⟩
      · exact Or.inr ⟨List.ne_nil_of_mem scheduleIn, round, roundIn, delimited⟩

namespace Product

open Check

variable {product : Product} {coding : Coding}

/-- The checks of a product are those of its options. -/
theorem checks_eq :
    product.checks = product.options.flatMap fun option => product.checksOfOption option := by
  simp only [checks, options, List.flatMap_assoc]

/-- The checks of a variant emit its texts. -/
theorem emitted_checksOfVariant (option : ProductOption) (item : OptionItem) (variant : Variant) :
    Check.emitted (product.checksOfVariant option item variant) =
      product.spaceOfVariant option item variant := by
  rw [checksOfVariant, emitted_append, emitted_formed, emitted_coded, List.nil_append]

/-- The checks of a product emit its option space. -/
theorem emitted_checks : Check.emitted product.checks = product.optionSpace := by
  have emittedOf : ∀ {α : Type} (entries : List α) (checksOf : α → List Check),
      Check.emitted (entries.flatMap checksOf) =
        entries.flatMap fun entry => Check.emitted (checksOf entry) := by
    intro α entries checksOf
    exact List.filterMap_flatMap
  simp only [checks, checksOfOption, emittedOf, emitted_checksOfVariant]
  rfl

/-- A unit is checked for an option when a variant of an item of the option has it. -/
theorem formed_mem_checks {optionId : Int64} {unit : Plu} :
    formed optionId unit ∈ product.checks ↔ ∃ placed ∈ product.variants,
      placed.option.id = optionId ∧
        unit ∈ product.variantUnits placed.option.type placed.item placed.variant := by
  simp only [checks, checksOfOption, checksOfVariant, variants, List.mem_flatMap, List.mem_append,
    List.mem_map]
  constructor
  · rintro ⟨group, groupIn, option, optionIn, item, itemIn, variant, variantIn,
      ⟨_, unitIn, ⟨rfl, rfl⟩⟩ | ⟨_, _, impossible⟩⟩
    · exact ⟨⟨group, option, item, variant⟩,
        ⟨group, groupIn, option, optionIn, item, itemIn, variant, variantIn, rfl⟩, rfl, unitIn⟩
    · cases impossible
  · rintro ⟨_, ⟨group, groupIn, option, optionIn, item, itemIn, variant, variantIn, rfl⟩, rfl,
      unitIn⟩
    exact ⟨group, groupIn, option, optionIn, item, itemIn, variant, variantIn,
      Or.inl ⟨unit, unitIn, rfl⟩⟩

/-- An item uses the delimiter when a unit of one of its variants has it. -/
theorem usesDelimiter_iff_units (product : Product) (type : OptionType) (item : OptionItem)
    (variant : Variant) :
    item.UsesDelimiter type ↔ ∃ unit ∈ product.variantUnits type item variant,
      Plu.hasDelimiter unit.schedule = true ∨ Plu.hasDelimiter unit.round = true := by
  simp [item.usesDelimiter_iff, variantUnits]

/-- A product is not well-formed when some variant that is walked uses the delimiter. -/
theorem not_wellFormed_iff : ¬product.WellFormed ↔
    ∃ placed ∈ product.variants, placed.item.UsesDelimiter placed.option.type := by
  have walked : ∀ unit, unit ∈ product.units ↔ ∃ placed ∈ product.variants,
      unit ∈ product.variantUnits placed.option.type placed.item placed.variant := by
    intro unit
    simp only [units, options, optionUnits, variants, List.mem_flatMap, List.mem_map]
    constructor
    · rintro ⟨option, ⟨group, groupIn, optionIn⟩, item, itemIn, variant, variantIn, unitIn⟩
      exact ⟨⟨group, option, item, variant⟩,
        ⟨group, groupIn, option, optionIn, item, itemIn, variant, variantIn, rfl⟩, unitIn⟩
    · rintro ⟨_, ⟨group, groupIn, option, optionIn, item, itemIn, variant, variantIn, rfl⟩, unitIn⟩
      exact ⟨option, ⟨group, groupIn, optionIn⟩, item, itemIn, variant, variantIn, unitIn⟩
  have malformed : ∀ unit : Plu, ¬unit.WellFormed ↔
      Plu.hasDelimiter unit.schedule = true ∨ Plu.hasDelimiter unit.round = true := by
    intro unit
    rw [Plu.WellFormed, not_and_or, Bool.not_eq_false, Bool.not_eq_false]
  simp only [WellFormed, not_forall, exists_prop, malformed, walked,
    fun placed : PlacedVariant =>
      product.usesDelimiter_iff_units placed.option.type placed.item placed.variant]
  constructor
  · rintro ⟨unit, ⟨placed, placedIn, unitIn⟩, delimited⟩
    exact ⟨placed, placedIn, unit, unitIn, delimited⟩
  · rintro ⟨placed, placedIn, unit, unitIn, delimited⟩
    exact ⟨unit, ⟨placed, placedIn, unitIn⟩, delimited⟩

/-- An expansion that fails does so with the first offence among the checks. -/
theorem expand_error_iff {error : ExpansionError} :
    product.expand coding = .error error ↔ FirstOffence coding [] product.checks error := by
  have judged : Judged coding [] product.checks (fun _ => True) (product.expand coding) := by
    rw [checks_eq]
    exact judged_visitOptions Emitted.holds_empty product.options
  cases expanded : product.expand coding with
  | ok details =>
    rw [expanded] at judged
    exact ⟨nofun, fun offence => absurd offence judged.1.not_firstOffence⟩
  | error found =>
    rw [expanded] at judged
    have apart : Apart coding [] := nofun
    constructor
    · rintro ⟨rfl⟩
      exact judged
    · intro offence
      rw [offence.unique apart judged]

/-- The condition on which the expansion of a product fails: a variant that is walked uses the
delimiter, a text of the option space has no code, or two different ones share a code. -/
def Unexpandable (coding : Coding) (product : Product) : Prop :=
  (∃ placed ∈ product.variants, placed.item.UsesDelimiter placed.option.type) ∨
    (∃ text ∈ product.optionSpace, ∃ cause, coding.code text = .error cause) ∨
      ∃ first ∈ product.optionSpace, ∃ second ∈ product.optionSpace, ∃ code,
        coding.code first = .ok code ∧ coding.code second = .ok code ∧ first ≠ second

/-- A product that is not codable is one that cannot be expanded. -/
theorem not_codable_iff : ¬product.Codable coding ↔ product.Unexpandable coding := by
  have uncoded : ∀ text, (¬∃ code, coding.code text = .ok code) ↔
      ∃ cause, coding.code text = .error cause := by
    intro text
    cases coding.code text with
    | ok code => exact ⟨fun none => absurd ⟨code, rfl⟩ none, nofun⟩
    | error cause => exact ⟨fun _ => ⟨cause, rfl⟩, fun _ => nofun⟩
  have parts : product.Codable coding ↔ product.WellFormed ∧
      (∀ text ∈ product.texts, ∃ code, coding.code text = .ok code) ∧
        ∀ first ∈ product.texts, ∀ second ∈ product.texts, ∀ code,
          coding.code first = .ok code → coding.code second = .ok code → first = second :=
    ⟨fun codable => ⟨codable.wellFormed, codable.coded, codable.injective⟩,
      fun ⟨wellFormed, haveCodes, injective⟩ => ⟨wellFormed, haveCodes, injective⟩⟩
  rw [parts, not_and_or, not_and_or, not_wellFormed_iff, Unexpandable, optionSpace_eq]
  simp only [not_forall, exists_prop, uncoded, ne_eq]

/-- An expansion fails exactly when it has to, and with the first offence of its checks. The error
of a malformed text tells the option that is walked, and that of a collision two different texts of
the option space, the earlier one first. -/
theorem expansion_fails_at_first_offence (coding : Coding) (product : Product) :
    ((∃ error, product.expand coding = .error error) ↔ product.Unexpandable coding) ∧
      (∀ error, product.expand coding = .error error ↔
        FirstOffence coding [] product.checks error) ∧
      (∀ optionId cause, product.expand coding = .error (.malformed optionId cause) →
        ∃ placed ∈ product.variants, placed.option.id = optionId ∧
          placed.item.UsesDelimiter placed.option.type ∧
            ∃ segment, Plu.hasDelimiter segment = true ∧ cause = .delimiterInSegment segment) ∧
      ∀ code first second, product.expand coding = .error (.collision code first second) →
        first ≠ second ∧ coding.code first = .ok code ∧ coding.code second = .ok code ∧
          [first, second].Sublist product.optionSpace := by
  refine ⟨?_, fun error => expand_error_iff, ?_, ?_⟩
  · rw [← not_codable_iff, ← expand_ok_iff]
    cases product.expand coding with
    | ok details => exact ⟨nofun, fun failed => absurd ⟨details, rfl⟩ failed⟩
    | error error => exact ⟨fun _ => nofun, fun _ => ⟨error, rfl⟩⟩
  · intro optionId cause failed
    obtain ⟨unit, checked, segment, delimited, own, rfl⟩ := (expand_error_iff.mp failed).malformed
    obtain ⟨placed, placedIn, walked, unitIn⟩ := formed_mem_checks.mp checked
    refine ⟨placed, placedIn, walked, ?_, segment, delimited, rfl⟩
    refine (product.usesDelimiter_iff_units _ _ placed.variant).mpr ⟨unit, unitIn, ?_⟩
    rcases own with rfl | rfl
    · exact Or.inl delimited
    · exact Or.inr delimited
  · intro code first second failed
    rw [← emitted_checks]
    exact (expand_error_iff.mp failed).collision

end Product

end Syndication
