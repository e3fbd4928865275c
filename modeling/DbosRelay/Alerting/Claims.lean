import DbosRelay.Library.Runs
import DbosRelay.Library.Tables
import DbosRelay.Store.Timestamps

/-!
# Claims of alert rules

`claimRule` of `internal/alerting/alerting.go` and the statement behind it,
`TouchAlertRuleLastFiredAtomic`, which every instance runs before it fires an
alert.  On PostgreSQL the statement compares times.  On SQLite it compares the
text of `datetime(last_fired_at, '+s seconds')`, which has a blank between the
date and the clock, with the text of the current time, which has a `T` there.
-/

namespace DbosRelay.Alerting

open DbosRelay.Basic
open DbosRelay.Library.Calendar
open DbosRelay.Library.Decimals
open DbosRelay.Library.Runs
open DbosRelay.Library.Tables
open DbosRelay.Store

/-! ## SQLite's `datetime` -/

/-- The date of a second, as SQLite and Go both write it. -/
def dateText (seconds : Int) : List Char :=
  yearText (dateOfSecond seconds).year ++
    '-' :: padded 2 (dateOfSecond seconds).month ++
      '-' :: padded 2 (dateOfSecond seconds).day

/-- The clock of a second. -/
def clockText (seconds : Int) : List Char :=
  let clock := clockOfSecond seconds
  padded 2 clock.1 ++ ':' :: padded 2 clock.2.1 ++ ':' :: padded 2 clock.2.2

/-- `YYYY-MM-DD HH:MM:SS`. -/
def datetimeText (seconds : Int) : List Char :=
  dateText seconds ++ ' ' :: clockText seconds

/-- The years SQLite's date functions are documented for. -/
def Documented (seconds : Int) : Prop :=
  0 ≤ (dateOfSecond seconds).year ∧ (dateOfSecond seconds).year ≤ 9999

instance (seconds : Int) : Decidable (Documented seconds) :=
  inferInstanceAs (Decidable (_ ∧ _))

/--
What SQLite leaves open: the whole millisecond it keeps of a time, and its
results outside the documented years.
-/
structure DateFunctions where
  milliseconds : Time → Int
  undocumented : Time → Int → Option (List Char)

namespace DateFunctions

/-- The second a rule is due at, as SQLite computes it. -/
def dueSecond (functions : DateFunctions) (last : Time) (secs : Int) : Int :=
  (functions.milliseconds last + 1000 * secs) / 1000

/-- Both the stored time and the due time have documented years. -/
def DocumentedDue (functions : DateFunctions) (last : Time) (secs : Int) :
    Prop :=
  Documented (last / second) ∧ Documented (functions.dueSecond last secs)

instance (functions : DateFunctions) (last : Time) (secs : Int) :
    Decidable (functions.DocumentedDue last secs) :=
  inferInstanceAs (Decidable (_ ∧ _))

/-- `datetime(last_fired_at, '+' || min_interval_secs || ' seconds')`. -/
def datetime (functions : DateFunctions) (last : Time) (secs : Int) :
    Option (List Char) :=
  if functions.DocumentedDue last secs then
    some (datetimeText (functions.dueSecond last secs))
  else functions.undocumented last secs

end DateFunctions

/-! ## The order of the texts -/

/-- The date of an earlier day is the smaller text, up to the year 9999. -/
theorem dateText_lt_of_day {first later : Int}
    (before : first / 86400 < later / 86400) (documented : Documented later)
    (rest other : List Char) :
    dateText first ++ rest < dateText later ++ other := by
  have days := (lt_iff_dateOf (first / 86400 + unixEpochDays)
    (later / 86400 + unixEpochDays)).mp (by omega)
  rcases days with earlierYear | ⟨sameYear, dates⟩
  · have earlierYear : (dateOfSecond first).year < (dateOfSecond later).year :=
      earlierYear
    have inOrder :
        YearsInOrder (dateOfSecond first).year (dateOfSecond later).year := by
      by_cases negative : (dateOfSecond first).year < 0
      · rw [YearsInOrder, if_neg (not_lt.mpr documented.1), if_pos negative]
        trivial
      · exact yearsInOrder_of_fourDigits (not_lt.mp negative)
          (le_of_lt earlierYear) documented.2
    have years := (yearText_lt earlierYear
      (padded 2 (dateOfSecond first).month ++
        '-' :: padded 2 (dateOfSecond first).day ++ rest)
      (padded 2 (dateOfSecond later).month ++
        '-' :: padded 2 (dateOfSecond later).day ++ other)).1.mpr inOrder
    simpa [dateText] using years
  · have sameYear : (dateOfSecond first).year = (dateOfSecond later).year :=
      sameYear
    have firstDate := dateOf_bounds (first / 86400 + unixEpochDays)
    have laterDate := dateOf_bounds (later / 86400 + unixEpochDays)
    have ordered :
        padded 2 (dateOfSecond first).month ++
            ('-' :: padded 2 (dateOfSecond first).day ++ rest) <
          padded 2 (dateOfSecond later).month ++
            ('-' :: padded 2 (dateOfSecond later).day ++ other) := by
      rw [padded_append_lt firstDate.1 laterDate.1]
      rcases dates with earlierMonth | ⟨sameMonth, earlierDay⟩
      · exact Or.inl earlierMonth
      · refine Or.inr ⟨sameMonth, ?_⟩
        rw [List.cons_append, List.cons_append, List.cons_lt_cons_iff,
          padded_append_lt firstDate.2 laterDate.2]
        exact Or.inr ⟨rfl, Or.inl earlierDay⟩
    rw [dateText, dateText, sameYear]
    simp only [List.append_assoc, List.cons_append] at ordered ⊢
    rw [append_lt_append_left, List.cons_lt_cons_iff]
    exact Or.inr ⟨rfl, ordered⟩

theorem dateText_eq_of_day {first later : Int}
    (same : first / 86400 = later / 86400) :
    dateText first = dateText later := by
  rw [dateText, dateText, dateOfSecond, dateOfSecond, same]

/-- Go's text of a time: the date, a `T` and the clock. -/
theorem timestamptzToText_eq (time : Time) :
    timestamptzToText time =
      dateText (time / second) ++ 'T' :: (clockText (time / second) ++
        trimmedFraction (nanosecond time) ++ ['Z']) := by
  simp [timestamptzToText, secondText, afterYearText, dateText, clockText]

/-- On an earlier day the present is smaller than the due time. -/
theorem text_lt_datetimeText {now : Time} {due : Int}
    (documented : Documented due) (before : now / second / 86400 < due / 86400) :
    timestamptzToText now < datetimeText due := by
  rw [timestamptzToText_eq, datetimeText]
  exact dateText_lt_of_day before documented _ _

/-- From the due day on the due time is smaller, whatever the clocks say. -/
theorem datetimeText_lt_text {now : Time} {due : Int}
    (documented : Documented (now / second))
    (reached : due / 86400 ≤ now / second / 86400) :
    datetimeText due < timestamptzToText now := by
  rw [timestamptzToText_eq, datetimeText]
  rcases lt_or_eq_of_le reached with earlierDay | sameDay
  · exact dateText_lt_of_day earlierDay documented _ _
  · have blank : ' ' < 'T' := by decide
    rw [dateText_eq_of_day sameDay, append_lt_append_left,
      List.cons_lt_cons_iff]
    exact Or.inl blank

/-! ## The claim -/

/-- The engines. -/
inductive Engine where
  | postgres
  | sqlite (functions : DateFunctions)

/-- The last comparison of the statement: the minimum interval has passed. -/
def Engine.elapsed (engine : Engine) (last : Time) (secs : Int) (now : Time) :
    Bool :=
  match engine with
  | .postgres => decide (last ≤ now - secs * second)
  | .sqlite functions =>
      match functions.datetime last secs with
      | none => false
      | some due => decide (due ≤ timestamptzToText now)

theorem Engine.elapsed_postgres (last : Time) (secs : Int) (now : Time) :
    Engine.postgres.elapsed last secs now =
      decide (last ≤ now - secs * second) :=
  rfl

theorem Engine.elapsed_sqlite {functions : DateFunctions} {last : Time}
    {secs : Int} (documented : functions.DocumentedDue last secs) (now : Time) :
    (Engine.sqlite functions).elapsed last secs now =
      decide (datetimeText (functions.dueSecond last secs) ≤
        timestamptzToText now) := by
  show (match functions.datetime last secs with
    | none => false
    | some due => decide (due ≤ timestamptzToText now)) = _
  rw [DateFunctions.datetime, if_pos documented]

/--
A row of `alerting_rules`, as far as claims are concerned.  The times of the
successful claims are kept for the record.
-/
structure AlertingRule where
  applicationID : UUID
  minIntervalSecs : Option Int
  lastFiredAt : Option Time
  claimed : List Time

/-- The condition of the statement on the row. -/
def AlertingRule.due (rule : AlertingRule) (engine : Engine) (now : Time) :
    Bool :=
  match rule.lastFiredAt, rule.minIntervalSecs with
  | none, _ => true
  | some _, none => true
  | some last, some secs =>
      decide (secs ≤ 0) || engine.elapsed last secs now

/-- The row once the statement has updated it. -/
def AlertingRule.touch (rule : AlertingRule) (now : Time) : AlertingRule :=
  { rule with
    lastFiredAt := some now
    claimed := rule.claimed ++ [now] }

/-- The rules of the store. -/
abbrev Rules := Table UUID AlertingRule

/-- `TouchAlertRuleLastFiredAtomic`; no row is `pgx.ErrNoRows`. -/
def touchAlertRuleLastFiredAtomic (engine : Engine) (rules : Rules)
    (id applicationID : UUID) (now : Time) : Option (AlertingRule × Rules) :=
  match rules.lookup id with
  | none => none
  | some rule =>
      if rule.applicationID = applicationID ∧ rule.due engine now = true then
        some (rule.touch now, rules.insert id (rule.touch now))
      else none

/-- `claimRule`, with a store of either engine. -/
def claimRule (engine : Engine) (rules : Rules) (id applicationID : UUID)
    (now : Time) : Bool × Rules :=
  match touchAlertRuleLastFiredAtomic engine rules id applicationID now with
  | none => (false, rules)
  | some (_, rules) => (true, rules)

/--
What happens to the rules of a store.  An evaluation claims a rule as some
instance has read it, at the time its statement runs with.
-/
inductive AlertStep where
  | createAlertingRule (id applicationID : UUID) (minIntervalSecs : Option Int)
  | deleteAlertingRule (id applicationID : UUID)
  | fireAlert (id applicationID : UUID) (now : Time)

/-- One statement of some instance. -/
def alertStep (engine : Engine) (rules : Rules) : AlertStep → Option Rules
  | .createAlertingRule id applicationID minIntervalSecs =>
      match rules.lookup id with
      | none =>
          some (rules.insert id ⟨applicationID, minIntervalSecs, none, []⟩)
      | some _ => none
  | .deleteAlertingRule id applicationID =>
      match rules.lookup id with
      | none => some rules
      | some rule =>
          if rule.applicationID = applicationID then some (rules.erase id)
          else some rules
  | .fireAlert id applicationID now =>
      some (claimRule engine rules id applicationID now).2

/-! ## Spacing -/

/-- Any two claims of the rule are its minimum interval apart. -/
def AlertingRule.Spaced (rule : AlertingRule) : Prop :=
  ∀ secs, rule.minIntervalSecs = some secs → 0 < secs →
    rule.claimed.Pairwise fun earlier later => earlier + secs * second ≤ later

/-- Every rule of the store is spaced. -/
def AllSpaced (rules : Rules) : Prop :=
  ∀ id rule, rules.lookup id = some rule → rule.Spaced

/--
The condition on a statement: where SQLite is asked to claim a rule before its
interval has passed, the due time falls on a later day than the present.
-/
def ClaimedOnTime (engine : Engine) (rules : Rules) : AlertStep → Prop
  | .fireAlert id _ now =>
      match engine with
      | .postgres => True
      | .sqlite functions =>
          ∀ rule last secs, rules.lookup id = some rule →
            rule.lastFiredAt = some last → rule.minIntervalSecs = some secs →
              0 < secs → now < last + secs * second →
                functions.DocumentedDue last secs ∧
                  now / second / 86400 <
                    functions.dueSecond last secs / 86400
  | _ => True

/-- What SQLite's comparison decides: whether the due day has been reached. -/
theorem sqlite_elapsed_iff {functions : DateFunctions} {last now : Time}
    {secs : Int} (documented : functions.DocumentedDue last secs)
    (present : Documented (now / second)) :
    (Engine.sqlite functions).elapsed last secs now = true ↔
      functions.dueSecond last secs / 86400 ≤ now / second / 86400 := by
  rw [Engine.elapsed_sqlite documented, decide_eq_true_eq]
  constructor
  · intro notAfter
    by_contra early
    have before := text_lt_datetimeText documented.2 (not_le.mp early)
    exact absurd before (not_lt.mpr notAfter)
  · intro reached
    exact le_of_lt (datetimeText_lt_text present reached)

/-- A claim under the condition comes after the interval. -/
theorem elapsed_of_claimedOnTime {engine : Engine} {rules : Rules}
    {id applicationID : UUID} {rule : AlertingRule} {last now : Time}
    {secs : Int}
    (onTime : ClaimedOnTime engine rules (.fireAlert id applicationID now))
    (present : rules.lookup id = some rule)
    (fired : rule.lastFiredAt = some last)
    (interval : rule.minIntervalSecs = some secs) (positive : 0 < secs)
    (elapsed : engine.elapsed last secs now = true) :
    last + secs * second ≤ now := by
  cases engine with
  | postgres =>
      rw [Engine.elapsed_postgres, decide_eq_true_eq] at elapsed
      exact le_sub_iff_add_le.mp elapsed
  | sqlite functions =>
      by_contra early
      rcases onTime rule last secs present fired interval positive
          (not_le.mp early) with ⟨documented, before⟩
      rw [Engine.elapsed_sqlite documented, decide_eq_true_eq] at elapsed
      exact absurd (text_lt_datetimeText documented.2 before)
        (not_lt.mpr elapsed)

/-- The rule keeps its claims in order, and the last one is the time it fired at. -/
structure AlertingRule.Sound (rule : AlertingRule) : Prop where
  spaced : rule.Spaced
  lastClaim : rule.lastFiredAt = rule.claimed.getLast?

/-- A claim after the interval keeps the rule sound. -/
theorem AlertingRule.Sound.touch {rule : AlertingRule} {now : Time}
    (sound : rule.Sound)
    (apart : ∀ last secs, rule.lastFiredAt = some last →
      rule.minIntervalSecs = some secs → 0 < secs →
        last + secs * second ≤ now) :
    (rule.touch now).Sound := by
  refine ⟨?_, ?_⟩
  · intro secs interval positive
    have claims := sound.spaced secs interval positive
    refine List.pairwise_append.mpr ⟨claims, List.pairwise_singleton _ _, ?_⟩
    intro earlier member later last
    rw [List.mem_singleton.mp last]
    -- Every earlier claim is at or before the last one, which is an interval ago.
    rcases List.eq_nil_or_concat' rule.claimed with none | ⟨before, final, split⟩
    · rw [none] at member
      cases member
    · have fired : rule.lastFiredAt = some final := by
        rw [sound.lastClaim, split, List.getLast?_concat]
      have sinceFinal := apart final secs fired interval positive
      rw [split, List.mem_append, List.mem_singleton] at member
      rcases member with inBefore | rfl
      · rw [split, List.pairwise_append] at claims
        have toFinal := claims.2.2 earlier inBefore final
          (List.mem_singleton_self _)
        have forward : 0 ≤ secs * second := by
          unfold second
          omega
        exact le_trans toFinal
          (le_trans (le_add_of_nonneg_right forward) sinceFinal)
      · exact sinceFinal
  · exact List.getLast?_concat.symm

/-- Every rule of the store is sound. -/
def AllSound (rules : Rules) : Prop :=
  ∀ id rule, rules.lookup id = some rule → rule.Sound

theorem AllSound.insert {rules : Rules} (sound : AllSound rules) {id : UUID}
    {rule : AlertingRule} (ruleSound : rule.Sound) :
    AllSound (rules.insert id rule) := by
  intro other found present
  rcases lookup_insert_cases rfl present with ⟨-, rfl⟩ | ⟨-, before⟩
  · exact ruleSound
  · exact sound other found before

/-- A successful claim touches a row which is due. -/
theorem touchAlertRuleLastFiredAtomic_eq_some {engine : Engine}
    {rules after : Rules} {id applicationID : UUID} {now : Time}
    {touched : AlertingRule}
    (claimed : touchAlertRuleLastFiredAtomic engine rules id applicationID now =
      some (touched, after)) :
    ∃ rule, rules.lookup id = some rule ∧ rule.due engine now = true ∧
      after = rules.insert id (rule.touch now) := by
  rw [touchAlertRuleLastFiredAtomic] at claimed
  cases present : rules.lookup id with
  | none =>
      rw [present] at claimed
      cases claimed
  | some rule =>
      rw [present] at claimed
      dsimp only at claimed
      split_ifs at claimed with condition
      cases claimed
      exact ⟨rule, rfl, condition.2, rfl⟩

/-- One statement under the condition keeps every rule sound. -/
theorem alertStep_sound {engine : Engine} {rules after : Rules}
    {label : AlertStep} (onTime : ClaimedOnTime engine rules label)
    (taken : alertStep engine rules label = some after)
    (sound : AllSound rules) :
    AllSound after := by
  cases label with
  | createAlertingRule id applicationID minIntervalSecs =>
      rw [alertStep] at taken
      split at taken
      · cases taken
        refine sound.insert ⟨?_, rfl⟩
        intro secs _ _
        exact List.Pairwise.nil
      · cases taken
  | deleteAlertingRule id applicationID =>
      rw [alertStep] at taken
      split at taken
      · cases taken
        exact sound
      · split_ifs at taken
        · cases taken
          intro other found present
          rw [lookup_erase_eq] at present
          split_ifs at present
          exact sound other found present
        · cases taken
          exact sound
  | fireAlert id applicationID now =>
      rw [alertStep, claimRule] at taken
      cases attempt : touchAlertRuleLastFiredAtomic engine rules id
          applicationID now with
      | none =>
          rw [attempt] at taken
          cases taken
          exact sound
      | some claimed =>
          rw [attempt] at taken
          cases taken
          rcases touchAlertRuleLastFiredAtomic_eq_some attempt with
            ⟨rule, present, due, inserted⟩
          rw [inserted]
          refine sound.insert ((sound id rule present).touch ?_)
          intro last secs fired interval positive
          rw [AlertingRule.due, fired, interval] at due
          dsimp only at due
          rw [decide_eq_false (not_le.mpr positive), Bool.false_or] at due
          exact elapsed_of_claimedOnTime onTime present fired interval positive
            due

/--
Whatever instances evaluate the rules of a store, in whatever order: two claims
of one rule are its minimum interval apart, on PostgreSQL always, and on SQLite
as long as no rule is tried before its interval has passed and on the day it
becomes due.
-/
theorem allSpaced_of_claimedOnTime (engine : Engine)
    (steps : List AlertStep) (rules : Rules)
    (guarded : GuardedRun (alertStep engine) (ClaimedOnTime engine) ∅ steps
      rules) :
    AllSpaced rules := by
  have sound : AllSound rules :=
    guarded.invariant AllSound alertStep_sound fun _ _ absent => by cases absent
  intro id rule present
  exact (sound id rule present).spaced

/-- PostgreSQL needs no condition. -/
theorem claimedOnTime_postgres (rules : Rules) (label : AlertStep) :
    ClaimedOnTime .postgres rules label := by
  cases label <;> trivial

/--
The condition is exact: within the documented years SQLite grants a claim which
is tried too early once the due day has been reached.
-/
theorem not_spaced_of_dueDayReached {functions : DateFunctions} {rules : Rules}
    {id : UUID} {rule : AlertingRule} {last now : Time} {secs : Int}
    (present : rules.lookup id = some rule) (sound : rule.Sound)
    (fired : rule.lastFiredAt = some last)
    (interval : rule.minIntervalSecs = some secs) (positive : 0 < secs)
    (early : now < last + secs * second)
    (documented : functions.DocumentedDue last secs)
    (presentYear : Documented (now / second))
    (reached : functions.dueSecond last secs / 86400 ≤ now / second / 86400) :
    ¬ AllSpaced
      (claimRule (.sqlite functions) rules id rule.applicationID now).2 := by
  have due : rule.due (.sqlite functions) now = true := by
    rw [AlertingRule.due, fired, interval]
    dsimp only
    rw [(sqlite_elapsed_iff documented presentYear).mpr reached, Bool.or_true]
  have claimed : (claimRule (.sqlite functions) rules id rule.applicationID
      now).2 = rules.insert id (rule.touch now) := by
    rw [claimRule, touchAlertRuleLastFiredAtomic, present]
    dsimp only
    rw [if_pos ⟨rfl, due⟩]
  intro spaced
  rw [claimed] at spaced
  have pairs := spaced id (rule.touch now) (AList.lookup_insert rules) secs
    interval positive
  have lastClaim : last ∈ rule.claimed := by
    rw [sound.lastClaim] at fired
    exact List.mem_of_getLast? fired
  have apart := (List.pairwise_append.mp pairs).2.2 last lastClaim now
    (List.mem_singleton_self now)
  exact absurd early (not_lt.mpr apart)

/-- SQLite which keeps the nearest millisecond and has no date beyond its years. -/
def nearestMillisecond : DateFunctions where
  milliseconds time := (time + 500000) / 1000000
  undocumented _ _ := none

/-- A rule of a minute is claimed at midnight and a second later. -/
def claimedTwice : List AlertStep :=
  [.createAlertingRule ⟨7⟩ ⟨1⟩ (some 60), .fireAlert ⟨7⟩ ⟨1⟩ 0,
    .fireAlert ⟨7⟩ ⟨1⟩ second]

theorem claimedTwice_not_spaced :
    ¬ ∀ engine steps rules,
      run (alertStep engine) ∅ steps = some rules → AllSpaced rules := by
  intro always
  have claims :
      ((run (alertStep (.sqlite nearestMillisecond)) ∅ claimedTwice).bind
        fun rules => (rules.lookup ⟨7⟩).map
          fun rule => (rule.minIntervalSecs, rule.claimed)) =
        some (some 60, [0, second]) := by
    decide
  obtain ⟨rules, ran, found⟩ := Option.bind_eq_some_iff.mp claims
  obtain ⟨rule, present, contents⟩ := Option.map_eq_some_iff.mp found
  obtain ⟨interval, claimed⟩ := Prod.mk.inj contents
  have spaced := always (.sqlite nearestMillisecond) claimedTwice rules ran ⟨7⟩
    rule present 60 interval (by decide)
  rw [claimed] at spaced
  revert spaced
  decide

/-- A rule of two days is tried again at once, and then when it is due. -/
def claimedWhenDue : List AlertStep :=
  [.createAlertingRule ⟨7⟩ ⟨1⟩ (some 172800), .fireAlert ⟨7⟩ ⟨1⟩ 0,
    .fireAlert ⟨7⟩ ⟨1⟩ second, .fireAlert ⟨7⟩ ⟨1⟩ (172800 * second)]

theorem claimedWhenDue_spaced :
    ∃ rules,
      GuardedRun (alertStep (.sqlite nearestMillisecond))
          (ClaimedOnTime (.sqlite nearestMillisecond)) ∅ claimedWhenDue rules ∧
        (rules.lookup ⟨7⟩).map (·.claimed) = some [0, 172800 * second] ∧
        AllSpaced rules := by
  have guarded : ∃ rules,
      GuardedRun (alertStep (.sqlite nearestMillisecond))
          (ClaimedOnTime (.sqlite nearestMillisecond)) ∅ claimedWhenDue rules ∧
        (rules.lookup ⟨7⟩).map (·.claimed) = some [0, 172800 * second] := by
    refine ⟨_, .cons trivial rfl (.cons ?_ rfl (.cons ?_ rfl
      (.cons ?_ rfl (.nil _)))), by decide⟩
    · intro rule last secs present fired
      obtain rfl := Option.some.inj present
      cases fired
    · intro rule last secs present fired interval _ _
      obtain rfl := Option.some.inj present
      obtain rfl := Option.some.inj fired
      obtain rfl := Option.some.inj interval
      decide
    · intro rule last secs present fired interval _ early
      obtain rfl := Option.some.inj present
      obtain rfl := Option.some.inj fired
      obtain rfl := Option.some.inj interval
      exact absurd early (by decide)
  obtain ⟨rules, guarded, claims⟩ := guarded
  exact ⟨rules, guarded, claims,
    allSpaced_of_claimedOnTime (.sqlite nearestMillisecond) claimedWhenDue rules
      guarded⟩

end DbosRelay.Alerting
