import DbosRelay.Alerting.Evaluation

/-!
# Thresholds and periods of alert rules

A rule should fire only for as many failures or recoveries as its threshold says,
one at least, and look back as many seconds as its period says.  The numbers of the
metadata are truncated to machine integers and scaled to nanoseconds, so this holds
for the numbers which are whole and not too large, and only for those.
-/

namespace DbosRelay.Alerting

open DbosRelay.Api (Any AnyMap)
open DbosRelay.Basic
open DbosRelay.Router

/-! ## What the metadata says -/

/-- The integer a decimal string spells, of any size. -/
def decimalValue (text : Bytes) : Option Int :=
  match text with
  | 43 :: digits => parseDigits digits
  | 45 :: digits => (parseDigits digits).map fun value => -value
  | digits => parseDigits digits

theorem parseInt_eq (text : Bytes) :
    parseInt text = (decimalValue text).filter fun value =>
      minInt64 ≤ value ∧ value ≤ maxInt64 :=
  rfl

/-- The number a value of the metadata gives. -/
def givenNumber : Option Any → Option ℚ
  | some (.float64 value) => some value
  | some (.string text) => (decimalValue text).map Int.cast
  | _ => none

/-- The positive number which is given, or else the default. -/
def requested (metadata : AnyMap) (key : String) (default : ℚ) : ℚ :=
  ((givenNumber (metadata key)).filter (0 < ·)).getD default

/-- A number is whole and at most `most`, if it is given and positive. -/
def Fits (most : Int) : Option Any → Prop
  | some (.float64 value) => 0 < value → ∃ whole : Int, value = whole ∧ whole ≤ most
  | some (.string text) => ∀ value, decimalValue text = some value → value ≤ most
  | _ => True

/-! ## Conversions -/

theorem truncate_of_pos {value : ℚ} (positive : 0 < value) :
    truncate value = ⌊value⌋ :=
  if_pos positive.le

/-- A number which fits is converted to its integer part. -/
theorem FloatConversion.toInt_of_pos (conversion : FloatConversion) {value : ℚ}
    (positive : 0 < value) (fits : value ≤ maxInt64) :
    conversion.toInt value = ⌊value⌋ := by
  rw [← truncate_of_pos positive]
  apply conversion.exact
  · rw [truncate_of_pos positive]
    exact le_trans (by decide) (Int.floor_nonneg.mpr positive.le)
  · rw [truncate_of_pos positive]
    have below : (⌊value⌋ : ℚ) ≤ maxInt64 := (Int.floor_le value).trans fits
    exact_mod_cast below

theorem FloatConversion.toInt_cast (conversion : FloatConversion) {whole : Int}
    (positive : 0 < whole) (fits : whole ≤ maxInt64) :
    conversion.toInt whole = whole := by
  rw [conversion.toInt_of_pos (by exact_mod_cast positive)
    (by exact_mod_cast fits), Int.floor_intCast]

/-- The conversion reaches the number only if the number is whole and fits. -/
theorem FloatConversion.le_toInt_iff (conversion : FloatConversion) {value : ℚ}
    (positive : 0 < value) :
    value ≤ conversion.toInt value ↔
      ∃ whole : Int, value = whole ∧ whole ≤ maxInt64 := by
  constructor
  · intro reached
    have fits : value ≤ maxInt64 :=
      reached.trans (by exact_mod_cast conversion.upper value)
    rw [conversion.toInt_of_pos positive fits] at reached
    have whole : value = ⌊value⌋ := le_antisymm reached (Int.floor_le value)
    exact ⟨⌊value⌋, whole, by rw [whole] at fits; exact_mod_cast fits⟩
  · rintro ⟨whole, rfl, fits⟩
    rw [conversion.toInt_cast (by exact_mod_cast positive) fits]

/-- A decimal string which is read and positive. -/
theorem parseInt_filter_pos {text : Bytes} {value : Int}
    (spelled : decimalValue text = some value) :
    (parseInt text).filter (0 < ·) =
      if 0 < value ∧ value ≤ maxInt64 then some value else none := by
  rw [parseInt_eq, spelled]
  by_cases positive : 0 < value
  · have lower : minInt64 ≤ value := le_trans (by decide) positive.le
    by_cases fits : value ≤ maxInt64
    · simp [Option.filter, positive, lower, fits]
    · simp [Option.filter, fits]
  · rw [if_neg fun both => positive both.1]
    by_cases inRange : minInt64 ≤ value ∧ value ≤ maxInt64
    · simp [Option.filter, inRange, positive]
    · simp [Option.filter, inRange]

theorem parseInt_filter_pos_none {text : Bytes}
    (unspelled : decimalValue text = none) :
    (parseInt text).filter (0 < ·) = none := by
  rw [parseInt_eq, unspelled]
  rfl

/-! ## Thresholds -/

theorem getD_filter_pos (number default : ℚ) :
    ((some number).filter (0 < ·)).getD default =
      if 0 < number then number else default := by
  by_cases positive : 0 < number
  · simp [Option.filter, positive]
  · simp [Option.filter, positive]

/-- The threshold of a failure rule reaches the requested one if it fits. -/
theorem requested_le_positiveNumber_iff (conversion : FloatConversion)
    (metadata : AnyMap) (key : String) :
    max 1 (requested metadata key 1) ≤ positiveNumber conversion metadata key 1 ↔
      Fits maxInt64 (metadata key) := by
  unfold requested positiveNumber positiveFloat
  cases present : metadata key with
  | none => simp [givenNumber, Fits]
  | some value =>
      cases value with
      | float64 value =>
          by_cases positive : 0 < value
          · simp only [givenNumber, getD_filter_pos, Fits, positive, if_true,
              forall_const, max_le_iff]
            rw [conversion.le_toInt_iff positive, and_iff_right_iff_imp]
            rintro ⟨whole, rfl, fits⟩
            have wholePositive : 0 < whole := by exact_mod_cast positive
            rw [conversion.toInt_cast wholePositive fits]
            exact_mod_cast wholePositive
          · simp [givenNumber, Option.filter, positive, Fits]
      | string text =>
          cases spelled : decimalValue text with
          | none =>
              simp [givenNumber, Fits, parseInt_filter_pos_none spelled, spelled]
          | some value =>
              dsimp only [givenNumber, Fits]
              rw [parseInt_filter_pos spelled, spelled, Option.map_some,
                getD_filter_pos]
              by_cases positive : 0 < value
              · rw [if_pos (by exact_mod_cast positive)]
                have atLeastOne : (1 : ℚ) ≤ value := by exact_mod_cast positive
                by_cases fits : value ≤ maxInt64
                · simp [positive, fits, atLeastOne]
                · simp only [fits, and_false, if_false, Option.getD_none,
                    Option.some.injEq, forall_eq', iff_false, not_le]
                  have large : 1 < value := lt_of_lt_of_le (by decide)
                    (not_le.mp fits).le
                  exact lt_max_of_lt_right (by exact_mod_cast large)
              · have fits : value ≤ maxInt64 := (not_lt.mp positive).trans (by decide)
                simp [positive, fits]
      | _ => simp [givenNumber, Fits]

/-! ## Periods -/

/-- The greatest whole number of seconds of a `time.Duration`. -/
def maxSeconds : Int := 9223372036

/-- Subtracting whole seconds is exact as long as they fit a duration. -/
theorem secondsBefore_eq_iff {now secs : Int} (nonneg : 0 ≤ secs)
    (fits : secs ≤ maxInt64) :
    secondsBefore now secs = now - secs * second ↔ secs ≤ maxSeconds := by
  have negated : int64 (-secs) = -secs := by
    apply int64_eq_self
    · unfold minInt64
      unfold maxInt64 at fits
      omega
    · exact le_trans (by omega) (by decide : (0 : Int) ≤ maxInt64)
  have exact : secondsBefore now secs = now - secs * second ↔
      int64 (-secs * second) = -secs * second := by
    unfold secondsBefore
    rw [negated]
    constructor
    · intro same
      linarith
    · intro same
      rw [same]
      ring
  rw [exact, int64_eq_self_iff]
  unfold minInt64 maxInt64 maxSeconds
  unfold second
  omega

/-- No time is further back than a duration reaches. -/
theorem lt_of_secondsBefore_eq {now secs : Int} {given : ℚ}
    (same : (secondsBefore now secs : ℚ) = now - given * second) :
    given < maxSeconds + 1 := by
  obtain ⟨turns, -, lower, -⟩ := exists_int64_eq (int64 (-secs) * second)
  have within : now - 2 ^ 63 ≤ secondsBefore now secs := by
    unfold secondsBefore
    linarith
  have withinCast : (now : ℚ) - 2 ^ 63 ≤ secondsBefore now secs := by
    exact_mod_cast within
  rw [same] at withinCast
  unfold second at withinCast
  unfold maxSeconds
  push_cast at withinCast ⊢
  linarith

theorem secondsBefore_cast {now secs : Int} (nonneg : 0 ≤ secs)
    (fits : secs ≤ maxSeconds) :
    (secondsBefore now secs : ℚ) = now - (secs : ℚ) * second := by
  rw [(secondsBefore_eq_iff nonneg (fits.trans (by decide))).mpr fits]
  push_cast
  rfl

/-- For a number the request is exact if the number is whole and fits. -/
theorem secondsBefore_toInt_iff (conversion : FloatConversion) {value : ℚ}
    (positive : 0 < value) (now : Time) :
    (secondsBefore now (conversion.toInt value) : ℚ) = now - value * second ↔
      ∃ whole : Int, value = whole ∧ whole ≤ maxSeconds := by
  constructor
  · intro same
    have small := lt_of_secondsBefore_eq same
    have fits : value ≤ maxInt64 := by
      unfold maxSeconds at small
      unfold maxInt64
      push_cast at small ⊢
      linarith
    have floorSmall : ⌊value⌋ ≤ maxSeconds := by
      rw [← Int.lt_add_one_iff, Int.floor_lt]
      exact_mod_cast small
    rw [conversion.toInt_of_pos positive fits,
      secondsBefore_cast (Int.floor_nonneg.mpr positive.le) floorSmall] at same
    refine ⟨⌊value⌋, ?_, floorSmall⟩
    have nanoseconds : (0 : ℚ) < second := by
      unfold second
      norm_num
    have sameSeconds : (⌊value⌋ : ℚ) * second = value * second := by linarith
    exact (mul_right_cancel₀ nanoseconds.ne' sameSeconds).symm
  · rintro ⟨whole, rfl, fits⟩
    have wholePositive : 0 < whole := by exact_mod_cast positive
    rw [conversion.toInt_cast wholePositive (fits.trans (by decide))]
    exact secondsBefore_cast wholePositive.le fits

/-- A request looks back as far as it is told if the period fits. -/
theorem secondsBefore_positiveNumber_iff (conversion : FloatConversion)
    (metadata : AnyMap) (key : String) (now : Time) :
    (∀ given, givenNumber (metadata key) = some given → 0 < given →
        (secondsBefore now (positiveNumber conversion metadata key 60) : ℚ) =
          now - given * second) ↔
      Fits maxSeconds (metadata key) := by
  unfold positiveNumber positiveFloat
  cases present : metadata key with
  | none => simp [givenNumber, Fits]
  | some value =>
      cases value with
      | float64 value =>
          simp only [givenNumber, Option.some.injEq, forall_eq', Fits]
          apply forall_congr'
          intro positive
          rw [if_pos positive]
          exact secondsBefore_toInt_iff conversion positive now
      | string text =>
          cases spelled : decimalValue text with
          | none => simp [givenNumber, Fits, spelled]
          | some value =>
              simp only [givenNumber, spelled, Option.map_some,
                Option.some.injEq, forall_eq', Fits]
              rw [parseInt_filter_pos spelled]
              constructor
              · intro exact
                by_contra large
                have positive : 0 < value :=
                  lt_trans (by decide) (not_le.mp large)
                have small := lt_of_secondsBefore_eq
                  (exact (by exact_mod_cast positive))
                have smallInt : value < maxSeconds + 1 := by exact_mod_cast small
                exact large (Int.lt_add_one_iff.mp smallInt)
              · intro fits positive
                have valuePositive : 0 < value := by exact_mod_cast positive
                rw [if_pos ⟨valuePositive, fits.trans (by decide)⟩,
                  Option.getD_some]
                exact secondsBefore_cast valuePositive.le fits
      | _ => simp [givenNumber, Fits]

/-! ## Failures -/

/-- A failure rule fires when an executor answers with as many failures. -/
theorem evaluateWorkflowFailure_isSome_iff {conversion : FloatConversion}
    {env : Environment} {metadata : AnyMap} :
    (evaluateWorkflowFailure conversion env metadata).isSome ↔
      ∃ dispatch response, env.dispatcher = some dispatch ∧
        dispatch (workflowFailureQuery conversion env.now metadata) =
          .ok response ∧
        positiveNumber conversion metadata "threshold" 1 ≤
          (failedWorkflows metadata (rowsOf response)).length := by
  unfold evaluateWorkflowFailure
  cases dispatcher : env.dispatcher with
  | none => simp
  | some dispatch =>
      cases answer :
          dispatch (workflowFailureQuery conversion env.now metadata) with
      | error error => simp [answer]
      | ok response =>
          dsimp only
          rw [answer]
          dsimp only
          split_ifs with reached
          · simp [reached, answer]
          · simp [reached, answer]

/-- What a failure rule promises. -/
structure WorkflowFailureKept (conversion : FloatConversion)
    (metadata : AnyMap) : Prop where
  /-- It fires for as many failures as requested, and for one at least. -/
  threshold : ∀ (env : Environment) (alert : AlertMeta),
    evaluateRule conversion env .workflowFailure metadata = .ok (some alert) →
    ∃ dispatch response, env.dispatcher = some dispatch ∧
      dispatch (workflowFailureQuery conversion env.now metadata) =
        .ok response ∧
      max 1 (requested metadata "threshold" 1) ≤
        (failedWorkflows metadata (rowsOf response)).length
  /-- It asks for the workflows since as many seconds ago as given. -/
  period : ∀ (now : Time) (given : ℚ),
    givenNumber (metadata "period_secs") = some given → 0 < given →
    ∃ start : Time,
      (workflowFailureQuery conversion now metadata).startTime = some start ∧
        (start : ℚ) = now - given * second

/-- Workflows without a name, which every name filter counts. -/
def unnamedRows (count : Nat) : List WorkflowRow :=
  List.replicate count ⟨none, none, none⟩

theorem length_failedWorkflows_unnamedRows (metadata : AnyMap) (count : Nat) :
    (failedWorkflows metadata (unnamedRows count)).length = count := by
  have kept : failedWorkflows metadata (unnamedRows count) =
      unnamedRows count := by
    apply List.filter_eq_self.mpr
    intro row member
    rw [List.eq_of_mem_replicate member]
    simp [skips]
  rw [kept, unnamedRows, List.length_replicate]

/-- An environment whose executor answers with the given rows. -/
def answering (rows : List WorkflowRow) : Environment where
  now := 0
  appName := []
  executors := .ok []
  dispatcher := some fun _ => .ok (some rows)
  recoveryStore := none
  parseTime _ := none

/-- A failure rule keeps its promise when its numbers fit, and only then. -/
theorem workflowFailureKept_iff (conversion : FloatConversion)
    (metadata : AnyMap) :
    WorkflowFailureKept conversion metadata ↔
      Fits maxInt64 (metadata "threshold") ∧
        Fits maxSeconds (metadata "period_secs") := by
  rw [← requested_le_positiveNumber_iff conversion,
    ← secondsBefore_positiveNumber_iff conversion metadata "period_secs" 0]
  constructor
  · intro kept
    constructor
    · -- As many failures as the truncated threshold make the rule fire.
      generalize isThreshold :
        positiveNumber conversion metadata "threshold" 1 = threshold
      let rows := unnamedRows threshold.toNat
      have fires : (evaluateWorkflowFailure conversion (answering rows)
          metadata).isSome := by
        apply evaluateWorkflowFailure_isSome_iff.mpr
        refine ⟨_, some rows, rfl, rfl, ?_⟩
        show _ ≤ ((failedWorkflows metadata rows).length : Int)
        rw [length_failedWorkflows_unnamedRows, isThreshold]
        exact Int.self_le_toNat threshold
      obtain ⟨alert, fired⟩ := Option.isSome_iff_exists.mp fires
      obtain ⟨dispatch, response, isDispatch, answered, enough⟩ :=
        kept.threshold (answering rows) alert (congrArg Except.ok fired)
      cases isDispatch
      cases answered
      change max 1 _ ≤ ((failedWorkflows metadata rows).length : ℚ) at enough
      rw [length_failedWorkflows_unnamedRows] at enough
      have positive : 1 ≤ threshold.toNat := by
        have atLeastOne : (1 : ℚ) ≤ threshold.toNat :=
          (le_max_left _ _).trans enough
        exact_mod_cast atLeastOne
      have same : ((threshold.toNat : Int) : ℚ) = threshold :=
        congrArg Int.cast (Int.toNat_of_nonneg (by omega))
      rw [← same]
      exact_mod_cast enough
    · intro given isGiven positive
      obtain ⟨start, isStart, exact⟩ := kept.period 0 given isGiven positive
      cases isStart
      exact exact
  · rintro ⟨reached, exact⟩
    constructor
    · intro env alert fired
      have fires : (evaluateWorkflowFailure conversion env metadata).isSome := by
        rw [Except.ok.inj fired]
        rfl
      obtain ⟨dispatch, response, isDispatch, answered, enough⟩ :=
        evaluateWorkflowFailure_isSome_iff.mp fires
      refine ⟨dispatch, response, isDispatch, answered, reached.trans ?_⟩
      exact_mod_cast enough
    · intro now given isGiven positive
      refine ⟨_, rfl, ?_⟩
      have fits := (secondsBefore_positiveNumber_iff conversion metadata
        "period_secs" 0).mp exact
      exact (secondsBefore_positiveNumber_iff conversion metadata
        "period_secs" now).mpr fits given isGiven positive

/-! ## Recoveries -/

/-- The loop stops at an executor with that many dispatches. -/
theorem flapping_eq_some {threshold : Int} {counts : Bytes → Nat}
    {dispatches : List Bytes} {dead : Bytes} {count : Nat}
    (found : flapping threshold counts dispatches = some (dead, count)) :
    1 ≤ count ∧ threshold ≤ count ∧
      count ≤ counts dead + dispatches.count dead := by
  induction dispatches generalizing counts with
  | nil => cases found
  | cons first dispatches induction =>
      rw [flapping] at found
      split_ifs at found with reached
      · cases found
        rw [List.count_cons_self]
        refine ⟨by omega, reached, by omega⟩
      · obtain ⟨positive, atLeast, bounded⟩ := induction found
        refine ⟨positive, atLeast, bounded.trans ?_⟩
        by_cases same : dead = first
        · subst same
          rw [Function.update_self, List.count_cons_self]
          omega
        · rw [Function.update_of_ne same,
            List.count_cons_of_ne (Ne.symm same)]

/-- The loop finds an executor with that many dispatches, if there is one. -/
theorem lt_of_flapping_eq_none {threshold : Int} {counts : Bytes → Nat}
    {dispatches : List Bytes}
    (missed : flapping threshold counts dispatches = none) {dead : Bytes}
    (member : dead ∈ dispatches) :
    (counts dead + dispatches.count dead : Int) < threshold := by
  induction dispatches generalizing counts with
  | nil => cases member
  | cons first dispatches induction =>
      rw [flapping] at missed
      split_ifs at missed with reached
      by_cases later : dead ∈ dispatches
      · have bound := induction missed later
        by_cases same : dead = first
        · subst same
          rw [Function.update_self] at bound
          rw [List.count_cons_self]
          push_cast at bound ⊢
          omega
        · rw [Function.update_of_ne same] at bound
          rw [List.count_cons_of_ne (Ne.symm same)]
          exact bound
      · have same : dead = first := by simpa [later] using member
        subst same
        rw [List.count_cons_self, List.count_eq_zero_of_not_mem later]
        push_cast at reached ⊢
        omega

/-- What a recovery rule promises. -/
def RecoveryFlappingKept (conversion : FloatConversion)
    (metadata : AnyMap) : Prop :=
  ∀ (env : Environment) (alert : AlertMeta),
    evaluateRule conversion env .recoveryFlapping metadata = .ok (some alert) →
    ∃ listRecent dispatches dead, env.recoveryStore = some listRecent ∧
      listRecent (recoveryQuery env.now) = .ok dispatches ∧
      ("flapping_executor_id", dead) ∈ alert ∧
      max 1 (requested metadata "threshold" 3) ≤ dispatches.count dead

/-- The thresholds which a recovery rule reaches; it does not read strings. -/
def RecoveryFits : Option Any → Prop
  | some (.float64 value) =>
      1 < value → ∃ whole : Int, value = whole ∧ whole ≤ maxInt64
  | some (.string text) => ∀ value, decimalValue text = some value → value ≤ 3
  | _ => True

/-- The threshold of a recovery rule reaches the requested one if it fits. -/
theorem requested_le_positiveFloat_iff (conversion : FloatConversion)
    (metadata : AnyMap) (key : String) :
    max 1 (requested metadata key 3) ≤
        max 1 (positiveFloat conversion metadata key 3 : ℚ) ↔
      RecoveryFits (metadata key) := by
  unfold requested positiveFloat
  cases present : metadata key with
  | none => simp [givenNumber, RecoveryFits]
  | some value =>
      cases value with
      | float64 value =>
          by_cases positive : 0 < value
          · simp only [givenNumber, getD_filter_pos, positive, if_true,
              RecoveryFits]
            rw [← conversion.le_toInt_iff positive, max_le_iff,
              and_iff_right (le_max_left _ _), le_max_iff]
            constructor
            · rintro (small | reached) large
              · exact absurd small (not_le.mpr large)
              · exact reached
            · intro reached
              rcases le_or_gt value 1 with small | large
              · exact .inl small
              · exact .inr (reached large)
          · have small : ¬1 < value := fun large => positive (by linarith)
            simp [givenNumber, Option.filter, positive, RecoveryFits, small]
      | string text =>
          cases spelled : decimalValue text with
          | none => simp [givenNumber, RecoveryFits, spelled]
          | some value =>
              dsimp only [givenNumber, RecoveryFits]
              rw [spelled, Option.map_some, getD_filter_pos]
              by_cases positive : 0 < value
              · have three : max (1 : ℚ) 3 = 3 := by norm_num
                rw [if_pos (by exact_mod_cast positive), Int.cast_ofNat, three,
                  max_le_iff, and_iff_right (by norm_num)]
                simp only [Option.some.injEq, forall_eq']
                exact_mod_cast Iff.rfl
              · have fits : value ≤ 3 := (not_lt.mp positive).trans (by decide)
                simp [positive, fits]
      | _ => simp [givenNumber, RecoveryFits]

/-- An environment whose store returns the given dispatches. -/
def recovering (dispatches : List Bytes) : Environment where
  now := 0
  appName := []
  executors := .ok []
  dispatcher := none
  recoveryStore := some fun _ => .ok dispatches
  parseTime _ := none

/-- A recovery rule keeps its promise when its threshold fits, and only then. -/
theorem recoveryFlappingKept_iff (conversion : FloatConversion)
    (metadata : AnyMap) :
    RecoveryFlappingKept conversion metadata ↔
      RecoveryFits (metadata "threshold") := by
  rw [← requested_le_positiveFloat_iff conversion]
  constructor
  · intro kept
    generalize isThreshold :
      positiveFloat conversion metadata "threshold" 3 = threshold
    -- One executor with the fewest dispatches which make the rule fire.
    let dispatches : List Bytes := List.replicate (max 1 threshold.toNat) []
    have member : [] ∈ dispatches :=
      List.mem_replicate.mpr ⟨by omega, rfl⟩
    cases found : flapping threshold (fun _ => 0) dispatches with
    | none =>
        have few := lt_of_flapping_eq_none found member
        rw [List.count_replicate_self] at few
        omega
    | some pair =>
        have fired : evaluateRule conversion (recovering dispatches)
            .recoveryFlapping metadata = .ok (some
              [("flapping_executor_id", pair.1),
                ("recovery_count", formatInt pair.2),
                ("threshold", formatInt threshold)]) := by
          show Except.ok (Option.map _ (flapping
            (positiveFloat conversion metadata "threshold" 3) _ _)) = _
          rw [isThreshold, found]
          rfl
        obtain ⟨listRecent, answered, dead, isStore, isAnswer, -, enough⟩ :=
          kept (recovering dispatches) _ fired
        cases isStore
        cases isAnswer
        have most : dispatches.count dead ≤ max 1 threshold.toNat :=
          List.count_le_length.trans_eq List.length_replicate
        apply enough.trans
        have sameMax : ((max 1 threshold.toNat : Nat) : ℚ) =
            max 1 (threshold : ℚ) := by
          have integers : ((max 1 threshold.toNat : Nat) : Int) =
              max 1 threshold := by omega
          exact_mod_cast congrArg (Int.cast (R := ℚ)) integers
        rw [← sameMax]
        exact_mod_cast most
  · intro reached env alert fired
    have evaluated : evaluateRecoveryFlapping conversion env metadata =
        some alert := Except.ok.inj fired
    unfold evaluateRecoveryFlapping at evaluated
    cases isStore : env.recoveryStore with
    | none => simp [isStore] at evaluated
    | some listRecent =>
        rw [isStore] at evaluated
        dsimp only at evaluated
        cases answer : listRecent (recoveryQuery env.now) with
        | error error => simp [answer] at evaluated
        | ok dispatches =>
            rw [answer] at evaluated
            obtain ⟨⟨dead, count⟩, found, rfl⟩ :=
              Option.map_eq_some_iff.mp evaluated
            obtain ⟨positive, atLeast, bounded⟩ := flapping_eq_some found
            refine ⟨listRecent, dispatches, dead, rfl, answer,
              List.mem_cons_self, reached.trans (max_le ?_ ?_)⟩
            · exact_mod_cast positive.trans (by simpa using bounded)
            · have enough := atLeast.trans
                (Int.ofNat_le.mpr (by simpa using bounded))
              exact_mod_cast enough

/--
The thresholds and periods of a rule are kept when they are whole and fit, and only
then.
-/
theorem evaluateRule_thresholds_iff (conversion : FloatConversion)
    (metadata : AnyMap) :
    (WorkflowFailureKept conversion metadata ↔
      Fits maxInt64 (metadata "threshold") ∧
        Fits maxSeconds (metadata "period_secs")) ∧
    (RecoveryFlappingKept conversion metadata ↔
      RecoveryFits (metadata "threshold")) :=
  ⟨workflowFailureKept_iff conversion metadata,
    recoveryFlappingKept_iff conversion metadata⟩

/-- The metadata `{"threshold": 0.5}`. -/
def halfThreshold : AnyMap :=
  fun key => if key = "threshold" then some (.float64 (1 / 2)) else none

/-- A failure rule fires without a failure. -/
theorem evaluateRule_halfThreshold :
    requested halfThreshold "threshold" 1 = 1 / 2 ∧
      evaluateRule amd64 (answering []) .workflowFailure halfThreshold =
        .ok (some [("workflow_name", ascii "*"),
          ("failed_workflow_count", ascii "0"), ("threshold", ascii "0"),
          ("period_secs", ascii "60")]) := by
  have truncated : positiveNumber amd64 halfThreshold "threshold" 1 = 0 := by
    decide +kernel
  have period : positiveNumber amd64 halfThreshold "period_secs" 60 = 60 := by
    decide +kernel
  constructor
  · decide +kernel
  · show Except.ok (evaluateWorkflowFailure amd64 (answering [])
      halfThreshold) = _
    unfold evaluateWorkflowFailure
    rw [truncated, period]
    decide +kernel

end DbosRelay.Alerting
