import DbosRelay.Router.Signing

/-!
# Timestamps and deadlines of forward requests

The handler checks the headers before it reads the body, and `VerifyRequest`
checks them again.  Both compute the drift of a timestamp with wrapping `int64`
operations, so a timestamp centuries away may count as fresh.  `VerifyRequest`
takes the sender's start to be the signed second with the nanoseconds of the
deadline: it sees no budget where both lie in one second, and the whole seconds
between them where the handler sees the nanoseconds too.
-/

namespace DbosRelay.Router

open DbosRelay.Basic
open DbosRelay.Library.Results

/-! ## Drift -/

/-- The exact difference between the clock and a timestamp is within a drift. -/
def WithinDrift (maxDrift : Int) (now : Time) (ts : Int) : Prop :=
  ((unixSeconds now - ts).natAbs : Int) * second ≤ maxDrift

/--
The difference is beyond the drift, but 64 bits do not show it: counted in
nanoseconds, modulo `2 ^ 64`, it comes out as negative or as at most the drift.
A difference of more than `2 ^ 63` seconds has then been counted from the other
side.
-/
def DriftWraps (maxDrift : Int) (now : Time) (ts : Int) : Prop :=
  let apart : Int := (unixSeconds now - ts).natAbs
  let counted : Int := min apart (2 ^ 64 - apart) * second
  maxDrift < apart * second ∧
    ∃ turns : Int, turns * 2 ^ 64 - 2 ^ 63 ≤ counted ∧
      counted ≤ turns * 2 ^ 64 + maxDrift

/-- What subtracting and taking the absolute value come to, up to whole turns. -/
theorem exists_abs_int64 {difference : Int}
    (bounded : (difference.natAbs : Int) < 2 ^ 64) :
    ∃ turns : Int, abs (int64 difference) =
      min (difference.natAbs : Int) (2 ^ 64 - difference.natAbs) +
        turns * 2 ^ 64 := by
  obtain ⟨turns, wrapped, lower, upper⟩ := exists_int64_eq difference
  unfold abs
  split_ifs with negative
  · obtain ⟨more, negated, -⟩ := exists_int64_eq (-int64 difference)
    rw [negated]
    rcases le_total (difference.natAbs : Int) (2 ^ 64 - difference.natAbs)
      with near | far
    · rw [min_eq_left near]
      exact ⟨-more, by omega⟩
    · rw [min_eq_right far]
      exact ⟨-more, by omega⟩
  · rcases le_total (difference.natAbs : Int) (2 ^ 64 - difference.natAbs)
      with near | far
    · rw [min_eq_left near]
      exact ⟨0, by omega⟩
    · rw [min_eq_right far]
      exact ⟨0, by omega⟩

/-- When the drift the machine computes is within bounds. -/
theorem drift_le_iff {maxDrift : Int} {now : Time} {ts : Int}
    (maxFits : maxDrift ≤ maxInt64)
    (bounded : ((unixSeconds now - ts).natAbs : Int) < 2 ^ 64) :
    drift now ts ≤ maxDrift ↔
      ∃ turns : Int, turns * 2 ^ 64 - 2 ^ 63 ≤
          min ((unixSeconds now - ts).natAbs : Int)
            (2 ^ 64 - (unixSeconds now - ts).natAbs) * second ∧
        min ((unixSeconds now - ts).natAbs : Int)
            (2 ^ 64 - (unixSeconds now - ts).natAbs) * second ≤
          turns * 2 ^ 64 + maxDrift := by
  obtain ⟨turns, computed⟩ := exists_abs_int64 bounded
  have wraps : drift now ts =
      int64 (min ((unixSeconds now - ts).natAbs : Int)
        (2 ^ 64 - (unixSeconds now - ts).natAbs) * second) := by
    rw [drift, computed, Int.add_mul, Int.mul_right_comm]
    exact Int.add_mul_bmod_self_right _ _ (2 ^ 64)
  rw [wraps, int64_le_iff maxFits]

/-- The machine accepts every timestamp within the drift. -/
theorem drift_le_of_withinDrift {maxDrift : Int} {now : Time} {ts : Int}
    (maxFits : maxDrift ≤ maxInt64)
    (bounded : ((unixSeconds now - ts).natAbs : Int) < 2 ^ 64)
    (within : WithinDrift maxDrift now ts) : drift now ts ≤ maxDrift := by
  rw [drift_le_iff maxFits bounded]
  unfold WithinDrift second at within
  unfold maxInt64 at maxFits
  unfold second
  have near : ((unixSeconds now - ts).natAbs : Int) ≤
      2 ^ 64 - (unixSeconds now - ts).natAbs := by omega
  rw [min_eq_left near]
  exact ⟨0, by omega, by omega⟩

/-- The machine's drift is exact where it does not wrap. -/
theorem drift_exact_iff {maxDrift : Int} {now : Time} {ts : Int}
    (maxFits : maxDrift ≤ maxInt64)
    (bounded : ((unixSeconds now - ts).natAbs : Int) < 2 ^ 64) :
    (drift now ts ≤ maxDrift ↔ WithinDrift maxDrift now ts) ↔
      ¬DriftWraps maxDrift now ts := by
  by_cases within : WithinDrift maxDrift now ts
  · have accepted := drift_le_of_withinDrift maxFits bounded within
    refine iff_of_true (iff_of_true accepted within) ?_
    rintro ⟨beyond, -⟩
    exact absurd within (not_le.mpr beyond)
  · have beyond := not_le.mp within
    rw [drift_le_iff maxFits bounded, DriftWraps, not_and,
      iff_false_right within]
    exact ⟨fun none _ => none, fun wraps => wraps beyond⟩

/-! ## What the checks answer -/

section Checks

variable {Message : Type} {primitives : Primitives Message}
variable {req : ForwardRequest} {body secret : Bytes} {maxDrift : Int}
variable {now : Time} {ts hop : Int}

/-- A rejection of the handler. -/
def rejected (error : VerifyError) : Except Response Unit :=
  .error (.error error.text 401)

/-- Rejections of different texts are different. -/
theorem error_ne_rejected {text : String} {status : Nat}
    {error : VerifyError} (different : text ≠ error.text) :
    (.error (.error text status) : Except Response Unit) ≠
      rejected error := by
  intro same
  exact different (Response.error.inj (Except.error.inj same)).1

/-- The part of the handler's checks which is about the deadline. -/
def checkDeadline (primitives : Primitives Message) (ts : Int)
    (deadline : Bytes) : Except Response Unit :=
  if deadline = [] then .ok ()
  else
    match primitives.parseRFC3339Nano deadline with
    | .error _ => .error (.error "invalid deadline header" 401)
    | .ok parsed =>
        if parsed ≠ zeroTime ∧ timeSub parsed (timeUnix ts 0) ≤ 0 then
          rejected .expiredDeadline
        else .ok ()

/-- The handler's checks once the timestamp and the hop are fine. -/
theorem checkHeaders_eq (signed : req.Signed)
    (timestamp : parseInt req.timestamp = some ts)
    (fresh : drift now ts ≤ maxDrift) (hops : parseInt req.hop = some hop)
    (direct : hop < 1) :
    checkHeaders primitives req maxDrift now =
      checkDeadline primitives ts req.deadline := by
  unfold checkHeaders
  rw [if_neg signed]
  simp only [timestamp, hops, if_neg (not_lt.mpr fresh),
    if_neg (not_le.mpr direct)]
  rfl

/-- A deadline which is not accepted has expired or cannot be parsed. -/
theorem headerDeadline_error {deadline : Bytes} {error : VerifyError}
    (failed : headerDeadline primitives now ts deadline = .error error) :
    error = .expiredDeadline ∨
      ∃ cause, error = .invalidDeadlineHeader cause := by
  unfold headerDeadline at failed
  split_ifs at failed
  cases parses : primitives.parseRFC3339Nano deadline with
  | error cause =>
      rw [parses] at failed
      exact .inr ⟨cause, (Except.error.inj failed).symm⟩
  | ok parsed =>
      rw [parses] at failed
      simp only [verifiedDeadline] at failed
      split_ifs at failed
      exact .inl (Except.error.inj failed).symm

/-- After the checks of its headers a request is verified or not signed so. -/
theorem verifyRequest_error {error : VerifyError} (configured : secret ≠ [])
    (signed : req.Signed) (timestamp : parseInt req.timestamp = some ts)
    (fresh : drift now ts ≤ maxDrift) (hops : parseInt req.hop = some hop)
    (direct : hop < 1) (other : error ≠ .invalidSignature) :
    verifyRequest primitives req body secret maxDrift now = .error error ↔
      headerDeadline primitives now ts req.deadline = .error error := by
  rw [verifyRequest_eq configured signed timestamp fresh hops direct]
  cases headerDeadline primitives now ts req.deadline with
  | error cause =>
      show Except.error cause = _ ↔ _
      rw [Except.error.injEq, Except.error.injEq]
  | ok deadline =>
      refine iff_of_false ?_ nofun
      show (if _ then _ else _) ≠ _
      split_ifs
      · exact nofun
      · exact fun same => other (Except.error.inj same).symm

theorem verifyRequest_eq_expiredTimestamp_iff (configured : secret ≠ [])
    (signed : req.Signed) (timestamp : parseInt req.timestamp = some ts) :
    verifyRequest primitives req body secret maxDrift now =
        .error .expiredTimestamp ↔
      maxDrift < drift now ts := by
  by_cases drifted : maxDrift < drift now ts
  · refine iff_of_true ?_ drifted
    rw [verifyRequest, if_neg configured, if_neg signed]
    simp only [timestamp, if_pos drifted]
  · refine iff_of_false ?_ drifted
    cases hops : parseInt req.hop with
    | none =>
        rw [verifyRequest, if_neg configured, if_neg signed]
        simp only [timestamp, if_neg drifted, hops]
        rintro ⟨⟩
    | some hop =>
        by_cases looping : 1 ≤ hop
        · rw [verifyRequest, if_neg configured, if_neg signed]
          simp only [timestamp, if_neg drifted, hops, if_pos looping]
          rintro ⟨⟩
        · intro failed
          have ends := (verifyRequest_error configured signed timestamp
            (not_lt.mp drifted) hops (not_le.mp looping) (by decide)).mp failed
          rcases headerDeadline_error ends with same | ⟨cause, same⟩
          · cases same
          · cases same

theorem checkHeaders_eq_expiredTimestamp_iff (signed : req.Signed)
    (timestamp : parseInt req.timestamp = some ts) :
    checkHeaders primitives req maxDrift now = rejected .expiredTimestamp ↔
      maxDrift < drift now ts := by
  by_cases drifted : maxDrift < drift now ts
  · refine iff_of_true ?_ drifted
    rw [checkHeaders, if_neg signed]
    simp only [timestamp, if_pos drifted]
    rfl
  · refine iff_of_false ?_ drifted
    cases hops : parseInt req.hop with
    | none =>
        rw [checkHeaders, if_neg signed]
        simp only [timestamp, if_neg drifted, hops]
        exact error_ne_rejected (by decide)
    | some hop =>
        by_cases looping : 1 ≤ hop
        · rw [checkHeaders, if_neg signed]
          simp only [timestamp, if_neg drifted, hops, if_pos looping]
          exact error_ne_rejected (by decide)
        · rw [checkHeaders_eq signed timestamp (not_lt.mp drifted) hops
            (not_le.mp looping)]
          unfold checkDeadline
          split_ifs
          · exact nofun
          · cases primitives.parseRFC3339Nano req.deadline with
            | error cause => exact error_ne_rejected (by decide)
            | ok parsed =>
                dsimp only
                split_ifs
                · exact error_ne_rejected (by decide)
                · exact nofun

/--
Both checks accept exactly the timestamps within the drift if the difference does
not wrap into it.
-/
theorem driftChecks_exact_iff (primitives : Primitives Message)
    (body : Bytes) (maxDrift : Duration) (now : Time)
    (positive : 0 < maxDrift) (maxFits : maxDrift ≤ maxInt64)
    (configured : secret ≠ []) (signed : req.Signed)
    (timestamp : parseInt req.timestamp = some ts) :
    ((verifyRequest primitives req body secret maxDrift now ≠
          .error .expiredTimestamp ↔ WithinDrift maxDrift now ts) ∧
      (checkHeaders primitives req
          (ForwardConfig.drift ⟨secret, maxDrift⟩) now ≠
          rejected .expiredTimestamp ↔ WithinDrift maxDrift now ts)) ↔
      ¬DriftWraps maxDrift now ts := by
  have configuredDrift : ForwardConfig.drift ⟨secret, maxDrift⟩ = maxDrift :=
    if_neg (not_le.mpr positive)
  have bounded : ((unixSeconds now - ts).natAbs : Int) < 2 ^ 64 := by
    have clock := unixSeconds_bounds now
    obtain ⟨lower, upper⟩ := parseInt_bounds timestamp
    unfold minInt64 maxInt64 at clock
    unfold minInt64 at lower
    unfold maxInt64 at upper
    omega
  rw [configuredDrift, ne_eq, ne_eq,
    verifyRequest_eq_expiredTimestamp_iff configured signed timestamp,
    checkHeaders_eq_expiredTimestamp_iff signed timestamp, not_lt, and_self]
  exact drift_exact_iff maxFits bounded

end Checks

/-! ## A timestamp of another century -/

/-- A request with the headers the checks ask for. -/
def requestAt (timestamp : String) : ForwardRequest where
  method := ascii "POST"
  path := ascii "/internal/v1/forward/7"
  requestURI := ascii "/internal/v1/forward/7"
  signature := ascii "00"
  timestamp := ascii timestamp
  hop := ascii "0"
  nonce := ascii "n"
  deadline := []
  body := []

theorem driftChecks_exact_nearby :
    (verifyRequest signingPrimitives (requestAt "1700000010") [] [42]
          (30 * second) (1700000000 * second) ≠ .error .expiredTimestamp ↔
        WithinDrift (30 * second) (1700000000 * second) 1700000010) ∧
      (checkHeaders signingPrimitives (requestAt "1700000010")
          (ForwardConfig.drift ⟨[42], 30 * second⟩) (1700000000 * second) ≠
          rejected .expiredTimestamp ↔
        WithinDrift (30 * second) (1700000000 * second) 1700000010) := by
  refine (driftChecks_exact_iff signingPrimitives [] (30 * second)
    (1700000000 * second) (by decide) (by decide) (by decide) (by decide)
      (by decide)).mpr ?_
  rintro ⟨beyond, -⟩
  exact absurd beyond (by decide)

/-- The year 2316 is within thirty seconds of the year 2023. -/
theorem driftChecks_not_exact :
    ¬((verifyRequest signingPrimitives (requestAt "10923372037") [] [42]
          (30 * second) (1700000000 * second) ≠ .error .expiredTimestamp ↔
        WithinDrift (30 * second) (1700000000 * second) 10923372037) ∧
      (checkHeaders signingPrimitives (requestAt "10923372037")
          (ForwardConfig.drift ⟨[42], 30 * second⟩) (1700000000 * second) ≠
          rejected .expiredTimestamp ↔
        WithinDrift (30 * second) (1700000000 * second) 10923372037)) := by
  rintro ⟨verified, -⟩
  have fresh : ¬30 * second < drift (1700000000 * second) 10923372037 := by
    decide
  have within := verified.mp fun expired =>
    fresh ((verifyRequest_eq_expiredTimestamp_iff (by decide) (by decide)
      (by decide)).mp expired)
  exact absurd within (by unfold WithinDrift; decide)

/-! ## Deadlines -/

/--
`time.Parse` reads years of four digits and zones of less than a day, so its
result is a second of the years 0 to 9999 or within a day of them.
-/
def Primitives.FourDigitYears {Message : Type}
    (primitives : Primitives Message) : Prop :=
  ∀ text parsed, primitives.parseRFC3339Nano text = .ok parsed →
    -62167305600 ≤ parsed / 1000000000 ∧ parsed / 1000000000 < 253402387200

theorem timeSub_nonpos_iff {time other : Int} :
    timeSub time other ≤ 0 ↔ time ≤ other := by
  unfold timeSub Duration minInt64 maxInt64
  omega

/-- The second `time.Unix` starts from; the addition of the epoch may wrap. -/
def unixStart (ts : Int) : Int := int64 (ts + 62135596800) - 62135596800

theorem timeUnix_eq (ts nsec : Int) :
    timeUnix ts nsec = unixStart ts * 1000000000 + nsec :=
  rfl

/-- The epoch's addition does not wrap up to the year 9999. -/
theorem unixStart_eq {ts : Int} (lower : minInt64 ≤ ts)
    (upper : ts < 253402387200) : unixStart ts = ts := by
  unfold minInt64 at lower
  have whole : int64 (ts + 62135596800) = ts + 62135596800 := by
    apply int64_eq_self
    · unfold minInt64
      omega
    · unfold maxInt64
      omega
  unfold unixStart
  omega

/-- Only a timestamp of these years starts at one of their seconds. -/
theorem unixStart_eq_iff {ts sec : Int} (lower : minInt64 ≤ ts)
    (upper : ts ≤ maxInt64)
    (years : -62167305600 ≤ sec ∧ sec < 253402387200) :
    unixStart ts = sec ↔ ts = sec := by
  constructor
  · intro start
    obtain ⟨turns, wrapped, -⟩ := exists_int64_eq (ts + 62135596800)
    unfold unixStart at start
    unfold minInt64 at lower
    unfold maxInt64 at upper
    omega
  · rintro rfl
    exact unixStart_eq lower years.2

/-- A deadline is not after an instant of a second. -/
theorem le_timeUnix_iff {ts parsed nsec : Int}
    (nanoseconds : 0 ≤ nsec ∧ nsec < 1000000000) :
    parsed ≤ timeUnix ts nsec ↔
      parsed / 1000000000 < unixStart ts ∨
        unixStart ts = parsed / 1000000000 ∧ parsed % 1000000000 ≤ nsec := by
  rw [timeUnix_eq]
  unfold Time
  omega

section Deadlines

variable {Message : Type} {primitives : Primitives Message}
variable {ts : Int} {now : Time}

theorem zeroTime_mod : zeroTime % 1000000000 = 0 := by
  decide

/-- When the handler finds a deadline expired. -/
theorem checkDeadline_eq_expiredDeadline_iff {deadline : Bytes} {parsed : Int}
    (present : deadline ≠ [])
    (parses : primitives.parseRFC3339Nano deadline = .ok parsed) :
    checkDeadline primitives ts deadline = rejected .expiredDeadline ↔
      parsed ≠ zeroTime ∧ parsed ≤ timeUnix ts 0 := by
  rw [checkDeadline, if_neg present, parses, ← timeSub_nonpos_iff]
  dsimp only
  split_ifs with expired
  · exact iff_of_true rfl expired
  · exact iff_of_false nofun expired

/-- When `VerifyRequest` does. -/
theorem headerDeadline_eq_expiredDeadline_iff {deadline : Bytes} {parsed : Int}
    (present : deadline ≠ [])
    (parses : primitives.parseRFC3339Nano deadline = .ok parsed) :
    headerDeadline primitives now ts deadline = .error .expiredDeadline ↔
      parsed ≠ zeroTime ∧ parsed ≤ timeUnix ts (parsed % 1000000000) := by
  rw [headerDeadline, if_neg present, parses, ← timeSub_nonpos_iff]
  show verifiedDeadline now ts parsed = _ ↔ _
  unfold verifiedDeadline
  by_cases none : parsed = zeroTime
  · rw [if_pos none]
    exact iff_of_false (by rintro ⟨⟩) fun both => both.1 none
  · rw [if_neg none]
    dsimp only
    by_cases expired : timeSub parsed (timeUnix ts (parsed % second)) ≤ 0
    · rw [if_pos expired]
      exact iff_of_true rfl ⟨none, expired⟩
    · rw [if_neg expired]
      refine iff_of_false ?_ fun both => expired both.2
      split_ifs
      · rintro ⟨⟩
      · rintro ⟨⟩

/-- The two disagree about the later instants of the signed second. -/
theorem expiredDeadline_agree_iff {parsed : Int} (lower : minInt64 ≤ ts)
    (upper : ts ≤ maxInt64)
    (years : -62167305600 ≤ parsed / 1000000000 ∧
      parsed / 1000000000 < 253402387200) :
    ((parsed ≠ zeroTime ∧ parsed ≤ timeUnix ts 0) ↔
        (parsed ≠ zeroTime ∧
          parsed ≤ timeUnix ts (parsed % 1000000000))) ↔
      ¬(parsed / 1000000000 = ts ∧ 0 < parsed % 1000000000) := by
  have starts := unixStart_eq_iff lower upper years
  have notZero : 0 < parsed % 1000000000 → parsed ≠ zeroTime := by
    rintro fraction rfl
    rw [zeroTime_mod] at fraction
    exact absurd fraction (by decide)
  rw [le_timeUnix_iff (by omega), le_timeUnix_iff (by omega)]
  constructor
  · rintro agree ⟨same, fraction⟩
    have expired := agree.mpr
      ⟨notZero fraction, .inr ⟨starts.mpr same.symm, le_rfl⟩⟩
    omega
  · intro apart
    omega

/-- Two seconds of the clock are told apart. -/
theorem abs_int64_eq_zero_iff {difference : Int}
    (bounded : (difference.natAbs : Int) < 2 ^ 64) :
    abs (int64 difference) = 0 ↔ difference = 0 := by
  obtain ⟨turns, wrapped, lower, upper⟩ := exists_int64_eq difference
  have zero : int64 difference = 0 ↔ difference = 0 := by
    omega
  rw [← zero, abs]
  split_ifs with negative
  · obtain ⟨more, negated, -⟩ := exists_int64_eq (-int64 difference)
    omega
  · exact Iff.rfl

/-- The deadline of a request whose deadline lies in a later second than its timestamp. -/
theorem verifiedDeadline_later {ts parsed now : Int} (lower : minInt64 ≤ ts)
    (years : parsed / 1000000000 < 253402387200)
    (given : parsed ≠ zeroTime) (later : ts < parsed / 1000000000)
    (after : ts ≤ now / 1000000000) (before : now < parsed) :
    verifiedDeadline now ts parsed =
      .ok (if now / 1000000000 = ts ∧ parsed / 1000000000 ≤ ts + 60 then parsed
        else now + min 60000000000
          ((parsed / 1000000000 - ts) * 1000000000)) := by
  have start := unixStart_eq lower (later.trans years)
  have clock : unixSeconds now = now / 1000000000 := by
    unfold minInt64 at lower
    apply int64_eq_self
    · unfold minInt64 second
      omega
    · unfold maxInt64 second
      omega
  have sameSecond : abs (int64 (unixSeconds now - ts)) = 0 ↔
      now / 1000000000 = ts := by
    unfold minInt64 at lower
    rw [clock, abs_int64_eq_zero_iff (by omega)]
    omega
  have budget : timeSub parsed (timeUnix ts (parsed % second)) =
      min (2 ^ 63 - 1) ((parsed / 1000000000 - ts) * 1000000000) := by
    rw [timeUnix_eq, start]
    unfold timeSub minInt64 maxInt64 second Time Duration
    omega
  generalize whole : (parsed / 1000000000 - ts) * 1000000000 = exact
    at budget ⊢
  have positive : ¬min (2 ^ 63 - 1 : Int) exact ≤ 0 := by omega
  have within : min (2 ^ 63 - 1 : Int) exact ≤ 60 * 1000000000 ↔
      parsed / 1000000000 ≤ ts + 60 := by omega
  have clamped : min (60 * 1000000000 : Int)
      (max 500000000 (min (2 ^ 63 - 1) exact)) = min 60000000000 exact := by
    omega
  rw [verifiedDeadline, if_neg given]
  simp only [budget, sameSecond]
  rw [if_neg positive]
  show (if now / 1000000000 = ts ∧ now < parsed ∧
      min (2 ^ 63 - 1 : Int) exact ≤ 60 * 1000000000 then Except.ok parsed
    else Except.ok (now + min (60 * 1000000000 : Int)
      (max 500000000 (min (2 ^ 63 - 1) exact)))) = _
  rw [clamped]
  by_cases near : now / 1000000000 = ts ∧ parsed / 1000000000 ≤ ts + 60
  · rw [if_pos near, if_pos ⟨near.1, before, within.mpr near.2⟩]
  · rw [if_neg near, if_neg fun all => near ⟨all.1, within.mp all.2.2⟩]

/-- It lies within a minute of the verification, but for one rounding. -/
theorem laterDeadline_bounded_iff {ts parsed now : Int}
    (later : ts < parsed / 1000000000) (after : ts ≤ now / 1000000000)
    (before : now < parsed) :
    (now < (if now / 1000000000 = ts ∧ parsed / 1000000000 ≤ ts + 60
          then parsed
          else now + min 60000000000
            ((parsed / 1000000000 - ts) * 1000000000)) ∧
        (if now / 1000000000 = ts ∧ parsed / 1000000000 ≤ ts + 60 then parsed
          else now + min 60000000000
            ((parsed / 1000000000 - ts) * 1000000000)) ≤
          now + 60000000000) ↔
      ¬(now / 1000000000 = ts ∧ parsed / 1000000000 = ts + 60 ∧
        now % 1000000000 < parsed % 1000000000) := by
  split_ifs with near
  · omega
  · have beyond : 0 < (parsed / 1000000000 - ts) * 1000000000 := by omega
    generalize (parsed / 1000000000 - ts) * 1000000000 = exact at beyond ⊢
    omega

/-- A deadline in its own second leaves no budget. -/
theorem verifiedDeadline_sameSecond {ts parsed now : Int}
    (lower : minInt64 ≤ ts) (upper : ts ≤ maxInt64)
    (years : -62167305600 ≤ parsed / 1000000000 ∧
      parsed / 1000000000 < 253402387200)
    (given : parsed ≠ zeroTime) (same : ts = parsed / 1000000000) :
    verifiedDeadline now ts parsed = .error .expiredDeadline := by
  have start := (unixStart_eq_iff lower upper years).mpr same
  have none : timeSub parsed (timeUnix ts (parsed % second)) ≤ 0 := by
    rw [timeSub_nonpos_iff]
    show parsed ≤ timeUnix ts (parsed % 1000000000)
    exact (le_timeUnix_iff (by omega)).mpr (.inr ⟨start, le_rfl⟩)
  rw [verifiedDeadline, if_neg given]
  simp only [if_pos none]

/--
Neither check takes the deadline for expired, and the dispatch has until after the
verification, and a minute at most.
-/
structure DeadlineHonoured (primitives : Primitives Message)
    (req : ForwardRequest) (body secret : Bytes) (maxDrift : Duration)
    (now : Time) : Prop where
  checked : checkHeaders primitives req maxDrift now ≠
    rejected .expiredDeadline
  verified : verifyRequest primitives req body secret maxDrift now ≠
    .error .expiredDeadline
  bounded : ∃ deadline,
    verifyRequest primitives req body secret maxDrift now =
        .ok (0, deadline) ∧
      now < deadline ∧ deadline ≤ now + 60 * second

/-- The handler's check and `VerifyRequest` agree on whether a deadline has expired. -/
def DeadlineChecksAgree (primitives : Primitives Message)
    (req : ForwardRequest) (body secret : Bytes) (maxDrift : Duration)
    (checkedAt verifiedAt : Time) : Prop :=
  checkHeaders primitives req maxDrift checkedAt = rejected .expiredDeadline ↔
    verifyRequest primitives req body secret maxDrift verifiedAt =
      .error .expiredDeadline

/-- A timestamp and a deadline which both checks come to compare. -/
structure ForwardRequest.Compared (primitives : Primitives Message)
    (req : ForwardRequest) (maxDrift : Duration) (checkedAt verifiedAt : Time)
    (ts : Int) (deadline : Time) : Prop where
  signed : req.Signed
  timestamp : parseInt req.timestamp = some ts
  checkedFresh : drift checkedAt ts ≤ maxDrift
  verifiedFresh : drift verifiedAt ts ≤ maxDrift
  hop : ∃ hop, parseInt req.hop = some hop ∧ hop < 1
  present : req.deadline ≠ []
  parses : primitives.parseRFC3339Nano req.deadline = .ok deadline

/-- The checks agree but on the later instants of the signed second. -/
theorem deadlineChecksAgree_iff {req : ForwardRequest}
    (body : Bytes) {secret : Bytes} {maxDrift : Duration}
    {checkedAt verifiedAt : Time} {deadline : Time}
    (fourDigits : primitives.FourDigitYears) (configured : secret ≠ [])
    (compared : req.Compared primitives maxDrift checkedAt verifiedAt ts
      deadline) :
    DeadlineChecksAgree primitives req body secret maxDrift checkedAt
        verifiedAt ↔
      ¬(deadline / 1000000000 = ts ∧ 0 < deadline % 1000000000) := by
  obtain ⟨hop, hops, direct⟩ := compared.hop
  obtain ⟨lower, upper⟩ := parseInt_bounds compared.timestamp
  rw [DeadlineChecksAgree,
    checkHeaders_eq compared.signed compared.timestamp compared.checkedFresh
      hops direct,
    verifyRequest_error configured compared.signed compared.timestamp
      compared.verifiedFresh hops direct (by decide),
    checkDeadline_eq_expiredDeadline_iff compared.present compared.parses,
    headerDeadline_eq_expiredDeadline_iff compared.present compared.parses]
  exact expiredDeadline_agree_iff lower upper
    (fourDigits req.deadline deadline compared.parses)

/-- A signed deadline is honoured if it lies in a later second, but for one rounding. -/
theorem deadlineHonoured_iff {sender : Sender} {req : ForwardRequest}
    {body secret : Bytes} {maxDrift : Duration} {deadline : Time}
    (fourDigits : primitives.FourDigitYears)
    (complete : sender.Complete primitives deadline)
    (configured : secret ≠ []) (given : deadline ≠ zeroTime)
    (clock : unixSeconds sender.now = sender.now / 1000000000)
    (ahead : sender.now < deadline) (sent : sender.now ≤ now)
    (before : now < deadline)
    (fresh : drift now (unixSeconds sender.now) ≤ maxDrift) :
    DeadlineHonoured primitives
        (sender.signRequest primitives req body secret 0 deadline) body secret
        maxDrift now ↔
      sender.now / 1000000000 < deadline / 1000000000 ∧
        ¬(now / 1000000000 = sender.now / 1000000000 ∧
          deadline / 1000000000 = sender.now / 1000000000 + 60 ∧
          now % 1000000000 < deadline % 1000000000) := by
  have years := fourDigits _ deadline complete.parses
  have bounds := unixSeconds_bounds sender.now
  have verified : verifyRequest primitives
      (sender.signRequest primitives req body secret 0 deadline) body secret
      maxDrift now = _ :=
    verifyRequest_signRequest complete configured given fresh
  have checked : checkHeaders primitives
      (sender.signRequest primitives req body secret 0 deadline) maxDrift now =
      checkDeadline primitives (unixSeconds sender.now)
        (sender.formatRFC3339Nano deadline) := by
    rw [checkHeaders_eq (signed_signRequest complete req body secret 0)
      (timestamp_signRequest primitives sender req body secret 0 deadline) fresh
      (hop_signRequest primitives sender req body secret deadline) (by decide),
      deadline_signRequest primitives sender req body secret 0 given]
  rw [clock] at bounds verified checked
  have notAfter : sender.now / 1000000000 ≤ now / 1000000000 :=
    Int.ediv_le_ediv (by decide) sent
  by_cases later : sender.now / 1000000000 < deadline / 1000000000
  · have spec := verifiedDeadline_later bounds.1 years.2 given later notAfter
      before
    have bounded := laterDeadline_bounded_iff later notAfter before
    rw [spec] at verified
    constructor
    · intro honoured
      obtain ⟨found, accepted, lower, upper⟩ := honoured.bounded
      rw [verified] at accepted
      cases accepted
      exact ⟨later, bounded.mp ⟨lower, upper⟩⟩
    · rintro ⟨-, rounded⟩
      obtain ⟨lower, upper⟩ := bounded.mpr rounded
      refine ⟨?_, ?_, _, verified, lower, upper⟩
      · rw [checked, ne_eq, checkDeadline_eq_expiredDeadline_iff
          complete.formats complete.parses,
          le_timeUnix_iff ⟨le_rfl, by decide⟩,
          unixStart_eq bounds.1 (later.trans years.2)]
        omega
      · rw [verified]
        exact nofun
  · have same : sender.now / 1000000000 = deadline / 1000000000 :=
      le_antisymm (Int.ediv_le_ediv (by decide) (le_of_lt ahead))
        (not_lt.mp later)
    refine iff_of_false (fun honoured => honoured.verified ?_) fun both =>
      later both.1
    rw [verified,
      verifiedDeadline_sameSecond bounds.1 bounds.2 years given same]
    rfl

/--
A signed deadline is honoured exactly if it lies in a later second than the
signing, and not a minute and a fraction after a verification in the same second;
the two checks agree exactly but on the later instants of the signed second.
-/
theorem deadlines_honoured_iff (primitives : Primitives Message)
    (sender : Sender) (req : ForwardRequest) (body secret : Bytes)
    (maxDrift : Duration) (deadline : Time)
    (fourDigits : primitives.FourDigitYears)
    (complete : sender.Complete primitives deadline)
    (configured : secret ≠ []) (given : deadline ≠ zeroTime)
    (clock : unixSeconds sender.now = sender.now / second)
    (ahead : sender.now < deadline) (sent : sender.now ≤ now)
    (before : now < deadline)
    (fresh : drift now (unixSeconds sender.now) ≤ maxDrift) :
    (DeadlineHonoured primitives
        (sender.signRequest primitives req body secret 0 deadline) body secret
        maxDrift now ↔
      sender.now / second < deadline / second ∧
        ¬(now / second = sender.now / second ∧
          deadline / second = sender.now / second + 60 ∧
          now % second < deadline % second)) ∧
    ∀ (other : ForwardRequest) (otherBody : Bytes)
      (checkedAt verifiedAt : Time) (ts : Int) (parsed : Time),
      other.Compared primitives maxDrift checkedAt verifiedAt ts parsed →
        (DeadlineChecksAgree primitives other otherBody secret maxDrift
            checkedAt verifiedAt ↔
          ¬(parsed / second = ts ∧ 0 < parsed % second)) := by
  refine ⟨?_, ?_⟩
  · exact deadlineHonoured_iff fourDigits complete configured given clock
      ahead sent before fresh
  · intro other otherBody checkedAt verifiedAt ts parsed compared
    exact deadlineChecksAgree_iff otherBody fourDigits configured compared

end Deadlines

/-! ## A deadline of half a minute, and one of half a second -/

theorem fourDigitYears_signingPrimitives :
    signingPrimitives.FourDigitYears := by
  intro text parsed parses
  simp only [signingPrimitives] at parses
  split_ifs at parses
  cases parses
  decide

theorem deadlines_honoured_sample :
    DeadlineHonoured signingPrimitives
        (sampleSender.signRequest signingPrimitives unsignedRequest
          (ascii "\x7b\x7d") [42] 0 1030500000000) (ascii "\x7b\x7d") [42]
        (30 * second) (1001 * second) :=
  (deadlines_honoured_iff signingPrimitives sampleSender unsignedRequest
    (ascii "\x7b\x7d") [42] (30 * second) 1030500000000
    fourDigitYears_signingPrimitives complete_sampleSender (by decide)
    (by decide) (by decide) (by decide) (by decide) (by decide)
    (by decide)).1.mpr (by decide)

/-- The hash and the parser, at what the request below gives them. -/
def hurriedPrimitives : Primitives Unit :=
  { signingPrimitives with
    hmacSHA256 := fun _ _ =>
      [41, 63, 130, 227, 161, 116, 143, 250, 78, 121, 33,
      166, 245, 64, 12, 227, 17, 24, 140, 176, 49, 84,
      228, 221, 247, 45, 180, 226, 79, 195, 201, 119]
    parseRFC3339Nano := fun text =>
      if text = ascii "1970-01-01T00:16:40.7Z" then .ok 1000700000000
      else .error "cannot parse" }

/-- A sender with half a second left. -/
def hurriedSender : Sender where
  now := 1000200000000
  raw := List.replicate 16 0
  formatRFC3339Nano _ := ascii "1970-01-01T00:16:40.7Z"

/-- Its request, received after a tenth of a second, is rejected as expired. -/
theorem hurriedDeadline_rejected :
    checkHeaders hurriedPrimitives
        (hurriedSender.signRequest hurriedPrimitives unsignedRequest
          (ascii "\x7b\x7d") [42] 0 1000700000000) (30 * second)
        1000300000000 = .ok () ∧
      verifyRequest hurriedPrimitives
        (hurriedSender.signRequest hurriedPrimitives unsignedRequest
          (ascii "\x7b\x7d") [42] 0 1000700000000) (ascii "\x7b\x7d") [42]
        (30 * second) 1000300000000 = .error .expiredDeadline := by
  have complete : hurriedSender.Complete hurriedPrimitives 1000700000000 :=
    ⟨by decide, fun _ _ => rfl, by decide, by decide⟩
  have given : (1000700000000 : Time) ≠ zeroTime := by decide
  constructor
  · rw [checkHeaders_eq (signed_signRequest complete _ _ _ 0)
      (timestamp_signRequest hurriedPrimitives hurriedSender _ _ _ 0 _)
      (by decide) (hop_signRequest hurriedPrimitives hurriedSender _ _ _ _)
      (by decide), deadline_signRequest hurriedPrimitives hurriedSender _ _ _ 0
        given]
    decide
  · rw [verifyRequest_signRequest complete (by decide) given (by decide)]
    decide

theorem hurriedDeadline_notHonoured :
    ¬DeadlineHonoured hurriedPrimitives
        (hurriedSender.signRequest hurriedPrimitives unsignedRequest
          (ascii "\x7b\x7d") [42] 0 1000700000000) (ascii "\x7b\x7d") [42]
        (30 * second) 1000300000000 ∧
      ¬DeadlineChecksAgree hurriedPrimitives
        (hurriedSender.signRequest hurriedPrimitives unsignedRequest
          (ascii "\x7b\x7d") [42] 0 1000700000000) (ascii "\x7b\x7d") [42]
        (30 * second) 1000300000000 1000300000000 := by
  obtain ⟨checked, verified⟩ := hurriedDeadline_rejected
  refine ⟨fun honoured => honoured.verified verified, fun agree => ?_⟩
  have rejects := agree.mpr verified
  rw [checked] at rejects
  cases rejects

end DbosRelay.Router
