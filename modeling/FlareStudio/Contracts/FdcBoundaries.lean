import FlareStudio.Contracts.FdcSchedule

set_option autoImplicit false

namespace FlareStudio.FdcNonexistenceTrigger

open ReferencedPaymentNonexistence Checked

structure Matches (cfg : Config) (data : Response) : Prop where
  attestationType : data.attestationType = ATTESTATION_TYPE
  sourceId : data.sourceId = cfg.sourceId
  reference : data.requestBody.standardPaymentReference = cfg.paymentReference
  destination : data.requestBody.destinationAddressHash = cfg.destinationAddressHash
  amount : data.requestBody.amount = cfg.minimumAmount
  unfiltered : data.requestBody.checkSourceAddresses = false

def ForBoundary (cfg : Config) (now : Nat) (data : Response) : Prop :=
  ∃ n, 1 ≤ n ∧ data.requestBody.deadlineTimestamp.toNat = cfg.deadline n ∧
    data.requestBody.deadlineTimestamp.toNat ≤ now ∧
    data.responseBody.minimalBlockTimestamp.toNat ≤ cfg.deadline (n - 1)

-- The errors that the contract declares: not a panic, and not what reverts inside abi.decode or the
-- verifier.
def TriggerError.Own : TriggerError → Prop
  | .panic _ | .undecodable | .verifierReverted => False
  | _ => True

theorem deadline_pred (cfg : Config) {n : Nat} (positive : 1 ≤ n) :
    cfg.deadline (n - 1) = cfg.deadline n - cfg.interval.toNat := by
  obtain ⟨m, rfl⟩ := Nat.exists_eq_add_of_le positive
  unfold Config.deadline
  rw [Nat.add_sub_cancel_left, Nat.add_mul]
  omega

theorem entitled_iff_forBoundary {cfg : Config} (positive : cfg.interval ≠ 0) {now : Nat}
    {data : Response} (attested : Matches cfg data) :
    Entitled cfg now data ↔ ForBoundary cfg now data := by
  have interval : 0 < cfg.interval.toNat :=
    Nat.pos_of_ne_zero fun zero => positive (UInt64.toNat_inj.mp zero)
  constructor
  · intro entitled
    obtain ⟨n, periods⟩ := entitled.boundary
    have started := entitled.started
    have first : 1 ≤ n := by
      rcases Nat.eq_zero_or_pos n with rfl | later
      · omega
      · exact later
    have deadline : data.requestBody.deadlineTimestamp.toNat = cfg.deadline n := by
      rw [Config.deadline, Nat.mul_comm]
      omega
    refine ⟨n, first, deadline, entitled.reached, ?_⟩
    rw [deadline_pred cfg first, ← deadline]
    exact entitled.covered
  · rintro ⟨n, first, deadline, reached, covered⟩
    have periods : cfg.deadline n = cfg.start.toNat + n * cfg.interval.toNat := rfl
    have one := Nat.mul_le_mul_right cfg.interval.toNat first
    constructor
    · exact attested.attestationType
    · exact attested.sourceId
    · exact attested.reference
    · exact attested.destination
    · exact attested.unfiltered
    · exact reached
    · omega
    · rw [deadline, periods, Nat.add_sub_cancel_left]
      exact Nat.dvd_mul_left _ _
    · rw [deadline, ← deadline_pred cfg first]
      exact covered

theorem checkResponse_ok {cfg : Config} {now : Nat} {data : Response} {value : Bool}
    (answered : checkResponse cfg now data = .ok value) : value = true := by
  cases value with
  | true => rfl
  | false => simp [checkResponse] at answered

-- A deadline that is left after the guards before it lies an interval or more after zero.
theorem checkResponse_refuses {cfg : Config} (positive : cfg.interval ≠ 0) (now : Nat)
    (data : Response) : Refuses (checkResponse cfg now data) TriggerError.Own := by
  simp only [checkResponse, refuses_require, refuses_sub64, refuses_mod64, refuses_ok]
  simp only [TriggerError.Own, implies_true, true_and, and_true, positive, ne_eq, not_true,
    not_false_eq_true, false_implies]
  intro _ _ _ _ _ _ _ late
  constructor
  · intro early
    exact absurd (UInt64.le_of_lt (UInt64.not_le.mp late)) early
  · intro after _ boundary
    by_contra short
    have multiple := (overrun_eq_zero after).mp boundary
    rw [UInt64.le_iff_toNat_le] at short
    rw [UInt64.not_le, UInt64.lt_iff_toNat_lt] at late
    have within := Nat.le_of_dvd (by omega) multiple
    omega

/-- What check answers for a policy at a time. -/
structure DecidesBoundaries (verifier : Verifier) (state : State) (now : Nat) (policy : Address) :
    Prop where
  accepts : ∀ proof p, Proof.decode? proof = some p → verifier p = some true →
    Matches (state.configs policy) p.data →
      (check verifier state now policy proof = .ok true ↔
        ForBoundary (state.configs policy) now p.data)
  refuses : ∀ proof p, Proof.decode? proof = some p → verifier p = some true →
    Matches (state.configs policy) p.data → ¬ ForBoundary (state.configs policy) now p.data →
      ∃ error, check verifier state now policy proof = .error error ∧ error.Own
  neverPanics : ∀ proof code, check verifier state now policy proof ≠ .error (.panic code)

theorem check_of_held {verifier : Verifier} {state : State} {now : Nat} {policy : Address}
    {proof : Bytes} {p : Proof} (held : state.Held policy)
    (decoded : Proof.decode? proof = some p) (verified : verifier p = some true) :
    check verifier state now policy proof = checkResponse (state.configs policy) now p.data := by
  have owned : (state.configs policy).owner ≠ .zero 20 := held
  simp [check, require, ofOption, owned, decoded, verified, bind, Except.bind]

theorem check_of_unheld {state : State} {policy : Address} (unheld : ¬ state.Held policy)
    (verifier : Verifier) (now : Nat) (proof : Bytes) :
    check verifier state now policy proof = .error .notConfigured := by
  have unowned : (state.configs policy).owner = .zero 20 := not_not.mp unheld
  simp [check, require, unowned, bind, Except.bind]

theorem held_decides {state : State} {policy : Address} (held : state.Held policy)
    (positive : (state.configs policy).interval ≠ 0) (verifier : Verifier) (now : Nat) :
    DecidesBoundaries verifier state now policy := by
  have accepts {proof : Bytes} {p : Proof} (decoded : Proof.decode? proof = some p)
      (verified : verifier p = some true) (attested : Matches (state.configs policy) p.data) :
      check verifier state now policy proof = .ok true ↔
        ForBoundary (state.configs policy) now p.data := by
    rw [check_of_held held decoded verified, checkResponse_eq_true positive,
      entitled_iff_forBoundary positive attested]
    exact and_iff_left attested.amount.ge
  constructor
  · intro proof p decoded verified attested
    exact accepts decoded verified attested
  · intro proof p decoded verified attested elsewhere
    rw [← accepts decoded verified attested, check_of_held held decoded verified] at elsewhere
    rw [check_of_held held decoded verified]
    cases answered : checkResponse (state.configs policy) now p.data with
    | error error => exact ⟨error, rfl, checkResponse_refuses positive now p.data _ answered⟩
    | ok value =>
      cases checkResponse_ok answered
      exact absurd answered elsewhere
  · intro proof code panicked
    have refuses : Refuses (check verifier state now policy proof) (· ≠ .panic code) := by
      simp only [check, refuses_require, refuses_ofOption, ne_eq, reduceCtorEq, not_false_eq_true,
        implies_true, true_and]
      intro _ p _ _ _ _ error failed panic
      subst panic
      exact checkResponse_refuses positive now p.data _ failed
    exact refuses _ panicked rfl

-- Every boundary is a 64-bit number and no earlier than the first.
theorem ForBoundary.first {cfg : Config} {now : Nat} {data : Response}
    (boundary : ForBoundary cfg now data) : cfg.deadline 1 ≤ now ∧ cfg.deadline 1 < 2 ^ 64 := by
  obtain ⟨n, first, deadline, reached, -⟩ := boundary
  have least : cfg.deadline 1 ≤ cfg.deadline n :=
    Nat.add_le_add_left (Nat.mul_le_mul_right _ first) _
  have bounded := data.requestBody.deadlineTimestamp.toNat_lt
  omega

theorem firstAbsence_matches (config : Config) : Matches config (firstAbsence config).data :=
  ⟨rfl, rfl, rfl, rfl, rfl, rfl⟩

/-- Of a configuration that was stored and stands, check decides the boundaries unless its owner is
the zero address, which check takes for none being stored, and a boundary has passed. -/
theorem decides_boundaries_iff {state stored later : State} {policy : Address} {config : Config}
    (accepted : configure state policy config = .ok stored)
    (stands : later.configs policy = stored.configs policy)
    (amount : config.minimumAmount < 2 ^ 256) (now : Nat) :
    (∀ verifier, DecidesBoundaries verifier later now policy) ↔
      config.owner ≠ .zero 20 ∨ now < config.deadline 1 ∨ 2 ^ 64 ≤ config.deadline 1 := by
  obtain ⟨-, positive, configs⟩ := configure_accepts accepted
  have holds : later.configs policy = config := by
    rw [stands, configs, Function.update_self]
  constructor
  · intro decides
    by_contra passed
    simp only [not_or, not_not, not_lt, not_le] at passed
    obtain ⟨unowned, ended, fits⟩ := passed
    have unheld : ¬ later.Held policy := by simp [State.Held, holds, unowned]
    have attested := firstAbsence_matches config
    have boundary : ForBoundary config now (firstAbsence config).data :=
      (entitled_iff_forBoundary positive attested).mp (firstAbsence_entitled positive fits ended)
    have accepts := (decides fun _ => some true).accepts _ (firstAbsence config)
      (firstAbsence_decodes amount) rfl
    rw [holds, check_of_unheld unheld] at accepts
    have armed := (accepts attested).mpr boundary
    cases armed
  · intro condition verifier
    by_cases held : later.Held policy
    · exact held_decides held (by rwa [holds]) verifier now
    · have refused := check_of_unheld held verifier now
      have unowned : config.owner = .zero 20 := by simpa [State.Held, holds] using held
      have never {data : Response} (boundary : ForBoundary (later.configs policy) now data) :
          False := by
        rw [holds] at boundary
        have first := boundary.first
        rcases condition with owned | early | wide
        · exact owned unowned
        · omega
        · omega
      constructor
      · intro proof p _ _ _
        rw [refused]
        exact iff_of_false (by simp) never
      · intro proof p _ _ _ _
        exact ⟨.notConfigured, refused proof, trivial⟩
      · intro proof code
        rw [refused]
        simp

/-- The first heartbeat of a monthly schedule, missed. -/
theorem monthly_decides_boundaries :
    check (attestsTo (absenceOf 100000)) configured 34128000 policyA (absenceOf 100000).encode =
        .ok true ∧
      DecidesBoundaries (attestsTo (absenceOf 100000)) configured 34128000 policyA := by
  have accepted : configure deployed policyA monthly = .ok configured := rfl
  exact ⟨by decide +kernel,
    (decides_boundaries_iff accepted rfl (by decide) 34128000).mpr (.inl (by decide)) _⟩

def unowned : Config := { monthly with owner := .zero 20 }

def storedUnowned : State :=
  ⟨Function.update deployed.configs policyA unowned,
    [⟨policyA, unowned.paymentReference, unowned.interval⟩]⟩

-- Stored without an owner, the same schedule has no boundary that check accepts.
theorem unowned_refuses_boundary :
    configure deployed policyA unowned = .ok storedUnowned ∧
      storedUnowned.configs policyA = unowned ∧
      Matches unowned (absenceOf 100000).data ∧
      ForBoundary unowned 34128000 (absenceOf 100000).data ∧
      check (attestsTo (absenceOf 100000)) storedUnowned 34128000 policyA
        (absenceOf 100000).encode = .error .notConfigured ∧
      ¬ DecidesBoundaries (attestsTo (absenceOf 100000)) storedUnowned 34128000 policyA := by
  have stored : storedUnowned.configs policyA = unowned := by simp [storedUnowned]
  have unheld : ¬ storedUnowned.Held policyA := by simp [State.Held, stored, unowned]
  have refused := check_of_unheld unheld (attestsTo (absenceOf 100000)) 34128000
    (absenceOf 100000).encode
  have attested : Matches unowned (absenceOf 100000).data := ⟨rfl, rfl, rfl, rfl, rfl, rfl⟩
  have boundary : ForBoundary unowned 34128000 (absenceOf 100000).data :=
    ⟨1, le_rfl, by decide, by decide, by decide⟩
  have decoded : Proof.decode? (absenceOf 100000).encode = some (absenceOf 100000) := by
    decide +kernel
  refine ⟨rfl, stored, attested, boundary, refused, fun decides => ?_⟩
  have accepts := decides.accepts _ _ decoded (by simp [attestsTo])
  rw [stored, refused] at accepts
  cases (accepts attested).mpr boundary

/-- The least boundary, from the first one on, that is at or after the time. -/
structure IsNext (cfg : Config) (now deadline : Nat) : Prop where
  boundary : ∃ n, 1 ≤ n ∧ deadline = cfg.deadline n
  ahead : now ≤ deadline
  least : ∀ n, 1 ≤ n → now ≤ cfg.deadline n → deadline ≤ cfg.deadline n

def ShowsNext (state : State) (now : Nat) (policy : Address) : Prop :=
  ∃ deadline, currentDeadline state now policy = .ok deadline ∧
    IsNext (state.configs policy) now deadline.toNat

-- The deadline shown, as the word arithmetic computes it from a clock cut off at 64 bits.
theorem currentDeadline_eq_ok {state : State} {now : Nat} {policy : Address} {deadline : UInt64}
    (shown : currentDeadline state now policy = .ok deadline) :
    state.Held policy ∧ ((now ≤ (state.configs policy).start.toNat ∧
        deadline.toNat = (state.configs policy).deadline 1) ∨
      ((state.configs policy).start.toNat < now ∧
        (state.configs policy).start.toNat ≤ now % 2 ^ 64 ∧
        deadline.toNat = (state.configs policy).deadline
          ((now % 2 ^ 64 - (state.configs policy).start.toNat) /
            (state.configs policy).interval.toNat + 1))) := by
  simp only [currentDeadline, require_reaches] at shown
  obtain ⟨held, shown⟩ := shown
  refine ⟨held, ?_⟩
  split_ifs at shown with early
  · rw [add64, require_reaches] at shown
    obtain ⟨fits, shown⟩ := shown
    cases shown
    refine .inl ⟨early, ?_⟩
    rw [toNat_add_of_fits fits, Config.deadline, Nat.one_mul]
  · simp only [sub64_reaches, require_reaches, add64_reaches] at shown
    obtain ⟨after, -, counted, whole, shown⟩ := shown
    rw [add64, require_reaches] at shown
    obtain ⟨within, shown⟩ := shown
    cases shown
    have periods := toNat_add_of_fits counted
    rw [UInt64.toNat_div, UInt64.toNat_sub_of_le _ _ after, UInt64.toNat_ofNat'] at periods
    have started := UInt64.le_iff_toNat_le.mp after
    rw [UInt64.toNat_ofNat'] at started
    refine .inr ⟨not_le.mp early, started, ?_⟩
    rw [toNat_add_of_fits within, UInt64.toNat_mul, Nat.mod_eq_of_lt whole, periods]
    rfl

theorem currentDeadline_panics {state : State} {now : Nat} {policy : Address}
    (held : state.Held policy) :
    Refuses (currentDeadline state now policy) fun error => ∃ code, error = .panic code := by
  have owned : (state.configs policy).owner ≠ .zero 20 := held
  unfold currentDeadline
  rw [refuses_require]
  refine ⟨fun unheld => absurd owned unheld, fun _ => ?_⟩
  split_ifs
  · simp [add64]
  · simp only [refuses_sub64, refuses_require, refuses_add64]
    simp [add64]

section Next

variable {cfg : Config} {now : Nat}

theorem isNext_first (early : now ≤ cfg.start.toNat) : IsNext cfg now (cfg.deadline 1) := by
  constructor
  · exact ⟨1, le_rfl, rfl⟩
  · unfold Config.deadline
    omega
  · intro n first _
    exact Nat.add_le_add_left (Nat.mul_le_mul_right _ first) _

-- Off the boundaries one more than the periods that have passed is the least that is enough; on one
-- it is one too many.
theorem isNext_later_iff (positive : 0 < cfg.interval.toNat) (late : cfg.start.toNat < now) :
    IsNext cfg now (cfg.deadline ((now - cfg.start.toNat) / cfg.interval.toNat + 1)) ↔
      ¬ cfg.interval.toNat ∣ now - cfg.start.toNat := by
  have remainder := Nat.div_add_mod' (now - cfg.start.toNat) cfg.interval.toNat
  have below := Nat.mod_lt (now - cfg.start.toNat) positive
  generalize (now - cfg.start.toNat) / cfg.interval.toNat = periods at *
  constructor
  · intro next boundary
    rw [Nat.mod_eq_zero_of_dvd boundary] at remainder
    have reached : 1 ≤ periods := by
      rcases Nat.eq_zero_or_pos periods with rfl | later
      · omega
      · exact later
    have least := next.least periods reached (by unfold Config.deadline; omega)
    unfold Config.deadline at least
    rw [Nat.add_mul] at least
    omega
  · intro between
    have partway : 0 < (now - cfg.start.toNat) % cfg.interval.toNat :=
      Nat.pos_of_ne_zero fun zero => between (Nat.dvd_of_mod_eq_zero zero)
    constructor
    · exact ⟨periods + 1, by omega, rfl⟩
    · unfold Config.deadline
      rw [Nat.add_mul]
      omega
    · intro n _ ahead
      unfold Config.deadline at ahead ⊢
      have more : periods < n := by
        by_contra fewer
        have within := Nat.mul_le_mul_right cfg.interval.toNat (not_lt.mp fewer)
        omega
      exact Nat.add_le_add_left (Nat.mul_le_mul_right _ more) _

end Next

/-- Where the sum fits, the deadline shown is the next one exactly for a policy with an owner and a
time that is not itself a boundary. -/
theorem shows_next_iff {state stored later : State} {now : Nat} {policy : Address} {config : Config}
    (accepted : configure state policy config = .ok stored)
    (stands : later.configs policy = stored.configs policy)
    (fits : ∀ code, currentDeadline later now policy ≠ .error (.panic code)) :
    ShowsNext later now policy ↔
      config.owner ≠ .zero 20 ∧ now < 2 ^ 64 ∧
        ¬ (config.start.toNat < now ∧ config.interval.toNat ∣ now - config.start.toNat) := by
  obtain ⟨-, positive, configs⟩ := configure_accepts accepted
  have holds : later.configs policy = config := by
    rw [stands, configs, Function.update_self]
  have interval : 0 < config.interval.toNat :=
    Nat.pos_of_ne_zero fun zero => positive (UInt64.toNat_inj.mp zero)
  cases shown : currentDeadline later now policy with
  | error error =>
    have unheld : config.owner = .zero 20 := by
      by_contra held
      rw [← holds] at held
      obtain ⟨code, rfl⟩ := currentDeadline_panics held error shown
      exact fits code shown
    simp [ShowsNext, shown, unheld]
  | ok deadline =>
    obtain ⟨held, computed⟩ := currentDeadline_eq_ok shown
    unfold State.Held at held
    rw [holds] at held computed
    have only : ShowsNext later now policy ↔ IsNext config now deadline.toNat := by
      simp [ShowsNext, shown, holds]
    have bounded := deadline.toNat_lt
    rw [only, and_iff_right held]
    rcases computed with ⟨early, first⟩ | ⟨late, cut, next⟩
    · rw [first] at bounded ⊢
      have small : now < 2 ^ 64 := by
        unfold Config.deadline at bounded
        omega
      simp [-Nat.reducePow, isNext_first early, small, early]
    · by_cases small : now < 2 ^ 64
      · rw [Nat.mod_eq_of_lt small] at next
        rw [next, isNext_later_iff interval late]
        simp [-Nat.reducePow, small, late]
      · simp only [small, false_and, iff_false]
        intro isNext
        have ahead := isNext.ahead
        omega

theorem monthly_shows_next :
    configure deployed policyA monthly = .ok configured ∧
      ShowsNext configured 34127999 policyA := by
  have accepted : configure deployed policyA monthly = .ok configured := rfl
  have shown : currentDeadline configured 34127999 policyA = .ok 34128000 := by decide
  refine ⟨accepted, (shows_next_iff accepted rfl ?_).mpr (by decide)⟩
  intro code panicked
  rw [shown] at panicked
  cases panicked

-- At the deadline itself, which check already takes as reached, the one after it is shown.
theorem boundary_shows_the_one_after :
    currentDeadline configured 34128000 policyA = .ok 36720000 ∧
      (configured.configs policyA).deadline 1 = 34128000 ∧
      ¬ ShowsNext configured 34128000 policyA := by
  have shown : currentDeadline configured 34128000 policyA = .ok 36720000 := by decide
  refine ⟨shown, by decide, ?_⟩
  intro ⟨deadline, found, next⟩
  rw [shown, Except.ok.injEq] at found
  subst found
  exact absurd (next.least 1 le_rfl (by decide)) (by decide)

end FlareStudio.FdcNonexistenceTrigger
