import FlareStudio.Web.Configure
import FlareStudio.Web.Duration

set_option autoImplicit false

namespace FlareStudio.Web

open Policy Magnitude

-- A text with one space in it, of the number one by its own word or of any other count.
def counted (one unit : String) (count : Magnitude) : Text :=
  if count = Magnitude.one then text (one ++ " " ++ unit)
  else count.toText ++ text (" " ++ unit ++ "s")

-- What both versions of formatInterval do, but for how they write one.
def formatIntervalWith (one : String) (seconds : Magnitude) : Text :=
  let days := (seconds.dividedBy 86400).rounded
  if AtLeast 365 days ∧ days.remainder? 365 = some 0 then counted one "year" (days.dividedBy 365)
  else if AtLeast 30 days ∧ days.remainder? 30 = some 0 then
    counted one "month" (days.dividedBy 30)
  else counted one "day" days

def Canvas.formatInterval : Magnitude → Text := formatIntervalWith "1"

def ReviewDrawer.formatInterval : Magnitude → Text := formatIntervalWith "one"

def unitDays? (word : Text) : Option ℕ :=
  if word = text "year" ∨ word = text "years" then some DurationUnit.years.inDays
  else if word = text "month" ∨ word = text "months" then some DurationUnit.months.inDays
  else if word = text "day" ∨ word = text "days" then some DurationUnit.days.inDays
  else none

def readCount (word : Text) : ℚ :=
  if word = text "one" then 1 else (Numeral.read word).magnitude

def readInterval? (stated : Text) : Option ℚ :=
  let count := stated.takeWhile (· ≠ 32)
  let unit := (stated.dropWhile (· ≠ 32)).drop 1
  (unitDays? unit).map fun (days : ℕ) => readCount count * (86400 * days)

def Duration.seconds? (shown : Duration) : Option ℚ :=
  shown.value.value?.map (· * (86400 * shown.unit.inDays))

def intervalSeconds? : Trigger → Option Int
  | .manualHeartbeat intervalSeconds _ => some intervalSeconds.val
  | .chainProofOfLife intervalSeconds _ _ _ => some intervalSeconds.val
  | .timestamp _ => none

def ConfigureRequest.interval? : ConfigureRequest → Option Int
  | .manualHeartbeat _ _ interval _ => some interval
  | .timestamp _ _ => none
  | .fdcNonexistence _ config => some config.interval

theorem readInterval?_words {word unit : Text} (spaceless : ∀ code ∈ word, code ≠ 32) :
    readInterval? (word ++ 32 :: unit) =
      (unitDays? unit).map fun (days : ℕ) => readCount word * (86400 * days) := by
  have all : ∀ code ∈ word, decide (code ≠ 32) = true := by simpa using spaceless
  have split : (word ++ 32 :: unit).takeWhile (· ≠ 32) = word ∧
      (word ++ 32 :: unit).dropWhile (· ≠ 32) = 32 :: unit := by
    rw [List.takeWhile_append_of_pos all, List.dropWhile_append_of_pos all]
    simp
  simp only [readInterval?, split, List.drop_one, List.tail_cons]

structure OneWord (one : String) : Prop where
  spaceless : ∀ code ∈ text one, code ≠ 32
  read : readCount (text one) = 1

theorem oneWord_digit : OneWord "1" := ⟨by decide, by decide +kernel⟩

theorem oneWord_one : OneWord "one" := ⟨by decide, rfl⟩

theorem readCount_toText {count : ℕ} (positive : 0 < count) (double : Representable (count : ℚ)) :
    (∀ code ∈ (whole count double).toText, code ≠ 32) ∧
      readCount (whole count double).toText = (Double.shortest (count : ℚ)).value := by
  obtain ⟨numeral, formed, spelled, magnitude⟩ := toText_whole positive double
  have codes := spell_codes formed
  have other : numeral.spell ≠ text "one" := by
    intro same
    have letter := codes 111 (by rw [same]; decide)
    omega
  rw [spelled]
  refine ⟨?_, ?_⟩
  · intro code member space
    have := codes code member
    omega
  · rw [readCount, if_neg other, Numeral.read_spell formed, magnitude]

theorem readInterval?_counted {one unit : String} {days count : ℕ} (word : OneWord one)
    (singular : unitDays? (text unit) = some days)
    (plural : unitDays? (text (unit ++ "s")) = some days) (positive : 0 < count)
    (double : Representable (count : ℚ)) :
    readInterval? (counted one unit (whole count double)) =
      some ((Double.shortest (count : ℚ)).value * (86400 * days)) := by
  unfold counted
  split_ifs with single
  · have value : (count : ℚ) = 1 := Option.some.inj (congrArg Magnitude.value? single)
    have isOne : count = 1 := Nat.cast_eq_one.mp value
    have joined : text (one ++ " " ++ unit) = text one ++ 32 :: text unit := by
      simp [text]
    have exact := @shortest_exact count positive (by omega)
    rw [joined, readInterval?_words word.spaceless, singular, Option.map_some, word.read, exact,
      isOne, Nat.cast_one]
  · obtain ⟨spaceless, read⟩ := readCount_toText positive double
    have joined : text (" " ++ unit ++ "s") = 32 :: text (unit ++ "s") := by
      simp [text]
    rw [joined, readInterval?_words spaceless, plural, Option.map_some, read]

def coarsestUnit (days : ℕ) : DurationUnit :=
  if 365 ∣ days then .years else if 30 ∣ days then .months else .days

def shownCount (days : ℕ) : ℕ := days / (coarsestUnit days).inDays

theorem coarsestUnit_dvd (days : ℕ) : (coarsestUnit days).inDays ∣ days := by
  unfold coarsestUnit
  split_ifs with years months
  · exact years
  · exact months
  · exact Nat.one_dvd days

theorem shownCount_pos {days : ℕ} (positive : 0 < days) : 0 < shownCount days :=
  Nat.div_pos (Nat.le_of_dvd positive (coarsestUnit_dvd days))
    (Nat.pos_of_dvd_of_pos (coarsestUnit_dvd days) positive)

/-- All the digits of the number that is shown are written. -/
def Written (days : ℕ) : Prop := (Double.shortest (shownCount days : ℚ)).value = shownCount days

theorem written_of_lt {days : ℕ} (positive : 0 < days) (small : days < 2 ^ 53) : Written days :=
  shortest_exact (shownCount_pos positive) ((Nat.div_le_self _ _).trans_lt small)

theorem readInterval?_divided {one unit : String} {days inDays : ℕ} (word : OneWord one)
    (singular : unitDays? (text unit) = some inDays)
    (plural : unitDays? (text (unit ++ "s")) = some inDays) (positive : 0 < days)
    (divides : inDays ∣ days) (double : Representable (days : ℚ)) :
    readInterval? (counted one unit ((whole days double).dividedBy inDays)) =
      some ((Double.shortest ((days / inDays : ℕ) : ℚ)).value * (86400 * inDays)) := by
  have count : 0 < days / inDays :=
    Nat.div_pos (Nat.le_of_dvd positive divides) (Nat.pos_of_dvd_of_pos divides positive)
  obtain ⟨countDouble, divided⟩ := dividedBy_of_dvd positive divides double
  rw [divided]
  exact readInterval?_counted word singular plural count countDouble

theorem readInterval?_format {one : String} (word : OneWord one) {days : ℕ} (positive : 0 < days)
    (double : Representable ((86400 * days : ℕ) : ℚ)) :
    readInterval? (formatIntervalWith one (whole (86400 * days) double)) =
      some ((Double.shortest (shownCount days : ℚ)).value *
        (86400 * (coarsestUnit days).inDays)) := by
  have daysDouble := Double.representable_of_dvd (Nat.dvd_mul_left days 86400)
    (Nat.mul_pos (by decide) positive) double
  have divided := dividedBy_whole (by decide) double daysDouble
  simp only [formatIntervalWith, divided, rounded_whole, remainder?_whole, atLeast_whole]
  by_cases years : 365 ∣ days
  · have unit : coarsestUnit days = .years := if_pos years
    rw [if_pos ⟨Nat.le_of_dvd positive years, years⟩, shownCount, unit]
    exact readInterval?_divided word (by decide) (by decide) positive years daysDouble
  · rw [if_neg (fun both => years both.2)]
    by_cases months : 30 ∣ days
    · have unit : coarsestUnit days = .months := (if_neg years).trans (if_pos months)
      rw [if_pos ⟨Nat.le_of_dvd positive months, months⟩, shownCount, unit]
      exact readInterval?_divided word (by decide) (by decide) positive months daysDouble
    · have unit : coarsestUnit days = .days := (if_neg years).trans (if_neg months)
      have all : days / DurationUnit.days.inDays = days := Nat.div_one days
      rw [if_neg (fun both => months both.2), shownCount, unit, all]
      exact readInterval?_counted word (by decide) (by decide) positive daysDouble

theorem seconds?_of_shows {shown : Duration} {days count : ℕ} (shows : shown.Shows days count) :
    shown.seconds? = some ((86400 * days : ℕ) : ℚ) := by
  rw [Duration.seconds?, shows.value, Option.map_some, ← shows.exact]
  push_cast
  congr 1
  ring

theorem seconds?_splitDuration {seconds : ℕ} (double : Representable (seconds : ℚ)) :
    (splitDuration (whole seconds double)).seconds? = some (seconds : ℚ) ↔
      0 < seconds ∧ 86400 ∣ seconds := by
  constructor
  · intro same
    by_cases finite : Double.nearest ((seconds : ℚ) / (86400 : ℕ)) < 2 ^ (1024 : ℤ)
    · obtain ⟨quotient, divided⟩ := round_finite
        (div_nonneg (Nat.cast_nonneg seconds) (Nat.cast_nonneg 86400)) finite
      obtain ⟨floor, rounded⟩ := rounded_finite ⟨_, quotient⟩
      obtain ⟨largest, days⟩ := atLeastOne_whole floor
      have shownDays : ((whole seconds double).dividedBy 86400).rounded.atLeastOne =
          whole _ largest := by
        rw [whole, dividedBy, divided, rounded, days]
      have positive := lt_of_lt_of_le Nat.one_pos (Nat.le_max_left 1
        ⌊Double.nearest ((seconds : ℚ) / (86400 : ℕ)) + 1 / 2⌋.toNat)
      obtain ⟨count, shows⟩ := splitDuration_shows positive shownDays
      rw [seconds?_of_shows shows] at same
      have multiple := Nat.cast_injective (Option.some.inj same)
      rw [← multiple]
      exact ⟨Nat.mul_pos (by decide) positive, Nat.dvd_mul_right _ _⟩
    · have infinite : (whole seconds double).dividedBy 86400 = .infinity := dif_neg finite
      have shown : splitDuration (whole seconds double) = ⟨.infinity, .days⟩ := by
        rw [splitDuration, infinite]
        rfl
      rw [shown] at same
      cases same
  · rintro ⟨positive, days, split⟩
    subst split
    have daysPositive := Nat.pos_of_mul_pos_left positive
    obtain ⟨daysDouble, same⟩ := days_of_multiple daysPositive double
    obtain ⟨count, shows⟩ := splitDuration_shows daysPositive same
    exact seconds?_of_shows shows

/-- Both texts and the editor say this duration, and it is what goes to the contract. -/
structure Stated (seconds : Magnitude) (request : ConfigureRequest) (duration : ℚ) : Prop where
  builder : readInterval? (Canvas.formatInterval seconds) = some duration
  review : readInterval? (ReviewDrawer.formatInterval seconds) = some duration
  editor : (splitDuration seconds).seconds? = some duration
  sent : request.interval?.map (fun (sent : Int) => (sent : ℚ)) = some duration

theorem interval?_configureRequest {viem : Viem} {dateNow : DateNow} {trigger : Trigger}
    {owner policy : Address} {request : ConfigureRequest}
    (requested : configureRequest viem dateNow trigger owner policy = .ok request) :
    request.interval? = intervalSeconds? trigger := by
  cases trigger with
  | manualHeartbeat intervalSeconds demoMode =>
    cases requested
    rfl
  | timestamp executeAfter =>
    cases requested
    rfl
  | chainProofOfLife intervalSeconds sourceId destinationAddress minimumAmount =>
    simp only [configureRequest, Checked.bind_reaches, Except.ok.injEq] at requested
    obtain ⟨reference, -, sourceId, -, hash, -, rfl⟩ := requested
    rfl

theorem intervalSeconds?_pos {trigger : Trigger} {seconds : ℕ}
    (interval : intervalSeconds? trigger = some (seconds : Int)) : 0 < seconds := by
  cases trigger with
  | timestamp executeAfter => cases interval
  | manualHeartbeat intervalSeconds demoMode =>
    have positive := intervalSeconds.property
    rw [Option.some.inj interval] at positive
    exact_mod_cast positive
  | chainProofOfLife intervalSeconds sourceId destinationAddress minimumAmount =>
    have positive := intervalSeconds.property
    rw [Option.some.inj interval] at positive
    exact_mod_cast positive

/-- What is stated is what is configured if and only if it is a whole number of days, whose count
in the coarsest unit is written out in full. -/
theorem stated_iff {viem : Viem} {dateNow : DateNow} {trigger : Trigger} {owner policy : Address}
    {request : ConfigureRequest} {seconds : ℕ} (double : Representable (seconds : ℚ))
    (interval : intervalSeconds? trigger = some (seconds : Int))
    (requested : configureRequest viem dateNow trigger owner policy = .ok request) :
    (∃ duration, Stated (whole seconds double) request duration) ↔
      86400 ∣ seconds ∧ Written (seconds / 86400) := by
  have sent : request.interval?.map (fun (sent : Int) => (sent : ℚ)) = some (seconds : ℚ) := by
    rw [interval?_configureRequest requested, interval, Option.map_some, Int.cast_natCast]
  have positive := intervalSeconds?_pos interval
  have product {days : ℕ} : (shownCount days : ℚ) * (86400 * (coarsestUnit days).inDays) =
      ((86400 * days : ℕ) : ℚ) := by
    have exact : shownCount days * (coarsestUnit days).inDays = days :=
      Nat.div_mul_cancel (coarsestUnit_dvd days)
    calc (shownCount days : ℚ) * (86400 * (coarsestUnit days).inDays)
        = 86400 * ((shownCount days * (coarsestUnit days).inDays : ℕ) : ℚ) := by
          push_cast
          ring
      _ = ((86400 * days : ℕ) : ℚ) := by
          rw [exact]
          push_cast
          rfl
  constructor
  · intro ⟨duration, stated⟩
    have editor := stated.editor.trans (stated.sent.symm.trans sent)
    obtain ⟨-, days, split⟩ := (seconds?_splitDuration double).mp editor
    subst split
    have daysPositive := Nat.pos_of_mul_pos_left positive
    have builder := stated.builder.trans (stated.sent.symm.trans sent)
    rw [Canvas.formatInterval, readInterval?_format oneWord_digit daysPositive double,
      Option.some.injEq, ← product] at builder
    have unitPositive : (0 : ℚ) < (coarsestUnit days).inDays := by
      exact_mod_cast Nat.pos_of_dvd_of_pos (coarsestUnit_dvd days) daysPositive
    rw [Nat.mul_div_cancel_left days (by decide)]
    exact ⟨Nat.dvd_mul_right _ _, mul_right_cancel₀ (by positivity) builder⟩
  · intro ⟨⟨days, split⟩, written⟩
    subst split
    have daysPositive := Nat.pos_of_mul_pos_left positive
    rw [Nat.mul_div_cancel_left days (by decide)] at written
    have read {one : String} (word : OneWord one) :
        readInterval? (formatIntervalWith one (whole (86400 * days) double)) =
          some ((86400 * days : ℕ) : ℚ) := by
      rw [readInterval?_format word daysPositive double, written, product]
    exact ⟨_, read oneWord_digit, read oneWord_one,
      (seconds?_splitDuration double).mpr ⟨positive, Nat.dvd_mul_right _ _⟩, sent⟩

theorem stated_year : ∃ duration, Stated
    (whole 31536000 (Double.representable_natCast (by norm_num)))
    (.manualHeartbeat (.zero 20) (.zero 20) 31536000 false) duration := by
  have requested : configureRequest .lowercase ⟨1700000000000, by decide⟩
      (.manualHeartbeat ⟨31536000, by decide⟩ false) (.zero 20) (.zero 20) =
        .ok (.manualHeartbeat (.zero 20) (.zero 20) 31536000 false) := rfl
  exact (stated_iff _ rfl requested).mpr ⟨by decide, written_of_lt (by decide) (by decide)⟩

-- One second is 0 days to the builder, and a day to the editor.
theorem second_misstated :
    configureRequest .lowercase ⟨1700000000000, by decide⟩ (.manualHeartbeat ⟨1, by decide⟩ false)
        (.zero 20) (.zero 20) = .ok (.manualHeartbeat (.zero 20) (.zero 20) 1 false) ∧
      ¬ ∃ duration, Stated (whole 1 (Double.representable_natCast (by norm_num)))
        (.manualHeartbeat (.zero 20) (.zero 20) 1 false) duration := by
  refine ⟨rfl, ?_⟩
  intro ⟨duration, stated⟩
  have sent : some ((1 : ℕ) : ℚ) = some duration := by
    rw [← stated.sent, ConfigureRequest.interval?, Option.map_some, Int.cast_one, Nat.cast_one]
  have divides := ((seconds?_splitDuration _).mp (stated.editor.trans sent.symm)).2
  revert divides
  decide

end FlareStudio.Web
