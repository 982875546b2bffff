import FlareStudio.Shared.Accepts
import FlareStudio.Shared.Arithmetic
import FlareStudio.Web.Builder

set_option autoImplicit false

namespace FlareStudio.Web.RecipientsEditor

open Number

structure Recipient where
  address : Text
  shareBps : Number
  label : Option Text

def total (recipients : List Recipient) : Option Number :=
  recipients.foldl (fun sum recipient => sum.bind fun sum => sum.plus recipient.shareBps)
    (some (.ofNat 0))

def balanced (recipients : List Recipient) : Bool := total recipients = some (.ofNat 10000)

-- What the percent field shows.
def shownPercent (recipient : Recipient) : Text := (recipient.shareBps.dividedBy 100).toText

def typedShare (typed : Text) : Number :=
  match parseFloat typed with
  | some percent => if percent.isFinite then (percent.times 100).rounded else .ofNat 0
  | none => .ofNat 0

inductive Edit where
  | add
  | remove (index : ℕ)
  | label (index : ℕ) (typed : Text)
  | address (index : ℕ) (typed : Text)
  | share (index : ℕ) (typed : Text)
  | rebalance

def added : Recipient := ⟨[], .ofNat 0, some []⟩

theorem representable_tenThousand : Representable ((10000 : ℕ) : ℚ) :=
  Double.representable_natCast (by norm_num)

def each (count : ℕ) : Magnitude :=
  ((Magnitude.whole 10000 representable_tenThousand).dividedBy count).truncated

def last (count : ℕ) : Number :=
  plusFinite false ⟨(10000 : ℕ), representable_tenThousand⟩
    (ofMagnitude false ((each count).times (count - 1))).negated

def splitEvenly (recipients : List Recipient) : List Recipient :=
  recipients.mapIdx fun index recipient =>
    { recipient with
      shareBps := if index + 1 = recipients.length then last recipients.length
        else ofMagnitude false (each recipients.length) }

-- Split evenly is only there while the total is off and there are recipients.
def edit (recipients : List Recipient) : Edit → List Recipient
  | .add => recipients ++ [added]
  | .remove index => recipients.eraseIdx index
  | .label index typed =>
    recipients.modify index fun recipient => { recipient with label := some typed }
  | .address index typed =>
    recipients.modify index fun recipient => { recipient with address := typed }
  | .share index typed =>
    recipients.modify index fun recipient => { recipient with shareBps := typedShare typed }
  | .rebalance =>
    if balanced recipients = false ∧ recipients ≠ [] then splitEvenly recipients else recipients

def edits (recipients : List Recipient) (made : List Edit) : List Recipient :=
  made.foldl edit recipients

structure Holder where
  address : Text
  percent : ℚ
  label : Option Text

def Exact.total (holders : List Holder) : ℚ := (holders.map Holder.percent).sum

def Exact.typedPercent (typed : Text) : ℚ :=
  match leadingNumeral? typed with
  | some numeral => if numeral.negative then -numeral.magnitude else numeral.magnitude
  | none => 0

-- Whole basis points for all but the last.
def Exact.each (count : ℕ) : ℚ := (10000 / count : ℕ) / 100

def Exact.splitEvenly (holders : List Holder) : List Holder :=
  holders.mapIdx fun index holder =>
    { holder with
      percent := if index + 1 = holders.length then
          100 - Exact.each holders.length * (holders.length - 1)
        else Exact.each holders.length }

def Exact.edit (holders : List Holder) : Edit → List Holder
  | .add => holders ++ [⟨[], 0, some []⟩]
  | .remove index => holders.eraseIdx index
  | .label index typed => holders.modify index fun holder => { holder with label := some typed }
  | .address index typed => holders.modify index fun holder => { holder with address := typed }
  | .share index typed =>
    holders.modify index fun holder => { holder with percent := Exact.typedPercent typed }
  | .rebalance =>
    if Exact.total holders ≠ 100 ∧ holders ≠ [] then Exact.splitEvenly holders else holders

def Exact.edits (holders : List Holder) (made : List Edit) : List Holder :=
  made.foldl Exact.edit holders

def Recipient.holder (recipient : Recipient) : Holder :=
  ⟨recipient.address, (recipient.shareBps.value?.getD 0) / 100, recipient.label⟩

def Whole (share : Number) (count : ℕ) : Prop :=
  share.value? = some (count : ℚ) ∧ count < 2 ^ 51

def AllWhole (recipients : List Recipient) : Prop :=
  ∀ recipient ∈ recipients, ∃ count, Whole recipient.shareBps count

/-- The percentage that is typed is whole basis points, at most two decimals that is. -/
def Edit.Fits : Edit → Prop
  | .share _ typed => ∃ count : ℕ, Exact.typedPercent typed = count / 100 ∧ count < 2 ^ 51
  | _ => True

theorem whole_ofNat {count : ℕ} (small : count < 2 ^ 51) : Whole (.ofNat count) count :=
  ⟨value?_ofNat (by omega), small⟩

theorem signed_infinity {units rest : Text} {negative : Bool}
    (sign : signed (units.dropWhile isSpace) = (negative, rest))
    (infinite : (text "Infinity").isPrefixOf rest = true) : leadingNumeral? units = none := by
  obtain ⟨more, rfl⟩ := List.isPrefixOf_iff_prefix.mp infinite
  have letters : (text "Infinity" ++ more).span Json.isDigit = ([], text "Infinity" ++ more) := by
    rw [List.span_eq_takeWhile_dropWhile]
    rfl
  simp only [leadingNumeral?, sign, letters]
  rfl

theorem whole_typedShare {typed : Text} {count : ℕ}
    (asked : Exact.typedPercent typed = count / 100) (small : count < 2 ^ 51) :
    Whole (typedShare typed) count := by
  refine ⟨?_, small⟩
  obtain ⟨⟨negative, rest⟩, sign⟩ : ∃ split, signed (typed.dropWhile isSpace) = split := ⟨_, rfl⟩
  have nothing (none : leadingNumeral? typed = none) : (count : ℚ) = 0 := by
    rw [Exact.typedPercent, none] at asked
    dsimp only at asked
    linarith
  simp only [typedShare, parseFloat, sign]
  by_cases infinite : (text "Infinity").isPrefixOf rest = true
  · rw [if_pos infinite]
    simp only [isFinite, Bool.false_eq_true, if_false]
    rw [nothing (signed_infinity sign infinite)]
    exact value?_ofNat (by norm_num)
  · rw [if_neg infinite]
    cases read : leadingNumeral? typed with
    | none =>
      rw [nothing read]
      exact value?_ofNat (by norm_num)
    | some numeral =>
      rw [Exact.typedPercent, read] at asked
      have known := toNumber_value? (by positivity) (nearest_hundredth_lt small) asked
      simp only [Option.map_some, isFinite_of_value? known, if_true]
      exact rounded_times_hundred known (nearest_hundredth_nonneg count) small
        (hundredth_error small)

theorem whole_shownPercent {recipient : Recipient} {count : ℕ}
    (whole : Whole recipient.shareBps count) :
    Whole (typedShare (shownPercent recipient)) count := by
  obtain ⟨known, small⟩ := whole
  have shown := hundredth_value? known small
  cases quotient : recipient.shareBps.dividedBy 100 with
  | infinite negative =>
    rw [quotient] at shown
    cases shown
  | finite negative magnitude =>
    rw [quotient, ← positiveZero_value?] at shown
    refine ⟨?_, small⟩
    simp only [typedShare, shownPercent, quotient, parseFloat_toText, isFinite_of_value? shown,
      if_true]
    exact rounded_times_hundred shown (nearest_hundredth_nonneg count) small
      (hundredth_error small)

theorem each_eq {count : ℕ} (positive : 0 < count) :
    ∃ double, each count = Magnitude.whole (10000 / count) double := by
  have size : ((10000 : ℕ) : ℚ) / count ≤ 10000 := by
    rw [Nat.cast_ofNat]
    exact div_le_self (by norm_num) (by exact_mod_cast positive)
  have le : Double.nearest ((10000 : ℕ) / count : ℚ) ≤ 10000 := by
    have some : (0 : ℚ) < (10000 : ℕ) / count := by positivity
    exact_mod_cast @Double.nearest_le _ 10000 (by norm_num) some (by exact_mod_cast size)
  have finite : Double.nearest ((10000 : ℕ) / count : ℚ) < 2 ^ (1024 : ℤ) :=
    lt_of_le_of_lt le (lt_of_lt_of_le (by norm_num : (10000 : ℚ) < 2 ^ (14 : ℤ))
      (zpow_le_zpow_right₀ one_le_two (by norm_num)))
  have nonnegative : (0 : ℚ) ≤ (10000 : ℕ) / count := by positivity
  obtain ⟨double, quotient⟩ := Magnitude.round_finite nonnegative finite
  have floor := Double.floor_nearest_div positive (show 10000 < 2 ^ 20 by norm_num)
  have small : 10000 / count ≤ 2 ^ 53 := (Nat.div_le_self _ _).trans (by norm_num)
  refine ⟨Double.representable_natCast small, ?_⟩
  simp only [each, Magnitude.whole, Magnitude.dividedBy, quotient, Magnitude.truncated, floor,
    Int.cast_natCast]

theorem whole_each {count : ℕ} (positive : 0 < count) :
    Whole (ofMagnitude false (each count)) (10000 / count) := by
  obtain ⟨double, same⟩ := each_eq positive
  have small := Nat.div_le_self 10000 count
  rw [same]
  exact ⟨rfl, by omega⟩

theorem whole_last {count : ℕ} (positive : 0 < count) :
    Whole (last count) (10000 - 10000 / count * (count - 1)) := by
  obtain ⟨double, same⟩ := each_eq positive
  have within : 10000 / count * (count - 1) ≤ 10000 :=
    (Nat.mul_le_mul_left _ (Nat.sub_le _ _)).trans (Nat.div_mul_le_self _ _)
  have product : Representable (((count - 1) * (10000 / count) : ℕ) : ℚ) :=
    Double.representable_natCast (by rw [mul_comm]; omega)
  have times := Magnitude.times_whole double product
  have known : (ofMagnitude false ((each count).times (count - 1))).negated.value? =
      some (-((count - 1) * (10000 / count) : ℕ) : ℚ) := by
    rw [same, times]
    rfl
  have difference : ((10000 : ℕ) : ℚ) + -((count - 1) * (10000 / count) : ℕ) =
      ((10000 - 10000 / count * (count - 1) : ℕ) : ℚ) := by
    rw [Nat.cast_sub within, mul_comm (10000 / count)]
    push_cast
    ring
  have nonnegative : (0 : ℚ) ≤ (10000 : ℕ) + -((count - 1) * (10000 / count) : ℕ) := by
    rw [difference]
    positivity
  have minuend : (Number.finite false ⟨(10000 : ℕ), representable_tenThousand⟩).value? =
      some ((10000 : ℕ) : ℚ) := rfl
  have rounds := plusFinite_nonneg minuend known nonnegative
  rw [difference] at rounds
  exact ⟨rounds_natCast (by omega) rounds, by omega⟩

def Recipient.count (recipient : Recipient) : ℕ := (recipient.shareBps.value?.getD 0).num.toNat

theorem count_eq {recipient : Recipient} {count : ℕ} (whole : Whole recipient.shareBps count) :
    recipient.count = count := by
  simp [Recipient.count, whole.1]

theorem value?_count {recipients : List Recipient} (whole : AllWhole recipients)
    {recipient : Recipient} (member : recipient ∈ recipients) :
    recipient.shareBps.value? = some (recipient.count : ℚ) := by
  obtain ⟨count, known⟩ := whole recipient member
  rw [count_eq known, known.1]

theorem tracks_total {recipients : List Recipient}
    (known : ∀ recipient ∈ recipients, recipient.shareBps.value? = some (recipient.count : ℚ)) :
    Tracks 10000 (recipients.map Recipient.count).sum (total recipients) := by
  have tracks := tracks_foldl (by norm_num) recipients known _ _ (tracks_zero 10000)
  rwa [Nat.zero_add] at tracks

theorem balanced_iff {recipients : List Recipient}
    (known : ∀ recipient ∈ recipients, recipient.shareBps.value? = some (recipient.count : ℚ)) :
    balanced recipients = true ↔ (recipients.map Recipient.count).sum = 10000 := by
  rw [balanced, decide_eq_true_eq]
  exact tracks_eq_iff (by norm_num) (by norm_num) (tracks_total known)

theorem exact_total {recipients : List Recipient}
    (known : ∀ recipient ∈ recipients, recipient.shareBps.value? = some (recipient.count : ℚ)) :
    Exact.total (recipients.map Recipient.holder) =
      ((recipients.map Recipient.count).sum : ℕ) / 100 := by
  induction recipients with
  | nil => simp [Exact.total]
  | cons first rest ih =>
    have later := ih fun recipient member => known recipient (by simp [member])
    have here := known first (by simp)
    simp only [Exact.total, List.map_cons, List.sum_cons, Nat.cast_add, add_div] at later ⊢
    rw [later, Recipient.holder, here]
    rfl

theorem balanced_iff_exact {recipients : List Recipient} (whole : AllWhole recipients) :
    balanced recipients = true ↔ Exact.total (recipients.map Recipient.holder) = 100 := by
  have known := fun recipient => @value?_count recipients whole recipient
  rw [balanced_iff known, exact_total known, div_eq_iff (by norm_num)]
  norm_num only
  exact_mod_cast Iff.rfl

section Steps

variable {recipients : List Recipient}

theorem allWhole_modify (whole : AllWhole recipients) {index : ℕ} {change : Recipient → Recipient}
    (keeps : ∀ recipient, (∃ count, Whole recipient.shareBps count) →
      ∃ count, Whole (change recipient).shareBps count) :
    AllWhole (recipients.modify index change) := by
  induction recipients generalizing index with
  | nil => simpa using whole
  | cons first rest ih =>
    have here := whole first (by simp)
    have later : AllWhole rest := fun recipient member => whole recipient (by simp [member])
    intro recipient member
    cases index with
    | zero =>
      rw [List.modify_zero_cons, List.mem_cons] at member
      rcases member with rfl | member
      · exact keeps first here
      · exact later recipient member
    | succ index =>
      rw [List.modify_succ_cons, List.mem_cons] at member
      rcases member with rfl | member
      · exact here
      · exact ih later recipient member

theorem allWhole_splitEvenly : AllWhole (splitEvenly recipients) := by
  intro recipient member
  obtain ⟨index, within, rfl⟩ := List.mem_mapIdx.mp member
  have positive : 0 < recipients.length := by omega
  by_cases final : index + 1 = recipients.length
  · simp only [final, if_true]
    exact ⟨_, whole_last positive⟩
  · simp only [final, if_false]
    exact ⟨_, whole_each positive⟩

theorem allWhole_edit (whole : AllWhole recipients) {made : Edit} (fits : made.Fits) :
    AllWhole (edit recipients made) := by
  cases made with
  | add =>
    intro recipient member
    rcases List.mem_append.mp member with old | new
    · exact whole recipient old
    · rw [List.mem_singleton.mp new]
      exact ⟨0, whole_ofNat (by norm_num)⟩
  | remove index => exact fun recipient member => whole recipient (List.mem_of_mem_eraseIdx member)
  | label index typed => exact allWhole_modify whole fun _ known => known
  | address index typed => exact allWhole_modify whole fun _ known => known
  | share index typed =>
    obtain ⟨count, asked, small⟩ := fits
    exact allWhole_modify whole fun _ _ => ⟨count, whole_typedShare asked small⟩
  | rebalance =>
    rw [edit]
    split_ifs
    · exact allWhole_splitEvenly
    · exact whole

theorem holder_modify {index : ℕ} {change : Recipient → Recipient} {changed : Holder → Holder}
    (same : ∀ recipient : Recipient, (change recipient).holder = changed recipient.holder) :
    (recipients.modify index change).map Recipient.holder =
      (recipients.map Recipient.holder).modify index changed := by
  induction recipients generalizing index with
  | nil => simp
  | cons first rest ih =>
    cases index with
    | zero => simp [same]
    | succ index => simp [ih]

theorem exact_last {count : ℕ} (positive : 0 < count) :
    ((10000 - 10000 / count * (count - 1) : ℕ) : ℚ) / 100 =
      100 - Exact.each count * (count - 1) := by
  have within : 10000 / count * (count - 1) ≤ 10000 :=
    (Nat.mul_le_mul_left _ (Nat.sub_le _ _)).trans (Nat.div_mul_le_self _ _)
  rw [Exact.each, Nat.cast_sub within, Nat.cast_mul, Nat.cast_sub positive]
  push_cast
  ring

theorem holder_splitEvenly : (splitEvenly recipients).map Recipient.holder =
    Exact.splitEvenly (recipients.map Recipient.holder) := by
  apply List.ext_getElem?
  intro index
  simp only [splitEvenly, Exact.splitEvenly, List.getElem?_map, List.getElem?_mapIdx,
    List.length_map]
  cases found : recipients[index]? with
  | none => rfl
  | some recipient =>
    have within := (List.getElem?_eq_some_iff.mp found).1
    have positive : 0 < recipients.length := by omega
    simp only [Option.map_some, Recipient.holder, Option.some.injEq, Holder.mk.injEq, true_and,
      and_true]
    by_cases final : index + 1 = recipients.length
    · simp only [final, if_true, (whole_last positive).1, Option.getD_some, exact_last positive]
    · simp only [final, if_false, (whole_each positive).1, Option.getD_some, Exact.each]

theorem holder_edit (whole : AllWhole recipients) {made : Edit} (fits : made.Fits) :
    (edit recipients made).map Recipient.holder =
      Exact.edit (recipients.map Recipient.holder) made := by
  cases made with
  | add => simp [edit, Exact.edit, added, Recipient.holder, value?_ofNat]
  | remove index => simp [edit, Exact.edit, List.eraseIdx_map]
  | label index typed => exact holder_modify fun _ => rfl
  | address index typed => exact holder_modify fun _ => rfl
  | share index typed =>
    obtain ⟨count, asked, small⟩ := fits
    apply holder_modify
    intro recipient
    simp [Recipient.holder, (whole_typedShare asked small).1, asked]
  | rebalance =>
    have off : (balanced recipients = false ∧ recipients ≠ []) ↔
        (Exact.total (recipients.map Recipient.holder) ≠ 100 ∧
          recipients.map Recipient.holder ≠ []) := by
      rw [← Bool.not_eq_true, balanced_iff_exact whole, ne_eq, ne_eq, ne_eq, List.map_eq_nil_iff]
    simp only [edit, Exact.edit, ← off]
    by_cases shown : balanced recipients = false ∧ recipients ≠ []
    · rw [if_pos shown, if_pos shown, holder_splitEvenly]
    · rw [if_neg shown, if_neg shown]

end Steps

theorem allWhole_edits {recipients : List Recipient} (whole : AllWhole recipients)
    {made : List Edit} (fit : ∀ one ∈ made, one.Fits) : AllWhole (edits recipients made) := by
  induction made generalizing recipients with
  | nil => exact whole
  | cons first rest ih =>
    exact ih (allWhole_edit whole (fit first (by simp)))
      fun one member => fit one (by simp [member])

theorem holder_edits {recipients : List Recipient} (whole : AllWhole recipients)
    {made : List Edit} (fit : ∀ one ∈ made, one.Fits) :
    (edits recipients made).map Recipient.holder =
      Exact.edits (recipients.map Recipient.holder) made := by
  induction made generalizing recipients with
  | nil => rfl
  | cons first rest ih =>
    have stepped := holder_edit whole (fit first (by simp))
    have later := ih (allWhole_edit whole (fit first (by simp)))
      fun one member => fit one (by simp [member])
    rw [stepped] at later
    exact later

theorem retyped {recipients : List Recipient} (whole : AllWhole recipients) {index : ℕ}
    {recipient : Recipient} (found : recipients[index]? = some recipient) :
    (edit recipients (.share index (shownPercent recipient))).map Recipient.holder =
      recipients.map Recipient.holder := by
  apply List.ext_getElem?
  intro other
  obtain ⟨count, known⟩ := whole recipient (List.mem_of_getElem? found)
  simp only [edit, List.getElem?_map, List.getElem?_modify]
  by_cases same : index = other
  · subst same
    simp [found, Recipient.holder, (whole_shownPercent known).1, known.1]
  · simp [same]

/-- With at most two decimals typed, a run of edits is what it is on percentages that are never
rounded: the warning is off exactly when these total 100, and typing what a field shows changes
nothing. -/
theorem edits_exact {recipients : List Recipient} (whole : AllWhole recipients)
    {made : List Edit} (fit : ∀ one ∈ made, one.Fits) :
    (edits recipients made).map Recipient.holder =
        Exact.edits (recipients.map Recipient.holder) made ∧
      (balanced (edits recipients made) = true ↔
        Exact.total (Exact.edits (recipients.map Recipient.holder) made) = 100) ∧
      ∀ index recipient, (edits recipients made)[index]? = some recipient →
        (edit (edits recipients made) (.share index (shownPercent recipient))).map
            Recipient.holder =
          Exact.edits (recipients.map Recipient.holder) made := by
  have later := allWhole_edits whole fit
  have same := holder_edits whole fit
  refine ⟨same, ?_, ?_⟩
  · rw [balanced_iff_exact later, same]
  · intro index recipient found
    rw [retyped later found, same]

def partners : List Recipient :=
  [⟨text "0x1111111111111111111111111111111111111111", .ofNat 6000, some (text "Partner")⟩,
    ⟨text "0x2222222222222222222222222222222222222222", .ofNat 4000, some (text "Child")⟩]

theorem allWhole_partners : AllWhole partners := by
  intro recipient member
  simp only [partners, List.mem_cons, List.not_mem_nil, or_false] at member
  rcases member with rfl | rfl
  · exact ⟨6000, whole_ofNat (by norm_num)⟩
  · exact ⟨4000, whole_ofNat (by norm_num)⟩

def thirds : List Edit := [.share 0 (text "33.33"), .add, .share 1 (text "33.34"),
  .share 2 (text "33.33")]

theorem typedPercent_third : Exact.typedPercent (text "33.33") = (3333 : ℕ) / 100 := by
  have read : leadingNumeral? (text "33.33") = some ⟨false, text "33", text "33", none⟩ := rfl
  have digits : ofDecimal (text "33" ++ text "33") = 3333 := rfl
  have places : (text "33").length = 2 := rfl
  simp only [Exact.typedPercent, read, Numeral.magnitude, digits, places]
  norm_num

theorem typedPercent_rest : Exact.typedPercent (text "33.34") = (3334 : ℕ) / 100 := by
  have read : leadingNumeral? (text "33.34") = some ⟨false, text "33", text "34", none⟩ := rfl
  have digits : ofDecimal (text "33" ++ text "34") = 3334 := rfl
  have places : (text "34").length = 2 := rfl
  simp only [Exact.typedPercent, read, Numeral.magnitude, digits, places]
  norm_num

theorem fits_thirds : ∀ one ∈ thirds, one.Fits := by
  simp only [thirds, List.forall_mem_cons, Edit.Fits]
  refine ⟨⟨3333, typedPercent_third, by norm_num⟩, trivial,
    ⟨3334, typedPercent_rest, by norm_num⟩, ⟨3333, typedPercent_third, by norm_num⟩, by simp⟩

theorem edits_exact_thirds : balanced (edits partners thirds) = true := by
  refine (edits_exact allWhole_partners fits_thirds).2.1.mpr ?_
  simp [thirds, partners, Exact.edits, Exact.edit, Exact.total, Recipient.holder,
    typedPercent_third, typedPercent_rest]
  norm_num

def Recipient.built (recipient : Recipient) : Builder.Recipient :=
  ⟨recipient.address, recipient.shareBps.toJs, recipient.label⟩

structure Parsed (recipient : Recipient) (accepted : Policy.Recipient) : Prop where
  address : accepted.address.val = recipient.address
  share : recipient.shareBps.value? = some (accepted.shareBps.val : ℚ)
  label : accepted.label.map Subtype.val = recipient.label

theorem toJs_eq_finite {number : Number} {value : ℚ} :
    number.toJs = .finite value ↔ number.value? = some value := by
  cases number <;> simp [toJs, value?]

section Schema

open Policy Zod

theorem label_eq_ok {path : List Text} {label : Option Text}
    {accepted : Option {units : Text // units.length ≤ 120}} :
    optional (stringMax 120) path ((label.map JsValue.string).getD .undefined) = .ok accepted ↔
      accepted.map Subtype.val = label := by
  cases label with
  | none => cases accepted <;> simp [optional_eq_ok]
  | some units =>
    cases accepted with
    | none => simp [optional_eq_ok]
    | some accepted => simpa [optional_eq_ok, stringMax_eq_ok] using eq_comm

theorem recipientSchema_eq_ok {path : List Text} {recipient : Recipient}
    {accepted : Policy.Recipient} :
    recipientSchema path recipient.built.input = .ok accepted ↔ Parsed recipient accepted := by
  obtain ⟨members, input, address, share, label⟩ : ∃ members,
      recipient.built.input = .object members ∧
      field members "address" = .string recipient.address ∧
      field members "shareBps" = .number recipient.shareBps.toJs ∧
      field members "label" = (recipient.label.map JsValue.string).getD .undefined := by
    refine ⟨_, rfl, rfl, rfl, ?_⟩
    unfold Recipient.built
    cases recipient.label <;> rfl
  simp only [recipientSchema, input, Checked.bind_reaches, object_eq_ok, JsValue.object.injEq,
    exists_eq_left', at_, address, share, label, addressSchema, refine_eq_ok, string_eq_ok,
    intBetween_eq_ok, label_eq_ok, JsValue.string.injEq, JsValue.number.injEq, toJs_eq_finite,
    Except.ok.injEq]
  constructor
  · rintro ⟨address, found, share, known, label, given, rfl⟩
    exact ⟨found.symm, known, given⟩
  · intro ⟨address, share, label⟩
    exact ⟨accepted.address, address.symm, accepted.shareBps, share, accepted.label, label, rfl⟩

structure Recipient.Passes (recipient : Recipient) : Prop where
  address : IsAddress recipient.address
  share : ∃ count : ℕ, recipient.shareBps.value? = some (count : ℚ) ∧ 1 ≤ count ∧ count ≤ 10000
  label : ∀ label ∈ recipient.label, label.length ≤ 120

def key (recipient : Recipient) : Text := toLowerCase recipient.address

theorem passes_iff {recipient : Recipient} :
    recipient.Passes ↔ ∃ accepted, Parsed recipient accepted := by
  constructor
  · intro passes
    obtain ⟨count, known, above, below⟩ := passes.share
    have label : ∃ label : Option {units : Text // units.length ≤ 120},
        label.map Subtype.val = recipient.label := by
      cases given : recipient.label with
      | none => exact ⟨none, rfl⟩
      | some units => exact ⟨some ⟨units, passes.label units given⟩, rfl⟩
    obtain ⟨label, same⟩ := label
    exact ⟨⟨⟨recipient.address, passes.address⟩, ⟨count, above, below⟩, label⟩, rfl, known, same⟩
  · rintro ⟨⟨address, share, label⟩, same, known, given⟩
    refine ⟨same ▸ address.property, ⟨share.val, known, share.property⟩, ?_⟩
    intro units found
    rw [← given] at found
    obtain ⟨checked, -, rfl⟩ := Option.map_eq_some_iff.mp found
    exact checked.property

theorem count_of_parsed {recipient : Recipient} {accepted : Policy.Recipient}
    (parsed : Parsed recipient accepted) :
    recipient.shareBps.value? = some (recipient.count : ℚ) ∧
      recipient.count = accepted.shareBps.val := by
  have same : recipient.count = accepted.shareBps.val := by
    simp [Recipient.count, parsed.share]
  rw [same]
  exact ⟨parsed.share, rfl⟩

theorem parsed_list {recipients : List Recipient} {accepted : List Policy.Recipient}
    (parsed : List.Forall₂ Parsed recipients accepted) :
    (∀ recipient ∈ recipients, recipient.shareBps.value? = some (recipient.count : ℚ)) ∧
      (recipients.map Recipient.count).sum = totalShareBps accepted ∧
      recipients.map key = accepted.map Policy.Recipient.key := by
  induction parsed with
  | nil => simp [totalShareBps]
  | cons here later ih =>
    obtain ⟨known, sum, keys⟩ := ih
    obtain ⟨whole, same⟩ := count_of_parsed here
    rw [totalShareBps] at sum ⊢
    refine ⟨List.forall_mem_cons.mpr ⟨whole, known⟩, by simp [same, sum], ?_⟩
    simp [key, Policy.Recipient.key, here.address, keys]

theorem passes_list {recipients : List Recipient} :
    (∀ recipient ∈ recipients, recipient.Passes) ↔
      ∃ accepted, List.Forall₂ Parsed recipients accepted := by
  induction recipients with
  | nil => simp
  | cons first rest ih =>
    rw [List.forall_mem_cons, ih, passes_iff]
    constructor
    · intro ⟨⟨accepted, here⟩, more, later⟩
      exact ⟨accepted :: more, .cons here later⟩
    · rintro ⟨_, parsed⟩
      cases parsed with
      | cons here later => exact ⟨⟨_, here⟩, _, later⟩

theorem recipients_eq_ok {path : List Text} {recipients : List Recipient}
    {accepted : {found : List Policy.Recipient // found ≠ []}} :
    nonemptyArray recipientSchema path
        (.array ((recipients.map Recipient.built).map Builder.Recipient.input)) = .ok accepted ↔
      List.Forall₂ Parsed recipients accepted.val := by
  rw [List.map_map]
  exact nonemptyArray_eq_ok fun _ _ _ => recipientSchema_eq_ok

theorem policyIrSchema_iff {input : JsValue} : (∃ ir, policyIrSchema input = .ok ir) ↔
    ∃ policy, policyFieldsSchema [] input = .ok policy ∧ superRefine policy = [] := by
  simp only [policyIrSchema, Checked.bind_reaches]
  constructor
  · rintro ⟨ir, policy, parsed, checked⟩
    split at checked
    next clean => exact ⟨policy, parsed, clean⟩
    next => cases checked
  · intro ⟨policy, parsed, clean⟩
    refine ⟨⟨policy, clean⟩, policy, parsed, ?_⟩
    split
    next => rfl
    next issues =>
      rw [clean] at issues
      cases issues

theorem actionSchema_eq_ok {path : List Text} {recipients : List Recipient} {action : Action} :
    actionSchema path
        (splitInput ((recipients.map Recipient.built).map Builder.Recipient.input)) = .ok action ↔
      ∃ accepted : {found : List Policy.Recipient // found ≠ []},
        List.Forall₂ Parsed recipients accepted.val ∧ .splitTransfer accepted = action := by
  have chosen {values : List JsValue} : actionSchema path (splitInput values) =
      splitTransferAction path [(text "kind", .string (text "splitTransfer")),
        (text "recipients", .array values)] := rfl
  have list {values : List JsValue} : field [(text "kind", .string (text "splitTransfer")),
      (text "recipients", .array values)] "recipients" = .array values := rfl
  simp only [chosen, splitTransferAction, at_, list, Checked.bind_reaches, recipients_eq_ok,
    Except.ok.injEq]

structure Seeded (draft : Builder.Draft) : Prop where
  version : draft.version = .finite 1
  name : 1 ≤ draft.name.length ∧ draft.name.length ≤ 120
  conditions : draft.conditions = []

theorem policyFieldsSchema_eq_ok {draft : Builder.Draft} (seeded : Seeded draft)
    {recipients : List Recipient}
    (actions : draft.actions =
      [splitInput ((recipients.map Recipient.built).map Builder.Recipient.input)])
    {policy : PolicyFields} :
    policyFieldsSchema [] draft.input = .ok policy ↔
      ∃ trigger, triggerSchema [text "trigger"] draft.trigger = .ok trigger ∧
        ∃ accepted : {found : List Policy.Recipient // found ≠ []},
          List.Forall₂ Parsed recipients accepted.val ∧
          policy = ⟨⟨draft.name, seeded.name⟩, draft.asset, trigger, [],
            ⟨[.splitTransfer accepted], List.cons_ne_nil _ _⟩⟩ := by
  obtain ⟨members, input, version, name, asset, trigger, conditions, found⟩ : ∃ members,
      draft.input = .object members ∧
      field members "version" = .number (.finite 1) ∧
      field members "name" = .string draft.name ∧
      field members "asset" = .string draft.asset ∧
      field members "trigger" = draft.trigger ∧
      field members "conditions" = .array [] ∧
      field members "actions" = .array
        [splitInput ((recipients.map Recipient.built).map Builder.Recipient.input)] := by
    rw [← seeded.version, ← actions, ← seeded.conditions]
    exact ⟨_, rfl, rfl, rfl, rfl, rfl, rfl, rfl⟩
  have one : literal 1 [text "version"] (.number (.finite 1)) = .ok () := by simp [literal]
  have named : stringBetween 1 120 [text "name"] (.string draft.name) =
      .ok ⟨draft.name, seeded.name⟩ := by
    simp [stringBetween, string, seeded.name.1, seeded.name.2, bind, Except.bind]
  have empty :
      Zod.default [] (array conditionSchema) [text "conditions"] (.array []) = .ok [] := rfl
  simp only [policyFieldsSchema, input, Checked.bind_reaches, object_eq_ok, JsValue.object.injEq,
    exists_eq_left', at_, version, name, asset, trigger, conditions, found, List.nil_append, one,
    named, empty, string_eq_ok, JsValue.string.injEq, Except.ok.injEq, nonemptyArray,
    actionSchema_eq_ok, elements]
  constructor
  · rintro ⟨_, -, trigger, parsed, _, ⟨action, ⟨accepted, all, rfl⟩, rfl⟩, rfl⟩
    exact ⟨trigger, parsed, accepted, all, rfl⟩
  · rintro ⟨trigger, parsed, accepted, all, rfl⟩
    exact ⟨(), trivial, trigger, parsed, _, ⟨_, ⟨accepted, all, rfl⟩, rfl⟩, rfl⟩

structure Passes (recipients : List Recipient) : Prop where
  some : recipients ≠ []
  each : ∀ recipient ∈ recipients, recipient.Passes
  distinct : (recipients.map key).Nodup

theorem accepts_draft {draft : Builder.Draft} (seeded : Seeded draft) {recipients : List Recipient}
    (actions : draft.actions =
      [splitInput ((recipients.map Recipient.built).map Builder.Recipient.input)]) :
    (∃ ir, policyIrSchema draft.input = .ok ir) ↔
      (∃ trigger, triggerSchema [text "trigger"] draft.trigger = .ok trigger) ∧
        Passes recipients ∧ balanced recipients = true := by
  simp only [policyIrSchema_iff, policyFieldsSchema_eq_ok seeded actions]
  constructor
  · rintro ⟨_, ⟨trigger, parsed, accepted, all, rfl⟩, clean⟩
    have clean := (actionsIssues_eq_nil _ _).mp clean (.splitTransfer accepted) (by simp)
    obtain ⟨known, sum, keys⟩ := parsed_list all
    refine ⟨⟨trigger, parsed⟩, ⟨?_, passes_list.mpr ⟨_, all⟩, keys ▸ clean.2⟩, ?_⟩
    · rintro rfl
      exact accepted.property (List.forall₂_nil_left_iff.mp all)
    · rw [balanced_iff known, sum]
      exact clean.1
  · intro ⟨⟨trigger, parsed⟩, passes, off⟩
    obtain ⟨accepted, all⟩ := passes_list.mp passes.each
    obtain ⟨known, sum, keys⟩ := parsed_list all
    have some : accepted ≠ [] := by
      rintro rfl
      exact passes.some (List.forall₂_nil_right_iff.mp all)
    refine ⟨_, ⟨trigger, parsed, ⟨accepted, some⟩, all, rfl⟩, ?_⟩
    rw [balanced_iff known, sum] at off
    refine (actionsIssues_eq_nil _ _).mpr fun action member => ?_
    rw [List.mem_singleton.mp member]
    exact ⟨off, keys ▸ passes.distinct⟩

theorem seeded_edit {viem : Viem} {page : Builder.Page viem}
    (known : page.template ∈ Builder.TEMPLATES) (built : List Builder.Recipient)
    (dateNow : DateNow) : Seeded (page.edit built dateNow).ir ∧
      (page.edit built dateNow).ir.actions = [splitInput (built.map Builder.Recipient.input)] := by
  have cases : page.template = ⟨text "xrp-inheritance", fun _ => Builder.xrpInheritance⟩ ∨
      page.template = ⟨text "scheduled-distribution", Builder.scheduledDistribution⟩ := by
    simpa [Builder.TEMPLATES] using known
  have inheritance : 1 ≤ (text "XRP Inheritance").length ∧
      (text "XRP Inheritance").length ≤ 120 := by decide
  have distribution : 1 ≤ (text "Scheduled Distribution").length ∧
      (text "Scheduled Distribution").length ≤ 120 := by decide
  simp only [Builder.Page.ir, Builder.Page.edit]
  rcases cases with template | template
  · rw [template]
    exact ⟨⟨rfl, inheritance, rfl⟩, rfl⟩
  · rw [template]
    exact ⟨⟨rfl, distribution, rfl⟩, rfl⟩

/-- Of what the compiler's schema checks about recipients together, the editor shows all but the
duplicates: its warning is off exactly when the shares are right. -/
theorem accepts_iff_balanced {viem : Viem} (page : Builder.Page viem)
    (known : page.template ∈ Builder.TEMPLATES) (recipients : List Recipient) (dateNow : DateNow) :
    (∃ ir, policyIrSchema (page.edit (recipients.map Recipient.built) dateNow).ir.input = .ok ir) ↔
      (∃ trigger, triggerSchema [text "trigger"]
        (page.edit (recipients.map Recipient.built) dateNow).ir.trigger = .ok trigger) ∧
        Passes recipients ∧ balanced recipients = true := by
  obtain ⟨seeded, actions⟩ := seeded_edit known (recipients.map Recipient.built) dateNow
  exact accepts_draft seeded actions

theorem template_known : Builder.inheritancePage.template ∈ Builder.TEMPLATES := by
  simp [Builder.inheritancePage, Builder.TEMPLATES]

theorem accepts_iff_balanced_partners :
    ¬ ∃ ir, policyIrSchema (Builder.inheritancePage.edit
      ((edits partners [.share 1 (text "33.33")]).map Recipient.built)
      Builder.sampleNow).ir.input = .ok ir := by
  intro accepted
  have off := ((accepts_iff_balanced Builder.inheritancePage template_known
    (edits partners [.share 1 (text "33.33")]) Builder.sampleNow).mp accepted).2.2
  have fit : ∀ one ∈ [Edit.share 1 (text "33.33")], one.Fits := by
    intro one member
    rw [List.mem_singleton.mp member]
    exact ⟨3333, typedPercent_third, by norm_num⟩
  rw [balanced_iff_exact (allWhole_edits allWhole_partners fit),
    holder_edits allWhole_partners fit] at off
  simp [partners, Exact.edits, Exact.edit, Exact.total, Recipient.holder, typedPercent_third,
    value?_ofNat] at off
  norm_num at off

end Schema

theorem exact_shares (holders : List Holder) :
    (Exact.splitEvenly holders).map Holder.percent =
      (List.range holders.length).map fun index =>
        if index + 1 = holders.length then
          100 - Exact.each holders.length * (holders.length - 1)
        else Exact.each holders.length := by
  apply List.ext_getElem?
  intro index
  simp only [Exact.splitEvenly, List.getElem?_map, List.getElem?_mapIdx]
  by_cases within : index < holders.length
  · simp [within]
  · simp [within]

theorem total_splitEvenly {holders : List Holder} (some : holders ≠ []) :
    Exact.total (Exact.splitEvenly holders) = 100 := by
  obtain ⟨others, count⟩ : ∃ others, holders.length = others + 1 :=
    Nat.exists_eq_add_one.mpr (List.length_pos_iff.mpr some)
  have front : (List.range others).map (fun index => if index + 1 = others + 1 then
        100 - Exact.each (others + 1) * ((others + 1 : ℕ) - 1) else Exact.each (others + 1)) =
      List.replicate others (Exact.each (others + 1)) := by
    rw [List.eq_replicate_iff]
    refine ⟨by simp, ?_⟩
    intro share member
    obtain ⟨index, within, rfl⟩ := List.mem_map.mp member
    have less := List.mem_range.mp within
    rw [if_neg (by omega)]
  rw [Exact.total, exact_shares, count, List.range_succ, List.map_append, front, List.sum_append]
  simp
  ring

theorem balanced_splitEvenly {recipients : List Recipient} (some : recipients ≠ []) :
    balanced (splitEvenly recipients) = true := by
  rw [balanced_iff_exact allWhole_splitEvenly, holder_splitEvenly, total_splitEvenly (by simpa)]

theorem splitEvenly_getElem? {recipients : List Recipient} {index : ℕ} {recipient : Recipient}
    (found : recipients[index]? = some recipient) :
    (splitEvenly recipients)[index]? = some { recipient with
      shareBps := if index + 1 = recipients.length then last recipients.length
        else ofMagnitude false (each recipients.length) } := by
  simp [splitEvenly, found]

theorem splitEvenly_keys (recipients : List Recipient) :
    (splitEvenly recipients).map key = recipients.map key := by
  apply List.ext_getElem?
  intro index
  simp only [splitEvenly, List.getElem?_map, List.getElem?_mapIdx]
  cases recipients[index]? <;> rfl

theorem last_range {count : ℕ} (positive : 0 < count) :
    1 ≤ 10000 - 10000 / count * (count - 1) ∧ 10000 - 10000 / count * (count - 1) ≤ 10000 := by
  obtain ⟨others, rfl⟩ := Nat.exists_eq_add_one.mpr positive
  have within := Nat.div_mul_le_self 10000 (others + 1)
  rw [Nat.mul_add, Nat.mul_one] at within
  rw [Nat.add_sub_cancel]
  generalize 10000 / (others + 1) = share at within ⊢
  by_cases none : share = 0
  · simp [none]
  · generalize share * others = given at within ⊢
    omega

theorem passes_splitEvenly {recipients : List Recipient} (some : recipients ≠ []) :
    Passes (splitEvenly recipients) ↔
      (∀ recipient ∈ recipients, Policy.IsAddress recipient.address ∧
        ∀ label ∈ recipient.label, label.length ≤ 120) ∧
      (recipients.map key).Nodup ∧ recipients.length ≤ 10000 := by
  have positive : 0 < recipients.length := List.length_pos_iff.mpr some
  constructor
  · intro passes
    refine ⟨?_, splitEvenly_keys recipients ▸ passes.distinct, ?_⟩
    · intro recipient member
      obtain ⟨index, found⟩ := List.mem_iff_getElem?.mp member
      have same := passes.each _ (List.mem_of_getElem? (splitEvenly_getElem? found))
      exact ⟨same.address, same.label⟩
    · -- with more recipients the first has no share
      by_contra many
      obtain ⟨first, rest, rfl⟩ := List.exists_cons_of_ne_nil some
      have same := passes.each _
        (List.mem_of_getElem? (@splitEvenly_getElem? (first :: rest) 0 first rfl))
      obtain ⟨count, known, above, -⟩ := same.share
      simp only [show ¬ 0 + 1 = (first :: rest).length by omega, if_false,
        (whole_each positive).1, Option.some.injEq, Nat.cast_inj] at known
      have none : 10000 / (first :: rest).length = 0 := Nat.div_eq_of_lt (by omega)
      omega
  · intro ⟨fine, distinct, few⟩
    refine ⟨?_, ?_, (splitEvenly_keys recipients).symm ▸ distinct⟩
    · intro empty
      have same := congrArg List.length empty
      simp [splitEvenly] at same
      exact some same
    · intro recipient member
      obtain ⟨index, within, rfl⟩ := List.mem_mapIdx.mp member
      obtain ⟨address, label⟩ := fine _ (List.getElem_mem within)
      refine ⟨address, ?_, label⟩
      by_cases final : index + 1 = recipients.length
      · simp only [final, if_true]
        exact ⟨_, (whole_last positive).1, last_range positive⟩
      · simp only [final, if_false]
        exact ⟨_, (whole_each positive).1, Nat.div_pos few positive, Nat.div_le_self _ _⟩

/-- Split evenly leaves shares that the compiler accepts, for up to ten thousand recipients. -/
theorem splitEvenly_accepted {viem : Policy.Viem} (page : Builder.Page viem)
    (known : page.template ∈ Builder.TEMPLATES) {recipients : List Recipient}
    (some : recipients ≠ []) (dateNow : DateNow) :
    (∃ ir, Policy.policyIrSchema
      (page.edit ((splitEvenly recipients).map Recipient.built) dateNow).ir.input = .ok ir) ↔
      (∃ trigger, Policy.triggerSchema [text "trigger"]
        (page.edit ((splitEvenly recipients).map Recipient.built) dateNow).ir.trigger =
          .ok trigger) ∧
        (∀ recipient ∈ recipients, Policy.IsAddress recipient.address ∧
          ∀ label ∈ recipient.label, label.length ≤ 120) ∧
        (recipients.map key).Nodup ∧ recipients.length ≤ 10000 := by
  obtain ⟨seeded, actions⟩ :=
    seeded_edit known ((splitEvenly recipients).map Recipient.built) dateNow
  rw [accepts_draft seeded actions, passes_splitEvenly some]
  simp [balanced_splitEvenly some]

theorem splitEvenly_accepted_partners :
    ∃ ir, Policy.policyIrSchema (Builder.inheritancePage.edit
      ((splitEvenly partners).map Recipient.built) Builder.sampleNow).ir.input = .ok ir := by
  have trigger : (Policy.triggerSchema [text "trigger"]
      Builder.inheritancePage.ir.trigger).toOption.isSome = true := by decide +kernel
  refine (@splitEvenly_accepted _ Builder.inheritancePage template_known partners
    (List.cons_ne_nil _ _) Builder.sampleNow).mpr ⟨?_, by decide +kernel, by decide +kernel,
      by decide⟩
  cases parsed : Policy.triggerSchema [text "trigger"] Builder.inheritancePage.ir.trigger with
  | ok found => exact ⟨found, parsed⟩
  | error issue =>
    rw [parsed] at trigger
    cases trigger

end FlareStudio.Web.RecipientsEditor
