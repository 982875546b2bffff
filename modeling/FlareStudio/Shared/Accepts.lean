import FlareStudio.Shared.Checked
import FlareStudio.Shared.Zod

set_option autoImplicit false

namespace FlareStudio.Zod

variable {α : Type} {path : List Text} {value : JsValue}

theorem boolean_eq_ok {accepted : Bool} :
    boolean path value = .ok accepted ↔ value = .boolean accepted := by
  cases value <;> simp [boolean, invalidType]

theorem number_eq_ok {accepted : JsNumber} :
    number path value = .ok accepted ↔ value = .number accepted := by
  cases value <;> simp [number, invalidType]

theorem string_eq_ok {accepted : Text} :
    string path value = .ok accepted ↔ value = .string accepted := by
  cases value <;> simp [string, invalidType]

theorem object_eq_ok {accepted : List (Text × JsValue)} :
    object path value = .ok accepted ↔ value = .object accepted := by
  cases value <;> simp [object, invalidType]

theorem int_eq_ok {accepted : Int} :
    int path value = .ok accepted ↔ value = .number (.finite accepted) := by
  simp only [int, Checked.bind_reaches, number_eq_ok]
  constructor
  · rintro ⟨number, rfl, whole⟩
    cases number with
    | infinity negative => cases whole
    | finite number =>
      dsimp only at whole
      split_ifs at whole with integral
      cases whole
      rw [Rat.coe_int_num_of_den_eq_one integral]
  · rintro rfl
    exact ⟨_, rfl, by simp⟩

theorem refine_eq_ok {holds : α → Prop} [DecidablePred holds] {message : String}
    {parser : Parser α} {accepted : {found : α // holds found}} :
    refine holds message parser path value = .ok accepted ↔
      parser path value = .ok accepted.val := by
  rw [refine, Checked.bind_reaches]
  constructor
  · intro ⟨found, parsed, checked⟩
    split_ifs at checked
    cases checked
    exact parsed
  · intro parsed
    exact ⟨accepted.val, parsed, dif_pos accepted.property⟩

theorem positiveInt_eq_ok {accepted : {whole : Int // 0 < whole}} :
    positiveInt path value = .ok accepted ↔ value = .number (.finite accepted.val) := by
  rw [positiveInt, refine_eq_ok, int_eq_ok]

theorem default_eq_ok {fallback accepted : α} {parser : Parser α} :
    default fallback parser path value = .ok accepted ↔
      value = .undefined ∧ fallback = accepted ∨
        value ≠ .undefined ∧ parser path value = .ok accepted := by
  cases value <;> simp [default]

section Union

variable {Option' : Type} {name : Option' → Text} {options : List Option'}

-- Of options with different names, the first with a name is the only one.
theorem find?_name (distinct : (options.map name).Nodup) {units : Text} {option : Option'} :
    options.find? (fun option => units = name option) = some option ↔
      option ∈ options ∧ units = name option := by
  induction options with
  | nil => simp
  | cons first rest ih =>
    obtain ⟨fresh, later⟩ := List.nodup_cons.mp distinct
    by_cases here : units = name first
    · rw [List.find?_cons_of_pos (by simpa using here), Option.some.injEq, List.mem_cons]
      constructor
      · rintro rfl
        exact ⟨.inl rfl, here⟩
      · rintro ⟨rfl | inside, same⟩
        · rfl
        · exact absurd (here.symm.trans same ▸ List.mem_map_of_mem inside) fresh
    · rw [List.find?_cons_of_neg (by simpa using here), ih later, List.mem_cons]
      constructor
      · exact fun ⟨inside, same⟩ => ⟨.inr inside, same⟩
      · rintro ⟨rfl | inside, same⟩
        · exact absurd same here
        · exact ⟨inside, same⟩

end Union

theorem discriminatedUnion_eq_ok {discriminator : String}
    {options : List (String × (List Text → List (Text × JsValue) → Except Issue α))} {accepted : α}
    (distinct : (options.map fun option => text option.1).Nodup) :
    discriminatedUnion discriminator options path value = .ok accepted ↔
      ∃ members, value = .object members ∧ ∃ option ∈ options,
        field members discriminator = .string (text option.1) ∧
          option.2 path members = .ok accepted := by
  simp only [discriminatedUnion, Checked.bind_reaches, object_eq_ok]
  refine exists_congr fun members => and_congr_right fun _ => ?_
  have nothing : options.find? (fun _ => false) = none := by simp
  cases field members discriminator with
  | string units =>
    dsimp only
    cases found : options.find? fun option => units = text option.1 with
    | none =>
      have unknown := List.find?_eq_none.mp found
      simp only [reduceCtorEq, false_iff, JsValue.string.injEq]
      rintro ⟨option, inside, same, -⟩
      exact unknown option inside (by simpa using same)
    | some chosen =>
      obtain ⟨inside, same⟩ := (find?_name distinct).mp found
      constructor
      · intro parsed
        exact ⟨chosen, inside, congrArg JsValue.string same, parsed⟩
      · rintro ⟨option, within, also, parsed⟩
        have only := (find?_name distinct).mpr ⟨within, JsValue.string.inj also⟩
        rw [found] at only
        cases only
        exact parsed
  | _ => simp [nothing]

theorem intBetween_eq_ok {low high : Nat} {accepted : {whole : Nat // low ≤ whole ∧ whole ≤ high}} :
    intBetween low high path value = .ok accepted ↔
      value = .number (.finite (accepted.val : ℕ)) := by
  simp only [intBetween, Checked.bind_reaches, int_eq_ok]
  constructor
  · rintro ⟨whole, rfl, checked⟩
    split_ifs at checked with above below
    cases checked
    have same : ((whole.toNat : ℕ) : ℚ) = (whole : ℚ) := by
      exact_mod_cast Int.toNat_of_nonneg (show 0 ≤ whole by omega)
    rw [same]
  · rintro rfl
    obtain ⟨whole, above, below⟩ := accepted
    refine ⟨whole, by simp, ?_⟩
    rw [dif_pos (by omega), dif_pos (by omega)]
    rfl

theorem stringMax_eq_ok {high : Nat} {accepted : {units : Text // units.length ≤ high}} :
    stringMax high path value = .ok accepted ↔ value = .string accepted.val := by
  simp only [stringMax, Checked.bind_reaches, string_eq_ok]
  constructor
  · rintro ⟨units, rfl, checked⟩
    split_ifs at checked
    cases checked
    rfl
  · rintro rfl
    exact ⟨accepted.val, rfl, dif_pos accepted.property⟩

theorem optional_eq_ok {parser : Parser α} {accepted : Option α} :
    optional parser path value = .ok accepted ↔
      value = .undefined ∧ accepted = none ∨
        value ≠ .undefined ∧ ∃ found, parser path value = .ok found ∧ accepted = some found := by
  have parsed : (∃ found, parser path value = .ok found ∧ accepted = some found) ↔
      (parser path value).map some = .ok accepted := by
    cases parser path value <;> simp [Except.map, eq_comm]
  rw [parsed]
  cases value <;> simp [optional, eq_comm]

section Lists

variable {β : Type} {parser : Parser α} {input : β → JsValue} {accepts : β → α → Prop}

theorem elements_eq_ok
    (each : ∀ path source accepted, parser path (input source) = .ok accepted ↔
      accepts source accepted)
    {index : Nat} {sources : List β} {accepted : List α} :
    elements parser path index (sources.map input) = .ok accepted ↔
      List.Forall₂ accepts sources accepted := by
  induction sources generalizing index accepted with
  | nil => cases accepted <;> simp [elements]
  | cons first rest ih =>
    simp only [List.map_cons, elements, Checked.bind_reaches, each, ih]
    cases accepted with
    | nil => simp
    | cons head tail => simp

theorem nonemptyArray_eq_ok
    (each : ∀ path source accepted, parser path (input source) = .ok accepted ↔
      accepts source accepted)
    {sources : List β} {accepted : {found : List α // found ≠ []}} :
    nonemptyArray parser path (.array (sources.map input)) = .ok accepted ↔
      List.Forall₂ accepts sources accepted.val := by
  obtain ⟨accepted, some⟩ := accepted
  cases sources with
  | nil =>
    cases accepted with
    | nil => exact absurd rfl some
    | cons head tail => simp [nonemptyArray]
  | cons first rest =>
    simp only [List.map_cons, nonemptyArray, Checked.bind_reaches, each, elements_eq_ok each,
      Except.ok.injEq, Subtype.mk.injEq]
    cases accepted with
    | nil => exact absurd rfl some
    | cons head tail => simp

end Lists

end FlareStudio.Zod
