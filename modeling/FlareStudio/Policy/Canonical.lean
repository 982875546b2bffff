import FlareStudio.Policy.Plaintext
import FlareStudio.Shared.Numeral
import FlareStudio.Shared.Property

set_option autoImplicit false

namespace FlareStudio.Policy.Canonical

open Json (Passes)

open Property

-- What canonicalize meets: JSON values and bigints. An object is its own properties, in order.
inductive Value where
  | null
  | boolean (value : Bool)
  | number (value : Number)
  | bigint (value : ℤ)
  | string (units : Text)
  | array (elements : List Value)
  | object (members : List (Text × Value))

def bigintText (value : ℤ) : Text := (if value < 0 then [45] else []) ++ decimal value.natAbs

mutual

-- Object.keys().sort() compares UTF-16 units, Object.fromEntries puts array indices first.
def sortKeys : Value → Value
  | .bigint value => .string (bigintText value)
  | .array elements => .array (sortElements elements)
  | .object members => .object (arrange (fun a b => lexLe a b = true) (sortMembers members))
  | .null => .null
  | .boolean value => .boolean value
  | .number value => .number value
  | .string units => .string units

def sortElements : List Value → List Value
  | [] => []
  | element :: rest => sortKeys element :: sortElements rest

def sortMembers : List (Text × Value) → List (Text × Value)
  | [] => []
  | (key, value) :: rest => (key, sortKeys value) :: sortMembers rest

end

mutual

def bigintFree : Value → Bool
  | .bigint _ => false
  | .array elements => elementsFree elements
  | .object members => membersFree members
  | _ => true

def elementsFree : List Value → Bool
  | [] => true
  | element :: rest => bigintFree element && elementsFree rest

def membersFree : List (Text × Value) → Bool
  | [] => true
  | (_, value) :: rest => bigintFree value && membersFree rest

end

mutual

-- Infinite numbers are written as null; on a bigint stringify has thrown before.
def tree : Value → Json
  | .null => .null
  | .boolean value => .bool value
  | .number (.finite negative magnitude) => .num (Number.toText (.finite negative magnitude))
  | .number (.infinite _) => .null
  | .bigint _ => .null
  | .string units => .str (escape units)
  | .array elements => .arr (elementTrees elements)
  | .object members => .obj (memberTrees members)

def elementTrees : List Value → List Json
  | [] => []
  | element :: rest => tree element :: elementTrees rest

def memberTrees : List (Text × Value) → List (Text × Json)
  | [] => []
  | (key, value) :: rest => (escape key, tree value) :: memberTrees rest

end

-- None is the TypeError for a bigint.
def stringify (value : Value) : Option Text :=
  if bigintFree value then some (tree value).render else none

def unescape : Text → Text
  | [] => []
  | 92 :: 117 :: a :: b :: c :: d :: rest => Extension.hexUnit a b c d :: unescape rest
  | 92 :: letter :: rest => Extension.escaped letter :: unescape rest
  | code :: rest => code :: unescape rest

mutual

-- Of two members with one key, the later is kept.
def revive : Json → Value
  | .null => .null
  | .bool value => .boolean value
  | .num lexeme => .number (Numeral.read lexeme).toNumber
  | .str raw => .string (unescape raw)
  | .arr elements => .array (reviveElements elements)
  | .obj members => .object (fromEntries (reviveMembers members))

def reviveElements : List Json → List Value
  | [] => []
  | element :: rest => revive element :: reviveElements rest

def reviveMembers : List (Text × Json) → List (Text × Value)
  | [] => []
  | (key, value) :: rest => (unescape key, revive value) :: reviveMembers rest

end

def parse (input : Text) : Option Value := (Json.parse input).map revive

-- A member of an object; undefined is none, and so is any member of what is no object.
def property (value : Value) (key : String) : Option Value :=
  match value with
  | .object members => members.lookup (text key)
  | _ => none

def truthy : Value → Bool
  | .null => false
  | .boolean value => value
  | .number (.finite _ magnitude) => magnitude.val ≠ 0
  | .number (.infinite _) => true
  | .bigint value => value ≠ 0
  | .string units => units ≠ []
  | .array _ | .object _ => true

def canonicalize (value : Value) : Option Text := stringify (sortKeys value)

mutual

-- Finite numbers, UTF-16 strings, distinct keys.
def Valid : Value → Prop
  | .number (.infinite _) => False
  | .string units => ∀ unit ∈ units, unit < 0x10000
  | .array elements => ElementsValid elements
  | .object members => Ordered members ∧ MembersValid members
  | _ => True

def ElementsValid : List Value → Prop
  | [] => True
  | element :: rest => Valid element ∧ ElementsValid rest

def MembersValid : List (Text × Value) → Prop
  | [] => True
  | (key, value) :: rest => (∀ unit ∈ key, unit < 0x10000) ∧ Valid value ∧ MembersValid rest

end

mutual

def Same : Value → Value → Prop
  | .null, .null => True
  | .boolean value, .boolean other => value = other
  | .number value, .number other => value.StrictEq other
  | .bigint value, .bigint other => value = other
  | .string units, .string others => units = others
  | .array elements, .array others => SameElements elements others
  | .object members, .object others =>
    members.length = others.length ∧ SameMembers members others
  | _, _ => False

def SameElements : List Value → List Value → Prop
  | [], [] => True
  | element :: rest, other :: others => Same element other ∧ SameElements rest others
  | _, _ => False

def SameMembers : List (Text × Value) → List (Text × Value) → Prop
  | [], _ => True
  | (key, value) :: rest, others =>
    (∃ other, (key, other) ∈ others ∧ Same value other) ∧ SameMembers rest others

end

section Lists

variable (elements others : List Value) (members shuffled : List (Text × Value))

@[simp]
theorem sortElements_eq : sortElements elements = elements.map sortKeys := by
  induction elements with
  | nil => rfl
  | cons element rest ih => rw [sortElements, ih, List.map_cons]

@[simp]
theorem sortMembers_eq : sortMembers members = mapValues sortKeys members := by
  induction members with
  | nil => rfl
  | cons member rest ih => rw [sortMembers, ih, mapValues, mapValues, List.map_cons]

@[simp]
theorem elementsFree_eq : elementsFree elements = elements.all bigintFree := by
  induction elements with
  | nil => rfl
  | cons element rest ih => rw [elementsFree, ih, List.all_cons]

@[simp]
theorem membersFree_eq :
    membersFree members = members.all fun member => bigintFree member.2 := by
  induction members with
  | nil => rfl
  | cons member rest ih => rw [membersFree, ih, List.all_cons]

@[simp]
theorem elementTrees_eq : elementTrees elements = elements.map tree := by
  induction elements with
  | nil => rfl
  | cons element rest ih => rw [elementTrees, ih, List.map_cons]

@[simp]
theorem memberTrees_eq :
    memberTrees members = members.map fun member => (escape member.1, tree member.2) := by
  induction members with
  | nil => rfl
  | cons member rest ih => rw [memberTrees, ih, List.map_cons]

@[simp]
theorem reviveElements_eq (elements : List Json) :
    reviveElements elements = elements.map revive := by
  induction elements with
  | nil => rfl
  | cons element rest ih => rw [reviveElements, ih, List.map_cons]

@[simp]
theorem reviveMembers_eq (members : List (Text × Json)) :
    reviveMembers members = members.map fun member => (unescape member.1, revive member.2) := by
  induction members with
  | nil => rfl
  | cons member rest ih => rw [reviveMembers, ih, List.map_cons]

@[simp]
theorem elementsValid_iff : ElementsValid elements ↔ ∀ element ∈ elements, Valid element := by
  induction elements with
  | nil => simp [ElementsValid]
  | cons element rest ih => simp [ElementsValid, ih]

@[simp]
theorem membersValid_iff : MembersValid members ↔
    ∀ member ∈ members, (∀ unit ∈ member.1, unit < 0x10000) ∧ Valid member.2 := by
  induction members with
  | nil => simp [MembersValid]
  | cons member rest ih => simp [MembersValid, ih, and_assoc]

@[simp]
theorem sameElements_iff : SameElements elements others ↔ List.Forall₂ Same elements others := by
  induction elements generalizing others with
  | nil => cases others <;> simp [SameElements]
  | cons element rest ih => cases others <;> simp [SameElements, ih]

@[simp]
theorem sameMembers_iff : SameMembers members shuffled ↔
    ∀ member ∈ members, ∃ other, (member.1, other) ∈ shuffled ∧ Same member.2 other := by
  induction members with
  | nil => simp [SameMembers]
  | cons member rest ih => simp [SameMembers, ih]

end Lists

theorem Value.nested {motive : Value → Prop} (null : motive .null)
    (boolean : ∀ value, motive (.boolean value)) (number : ∀ value, motive (.number value))
    (bigint : ∀ value, motive (.bigint value)) (string : ∀ units, motive (.string units))
    (array : ∀ elements, (∀ element ∈ elements, motive element) → motive (.array elements))
    (object : ∀ members, (∀ member ∈ members, motive member.2) → motive (.object members)) :
    (value : Value) → motive value
  | .null => null
  | .boolean value => boolean value
  | .number value => number value
  | .bigint value => bigint value
  | .string units => string units
  | .array elements => array elements fun element _ =>
    Value.nested null boolean number bigint string array object element
  | .object members => object members fun member _ =>
    Value.nested null boolean number bigint string array object member.2
termination_by value => sizeOf value
decreasing_by
  · rename_i inside
    have smaller := List.sizeOf_lt_of_mem inside
    simp only [Value.array.sizeOf_spec]
    omega
  · rename_i inside
    have smaller := List.sizeOf_lt_of_mem inside
    obtain ⟨key, value⟩ := member
    simp only [Value.object.sizeOf_spec, Prod.mk.sizeOf_spec] at *
    omega

theorem lexLe_iff (a b : Text) : lexLe a b = true ↔ a ≤ b := by
  induction a generalizing b with
  | nil =>
    simp only [lexLe, true_iff, ← not_lt]
    exact List.not_lt_nil _
  | cons unit rest ih =>
    cases b with
    | nil =>
      rw [← not_lt]
      simp [lexLe]
    | cons other others =>
      have later := ih others
      rw [← not_lt] at later ⊢
      simp only [lexLe, Bool.or_eq_true, decide_eq_true_eq, Bool.and_eq_true, beq_iff_eq, later,
        List.cons_lt_cons_iff]
      rcases lt_trichotomy unit other with less | rfl | more
      · simp [less, less.not_gt, less.ne']
      · simp
      · simp [more, more.not_gt, more.ne']

instance : Std.Total fun a b : Text => lexLe a b = true where
  total a b := by
    simp only [lexLe_iff]
    exact le_total a b

instance : IsTrans Text fun a b => lexLe a b = true where
  trans a b c := by
    simp only [lexLe_iff]
    exact le_trans

instance : Std.Antisymm fun a b : Text => lexLe a b = true where
  antisymm a b := by
    simp only [lexLe_iff]
    exact le_antisymm

-- What is left of minus zero once it has been written.
mutual

def settle : Value → Value
  | .number value => .number value.positiveZero
  | .array elements => .array (settleElements elements)
  | .object members => .object (settleMembers members)
  | .null => .null
  | .boolean value => .boolean value
  | .bigint value => .bigint value
  | .string units => .string units

def settleElements : List Value → List Value
  | [] => []
  | element :: rest => settle element :: settleElements rest

def settleMembers : List (Text × Value) → List (Text × Value)
  | [] => []
  | (key, value) :: rest => (key, settle value) :: settleMembers rest

end

@[simp]
theorem settleElements_eq (elements : List Value) :
    settleElements elements = elements.map settle := by
  induction elements with
  | nil => rfl
  | cons element rest ih => rw [settleElements, ih, List.map_cons]

@[simp]
theorem settleMembers_eq (members : List (Text × Value)) :
    settleMembers members = mapValues settle members := by
  induction members with
  | nil => rfl
  | cons member rest ih => rw [settleMembers, ih, mapValues, mapValues, List.map_cons]

abbrev ByKey (a b : Text) : Prop := lexLe a b = true

theorem sortKeys_array (elements : List Value) :
    sortKeys (.array elements) = .array (elements.map sortKeys) := by
  rw [sortKeys, sortElements_eq]

theorem sortKeys_object (members : List (Text × Value)) :
    sortKeys (.object members) = .object (arrange ByKey (mapValues sortKeys members)) := by
  rw [sortKeys, sortMembers_eq]

theorem settle_array (elements : List Value) :
    settle (.array elements) = .array (elements.map settle) := by
  rw [settle, settleElements_eq]

theorem settle_object (members : List (Text × Value)) :
    settle (.object members) = .object (mapValues settle members) := by
  rw [settle, settleMembers_eq]

def normal (value : Value) : Value := settle (sortKeys value)

theorem normal_array (elements : List Value) :
    normal (.array elements) = .array (elements.map normal) := by
  rw [normal, sortKeys_array, settle_array, List.map_map]
  rfl

theorem normal_object (members : List (Text × Value)) :
    normal (.object members) = .object (arrange ByKey (mapValues normal members)) := by
  rw [normal, sortKeys_object, settle_object, ← arrange_mapValues, mapValues_mapValues]
  rfl

theorem valid_array {elements : List Value} :
    Valid (.array elements) ↔ ∀ element ∈ elements, Valid element := by
  rw [Valid, elementsValid_iff]

theorem valid_object {members : List (Text × Value)} : Valid (.object members) ↔
    Ordered members ∧ ∀ member ∈ members, (∀ unit ∈ member.1, unit < 0x10000) ∧ Valid member.2 := by
  rw [Valid, membersValid_iff]

theorem free_array {elements : List Value} : bigintFree (.array elements) = true ↔
    ∀ element ∈ elements, bigintFree element = true := by
  rw [bigintFree, elementsFree_eq, List.all_eq_true]

theorem free_object {members : List (Text × Value)} : bigintFree (.object members) = true ↔
    ∀ member ∈ members, bigintFree member.2 = true := by
  rw [bigintFree, membersFree_eq, List.all_eq_true]

theorem tree_array (elements : List Value) : tree (.array elements) = .arr (elements.map tree) := by
  rw [tree, elementTrees_eq]

theorem tree_object (members : List (Text × Value)) : tree (.object members) =
    .obj (members.map fun member => (escape member.1, tree member.2)) := by
  rw [tree, memberTrees_eq]

section Members

variable {elements others : List Value} {members shuffled : List (Text × Value)}

theorem sameElements_normal (each : ∀ element ∈ elements, ∀ other ∈ others,
    (Same element other ↔ normal element = normal other)) :
    List.Forall₂ Same elements others ↔ elements.map normal = others.map normal := by
  induction elements generalizing others with
  | nil => cases others <;> simp
  | cons element rest ih =>
    cases others with
    | nil => simp
    | cons other more =>
      have first := each element List.mem_cons_self other List.mem_cons_self
      have later := ih fun inner inside other inside' =>
        each inner (List.mem_cons_of_mem _ inside) other (List.mem_cons_of_mem _ inside')
      simp [first, later]

theorem sameMembers_normal (distinct : (keys members).Nodup) (distinct' : (keys shuffled).Nodup)
    (each : ∀ member ∈ members, ∀ other ∈ shuffled,
      (Same member.2 other.2 ↔ normal member.2 = normal other.2)) :
    (members.length = shuffled.length ∧ ∀ member ∈ members,
      ∃ other, (member.1, other) ∈ shuffled ∧ Same member.2 other) ↔
    arrange ByKey (mapValues normal members) = arrange ByKey (mapValues normal shuffled) := by
  rw [arrange_eq_iff (by rwa [keys_mapValues]) (by rwa [keys_mapValues])]
  refine and_congr (by simp [mapValues]) ?_
  constructor
  · intro found entry inside
    obtain ⟨key, value⟩ := entry
    obtain ⟨before, member, rfl⟩ := mem_mapValues.mp inside
    obtain ⟨other, inOther, same⟩ := found (key, before) member
    exact mem_mapValues.mpr ⟨other, inOther, ((each _ member _ inOther).mp same).symm⟩
  · intro subset member inside
    obtain ⟨key, value⟩ := member
    obtain ⟨other, inOther, same⟩ := mem_mapValues.mp
      (subset (mem_mapValues.mpr ⟨value, inside, rfl⟩))
    exact ⟨other, inOther, (each _ inside _ inOther).mpr same.symm⟩

end Members

theorem same_iff {value other : Value} (valid : Valid value) (valid' : Valid other)
    (free : bigintFree value = true) (free' : bigintFree other = true) :
    Same value other ↔ normal value = normal other := by
  induction value using Value.nested generalizing other with
  | null => cases other <;> simp_all [Same, normal, sortKeys, settle, bigintFree]
  | boolean value => cases other <;> simp_all [Same, normal, sortKeys, settle, bigintFree]
  | number value =>
    cases other <;> simp_all [Same, normal, sortKeys, settle, bigintFree, Number.strictEq_iff]
  | bigint value => cases free
  | string units => cases other <;> simp_all [Same, normal, sortKeys, settle, bigintFree]
  | array elements ih =>
    cases other with
    | array others =>
      rw [valid_array] at valid valid'
      rw [free_array] at free free'
      rw [Same, sameElements_iff, normal_array, normal_array, Value.array.injEq]
      apply sameElements_normal
      intro element inside other inside'
      exact ih element inside (valid _ inside) (valid' _ inside') (free _ inside) (free' _ inside')
    | bigint => cases free'
    | _ => simp [Same, normal, sortKeys, settle]
  | object members ih =>
    cases other with
    | object shuffled =>
      rw [valid_object] at valid valid'
      rw [free_object] at free free'
      rw [Same, sameMembers_iff, normal_object, normal_object, Value.object.injEq]
      apply sameMembers_normal valid.1.nodup valid'.1.nodup
      intro member inside other inside'
      exact ih member inside (valid.2 _ inside).2 (valid'.2 _ inside').2 (free _ inside)
        (free' _ inside')
    | bigint => cases free'
    | _ => simp [Same, normal, sortKeys, settle]

theorem unescape_plain {unit : ℕ} (plain : unit ≠ 92) (rest : Text) :
    unescape (unit :: rest) = unit :: unescape rest := by
  rw [unescape]
  · rintro a b c d more rfl
    exact absurd rfl plain
  · rintro letter more rfl
    exact absurd rfl plain

theorem unescape_of_plain {raw : Text} (plain : Json.PlainString raw) : unescape raw = raw := by
  induction raw with
  | nil => rfl
  | cons unit rest ih =>
    rw [Json.PlainString, List.forall_mem_cons] at plain
    rw [unescape_plain plain.1.2.2.2, ih plain.2]

theorem unescape_letter {letter : ℕ} (other : letter ≠ 117) (rest : Text) :
    unescape (92 :: letter :: rest) = Extension.escaped letter :: unescape rest := by
  rw [unescape]
  rintro a b c d more rfl
  exact absurd rfl other

theorem unescape_unicode {unit : ℕ} (small : unit < 0x10000) (rest : Text) :
    unescape (unicodeEscape unit ++ rest) = unit :: unescape rest := by
  have value : Extension.hexUnit (Hex.digit (unit / 4096)) (Hex.digit (unit / 256 % 16))
      (Hex.digit (unit / 16 % 16)) (Hex.digit (unit % 16)) = unit := by
    simp only [Extension.hexUnit, List.foldl_cons, List.foldl_nil,
      Hex.value?_digit _ (show unit / 4096 < 16 by omega),
      Hex.value?_digit _ (show unit / 256 % 16 < 16 by omega),
      Hex.value?_digit _ (show unit / 16 % 16 < 16 by omega),
      Hex.value?_digit _ (show unit % 16 < 16 by omega), Option.getD_some]
    omega
  have spelled : unicodeEscape unit ++ rest = 92 :: 117 :: Hex.digit (unit / 4096) ::
      Hex.digit (unit / 256 % 16) :: Hex.digit (unit / 16 % 16) :: Hex.digit (unit % 16) :: rest :=
    rfl
  rw [spelled, unescape, value]

theorem unescape_escapeUnit {unit : ℕ} (small : unit < 0x10000) (rest : Text) :
    unescape (escapeUnit unit ++ rest) = unit :: unescape rest := by
  unfold escapeUnit
  split_ifs with quote back tab line feed carriage code
  · rcases quote with rfl | rfl <;> exact unescape_letter (by decide) rest
  · exact back ▸ unescape_letter (by decide) rest
  · exact tab ▸ unescape_letter (by decide) rest
  · exact line ▸ unescape_letter (by decide) rest
  · exact feed ▸ unescape_letter (by decide) rest
  · exact carriage ▸ unescape_letter (by decide) rest
  · exact unescape_unicode small rest
  · exact unescape_plain (by omega) rest

theorem unescape_escape {units : Text} (small : ∀ unit ∈ units, unit < 0x10000) :
    unescape (escape units) = units := by
  induction units using escape.induct with
  | case1 => rfl
  | case2 unit =>
    have single := unescape_escapeUnit (small unit List.mem_cons_self) []
    rwa [List.append_nil] at single
  | case3 high low rest pair ih =>
    have later := ih fun unit member =>
      small unit (List.mem_cons_of_mem _ (List.mem_cons_of_mem _ member))
    rw [escape, if_pos pair, unescape_plain (by omega), unescape_plain (by omega), later]
  | case4 high low rest other ih =>
    have later := ih fun unit member => small unit (List.mem_cons_of_mem _ member)
    rw [escape, if_neg other, unescape_escapeUnit (small high List.mem_cons_self), later]

theorem rawString_escape {units : Text} (small : ∀ unit ∈ units, unit < 0x10000) :
    Json.RawString (escape units) := by
  have single {unit : ℕ} (small : unit < 0x10000) : Passes (escapeUnit unit) := by
    rcases escapeUnit_cases small with escaped | ⟨itself, visible, quote, slash, -⟩
    · exact escaped.passes
    · rw [itself]
      apply Json.passes_plain
      intro code member
      cases List.mem_singleton.mp member
      exact ⟨visible, quote, slash⟩
  suffices passes : Passes (escape units) from passes.rawString
  induction units using escape.induct with
  | case1 => exact Json.passes_plain fun code member => absurd member List.not_mem_nil
  | case2 unit => exact single (small unit List.mem_cons_self)
  | case3 high low rest pair ih =>
    have later := ih fun unit member =>
      small unit (List.mem_cons_of_mem _ (List.mem_cons_of_mem _ member))
    have both : Passes [high, low] := by
      apply Json.passes_plain
      intro code member
      simp only [List.mem_cons, List.not_mem_nil, or_false] at member
      omega
    rw [escape, if_pos pair]
    exact both.append later
  | case4 high low rest other ih =>
    have later := ih fun unit member => small unit (List.mem_cons_of_mem _ member)
    rw [escape, if_neg other]
    exact (single (small high List.mem_cons_self)).append later

theorem settleText (value : ℤ) : ∀ unit ∈ bigintText value, unit < 0x10000 := by
  intro unit member
  rcases List.mem_append.mp member with sign | digit
  · split_ifs at sign
    · cases List.mem_singleton.mp sign
      decide
    · cases sign
  · have range := decimal_digit digit
    omega

-- What a sorted object holds is what the object held, sorted.
theorem mem_sorted {members : List (Text × Value)} {key : Text} {value : Value}
    (inside : (key, value) ∈ arrange ByKey (mapValues sortKeys members)) :
    ∃ before, (key, before) ∈ members ∧ sortKeys before = value :=
  mem_mapValues.mp (arrange_subset ByKey _ inside)

theorem valid_sortKeys {value : Value} (valid : Valid value) : Valid (sortKeys value) := by
  induction value using Value.nested with
  | null | boolean | number | string => exact valid
  | bigint value => exact settleText value
  | array elements ih =>
    rw [valid_array] at valid
    rw [sortKeys_array, valid_array]
    intro element inside
    obtain ⟨before, member, rfl⟩ := List.mem_map.mp inside
    exact ih before member (valid before member)
  | object members ih =>
    rw [valid_object] at valid
    have distinct : (keys (mapValues sortKeys members)).Nodup := by
      rw [keys_mapValues]
      exact valid.1.nodup
    rw [sortKeys_object, valid_object]
    refine ⟨arrange_ordered ByKey distinct, fun entry inside => ?_⟩
    obtain ⟨key, value⟩ := entry
    obtain ⟨before, member, rfl⟩ := mem_sorted inside
    exact ⟨(valid.2 _ member).1, ih _ member (valid.2 _ member).2⟩

theorem free_sortKeys (value : Value) : bigintFree (sortKeys value) = true := by
  induction value using Value.nested with
  | null | boolean | number | string | bigint => rfl
  | array elements ih =>
    rw [sortKeys_array, free_array]
    intro element inside
    obtain ⟨before, member, rfl⟩ := List.mem_map.mp inside
    exact ih before member
  | object members ih =>
    rw [sortKeys_object, free_object]
    intro entry inside
    obtain ⟨key, value⟩ := entry
    obtain ⟨before, member, rfl⟩ := mem_sorted inside
    exact ih _ member

theorem sortKeys_normal {value : Value} (valid : Valid value) :
    sortKeys (normal value) = normal value := by
  induction value using Value.nested with
  | null | boolean | number | string | bigint => rfl
  | array elements ih =>
    rw [valid_array] at valid
    rw [normal_array, sortKeys_array, List.map_map]
    congr 1
    exact List.map_congr_left fun element inside => ih element inside (valid element inside)
  | object members ih =>
    rw [valid_object] at valid
    have again : mapValues (sortKeys ∘ normal) members = mapValues normal members :=
      mapValues_congr fun member inside => ih member inside (valid.2 member inside).2
    have distinct : (keys (mapValues normal members)).Nodup := by
      rw [keys_mapValues]
      exact valid.1.nodup
    rw [normal_object, sortKeys_object, ← arrange_mapValues, mapValues_mapValues, again,
      arrange_arrange distinct]

theorem tree_settle (value : Value) : tree (settle value) = tree value := by
  induction value using Value.nested with
  | null | boolean | string | bigint => rfl
  | number value =>
    cases value with
    | infinite => rfl
    | finite negative magnitude =>
      exact congrArg Json.num (Number.toText_positiveZero (.finite negative magnitude))
  | array elements ih =>
    rw [settle_array, tree_array, tree_array, List.map_map]
    congr 1
    exact List.map_congr_left ih
  | object members ih =>
    rw [settle_object, tree_object, tree_object, mapValues, List.map_map]
    congr 1
    refine List.map_congr_left fun member inside => ?_
    simp only [Function.comp_apply, ih member inside]

theorem free_settle (value : Value) : bigintFree (settle value) = bigintFree value := by
  induction value using Value.nested with
  | null | boolean | number | string | bigint => rfl
  | array elements ih =>
    rw [Bool.eq_iff_iff, settle_array, free_array, free_array, List.forall_mem_map]
    exact forall₂_congr fun element inside => by rw [ih element inside]
  | object members ih =>
    rw [Bool.eq_iff_iff, settle_object, free_object, free_object, mapValues, List.forall_mem_map]
    exact forall₂_congr fun member inside => by rw [ih member inside]

theorem stringify_settle (value : Value) : stringify (settle value) = stringify value := by
  rw [stringify, stringify, tree_settle, free_settle]

theorem valid_settle {value : Value} (valid : Valid value) : Valid (settle value) := by
  induction value using Value.nested with
  | null | boolean | string | bigint => exact valid
  | number value =>
    cases value with
    | infinite => exact valid
    | finite => trivial
  | array elements ih =>
    rw [valid_array] at valid
    rw [settle_array, valid_array]
    intro element inside
    obtain ⟨before, member, rfl⟩ := List.mem_map.mp inside
    exact ih before member (valid before member)
  | object members ih =>
    rw [valid_object] at valid
    rw [settle_object, valid_object]
    refine ⟨valid.1.mapValues settle, fun entry inside => ?_⟩
    obtain ⟨key, value⟩ := entry
    obtain ⟨before, member, rfl⟩ := mem_mapValues.mp inside
    exact ⟨(valid.2 _ member).1, ih _ member (valid.2 _ member).2⟩

theorem revive_tree {value : Value} (valid : Valid value) (free : bigintFree value = true) :
    revive (tree value) = settle value := by
  induction value using Value.nested with
  | null | boolean => rfl
  | number value =>
    cases value with
    | infinite => exact valid.elim
    | finite negative magnitude =>
      exact congrArg Value.number (Number.toNumber_toText negative magnitude)
  | bigint => cases free
  | string units => exact congrArg Value.string (unescape_escape valid)
  | array elements ih =>
    rw [valid_array] at valid
    rw [free_array] at free
    rw [tree_array, revive, reviveElements_eq, List.map_map, settle_array]
    congr 1
    exact List.map_congr_left fun element inside =>
      ih element inside (valid element inside) (free element inside)
  | object members ih =>
    rw [valid_object] at valid
    rw [free_object] at free
    have read : reviveMembers (members.map fun member => (escape member.1, tree member.2)) =
        mapValues settle members := by
      rw [reviveMembers_eq, List.map_map]
      refine List.map_congr_left fun member inside => ?_
      have key := unescape_escape (valid.2 member inside).1
      have value := ih member inside (valid.2 member inside).2 (free member inside)
      simp only [Function.comp_apply, key, value]
    rw [tree_object, revive, read, fromEntries_of_ordered (valid.1.mapValues settle), settle_object]

theorem wellFormed_tree {value : Value} (valid : Valid value) : (tree value).WellFormed := by
  induction value using Value.nested with
  | null | boolean | bigint => trivial
  | number value =>
    cases value with
    | infinite => trivial
    | finite negative magnitude => exact Number.rawNumber_toText negative magnitude
  | string units => exact rawString_escape valid
  | array elements ih =>
    rw [valid_array] at valid
    rw [tree_array, Json.WellFormed, Json.elementsFormed_iff]
    intro element inside
    obtain ⟨before, member, rfl⟩ := List.mem_map.mp inside
    exact ih before member (valid before member)
  | object members ih =>
    rw [valid_object] at valid
    rw [tree_object, Json.WellFormed, Json.membersFormed_iff]
    intro entry inside
    obtain ⟨before, member, rfl⟩ := List.mem_map.mp inside
    exact ⟨rawString_escape (valid.2 before member).1, ih before member (valid.2 before member).2⟩

section Canonical

variable {value other : Value}

-- There is no bigint left to throw on.
theorem canonicalize_eq (value : Value) :
    canonicalize value = some (tree (sortKeys value)).render := by
  rw [canonicalize, stringify, if_pos (free_sortKeys value)]

theorem parse_canonicalize (valid : Valid value) :
    parse (tree (sortKeys value)).render = some (normal value) := by
  have sorted := valid_sortKeys valid
  rw [parse, Json.parse_render _ (wellFormed_tree sorted), Option.map_some,
    revive_tree sorted (free_sortKeys value)]
  rfl

theorem canonicalize_normal (valid : Valid value) :
    canonicalize (normal value) = canonicalize value := by
  rw [canonicalize, sortKeys_normal valid]
  exact stringify_settle (sortKeys value)

theorem canonicalize_eq_iff (valid : Valid value) (valid' : Valid other) :
    canonicalize value = canonicalize other ↔ normal value = normal other := by
  constructor
  · intro same
    rw [canonicalize_eq, canonicalize_eq, Option.some.injEq] at same
    have read := parse_canonicalize valid
    rw [same, parse_canonicalize valid', Option.some.injEq] at read
    exact read.symm
  · intro same
    rw [← canonicalize_normal valid, same, canonicalize_normal valid']

theorem valid_normal (valid : Valid value) : Valid (normal value) :=
  valid_settle (valid_sortKeys valid)

theorem free_normal (value : Value) : bigintFree (normal value) = true := by
  rw [normal, free_settle, free_sortKeys]

theorem normal_normal (valid : Valid value) : normal (normal value) = normal value :=
  (canonicalize_eq_iff (valid_normal valid) valid).mp (canonicalize_normal valid)

/-- One string for all the values that differ in the order of keys alone, which is read back as one
of them; bigints come back as their digits, and stay so. -/
theorem canonicalize_canonical (valid : Valid value) (valid' : Valid other) :
    (bigintFree value = true → bigintFree other = true →
      (canonicalize value = canonicalize other ↔ Same value other)) ∧
    ∃ written back, canonicalize value = some written ∧ parse written = some back ∧
      canonicalize back = some written ∧ (bigintFree value = true → Same back value) := by
  constructor
  · intro free free'
    rw [canonicalize_eq_iff valid valid', same_iff valid valid' free free']
  · have written := canonicalize_eq value
    refine ⟨_, normal value, written, parse_canonicalize valid, ?_, fun free => ?_⟩
    · rw [canonicalize_normal valid, written]
    · rw [same_iff (valid_normal valid) valid (free_normal value) free]
      exact normal_normal valid

end Canonical

def zero (negative : Bool) : Value := .number (.finite negative ⟨0, Double.representable_zero⟩)

-- The last two keys may come in either order; 2 comes before 10 in any object.
def sample (last : List (Text × Value)) (negative : Bool) : Value :=
  .object ((text "2", zero negative) :: (text "10", .array [.null, .boolean true]) :: last)

def quoted : Text × Value := (text "b", .string [0xd800, 34])

def listed : Text × Value := (text "a", .array [])

example : canonicalize (sample [quoted, listed] true) =
    some (text "\x7b\"2\":0,\"10\":[null,true],\"a\":[],\"b\":\"\\ud800\\\"\"\x7d") := by
  decide +kernel

theorem sample_valid (last : List (Text × Value)) (negative : Bool)
    (two : last = [quoted, listed] ∨ last = [listed, quoted]) : Valid (sample last negative) := by
  have small : ∀ unit ∈ [0xd800, 34], unit < 0x10000 := by decide
  have list : ElementsValid [.null, .boolean true] := ⟨trivial, trivial, trivial⟩
  rcases two with rfl | rfl <;> refine ⟨⟨?_, ?_⟩, ?_⟩
  · cases negative <;> decide +kernel
  · cases negative <;> decide +kernel
  · exact ⟨by decide, trivial, by decide, list, by decide, small, by decide, trivial, trivial⟩
  · cases negative <;> decide +kernel
  · cases negative <;> decide +kernel
  · exact ⟨by decide, trivial, by decide, list, by decide, trivial, by decide, small, trivial⟩

theorem sample_canonical :
    canonicalize (sample [quoted, listed] true) = canonicalize (sample [listed, quoted] false) := by
  have first := sample_valid [quoted, listed] true (.inl rfl)
  have second := sample_valid [listed, quoted] false (.inr rfl)
  apply ((canonicalize_canonical first second).1 rfl rfl).mpr
  exact ⟨rfl, ⟨zero false, .head _, rfl, .inl rfl⟩,
    ⟨.array [.null, .boolean true], .tail _ (.head _), trivial, rfl, trivial⟩,
    ⟨quoted.2, .tail _ (.tail _ (.tail _ (.head _))), rfl⟩,
    ⟨listed.2, .tail _ (.tail _ (.head _)), trivial⟩, trivial⟩

def shareValue (share : EnclaveShare) : Value :=
  .object [(text "recipient", .string share.recipient),
    (text "shareBps", .number (.ofNat share.shareBps))]

def configValue (config : EnclaveConfig) : Value :=
  .object [(text "salt", .string config.salt),
    (text "shares", .array (config.shares.map shareValue))]

theorem arrange_pair {first second : Text} (apart : first ≠ second) (sorted : ByKey first second)
    (after : goesBefore second first = false) (one two : Value) :
    arrange ByKey [(first, one), (second, two)] = [(first, one), (second, two)] := by
  have order : [(first, one), (second, two)].insertionSort (fun a b => ByKey a.1 b.1) =
      [(first, one), (second, two)] := List.Pairwise.insertionSort_eq (by simpa using sorted)
  simp [arrange, order, fromEntries, setProperty, apart, after]

theorem tree_shareValue {share : EnclaveShare} (small : share.shareBps < 2 ^ 53) :
    tree (sortKeys (shareValue share)) = Policy.sortKeys share.json := by
  have arranged := @arrange_pair (text "recipient") (text "shareBps") (by decide) (by decide)
    (by decide +kernel)
  have digits := Number.toText_natCast small
  simp only [shareValue, sortKeys_object, mapValues, List.map_cons, List.map_nil, sortKeys,
    arranged, tree_object, tree, Number.ofNat_eq small, digits]
  rfl

theorem canonicalize_configValue {config : EnclaveConfig}
    (small : ∀ share ∈ config.shares, share.shareBps < 2 ^ 53) :
    canonicalize (configValue config) = some (Policy.canonicalize config.json) := by
  have arranged := @arrange_pair (text "salt") (text "shares") (by decide) (by decide)
    (by decide +kernel)
  have shares : (config.shares.map shareValue).map (tree ∘ sortKeys) =
      Policy.sortElements (config.shares.map EnclaveShare.json) := by
    obtain ⟨salt, shares⟩ := config
    induction shares with
    | nil => rfl
    | cons share rest ih =>
      have first := tree_shareValue (small share List.mem_cons_self)
      have later := ih fun other inside => small other (List.mem_cons_of_mem _ inside)
      simp only [List.map_cons, Policy.sortElements, Function.comp_apply, first, later]
  rw [canonicalize_eq, Policy.canonicalize]
  simp only [configValue, sortKeys_object, mapValues, List.map_cons, List.map_nil, sortKeys,
    sortElements_eq, arranged, tree_object, tree, elementTrees_eq, List.map_map]
  rw [← Function.comp_assoc, ← List.map_map, shares]
  rfl

theorem canonicalize_compiled {viem : Viem} {input : JsValue} {salt : Text}
    {compiled : CompiledPolicy} (accepted : compile viem input salt = .ok compiled) :
    canonicalize (configValue compiled.enclaveConfig) = some compiled.plaintext := by
  obtain ⟨ir, -, -, compiles⟩ := compile_compiles accepted
  rw [compiles.plaintext]
  apply canonicalize_configValue
  rw [compiles.enclaveConfig, enclaveShares, compiles.recipients, List.map_map]
  intro share inside
  obtain ⟨recipient, -, rfl⟩ := List.mem_map.mp inside
  exact recipient.shareBps.property.2.trans_lt (by decide)

end FlareStudio.Policy.Canonical
