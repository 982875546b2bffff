import Mathlib

set_option autoImplicit false

namespace FlareStudio.Keyed

variable {α κ τ : Type} [DecidableEq κ] [DecidableEq τ] (key : α → κ) (tag : α → τ)

def put (entry : α) (list : List α) : List α :=
  list.filter (fun found => key found ≠ key entry) ++ [entry]

def withKey (k : κ) (list : List α) : List α := list.filter fun entry => key entry = k

def latest (k : κ) (history : List α) : Option α :=
  history.reverse.find? fun entry => key entry = k

def Distinct (list : List α) : Prop := list.Pairwise fun earlier later => key earlier ≠ key later

/-- Of each key, what was written last and nothing else. -/
def Represents (history list : List α) : Prop :=
  ∀ k, withKey key k list = (latest key k history).toList

variable {key tag} {history list entries : List α} {entry : α} {k : κ}

theorem withKey_put : withKey key k (put key entry list) =
    if key entry = k then [entry] else withKey key k list := by
  rw [withKey, put, List.filter_append, List.filter_filter]
  split
  · rename_i same
    have empty : list.filter (fun found => decide (key found = k) &&
        decide (key found ≠ key entry)) = [] := by
      rw [List.filter_eq_nil_iff]
      intro found _
      simp [same]
    rw [empty]
    simp [same]
  · rename_i other
    have all : list.filter (fun found => decide (key found = k) &&
        decide (key found ≠ key entry)) = withKey key k list := by
      apply List.filter_congr
      intro found _
      by_cases same : key found = k
      · simp [same, Ne.symm other]
      · simp [same]
    rw [all]
    simp [other]

theorem latest_append : latest key k (history ++ [entry]) =
    if key entry = k then some entry else latest key k history := by
  rw [latest, List.reverse_append, List.reverse_singleton, List.singleton_append, List.find?_cons]
  by_cases same : key entry = k
  · simp [same]
  · simp [same, latest]

theorem key_of_latest (found : latest key k history = some entry) : key entry = k := by
  simpa using List.find?_some found

theorem mem_of_latest (found : latest key k history = some entry) : entry ∈ history := by
  simpa using List.mem_of_find?_eq_some found

theorem exists_latest (inside : entry ∈ history) :
    ∃ found, latest key (key entry) history = some found := by
  have present : (latest key (key entry) history).isSome = true := by
    rw [latest, List.find?_isSome]
    exact ⟨entry, List.mem_reverse.mpr inside, by simp⟩
  exact Option.isSome_iff_exists.mp present

theorem represents_self (distinct : Distinct key list) : Represents key list list := by
  intro k
  induction list using List.reverseRecOn with
  | nil => rfl
  | append_singleton list entry ih =>
    rw [Distinct, List.pairwise_append] at distinct
    obtain ⟨before, -, apart⟩ := distinct
    rw [latest_append, withKey, List.filter_append]
    by_cases same : key entry = k
    · have empty : list.filter (fun found => key found = k) = [] := by
        rw [List.filter_eq_nil_iff]
        intro found inside
        simpa [same] using apart found inside entry List.mem_cons_self
      rw [empty, if_pos same]
      simp [same]
    · rw [if_neg same, ← ih before]
      simp [same, withKey]

theorem Represents.put (represents : Represents key history list) (entry : α) :
    Represents key (history ++ [entry]) (put key entry list) := by
  intro k
  rw [withKey_put, latest_append]
  split
  · rfl
  · exact represents k

theorem Represents.find (represents : Represents key history list) (k : κ) :
    list.find? (fun entry => key entry = k) = latest key k history := by
  rw [← List.head?_filter]
  change (withKey key k list).head? = _
  rw [represents k]
  cases latest key k history <;> rfl

theorem Represents.mem (represents : Represents key history list) :
    entry ∈ list ↔ latest key (key entry) history = some entry := by
  have inside : entry ∈ list ↔ entry ∈ withKey key (key entry) list := by simp [withKey]
  rw [inside, represents, Option.mem_toList]

section Finer

variable (key tag) in
def finer (entry : α) : τ × κ := (tag entry, key entry)

theorem latest_of_finer {t : τ} (agree : ∀ first ∈ history, ∀ second ∈ history,
    key first = key second → tag first = tag second)
    (found : latest (finer key tag) (t, k) history = some entry) :
    latest key k history = some entry := by
  induction history using List.reverseRecOn with
  | nil => cases found
  | append_singleton history last ih =>
    have known := key_of_latest found
    have tagged : tag entry = t := congrArg Prod.fst known
    have keyed : key entry = k := congrArg Prod.snd known
    have inside := mem_of_latest found
    rw [latest_append] at found ⊢
    by_cases same : key last = k
    · have tags := agree last (by simp) entry inside (same.trans (Prod.mk.inj known).2.symm)
      have whole : finer key tag last = (t, k) := by
        rw [finer, tags, same, tagged]
      rw [if_pos whole] at found
      rwa [if_pos same]
    · have apart : finer key tag last ≠ (t, k) := fun whole => same (congrArg Prod.snd whole)
      rw [if_neg apart] at found
      rw [if_neg same]
      exact ih (fun first left second right => agree first (List.mem_append_left _ left) second
        (List.mem_append_left _ right)) found

theorem latest_finer_iff :
    (∀ t k entry, latest (finer key tag) (t, k) history = some entry →
      latest key k history = some entry) ↔
      ∀ first ∈ history, ∀ second ∈ history, key first = key second → tag first = tag second := by
  constructor
  · intro refines first inside second inside' same
    obtain ⟨x, left⟩ := @exists_latest _ _ _ (finer key tag) _ _ inside
    obtain ⟨y, right⟩ := @exists_latest _ _ _ (finer key tag) _ _ inside'
    have one := refines _ _ _ left
    have two := refines _ _ _ right
    rw [same, two, Option.some.injEq] at one
    have tags : tag x = tag first := congrArg Prod.fst (key_of_latest left)
    have tags' : tag y = tag second := congrArg Prod.fst (key_of_latest right)
    rw [← tags, ← tags', one]
  · intro agree t k entry found
    exact latest_of_finer agree found

end Finer

end FlareStudio.Keyed
