import Mathlib

set_option autoImplicit false

namespace FlareStudio.Rooted

variable {V A : Type}

/-- Every vertex but the root has a parent among them, of a lower rank. -/
structure Tree (root : V) (rest : List V) (parent : V → V) (rank : V → Nat) : Prop where
  nodup : (root :: rest).Nodup
  closed : ∀ vertex ∈ rest, parent vertex ∈ root :: rest
  lower : ∀ vertex ∈ rest, rank (parent vertex) < rank vertex

variable {root : V} {rest : List V} {parent : V → V} {rank : V → Nat}

theorem Tree.reachable (tree : Tree root rest parent rank) {vertex : V}
    (inside : vertex ∈ root :: rest) :
    Relation.ReflTransGen (fun source target => target ∈ rest ∧ parent target = source) root
      vertex := by
  induction height : rank vertex using Nat.strong_induction_on generalizing vertex with
  | _ height ih =>
    rcases List.mem_cons.mp inside with rfl | later
    · exact .refl
    · have lower := tree.lower vertex later
      rw [height] at lower
      exact (ih _ lower (tree.closed vertex later) rfl).tail ⟨later, rfl⟩

theorem Tree.targets_nodup (tree : Tree root rest parent rank) {name : V → A}
    (injective : Function.Injective name) : (rest.map name).Nodup :=
  (List.nodup_cons.mp tree.nodup).2.map injective

theorem Tree.incoming [BEq A] [LawfulBEq A] (tree : Tree root rest parent rank) {name : V → A}
    (injective : Function.Injective name) {vertex : V} (inside : vertex ∈ root :: rest)
    (other : vertex ≠ root) : (rest.map name).count (name vertex) = 1 := by
  have later : vertex ∈ rest := (List.mem_cons.mp inside).resolve_left other
  exact List.count_eq_one_of_mem (tree.targets_nodup injective) (List.mem_map_of_mem later)

end FlareStudio.Rooted
