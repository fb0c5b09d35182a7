import Mathlib.Data.List.Sort
import Mathlib.Data.String.Basic
import SkyCatalog.Catalog.Ledger

/-!
# The indexes — what one insertion does to each of them

The catalog keeps its indexes by small updates: a name goes to its place among the names, a
handle to the end of a list of children, a pair to the front of a table. Here each update is
described by what the index answers afterwards, so that nothing later has to look into it.
-/

namespace SkyCatalog

/-! ## §1  Names in order -/

theorem insertName_perm (name : String) : ∀ ns : List String,
    (insertName name ns).Perm (name :: ns)
  | [] => .refl _
  | n :: ns => by
      unfold insertName
      by_cases h : name < n
      · rw [if_pos h]
      · rw [if_neg h]
        exact ((insertName_perm name ns).cons n).trans (.swap name n ns)

theorem mem_insertName {name m : String} {ns : List String} :
    m ∈ insertName name ns ↔ m = name ∨ m ∈ ns := by
  rw [(insertName_perm name ns).mem_iff, List.mem_cons]

theorem insertName_sorted {name : String} : ∀ {ns : List String},
    ns.Pairwise (· ≤ ·) → (insertName name ns).Pairwise (· ≤ ·)
  | [], _ => List.pairwise_singleton _ _
  | n :: ns, hs => by
      obtain ⟨hn, hns⟩ := List.pairwise_cons.mp hs
      unfold insertName
      by_cases h : name < n
      · rw [if_pos h]
        refine List.pairwise_cons.mpr ⟨?_, hs⟩
        intro m hm
        rcases List.mem_cons.mp hm with rfl | hm
        · exact le_of_lt h
        · exact le_trans (le_of_lt h) (hn m hm)
      · rw [if_neg h]
        refine List.pairwise_cons.mpr ⟨?_, insertName_sorted hns⟩
        intro m hm
        rcases mem_insertName.mp hm with rfl | hm
        · exact not_lt.mp h
        · exact hn m hm

/-- Which of two names is put in its place first does not matter. -/
theorem insertName_comm {ns : List String} (sorted : ns.Pairwise (· ≤ ·)) (m n : String) :
    insertName m (insertName n ns) = insertName n (insertName m ns) := by
  have both : ∀ a b, (insertName a (insertName b ns)).Perm (a :: b :: ns) := fun a b =>
    (insertName_perm ..).trans ((insertName_perm ..).cons a)
  apply List.Perm.eq_of_pairwise (fun a b _ _ => le_antisymm)
    (insertName_sorted (insertName_sorted sorted)) (insertName_sorted (insertName_sorted sorted))
  exact (both m n).trans ((List.Perm.swap n m ns).trans (both n m).symm)

/-- Names sorted from scratch. -/
theorem sorted_mergeSort (ns : List String) :
    (ns.mergeSort fun a b => decide (a ≤ b)).Pairwise (· ≤ ·) :=
  List.pairwise_mergeSort' (· ≤ ·) ns

/-- **Insertion keeps up with sorting**: a name put in its place gives the list that sorting all
names anew would give. Sorted lists with the same members, as often, are equal. -/
theorem insertName_mergeSort (name : String) (ns : List String) :
    insertName name (ns.mergeSort fun a b => decide (a ≤ b)) =
      (ns ++ [name]).mergeSort fun a b => decide (a ≤ b) := by
  have new : (insertName name (ns.mergeSort fun a b => decide (a ≤ b))).Perm (name :: ns) :=
    (insertName_perm ..).trans ((List.mergeSort_perm ..).cons name)
  have snoc : (name :: ns).Perm (ns ++ [name]) := (List.perm_append_singleton name ns).symm
  refine List.Perm.eq_of_pairwise (fun a b _ _ => le_antisymm)
    (insertName_sorted (sorted_mergeSort ns)) (sorted_mergeSort _) ?_
  exact (new.trans snoc).trans (List.mergeSort_perm ..).symm

/-! ## §2  Links -/

theorem lookup_linkChild (parent child q : Nat) : ∀ links : List (Nat × List Nat),
    (linkChild parent child links).lookup q =
      if q = parent then some ((links.lookup q).getD [] ++ [child]) else links.lookup q
  | [] => by
      by_cases h : q = parent
      · simp [linkChild, h]
      · have h' : (q == parent) = false := by simpa using h
        simp [linkChild, List.lookup_cons, h, h']
  | (p, cs) :: rest => by
      unfold linkChild
      by_cases hp : p = parent
      · subst hp
        by_cases h : q = p
        · simp [h]
        · have h' : (q == p) = false := by simpa using h
          simp [List.lookup_cons, h, h']
      · rw [if_neg hp]
        by_cases h : q = p
        · subst h
          simp [hp]
        · have h' : (q == p) = false := by simpa using h
          simp only [List.lookup_cons, h']
          exact lookup_linkChild parent child q rest

theorem keys_linkChild (parent child : Nat) : ∀ links : List (Nat × List Nat),
    (linkChild parent child links).map (·.1) =
      if parent ∈ links.map (·.1) then links.map (·.1) else links.map (·.1) ++ [parent]
  | [] => by simp [linkChild]
  | (p, cs) :: rest => by
      unfold linkChild
      by_cases hp : p = parent
      · simp [hp]
      · have ih := keys_linkChild parent child rest
        rw [if_neg hp, List.map_cons, ih]
        by_cases h : parent ∈ rest.map (·.1)
        · rw [if_pos h, if_pos (by simp [h])]
          rfl
        · rw [if_neg h, if_neg (by simp [h, Ne.symm hp])]
          rfl

/-- A parent has one list of children. -/
theorem keys_linkChild_nodup {parent child : Nat} {links : List (Nat × List Nat)}
    (h : (links.map (·.1)).Nodup) : ((linkChild parent child links).map (·.1)).Nodup := by
  rw [keys_linkChild]
  by_cases hp : parent ∈ links.map (·.1)
  · rwa [if_pos hp]
  · rw [if_neg hp]
    exact h.append (List.nodup_singleton parent) (by simpa using hp)

/-- In a table with one entry for each key, looking up finds what the table holds. -/
theorem lookup_eq_some_iff_mem {α β : Type} [DecidableEq α] {k : α} {v : β} :
    ∀ {table : List (α × β)}, (table.map (·.1)).Nodup →
      (table.lookup k = some v ↔ (k, v) ∈ table)
  | [], _ => by simp
  | (k', v') :: rest, h => by
      obtain ⟨hk, hrest⟩ := List.nodup_cons.mp h
      by_cases e : k = k'
      · subst e
        have hnot : (k, v) ∉ rest := fun hm => hk (List.mem_map.mpr ⟨(k, v), hm, rfl⟩)
        simp [hnot, eq_comm]
      · have e' : (k == k') = false := by simpa using e
        rw [List.lookup_cons, e']
        simp only [List.mem_cons, Prod.mk.injEq, e, false_and, false_or]
        exact lookup_eq_some_iff_mem hrest

/-! ## §3  Places in a list -/

/-- What stands in a list with one more member at its end. -/
theorem getElem?_snoc {α : Type} {xs : List α} {x y : α} {i : Nat} :
    (xs ++ [x])[i]? = some y ↔ xs[i]? = some y ∨ (i = xs.length ∧ y = x) := by
  rcases Nat.lt_trichotomy i xs.length with h | rfl | h
  · rw [List.getElem?_append_left h]
    simp [Nat.ne_of_lt h]
  · simp [eq_comm]
  · have past : (xs ++ [x])[i]? = none := by
      refine List.getElem?_eq_none ?_
      rw [List.length_append, List.length_singleton]
      exact h
    have past' : xs[i]? = none := List.getElem?_eq_none (Nat.le_of_lt h)
    rw [past, past']
    simp [Nat.ne_of_gt h]

theorem lt_length_of_getElem? {α : Type} {xs : List α} {x : α} {i : Nat}
    (h : xs[i]? = some x) : i < xs.length :=
  (List.getElem?_eq_some_iff.mp h).1

end SkyCatalog
