import CompletionService.Json.Value
import Mathlib.Data.List.Nodup

/-!
# Objects by their keys

What a key has in the members of an object, after each operation on members, and the members that
are in order already (`Members.ofList_eq_self`). An object is overridden in two ways:
`Members.overlay` keeps its keys, `Members.override` has the keys of both.
-/

namespace CompletionService.Members

variable {members overrides overrides' : Members}

/-! ## Lists of members -/

/-- A member is found by its key, if no other has that key. -/
theorem get?_of_mem (hnames : (members.map (·.1)).Nodup) {m : String × Json} (h : m ∈ members) :
    members.get? m.1 = some m.2 := by
  obtain ⟨before, after, rfl⟩ := List.append_of_mem h
  rw [List.map_append, List.map_cons, List.nodup_append] at hnames
  refine List.lookup_eq_some_iff.mpr ⟨before, after, rfl, fun p hp => ?_⟩
  rw [bne_iff_ne]
  exact (hnames.2.2 _ (List.mem_map_of_mem hp) _ List.mem_cons_self).symm

/-- The first list is asked first. -/
theorem get?_append (members others : Members) (key : String) :
    Members.get? (members ++ others) key = (members.get? key).or (others.get? key) :=
  List.lookup_append

/-- Some keys are kept. -/
theorem get?_filter (keep : String → Bool) (members : Members) (key : String) :
    Members.get? (members.filter fun m => keep m.1) key =
      if keep key then members.get? key else none := by
  induction members with
  | nil => simp
  | cons m members ih =>
    obtain ⟨k, v⟩ := m
    by_cases heq : key = k
    · subst heq
      cases hkeep : keep key <;> simp [Members.get?_cons, hkeep, ih]
    · cases hkeep : keep k <;> simp [Members.get?_cons, hkeep, heq, ih]

/-- One key is taken out. -/
theorem get?_erase (members : Members) (erased key : String) :
    (members.erase erased).get? key = if key = erased then none else members.get? key := by
  rw [erase, get?_filter (· != erased)]
  by_cases h : key = erased <;> simp [h]

/-! ## Members in order -/

/-- A key before all others comes first. -/
theorem insertNew_of_lt {key : String} (h : ∀ m ∈ members, key < m.1) (value : Json) :
    insertNew key value members = (key, value) :: members := by
  cases members with
  | nil => rfl
  | cons m members =>
    obtain ⟨k, v⟩ := m
    rw [insertNew, if_pos (h (k, v) List.mem_cons_self)]

/-- Members whose keys ascend are in order already. -/
theorem ofList_eq_self (h : members.Pairwise (·.1 < ·.1)) : ofList members = members := by
  induction h with
  | nil => rfl
  | @cons m members hfirst _ ih =>
    obtain ⟨key, value⟩ := m
    rw [ofList] at ih ⊢
    rw [List.foldr_cons, ih]
    exact insertNew_of_lt hfirst value

/-! ## Overriding -/

/-- A member that is there has its override, or else the value it had. -/
theorem get?_overlay (members overrides : Members) (key : String) :
    (members.overlay overrides).get? key =
      (members.get? key).map fun value => (overrides.get? key).getD value := by
  induction members with
  | nil => rfl
  | cons m members ih =>
    obtain ⟨k, v⟩ := m
    rw [Members.overlay] at ih ⊢
    rw [List.map_cons, Members.get?_cons, Members.get?_cons, ih]
    split
    · rename_i heq
      rw [heq]
      rfl
    · rfl

/-- Only the overrides of the members that are there count. -/
theorem overlay_congr
    (h : ∀ p ∈ members, Members.get? overrides p.1 = Members.get? overrides' p.1) :
    Members.overlay members overrides = Members.overlay members overrides' := by
  refine List.map_congr_left fun p hp => ?_
  obtain ⟨key, value⟩ := p
  simp only [h (key, value) hp]

/-- The members of both, of which those of the second one count. -/
def override (members overrides : Members) : Members :=
  (members.filter fun m => (overrides.get? m.1).isNone) ++ overrides

/-- The second one is asked first. -/
theorem get?_override (members overrides : Members) (key : String) :
    (members.override overrides).get? key = (overrides.get? key).or (members.get? key) := by
  rw [override, get?_append, get?_filter fun k => (overrides.get? k).isNone]
  cases overrides.get? key <;> simp

end CompletionService.Members
