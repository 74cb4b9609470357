import CompletionService.Adapter
import Mathlib.Algebra.Group.Nat.Defs
import Mathlib.Data.List.Induction
import Mathlib.Data.List.Nodup
import Mathlib.Data.List.Perm.Subperm

/-!
# The numbers of adapters

A table is asked for one adapter after the other, in any order and with any names: those that are
declared, those without a path, those that nobody declared, and the empty one.

* `selects_iff` — what one call does: it selects an adapter that is declared with a path
  (`resolve_of_path`), or changes nothing (`resolve_of_not_selects`).
* `Ranked` — the invariant: the names that have a number are distinct, declared, and numbered from 1
  on in their order. **Step**: `Ranked.resolve`; **run**: `Ranked.after`.
* `adapter_numbers_are_ranks` — **a number is a rank**, after any calls to a fresh table.
-/

namespace CompletionService.AdapterTable

variable {t : AdapterTable} {seen : List String} {name path : String} {id : UInt32}
  {lora : LoraRequest}

/-! ## One call -/

/-- A name that has a number keeps the table as it is. -/
theorem number_of_some (h : t.id? name = some id) : t.number name = (id, t) := by
  simp only [number, h]

/-- A name without a number gets the next one. -/
theorem number_of_none (h : t.id? name = none) :
    t.number name = (t.nextId, { t with ids := t.ids ++ [(name, t.nextId)] }) := by
  simp only [number, h]

/-- Only numbers are given: what is declared stays. -/
theorem number_declared (t : AdapterTable) (name : String) :
    (t.number name).2.modelDir = t.modelDir ∧ (t.number name).2.paths = t.paths := by
  cases hid : t.id? name with
  | some id => simp only [number_of_some hid, and_self]
  | none => simp only [number_of_none hid, and_self]

/-- The number that is returned is the one that the name has from then on. -/
theorem id?_number (t : AdapterTable) (name : String) :
    (t.number name).2.id? name = some (t.number name).1 := by
  cases hid : t.id? name with
  | some id => rwa [number_of_some hid]
  | none =>
    rw [number_of_none hid, id?, List.lookup_append, ← id?, hid, Option.none_or,
      List.lookup_cons_self]

/-- A number that was given stays. -/
theorem id?_number_of_some (h : t.id? name = some id) (other : String) :
    (t.number other).2.id? name = some id := by
  cases hother : t.id? other with
  | some id' => rwa [number_of_some hother]
  | none => rw [number_of_none hother, id?, List.lookup_append, ← id?, h, Option.some_or]

/-- A name that is declared with a path selects its adapter, which has a number from then on. -/
theorem resolve_of_path (hname : name ≠ "") (hpath : t.path? name = some path) :
    t.resolve name =
      (.ok (some ⟨name, (t.number name).1, Path.join t.modelDir path⟩), (t.number name).2) := by
  rw [resolve, if_neg hname, hpath]
  simp only [(t.number_declared name).1]

/-- A call for this name selects an adapter. -/
def Selects (t : AdapterTable) (name : String) : Prop :=
  ∃ lora, (t.resolve name).1 = .ok (some lora)

/-- An adapter is selected by a name that is declared with a path, and by no other. -/
theorem selects_iff : t.Selects name ↔ name ≠ "" ∧ ∃ path, t.path? name = some path := by
  constructor
  · rintro ⟨lora, hok⟩
    by_cases hname : name = ""
    · simp [resolve, hname] at hok
    cases hpath : t.path? name with
    | none => simp [resolve, hname, hpath] at hok
    | some path => exact ⟨hname, path, rfl⟩
  · rintro ⟨hname, path, hpath⟩
    exact ⟨_, by rw [resolve_of_path hname hpath]⟩

instance (t : AdapterTable) (name : String) : Decidable (t.Selects name) :=
  decidable_of_iff (name ≠ "" ∧ (t.path? name).isSome) <| by
    rw [selects_iff, Option.isSome_iff_exists]

/-- A call that selects no adapter changes nothing. -/
theorem resolve_of_not_selects (h : ¬ t.Selects name) : (t.resolve name).2 = t := by
  by_cases hname : name = ""
  · simp [resolve, hname]
  cases hpath : t.path? name with
  | none => simp [resolve, hname, hpath]
  | some path => exact absurd (selects_iff.mpr ⟨hname, path, hpath⟩) h

/-- What a call does to the table: it gives a number, or nothing. -/
theorem resolve_snd (t : AdapterTable) (name : String) :
    (t.resolve name).2 = (t.number name).2 ∨ (t.resolve name).2 = t := by
  by_cases hselects : t.Selects name
  · obtain ⟨hname, path, hpath⟩ := selects_iff.mp hselects
    exact .inl (by rw [resolve_of_path hname hpath])
  · exact .inr (resolve_of_not_selects hselects)

/-! ## Calls one after the other -/

/-- The table after names were resolved one after the other. -/
def after (t : AdapterTable) (names : List String) : AdapterTable :=
  names.foldl (fun t name => (t.resolve name).2) t

/-- The names that selected an adapter when they were resolved one after the other. -/
def selected (t : AdapterTable) : List String → List String
  | [] => []
  | name :: rest =>
    if t.Selects name then name :: selected (t.resolve name).2 rest
    else selected (t.resolve name).2 rest

/-- The last call comes after the others. -/
theorem after_concat (t : AdapterTable) (names : List String) (name : String) :
    t.after (names ++ [name]) = ((t.after names).resolve name).2 := by
  rw [after, List.foldl_concat]
  rfl

/-- The last call may select one more. -/
theorem selected_concat (t : AdapterTable) (names : List String) (name : String) :
    t.selected (names ++ [name]) =
      t.selected names ++ if (t.after names).Selects name then [name] else [] := by
  induction names generalizing t with
  | nil => rfl
  | cons first rest ih =>
    rw [List.cons_append, selected, selected, ih]
    split <;> rfl

/-- What is declared stays. -/
theorem after_declared (t : AdapterTable) (names : List String) :
    (t.after names).modelDir = t.modelDir ∧ (t.after names).paths = t.paths := by
  induction names using List.reverseRecOn with
  | nil => exact ⟨rfl, rfl⟩
  | append_singleton names name ih =>
    rw [after_concat]
    rcases (t.after names).resolve_snd name with hnumber | hsame
    · rw [hnumber]
      obtain ⟨hdir, hpaths⟩ := (t.after names).number_declared name
      exact ⟨hdir.trans ih.1, hpaths.trans ih.2⟩
    · rwa [hsame]

/-- A number that was given stays. -/
theorem id?_after (h : t.id? name = some id) (names : List String) :
    (t.after names).id? name = some id := by
  induction names using List.reverseRecOn with
  | nil => exact h
  | append_singleton names other ih =>
    rw [after_concat]
    rcases (t.after names).resolve_snd other with hnumber | hsame
    · rw [hnumber]
      exact id?_number_of_some ih other
    · rwa [hsame]

/-- A name that selected an adapter selects the same one ever after. -/
theorem resolve_after (h : (t.resolve name).1 = .ok (some lora)) (names : List String) :
    (((t.resolve name).2.after names).resolve name).1 = .ok (some lora) := by
  obtain ⟨hname, path, hpath⟩ := selects_iff.mp ⟨lora, h⟩
  rw [resolve_of_path hname hpath] at h ⊢
  obtain ⟨hdir, hpaths⟩ := (t.number name).2.after_declared names
  obtain ⟨hdir', hpaths'⟩ := t.number_declared name
  have hpath' : ((t.number name).2.after names).path? name = some path := by
    rw [path?, hpaths, hpaths', ← path?, hpath]
  have hid := id?_after (t.id?_number name) names
  rw [resolve_of_path hname hpath', number_of_some hid, hdir, hdir']
  exact h

/-! ## Ranks -/

/-- The names that have a number are these, all of them declared, and they are numbered from 1 on
in this order. -/
structure Ranked (t : AdapterTable) (seen : List String) : Prop where
  names : t.ids.map (·.1) = seen
  numbers : t.ids.map (·.2.toNat) = List.range' 1 seen.length
  nodup : seen.Nodup
  declared : ∀ name ∈ seen, name ∈ t.paths.map (·.1)

/-- In numbered pairs, the number of a name is its place. -/
theorem lookup_of_numbered {pairs : List (String × UInt32)} {start : Nat}
    (h : pairs.map (·.2.toNat) = List.range' start pairs.length) (name : String) :
    (pairs.lookup name).map UInt32.toNat = ((pairs.map (·.1)).idxOf? name).map (start + ·) := by
  induction pairs generalizing start with
  | nil => rfl
  | cons pair rest ih =>
    rw [List.map_cons, List.length_cons, List.range'_succ, List.cons.injEq] at h
    obtain ⟨hhead, htail⟩ := h
    rw [List.lookup_cons, List.map_cons, List.idxOf?_cons]
    by_cases hname : name = pair.1
    · simp [hname, hhead]
    · have hne : (name == pair.1) = false := by simpa using hname
      have hne' : ¬ (pair.1 == name) = true := by simpa using Ne.symm hname
      rw [hne, if_neg hne', ih htail, Option.map_map]
      congr 1
      funext n
      simp only [Function.comp_apply]
      omega

namespace Ranked

/-- A fresh table has given no number. -/
theorem start (h : t.ids = []) : Ranked t [] :=
  ⟨by simp [h], by simp [h], List.nodup_nil, by simp⟩

/-- The number of a name is its rank. -/
theorem id?_eq (h : Ranked t seen) (name : String) :
    (t.id? name).map UInt32.toNat = (seen.idxOf? name).map (1 + ·) := by
  have hlen : seen.length = t.ids.length := by rw [← h.names, List.length_map]
  rw [id?, lookup_of_numbered (hlen ▸ h.numbers), h.names]

/-- The names that have no number are the others. -/
theorem id?_eq_none_iff (h : Ranked t seen) : t.id? name = none ↔ name ∉ seen := by
  rw [← Option.map_eq_none_iff (f := UInt32.toNat), h.id?_eq, Option.map_eq_none_iff,
    List.idxOf?_eq_none_iff]

/-- No two names share a number. -/
theorem id?_inj (h : Ranked t seen) {other : String} (hname : t.id? name = some id)
    (hother : t.id? other = some id) : name = other := by
  have hrank := h.id?_eq name
  have hrank' := h.id?_eq other
  rw [hname, Option.map_some, eq_comm, Option.map_eq_some_iff] at hrank
  rw [hother, Option.map_some, eq_comm, Option.map_eq_some_iff] at hrank'
  obtain ⟨i, hi, hid⟩ := hrank
  obtain ⟨j, hj, hid'⟩ := hrank'
  obtain rfl : i = j := by omega
  obtain ⟨hlt, hget, -⟩ := List.idxOf?_eq_some_iff.mp hi
  obtain ⟨_, hget', -⟩ := List.idxOf?_eq_some_iff.mp hj
  exact hget.symm.trans hget'

/-- There are no more numbers than declared names. -/
theorem length_le (h : Ranked t seen) : seen.length ≤ t.paths.length := by
  have hsub := (List.subperm_of_subset h.nodup h.declared).length_le
  rwa [List.length_map] at hsub

/-- **No overflow**: the number that comes next is one more than were given. -/
theorem toNat_nextId (h : Ranked t seen) (hfew : t.paths.length < 2 ^ 32 - 1) :
    t.nextId.toNat = seen.length + 1 := by
  have hle := h.length_le
  have hlen : t.ids.length = seen.length := by rw [← h.names, List.length_map]
  rw [nextId, hlen, UInt32.toNat_add, UInt32.toNat_ofNat']
  simp only [UInt32.reduceToNat]
  omega

/-- **Step**: a name that selects an adapter is ranked last, unless it has a rank. -/
theorem number (h : Ranked t seen) (hfew : t.paths.length < 2 ^ 32 - 1)
    (hpath : t.path? name = some path) :
    Ranked (t.number name).2 (if name ∈ seen then seen else seen ++ [name]) := by
  by_cases hmem : name ∈ seen
  · -- the name has a number
    have hid := mt h.id?_eq_none_iff.mp (not_not.mpr hmem)
    obtain ⟨id, hid⟩ := Option.ne_none_iff_exists'.mp hid
    rwa [number_of_some hid, if_pos hmem]
  · -- the name gets the next number
    rw [number_of_none (h.id?_eq_none_iff.mpr hmem), if_neg hmem]
    have hdeclared : name ∈ t.paths.map (·.1) := by
      rw [path?, Option.filter_eq_some_iff] at hpath
      obtain ⟨pair, hpair, hkey⟩ :=
        List.lookup_isSome_iff.mp (Option.isSome_iff_exists.mpr ⟨path, hpath.1⟩)
      exact List.mem_map.mpr ⟨pair, hpair, (beq_iff_eq.mp hkey).symm⟩
    refine ⟨?_, ?_, List.concat_eq_append ▸ h.nodup.concat hmem, ?_⟩
    · rw [List.map_append, h.names, List.map_singleton]
    · rw [List.map_append, h.numbers, List.map_singleton, h.toNat_nextId hfew, List.length_append,
        List.length_singleton, List.range'_1_concat, Nat.add_comm 1]
    · intro other hother
      rcases List.mem_append.mp hother with hother | hother
      · exact h.declared other hother
      · exact List.mem_singleton.mp hother ▸ hdeclared

/-- **Run**: the ranks follow the order in which names first selected an adapter. -/
theorem after (hfresh : t.ids = []) (hfew : t.paths.length < 2 ^ 32 - 1) (names : List String) :
    Ranked (t.after names) (t.selected names).eraseDups := by
  induction names using List.reverseRecOn with
  | nil => exact start hfresh
  | append_singleton names name ih =>
    rw [after_concat, selected_concat]
    by_cases hselects : (t.after names).Selects name
    · obtain ⟨hname, path, hpath⟩ := selects_iff.mp hselects
      have hstep := ih.number ((t.after_declared names).2 ▸ hfew) hpath
      rw [if_pos hselects, resolve_of_path hname hpath]
      simp only [List.mem_eraseDups] at hstep
      rw [List.eraseDups_append]
      by_cases hmem : name ∈ t.selected names
      · rw [if_pos hmem] at hstep
        simpa [List.cons_removeAll, hmem] using hstep
      · rw [if_neg hmem] at hstep
        simpa [List.cons_removeAll, hmem, List.eraseDups_cons] using hstep
    · rwa [if_neg hselects, List.append_nil, resolve_of_not_selects hselects]

end Ranked

/-! ## The numbers of a deployment -/

/-- **A number is a rank.** Let names be resolved one after the other, by a fresh table with fewer
than `2 ^ 32 - 1` declared names. Then the names that were selected are numbered from 1 on, in the
order in which each was first selected, and no two share a number. What comes next is never too
large. A later call selects an adapter exactly if its name is declared with a path; it then names
the adapter, its number and its place, now and ever after, and otherwise changes nothing. -/
theorem adapter_numbers_are_ranks (t : AdapterTable) (hfresh : t.ids = [])
    (hfew : t.paths.length < 2 ^ 32 - 1) (names : List String) :
    let seen := (t.selected names).eraseDups
    let now := t.after names
    now.ids.map (·.1) = seen ∧ now.ids.map (·.2.toNat) = List.range' 1 seen.length ∧
      (∀ name, (now.id? name).map UInt32.toNat = (seen.idxOf? name).map (1 + ·)) ∧
      (∀ name other id, now.id? name = some id → now.id? other = some id → name = other) ∧
      now.nextId.toNat = now.ids.length + 1 ∧
      (∀ name, now.Selects name ↔
        name ≠ "" ∧ ∃ path, t.paths.lookup name = some path ∧ path ≠ "") ∧
      (∀ name lora, (now.resolve name).1 = .ok (some lora) →
        lora.name = name ∧ (now.resolve name).2.id? name = some lora.id ∧
        (∃ path, t.paths.lookup name = some path ∧ lora.path = Path.join t.modelDir path) ∧
        ∀ later, (((now.resolve name).2.after later).resolve name).1 = .ok (some lora)) ∧
      ∀ name, ¬ now.Selects name → (now.resolve name).2 = now := by
  intro seen now
  have hranked : Ranked now seen := .after hfresh hfew names
  obtain ⟨hdir, hpaths⟩ : now.modelDir = _ ∧ now.paths = _ := t.after_declared names
  have hpath (name : String) (path : String) :
      now.path? name = some path ↔ t.paths.lookup name = some path ∧ path ≠ "" := by
    rw [path?, hpaths, Option.filter_eq_some_iff, decide_eq_true_eq]
  have hlen : now.ids.length = seen.length := by rw [← hranked.names, List.length_map]
  refine ⟨hranked.names, hranked.numbers, hranked.id?_eq, fun _ _ _ => hranked.id?_inj, ?_, ?_, ?_,
    fun _ => resolve_of_not_selects⟩
  · rw [hlen, hranked.toNat_nextId (hpaths ▸ hfew)]
  · intro name
    simp only [selects_iff, hpath]
  · intro name lora hok
    obtain ⟨hname, path, hp⟩ := selects_iff.mp ⟨lora, hok⟩
    have hlora := hok
    rw [resolve_of_path hname hp] at hlora ⊢
    obtain rfl := Option.some.inj (Except.ok.inj hlora)
    refine ⟨rfl, id?_number now name, ⟨path, ((hpath name path).mp hp).1, by rw [hdir]⟩, ?_⟩
    intro later
    have hlater := resolve_after hok later
    rwa [resolve_of_path hname hp] at hlater

/-- Two adapters, of which the second is asked for first, among names that select none. -/
theorem adapter_numbers_are_ranks_mixed :
    let t : AdapterTable :=
      { modelDir := "/models", paths := [("A", "a"), ("B", "/b"), ("hollow", "")] }
    let names := ["B", "hollow", "A", "", "unknown", "B"]
    t.ids = [] ∧ t.paths.length < 2 ^ 32 - 1 ∧ (t.after names).ids.map (·.1) = ["B", "A"] ∧
      (t.after names).ids.map (·.2.toNat) = [1, 2] ∧ (t.after names).nextId.toNat = 3 ∧
      ¬ (t.after names).Selects "hollow" := by
  intro t names
  have hseen : (t.selected names).eraseDups = ["B", "A"] := by decide +kernel +revert
  obtain ⟨hnames, hnumbers, -, -, hnext, hselects, -, -⟩ :=
    adapter_numbers_are_ranks t rfl (by decide) names
  rw [hseen] at hnames hnumbers
  have hlen : (t.after names).ids.length = 2 := by rw [← List.length_map, hnames]; rfl
  rw [hlen] at hnext
  have hhollow : t.paths.lookup "hollow" = some "" := by decide
  refine ⟨rfl, by decide, hnames, hnumbers, hnext, ?_⟩
  rw [hselects]
  rintro ⟨-, path, hpath, hne⟩
  exact hne (Option.some.inj (hpath.symm.trans hhollow))

end CompletionService.AdapterTable
