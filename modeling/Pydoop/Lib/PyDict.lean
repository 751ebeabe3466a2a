import Mathlib.Data.List.Nodup
import Mathlib.Data.List.Induction

/-! Python dictionaries: maps that keep their keys in insertion order, each key once. Setting a
present key replaces its value in place; setting a new key appends it. -/

/-- A `dict`: its items in iteration order, with distinct keys. -/
structure PyDict (κ ν : Type) where
  entries : List (κ × ν)
  nodup : (entries.map Prod.fst).Nodup

namespace PyDict

variable {κ ν : Type}

/-- `{}`. -/
def empty : PyDict κ ν := ⟨[], List.nodup_nil⟩

/-- The keys, in iteration order. -/
def keys (d : PyDict κ ν) : List κ := d.entries.map Prod.fst

@[simp] theorem keys_empty : (empty : PyDict κ ν).keys = [] := rfl

theorem ext_entries {d d' : PyDict κ ν} (same : d.entries = d'.entries) : d = d' := by
  obtain ⟨entries, nodup⟩ := d
  obtain ⟨entries', nodup'⟩ := d'
  subst same
  rfl

variable [DecidableEq κ]

/-- `d.get(k)`. -/
def get? (d : PyDict κ ν) (k : κ) : Option ν := d.entries.lookup k

/-- The items after `d[k] = v` for a key already present: its value replaced in place. -/
def replace (entries : List (κ × ν)) (k : κ) (v : ν) : List (κ × ν) :=
  entries.map fun entry => if entry.1 = k then (k, v) else entry

theorem replace_cons (key : κ) (value : ν) (rest : List (κ × ν)) (k : κ) (v : ν) :
    replace ((key, value) :: rest) k v =
      (if key = k then (k, v) else (key, value)) :: replace rest k v :=
  rfl

theorem keys_replace (entries : List (κ × ν)) (k : κ) (v : ν) :
    (replace entries k v).map Prod.fst = entries.map Prod.fst := by
  induction entries with
  | nil => rfl
  | cons entry rest ih =>
    obtain ⟨key, value⟩ := entry
    rw [replace_cons, List.map_cons, List.map_cons, ih]
    by_cases same : key = k
    · rw [if_pos same, same]
    · rw [if_neg same]

/-- `d[k] = v`. -/
def insert (d : PyDict κ ν) (k : κ) (v : ν) : PyDict κ ν :=
  if present : k ∈ d.keys then
    ⟨replace d.entries k v, by rw [keys_replace]; exact d.nodup⟩
  else
    ⟨d.entries ++ [(k, v)], by
      rw [List.map_append, List.nodup_append]
      refine ⟨d.nodup, List.nodup_singleton _, ?_⟩
      intro a member b single same
      simp only [List.map_cons, List.map_nil, List.mem_singleton] at single
      subst single same
      exact present member⟩

/-- `del d[k]`; an absent key leaves the dictionary as it is (where Python raises `KeyError`,
the callers check first). -/
def erase (d : PyDict κ ν) (k : κ) : PyDict κ ν :=
  ⟨d.entries.filter (·.1 ≠ k), d.nodup.sublist (List.filter_sublist.map Prod.fst)⟩

/-- `dict(pairs)`: the pairs set one after another. -/
def ofPairs (pairs : List (κ × ν)) : PyDict κ ν :=
  pairs.foldl (fun d pair => d.insert pair.1 pair.2) empty

/-- `d.setdefault(k, []).append(v)` on a dictionary of lists. -/
def append {α : Type} (d : PyDict κ (List α)) (k : κ) (v : α) : PyDict κ (List α) :=
  d.insert k ((d.get? k).getD [] ++ [v])

/-- `dict((f(k), v) for k, v in d.items())`: every key renamed, the last value of a name kept. -/
def rename (f : κ → κ) (d : PyDict κ ν) : PyDict κ ν :=
  ofPairs (d.entries.map fun entry => (f entry.1, entry.2))

/-- `d.setdefault(k, v)`: the value of `k`, which is set to `v` first when `k` is absent. -/
def setdefault (d : PyDict κ ν) (k : κ) (v : ν) : ν × PyDict κ ν :=
  match d.get? k with
  | some current => (current, d)
  | none => (v, d.insert k v)

/-- The dictionary of lists that appending `pairs` one after another to `{}` builds. -/
def grouped {α : Type} (pairs : List (κ × α)) : PyDict κ (List α) :=
  pairs.foldl (fun d pair => d.append pair.1 pair.2) empty

theorem grouped_concat {α : Type} (pairs : List (κ × α)) (k : κ) (v : α) :
    grouped (pairs ++ [(k, v)]) = (grouped pairs).append k v := by
  rw [grouped, List.foldl_append]
  rfl

@[simp] theorem get?_empty (k : κ) : (empty : PyDict κ ν).get? k = none := rfl

theorem mem_keys_iff (d : PyDict κ ν) (k : κ) : k ∈ d.keys ↔ (d.get? k).isSome := by
  simp [keys, get?, List.lookup_isSome_iff]

theorem keys_insert_of_mem {d : PyDict κ ν} {k : κ} (present : k ∈ d.keys) (v : ν) :
    (d.insert k v).keys = d.keys := by
  unfold insert
  rw [dif_pos present]
  exact keys_replace d.entries k v

theorem keys_insert_of_not_mem {d : PyDict κ ν} {k : κ} (absent : k ∉ d.keys) (v : ν) :
    (d.insert k v).keys = d.keys ++ [k] := by
  unfold insert
  rw [dif_neg absent]
  simp [keys]

theorem entries_insert_of_mem {d : PyDict κ ν} {k : κ} (present : k ∈ d.keys) (v : ν) :
    (d.insert k v).entries = replace d.entries k v := by
  unfold insert
  rw [dif_pos present]

theorem entries_insert_of_not_mem {d : PyDict κ ν} {k : κ} (absent : k ∉ d.keys) (v : ν) :
    (d.insert k v).entries = d.entries ++ [(k, v)] := by
  unfold insert
  rw [dif_neg absent]

theorem replace_replace (entries : List (κ × ν)) (k : κ) (v v' : ν) :
    replace (replace entries k v) k v' = replace entries k v' := by
  unfold replace
  rw [List.map_map]
  congr 1
  funext entry
  by_cases same : entry.1 = k <;> simp [same]

theorem replace_of_not_mem {entries : List (κ × ν)} {k : κ} (absent : k ∉ entries.map Prod.fst)
    (v : ν) : replace entries k v = entries := by
  unfold replace
  conv_rhs => rw [← List.map_id entries]
  refine List.map_congr_left fun entry member => ?_
  have different : entry.1 ≠ k := fun same => absent (same ▸ List.mem_map_of_mem member)
  simp [different]

theorem lookup_cons_of_ne {k k' : κ} (v : ν) (rest : List (κ × ν)) (different : k' ≠ k) :
    ((k, v) :: rest).lookup k' = rest.lookup k' := by
  have unequal : (k' == k) = false := beq_eq_false_iff_ne.mpr different
  rw [List.lookup_cons, unequal]

theorem lookup_replace_of_ne (entries : List (κ × ν)) {k k' : κ} (v : ν) (different : k' ≠ k) :
    (replace entries k v).lookup k' = entries.lookup k' := by
  induction entries with
  | nil => rfl
  | cons entry rest ih =>
    obtain ⟨key, value⟩ := entry
    rw [replace_cons]
    by_cases same : key = k
    · subst same
      rw [if_pos rfl, lookup_cons_of_ne _ _ different, lookup_cons_of_ne _ _ different, ih]
    · rw [if_neg same]
      by_cases asked : k' = key
      · subst asked
        rw [List.lookup_cons_self, List.lookup_cons_self]
      · rw [lookup_cons_of_ne _ _ asked, lookup_cons_of_ne _ _ asked, ih]

theorem lookup_replace_self {entries : List (κ × ν)} {k : κ} (present : k ∈ entries.map Prod.fst)
    (v : ν) : (replace entries k v).lookup k = some v := by
  induction entries with
  | nil => simp at present
  | cons entry rest ih =>
    obtain ⟨key, value⟩ := entry
    rw [replace_cons]
    by_cases same : key = k
    · rw [if_pos same, List.lookup_cons_self]
    · have later : k ∈ rest.map Prod.fst := by
        simpa [Ne.symm same] using present
      rw [if_neg same, lookup_cons_of_ne _ _ (Ne.symm same), ih later]

@[simp] theorem get?_insert (d : PyDict κ ν) (k k' : κ) (v : ν) :
    (d.insert k v).get? k' = if k' = k then some v else d.get? k' := by
  unfold insert get?
  by_cases asked : k' = k
  · subst asked
    rw [if_pos rfl]
    split
    · rename_i present
      exact lookup_replace_self present v
    · rename_i absent
      have missing : d.entries.lookup k' = none := by
        rw [List.lookup_eq_none_iff]
        intro entry member
        have different : entry.1 ≠ k' := fun same => absent (same ▸ List.mem_map_of_mem member)
        simpa using Ne.symm different
      rw [List.lookup_append, missing]
      simp
  · rw [if_neg asked]
    split
    · exact lookup_replace_of_ne _ v asked
    · rw [List.lookup_append, lookup_cons_of_ne _ _ asked]
      cases d.entries.lookup k' <;> rfl

@[simp] theorem insert_insert (d : PyDict κ ν) (k : κ) (v v' : ν) :
    (d.insert k v).insert k v' = d.insert k v' := by
  have present : k ∈ (d.insert k v).keys := (mem_keys_iff _ _).mpr (by simp)
  apply ext_entries
  rw [entries_insert_of_mem present]
  by_cases old : k ∈ d.keys
  · rw [entries_insert_of_mem old, entries_insert_of_mem old, replace_replace]
  · rw [entries_insert_of_not_mem old, entries_insert_of_not_mem old]
    have appended : replace (d.entries ++ [(k, v)]) k v' = replace d.entries k v' ++ [(k, v')] := by
      simp [replace]
    rw [appended, replace_of_not_mem old]

theorem entries_ofPairs {pairs : List (κ × ν)} (distinct : (pairs.map Prod.fst).Nodup) :
    (ofPairs pairs).entries = pairs := by
  have step : ∀ (rest done : List (κ × ν)) (d : PyDict κ ν), d.entries = done →
      ((done ++ rest).map Prod.fst).Nodup →
      (rest.foldl (fun d pair => d.insert pair.1 pair.2) d).entries = done ++ rest := by
    intro rest
    induction rest with
    | nil =>
      intro done d built _
      simpa using built
    | cons pair rest ih =>
      intro done d built nodup
      have fresh : pair.1 ∉ d.keys := by
        simp only [keys, built]
        rw [List.map_append, List.map_cons, List.nodup_append] at nodup
        exact fun member => nodup.2.2 _ member _ (List.mem_cons_self ..) rfl
      have inserted : (d.insert pair.1 pair.2).entries = done ++ [pair] := by
        unfold insert
        rw [dif_neg fresh]
        dsimp only
        rw [built]
      rw [List.foldl_cons, ih (done ++ [pair]) _ inserted (by simpa using nodup)]
      simp
  exact step pairs [] empty rfl distinct

theorem get?_ofPairs_concat (pairs : List (κ × ν)) (k : κ) (v : ν) :
    (ofPairs (pairs ++ [(k, v)])).get? k = some v := by
  rw [ofPairs, List.foldl_append, List.foldl_cons, List.foldl_nil, get?_insert, if_pos rfl]

theorem get?_ofPairs (pairs : List (κ × ν)) (k : κ) :
    (ofPairs pairs).get? k = pairs.reverse.lookup k := by
  induction pairs using List.reverseRecOn with
  | nil => rfl
  | append_singleton pairs pair ih =>
    obtain ⟨key, value⟩ := pair
    rw [ofPairs, List.foldl_append, List.foldl_cons, List.foldl_nil, get?_insert, ← ofPairs, ih,
      List.reverse_append, List.reverse_singleton, List.singleton_append, List.lookup_cons]
    by_cases same : k = key
    · simp [same]
    · rw [if_neg same, beq_false_of_ne same]

theorem lookup_of_not_mem {k : κ} {l : List (κ × ν)} (absent : k ∉ l.map Prod.fst) :
    l.lookup k = none := by
  rw [List.lookup_eq_none_iff]
  intro entry member
  have different : entry.1 ≠ k := fun same => absent (same ▸ List.mem_map_of_mem member)
  simpa using Ne.symm different

theorem get?_of_mem {d : PyDict κ ν} {k : κ} {v : ν} (member : (k, v) ∈ d.entries) :
    d.get? k = some v := by
  obtain ⟨l₁, l₂, split⟩ := List.append_of_mem member
  have distinct := d.nodup
  rw [split, List.map_append, List.map_cons, List.nodup_append] at distinct
  have fresh : k ∉ l₁.map Prod.fst := fun earlier => distinct.2.2 k earlier k List.mem_cons_self rfl
  rw [get?, split, List.lookup_append, lookup_of_not_mem fresh, Option.none_or]
  simp

theorem mem_of_get? {d : PyDict κ ν} {k : κ} {v : ν} (found : d.get? k = some v) :
    (k, v) ∈ d.entries := by
  obtain ⟨l₁, l₂, split, -⟩ := List.lookup_eq_some_iff.mp found
  rw [split]
  simp

theorem mem_keys_insert {d : PyDict κ ν} {k k' : κ} {v : ν} (member : k' ∈ (d.insert k v).keys) :
    k' ∈ d.keys ∨ k' = k := by
  by_cases present : k ∈ d.keys
  · rw [keys_insert_of_mem present] at member
    exact .inl member
  · rw [keys_insert_of_not_mem present, List.mem_append, List.mem_singleton] at member
    exact member

theorem head?_keys_insert {d : PyDict κ ν} (nonempty : d.keys ≠ []) (k : κ) (v : ν) :
    (d.insert k v).keys.head? = d.keys.head? := by
  by_cases present : k ∈ d.keys
  · rw [keys_insert_of_mem present]
  · rw [keys_insert_of_not_mem present, List.head?_append_of_ne_nil _ nonempty]

theorem insert_keys_ne_nil (d : PyDict κ ν) (k : κ) (v : ν) : (d.insert k v).keys ≠ [] := by
  have member : k ∈ (d.insert k v).keys := by simp [mem_keys_iff]
  exact List.ne_nil_of_mem member

section Update

variable {α : Type} (g : α → ν)

theorem get?_foldl_insert {k : κ} :
    ∀ {items : List (κ × α)}, (items.map Prod.fst).Nodup → ∀ d : PyDict κ ν,
      (items.foldl (fun d item => d.insert item.1 (g item.2)) d).get? k =
        ((items.lookup k).map g).or (d.get? k)
  | [], _, d => by simp
  | (key, value) :: rest, distinct, d => by
    rw [List.map_cons, List.nodup_cons] at distinct
    rw [List.foldl_cons, get?_foldl_insert distinct.2, get?_insert]
    by_cases same : k = key
    · subst same
      have fresh : k ∉ rest.map Prod.fst := by simpa using distinct.1
      simp [lookup_of_not_mem fresh]
    · rw [if_neg same, lookup_cons_of_ne value rest same]

theorem mem_keys_foldl_insert {k : κ} :
    ∀ {items : List (κ × α)} {d : PyDict κ ν},
      k ∈ (items.foldl (fun d item => d.insert item.1 (g item.2)) d).keys →
        k ∈ d.keys ∨ k ∈ items.map Prod.fst
  | [], d, member => .inl member
  | (key, value) :: rest, d, member => by
    rw [List.foldl_cons] at member
    rcases mem_keys_foldl_insert member with inserted | later
    · rcases mem_keys_insert inserted with old | new
      · exact .inl old
      · exact .inr (by simp [new])
    · exact .inr (List.mem_cons_of_mem _ later)

theorem head?_keys_foldl_insert :
    ∀ {items : List (κ × α)} {d : PyDict κ ν}, d.keys ≠ [] →
      (items.foldl (fun d item => d.insert item.1 (g item.2)) d).keys.head? = d.keys.head?
  | [], _, _ => rfl
  | (key, value) :: rest, d, nonempty => by
    rw [List.foldl_cons, head?_keys_foldl_insert (insert_keys_ne_nil d key (g value)),
      head?_keys_insert nonempty]

end Update

theorem lookup_reverse_rename {f : κ → κ} {K n : κ} :
    ∀ {rest : List (κ × ν)}, (rest.map Prod.fst).Nodup → (∀ k ∈ rest.map Prod.fst, f k = K → k = n) →
      (rest.map fun entry => (f entry.1, entry.2)).reverse.lookup K =
        if f n = K then rest.lookup n else none
  | [], _, _ => by simp
  | (k, w) :: rest, distinct, only => by
    rw [List.map_cons, List.nodup_cons] at distinct
    have tail := lookup_reverse_rename (f := f) distinct.2
      fun k' member => only k' (List.mem_cons_of_mem _ member)
    rw [List.map_cons, List.reverse_cons, List.lookup_append, tail]
    have fresh : k ∉ rest.map Prod.fst := by simpa using distinct.1
    by_cases renamed : f k = K
    · have same : k = n := only k List.mem_cons_self renamed
      subst same
      simp [renamed, lookup_of_not_mem fresh]
    · have last : [(f k, w)].lookup K = none := by simpa using Ne.symm renamed
      rw [last, Option.or_none]
      by_cases named : n = k
      · subst named
        simp [renamed]
      · rw [lookup_cons_of_ne w rest named]

/-- Renaming the keys of a dictionary whose first key is `K`, kept by the renaming, when among
the other keys only `n` may be renamed to `K`: the value of `n` if it is, and that of `K`
otherwise. -/
theorem get?_rename_of_first {d : PyDict κ ν} {f : κ → κ} {K n : κ}
    (first : d.keys.head? = some K) (kept : f K = K)
    (only : ∀ k ∈ d.keys, k ≠ K → f k = K → k = n) :
    (d.rename f).get? K = if n ≠ K ∧ f n = K then (d.get? n).or (d.get? K) else d.get? K := by
  obtain ⟨⟨key, x⟩, rest, shape⟩ : ∃ entry rest, d.entries = entry :: rest := by
    cases h : d.entries with
    | nil => simp [keys, h] at first
    | cons entry rest => exact ⟨entry, rest, rfl⟩
  have headKey : key = K := by simpa [keys, shape] using first
  subst headKey
  have distinct := d.nodup
  rw [shape, List.map_cons, List.nodup_cons] at distinct
  have onlyRest : ∀ k ∈ rest.map Prod.fst, f k = key → k = n := by
    intro k member renamed
    have other : k ≠ key := fun same => distinct.1 (same ▸ member)
    exact only k (by simp [keys, shape, member]) other renamed
  have outer : d.get? key = some x := by simp [get?, shape]
  rw [rename, get?_ofPairs, shape, List.map_cons, List.reverse_cons, List.lookup_append,
    lookup_reverse_rename distinct.2 onlyRest, kept, outer]
  by_cases named : n = key
  · subst named
    have fresh : n ∉ rest.map Prod.fst := by simpa using distinct.1
    simp [lookup_of_not_mem fresh]
  · have inner : d.get? n = rest.lookup n := by rw [get?, shape, lookup_cons_of_ne x rest named]
    by_cases renamed : f n = key
    · simp [named, renamed, inner]
    · simp [renamed]

theorem mem_keys_append {α : Type} {d : PyDict κ (List α)} {k k' : κ} {v : α}
    (member : k' ∈ (d.append k v).keys) : k' ∈ d.keys ∨ k' = k := by
  unfold append at member
  exact mem_keys_insert member

theorem mem_keys_grouped {α : Type} {pairs : List (κ × α)} {k : κ}
    (member : k ∈ (grouped pairs).keys) : k ∈ pairs.map Prod.fst := by
  induction pairs using List.reverseRecOn with
  | nil => simp [grouped] at member
  | append_singleton init pair ih =>
    obtain ⟨key, value⟩ := pair
    rw [grouped_concat] at member
    rcases mem_keys_append member with old | new
    · simp [ih old]
    · simp [new]

theorem setdefault_of_get?_some {d : PyDict κ ν} {k : κ} {current : ν} (present : d.get? k = some current)
    (v : ν) : d.setdefault k v = (current, d) := by
  rw [setdefault, present]

theorem setdefault_of_get?_none {d : PyDict κ ν} {k : κ} (absent : d.get? k = none) (v : ν) :
    d.setdefault k v = (v, d.insert k v) := by
  rw [setdefault, absent]

theorem get?_erase (d : PyDict κ ν) (k k' : κ) :
    (d.erase k).get? k' = if k' = k then none else d.get? k' := by
  unfold erase get?
  dsimp only
  induction d.entries with
  | nil => simp
  | cons entry rest ih =>
    obtain ⟨key, value⟩ := entry
    by_cases erased : key = k
    · subst erased
      by_cases same : k' = key
      · simpa [same] using ih
      · simpa [same, List.lookup_cons, beq_false_of_ne same] using ih
    · by_cases same : k' = key
      · subst same
        simp [erased]
      · simpa [erased, same, List.lookup_cons, beq_false_of_ne same] using ih

@[simp] theorem keys_erase (d : PyDict κ ν) (k : κ) :
    (d.erase k).keys = d.keys.filter (· ≠ k) := by
  simp only [erase, keys, List.filter_map]
  rfl

/-- `{k: v for k, v in d.items() if p(k)}`: the items whose key passes `p`, in their order. -/
def filterKeys (p : κ → Bool) (d : PyDict κ ν) : PyDict κ ν :=
  ⟨d.entries.filter (p ·.1), d.nodup.sublist (List.filter_sublist.map Prod.fst)⟩

@[simp] theorem get?_filterKeys (p : κ → Bool) (d : PyDict κ ν) (k : κ) :
    (d.filterKeys p).get? k = if p k then d.get? k else none := by
  unfold filterKeys get?
  dsimp only
  induction d.entries with
  | nil => simp
  | cons entry rest ih =>
    obtain ⟨key, value⟩ := entry
    rw [List.filter_cons]
    by_cases same : k = key
    · subst same
      by_cases kept : p k <;> simp [kept, ih]
    · split <;> simp [List.lookup_cons, beq_false_of_ne same, ih]

end PyDict
