import Mathlib.Data.List.Induction
import Mathlib.Data.List.Sort
import Pydoop.Lib.PyDict

/-! Keyed buffers: a buffer takes keyed values in and hands them on in flushes. A flush hands on
everything taken in since the last one, grouped by key: each key once, a key's values in the order
they came, the keys in a chosen order. What such a buffer is for is that it keeps every value:
over any run, what it has handed on followed by what it still holds is what it took in, key by
key in order, and as a multiset of pairs. A dictionary of lists filled by
`setdefault(k, []).append(v)` and emptied key by key in sorted order flushes in this sense. -/

namespace KeyedBuffer

variable {κ α : Type}

/-- What a keyed buffer does in one step: take a pair in, or hand a key on with its values. -/
inductive Step (κ α : Type)
  | put (k : κ) (v : α)
  | hand (k : κ) (vs : List α)
  deriving DecidableEq, Repr

/-- The pairs a step takes in. -/
def Step.taken : Step κ α → List (κ × α)
  | put k v => [(k, v)]
  | hand _ _ => []

/-- The pairs a step hands on. -/
def Step.handed : Step κ α → List (κ × α)
  | put _ _ => []
  | hand k vs => vs.map (k, ·)

/-- The pairs that keys handed on with their values stand for. -/
def spread (hands : List (κ × List α)) : List (κ × α) :=
  hands.flatMap fun hand => hand.2.map (hand.1, ·)

/-- The steps of one round: taking its pairs in, then handing on its keys with their values. -/
def roundSteps (round : List (κ × α) × List (κ × List α)) : List (Step κ α) :=
  round.1.map (fun pair => .put pair.1 pair.2) ++ round.2.map fun hand => .hand hand.1 hand.2

/-- The steps of `rounds`, followed by taking in `rest`. -/
def render (rounds : List (List (κ × α) × List (κ × List α))) (rest : List (κ × α)) :
    List (Step κ α) :=
  rounds.flatMap roundSteps ++ rest.map fun pair => .put pair.1 pair.2

@[simp] theorem taken_puts (pairs : List (κ × α)) :
    (pairs.map fun pair => Step.put pair.1 pair.2).flatMap Step.taken = pairs := by
  induction pairs with
  | nil => rfl
  | cons pair rest ih => simp [Step.taken, ih]

@[simp] theorem taken_hands (hands : List (κ × List α)) :
    (hands.map fun hand => Step.hand hand.1 hand.2).flatMap Step.taken = [] := by
  induction hands with
  | nil => rfl
  | cons hand rest ih => simp [Step.taken, ih]

@[simp] theorem handed_puts (pairs : List (κ × α)) :
    (pairs.map fun pair => Step.put pair.1 pair.2).flatMap Step.handed = [] := by
  induction pairs with
  | nil => rfl
  | cons pair rest ih => simp [Step.handed, ih]

@[simp] theorem handed_hands (hands : List (κ × List α)) :
    (hands.map fun hand => Step.hand hand.1 hand.2).flatMap Step.handed = spread hands := by
  induction hands with
  | nil => rfl
  | cons hand rest ih => simp [Step.handed, spread, ih]

theorem taken_render (rounds : List (List (κ × α) × List (κ × List α))) (rest : List (κ × α)) :
    (render rounds rest).flatMap Step.taken = rounds.flatMap Prod.fst ++ rest := by
  simp [render, roundSteps, List.flatMap_assoc]

theorem handed_render (rounds : List (List (κ × α) × List (κ × List α))) (rest : List (κ × α)) :
    (render rounds rest).flatMap Step.handed = rounds.flatMap fun round => spread round.2 := by
  simp [render, roundSteps, List.flatMap_assoc]

variable [DecidableEq κ]

/-- The values of key `k` among `pairs`, in order. -/
def valuesOf (pairs : List (κ × α)) (k : κ) : List α :=
  (pairs.filter fun pair => pair.1 = k).map Prod.snd

@[simp] theorem valuesOf_nil (k : κ) : valuesOf ([] : List (κ × α)) k = [] := rfl

@[simp] theorem valuesOf_cons (pair : κ × α) (rest : List (κ × α)) (k : κ) :
    valuesOf (pair :: rest) k = (if pair.1 = k then [pair.2] else []) ++ valuesOf rest k := by
  by_cases same : pair.1 = k <;> simp [valuesOf, same]

@[simp] theorem valuesOf_append (xs ys : List (κ × α)) (k : κ) :
    valuesOf (xs ++ ys) k = valuesOf xs k ++ valuesOf ys k := by
  simp [valuesOf, List.filter_append]

theorem valuesOf_eq_nil {pairs : List (κ × α)} {k : κ} (absent : k ∉ pairs.map Prod.fst) :
    valuesOf pairs k = [] := by
  induction pairs with
  | nil => rfl
  | cons pair rest ih =>
    simp only [List.map_cons, List.mem_cons, not_or] at absent
    rw [valuesOf_cons, if_neg (Ne.symm absent.1), ih absent.2]
    rfl

theorem count_eq_count_valuesOf [DecidableEq α] (pairs : List (κ × α)) (k : κ) (v : α) :
    pairs.count (k, v) = (valuesOf pairs k).count v := by
  induction pairs with
  | nil => rfl
  | cons pair rest ih =>
    obtain ⟨k', v'⟩ := pair
    rw [List.count_cons, valuesOf_cons, List.count_append, ih]
    by_cases sameKey : k' = k
    · subst sameKey
      by_cases sameValue : v' = v
      · subst sameValue
        simp [Nat.add_comm]
      · simp [sameValue]
    · simp [sameKey]

theorem perm_of_valuesOf [DecidableEq α] {xs ys : List (κ × α)}
    (same : ∀ k, valuesOf xs k = valuesOf ys k) : xs.Perm ys := by
  rw [List.perm_iff_count]
  rintro ⟨k, v⟩
  rw [count_eq_count_valuesOf, count_eq_count_valuesOf, same]

theorem valuesOf_spread (hands : List (κ × List α)) (k : κ) :
    valuesOf (spread hands) k = (hands.filter fun hand => hand.1 = k).flatMap Prod.snd := by
  induction hands with
  | nil => rfl
  | cons hand rest ih =>
    have own : valuesOf (hand.2.map (hand.1, ·)) k = if hand.1 = k then hand.2 else [] := by
      by_cases same : hand.1 = k <;>
        simp [valuesOf, same, List.filter_map, Function.comp_def]
    rw [spread, List.flatMap_cons, valuesOf_append, own, ← spread, ih]
    by_cases same : hand.1 = k <;> simp [same]

theorem filter_key_of_mem {hands : List (κ × List α)} (nodup : (hands.map Prod.fst).Nodup)
    {k : κ} {vs : List α} (member : (k, vs) ∈ hands) :
    hands.filter (fun hand => hand.1 = k) = [(k, vs)] := by
  induction hands with
  | nil => simp at member
  | cons hand rest ih =>
    rw [List.map_cons, List.nodup_cons] at nodup
    rcases List.mem_cons.mp member with here | later
    · subst here
      have absent : (rest.filter fun hand => hand.1 = k) = [] := by
        rw [List.filter_eq_nil_iff]
        intro other otherMember same
        exact nodup.1 (List.mem_map.mpr ⟨other, otherMember, of_decide_eq_true same⟩)
      simp [absent]
    · have different : hand.1 ≠ k := by
        intro same
        exact nodup.1 (List.mem_map.mpr ⟨(k, vs), later, same.symm⟩)
      simp [different, ih nodup.2 later]

/-- `hands` flushes `pairs`: it hands on each key of `pairs` once, with the key's values in the
order they came, and where `le` is a total preorder, with the keys in the order `le`. -/
structure Flushes (le : κ → κ → Prop) (pairs : List (κ × α)) (hands : List (κ × List α)) :
    Prop where
  nodup : (hands.map Prod.fst).Nodup
  keys : ∀ k, k ∈ hands.map Prod.fst ↔ k ∈ pairs.map Prod.fst
  values : ∀ k vs, (k, vs) ∈ hands → vs = valuesOf pairs k
  sorted : Std.Total le → IsTrans κ le → (hands.map Prod.fst).Pairwise le

variable {le : κ → κ → Prop}

theorem Flushes.valuesOf_spread {pairs : List (κ × α)} {hands : List (κ × List α)}
    (flush : Flushes le pairs hands) (k : κ) : valuesOf (spread hands) k = valuesOf pairs k := by
  rw [KeyedBuffer.valuesOf_spread]
  by_cases present : k ∈ pairs.map Prod.fst
  · obtain ⟨hand, member, same⟩ := List.mem_map.mp ((flush.keys k).mpr present)
    obtain ⟨k', vs⟩ := hand
    simp only at same
    subst same
    rw [filter_key_of_mem flush.nodup member, List.flatMap_singleton]
    exact flush.values k' vs member
  · have absent : (hands.filter fun hand => hand.1 = k) = [] := by
      rw [List.filter_eq_nil_iff]
      intro hand member same
      exact present ((flush.keys k).mp (List.mem_map.mpr ⟨hand, member, of_decide_eq_true same⟩))
    rw [absent, valuesOf_eq_nil present]
    rfl

/-- `log` is a run of a keyed buffer that flushes in the order `le` and holds `rest` at its end:
rounds of taking pairs in, each ended by a flush of the pairs of the round. -/
def Batched (le : κ → κ → Prop) (log : List (Step κ α)) (rest : List (κ × α)) : Prop :=
  ∃ rounds : List (List (κ × α) × List (κ × List α)),
    log = render rounds rest ∧ ∀ round ∈ rounds, Flushes le round.1 round.2

theorem Batched.nil : Batched le ([] : List (Step κ α)) [] := ⟨[], rfl, nofun⟩

theorem Batched.put {log : List (Step κ α)} {rest : List (κ × α)} (batched : Batched le log rest)
    (k : κ) (v : α) : Batched le (log ++ [.put k v]) (rest ++ [(k, v)]) := by
  obtain ⟨rounds, rfl, flushes⟩ := batched
  exact ⟨rounds, by simp [render], flushes⟩

theorem Batched.flush {log : List (Step κ α)} {rest : List (κ × α)} {hands : List (κ × List α)}
    (batched : Batched le log rest) (flush : Flushes le rest hands) :
    Batched le (log ++ hands.map fun hand => .hand hand.1 hand.2) [] := by
  obtain ⟨rounds, rfl, flushes⟩ := batched
  refine ⟨rounds ++ [(rest, hands)], by simp [render, roundSteps], ?_⟩
  intro round member
  rcases List.mem_append.mp member with old | new
  · exact flushes round old
  · rw [List.mem_singleton] at new
    subst new
    exact flush

theorem Batched.valuesOf_handed {log : List (Step κ α)} {rest : List (κ × α)}
    (batched : Batched le log rest) (k : κ) :
    valuesOf (log.flatMap Step.handed) k ++ valuesOf rest k =
      valuesOf (log.flatMap Step.taken) k := by
  obtain ⟨rounds, rfl, flushes⟩ := batched
  rw [taken_render, handed_render, valuesOf_append]
  congr 1
  induction rounds with
  | nil => rfl
  | cons round others ih =>
    have first := flushes round (List.mem_cons_self ..)
    rw [List.flatMap_cons, List.flatMap_cons, valuesOf_append, valuesOf_append,
      first.valuesOf_spread, ih fun r member => flushes r (List.mem_cons_of_mem _ member)]

theorem Batched.perm [DecidableEq α] {log : List (Step κ α)} {rest : List (κ × α)}
    (batched : Batched le log rest) :
    (log.flatMap Step.handed ++ rest).Perm (log.flatMap Step.taken) :=
  perm_of_valuesOf fun k => by rw [valuesOf_append, batched.valuesOf_handed]

theorem get?_grouped (pairs : List (κ × α)) (k : κ) :
    (PyDict.grouped pairs).get? k =
      if k ∈ pairs.map Prod.fst then some (valuesOf pairs k) else none := by
  induction pairs using List.reverseRecOn with
  | nil => rfl
  | append_singleton pairs pair ih =>
    obtain ⟨k', v⟩ := pair
    have grown : k ∈ (pairs ++ [(k', v)]).map Prod.fst ↔ k ∈ pairs.map Prod.fst ∨ k = k' := by
      simp
    rw [PyDict.grouped_concat, PyDict.append, PyDict.get?_insert]
    by_cases same : k = k'
    · subst same
      rw [if_pos rfl, if_pos (grown.mpr (.inr rfl)), ih]
      by_cases present : k ∈ pairs.map Prod.fst <;> simp [present, valuesOf_eq_nil]
    · rw [if_neg same, ih]
      by_cases present : k ∈ pairs.map Prod.fst
      · rw [if_pos present, if_pos (grown.mpr (.inl present))]
        simp [Ne.symm same]
      · rw [if_neg present, if_neg (fun member => (grown.mp member).elim present same)]

theorem mem_keys_grouped (pairs : List (κ × α)) (k : κ) :
    k ∈ (PyDict.grouped pairs).keys ↔ k ∈ pairs.map Prod.fst := by
  rw [PyDict.mem_keys_iff, get?_grouped]
  by_cases present : k ∈ pairs.map Prod.fst <;> simp [present]

theorem eq_nil_of_keys_grouped {pairs : List (κ × α)} (empty : (PyDict.grouped pairs).keys = []) :
    pairs = [] := by
  cases pairs with
  | nil => rfl
  | cons pair rest =>
    have present := (mem_keys_grouped (pair :: rest) pair.1).mpr
      (List.mem_map_of_mem (List.mem_cons_self ..))
    rw [empty] at present
    exact absurd present List.not_mem_nil

theorem flushes_grouped (le : κ → κ → Prop) [DecidableRel le] (pairs : List (κ × α)) :
    Flushes le pairs (((PyDict.grouped pairs).keys.insertionSort le).map fun k =>
      (k, ((PyDict.grouped pairs).get? k).getD [])) where
  nodup := by
    rw [List.map_map, Function.comp_def, List.map_id']
    exact (List.perm_insertionSort le _).nodup_iff.mpr (PyDict.grouped pairs).nodup
  keys k := by
    rw [List.map_map, Function.comp_def, List.map_id', List.mem_insertionSort]
    exact mem_keys_grouped pairs k
  values k vs member := by
    obtain ⟨key, sorted, same⟩ := List.mem_map.mp member
    obtain ⟨rfl, rfl⟩ := Prod.mk.inj same
    have present := (mem_keys_grouped pairs key).mp ((List.mem_insertionSort le).mp sorted)
    rw [get?_grouped, if_pos present]
    rfl
  sorted total trans := by
    rw [List.map_map, Function.comp_def, List.map_id']
    exact List.pairwise_insertionSort le _

end KeyedBuffer
