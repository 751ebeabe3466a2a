import Mathlib.Data.List.Find

/-! Looking for a pattern in a sequence one window at a time, as a reader does that reads a fixed
number of items at a time and searches each read on its own. The search finds the first
occurrence that lies inside one window; an occurrence that straddles two windows is never seen.

`search_getLeft_from` gives the search as a closed form: the first position from where it starts,
among those it can see, at which the pattern occurs. -/

namespace WindowSearch

variable {α : Type} [DecidableEq α]

/-- `sub` occurs in `data` at index `k`. -/
def occursAt (data sub : List α) (k : Nat) : Bool := sub.isPrefixOf (data.drop k)

/-- `data.find(sub)`: the first index at which `sub` occurs, `none` if it does not. -/
def find (data sub : List α) : Option Nat :=
  (List.range (data.length + 1)).find? (occursAt data sub)

/-- The search from `pos`: while `pos < limit`, read the next `size` items (fewer at the end) and
look for `sub` in them alone; `.inl` the position of the first hit, `.inr` the position at which
the search gave up. A read at the end returns nothing, which ends the search too. -/
def search (data sub : List α) (size limit pos : Nat) : Nat ⊕ Nat :=
  if pos < limit then
    match find ((data.drop pos).take size) sub with
    | some k => .inl (pos + k)
    | none =>
      if ((data.drop pos).take size).isEmpty then .inr pos
      else search data sub size limit (pos + ((data.drop pos).take size).length)
  else .inr pos
termination_by data.length - pos
decreasing_by
  rename_i nonempty
  have read : 0 < ((data.drop pos).take size).length := by
    cases window : (data.drop pos).take size with
    | nil => simp [window] at nonempty
    | cons _ _ => simp
  have bounded : ((data.drop pos).take size).length ≤ data.length - pos := by simp
  omega

/-- An occurrence at `p` that the search from `base` can see: it lies inside the window holding
its start, and that window starts below `limit`. -/
def seen (data sub : List α) (size limit base p : Nat) : Bool :=
  occursAt data sub p && decide ((p - base) % size + sub.length ≤ size) &&
    decide (base + (p - base) / size * size < limit)

theorem occursAt_of_length_le {data sub : List α} {k : Nat} (nonempty : sub ≠ [])
    (past : data.length ≤ k) : occursAt data sub k = false := by
  have dropped : data.drop k = [] := List.drop_eq_nil_of_le past
  cases sub with
  | nil => exact absurd rfl nonempty
  | cons x rest => simp [occursAt, dropped]

theorem occursAt_window (data sub : List α) {size : Nat} (pos : Nat) {k : Nat} (short : k ≤ size) :
    occursAt ((data.drop pos).take size) sub k =
      (occursAt data sub (pos + k) && decide (k + sub.length ≤ size)) := by
  rw [occursAt, occursAt, List.drop_take, List.drop_drop, Bool.eq_iff_iff, Bool.and_eq_true,
    List.isPrefixOf_iff_prefix, List.isPrefixOf_iff_prefix, List.prefix_take_iff, decide_eq_true_iff]
  constructor
  · rintro ⟨occurs, within⟩
    exact ⟨occurs, by omega⟩
  · rintro ⟨occurs, fits⟩
    exact ⟨occurs, by omega⟩

theorem seen_window {data sub : List α} {size limit base pos : Nat} (hsize : 0 < size)
    (aligned : (pos - base) % size = 0) (after : base ≤ pos) (below : pos < limit) {k : Nat}
    (inside : k < ((data.drop pos).take size).length) :
    seen data sub size limit base (pos + k) = occursAt ((data.drop pos).take size) sub k := by
  have short : k < size := lt_of_lt_of_le inside (by simp)
  obtain ⟨m, steps⟩ : size ∣ pos - base := Nat.dvd_of_mod_eq_zero aligned
  have shifted : pos + k - base = k + size * m := by omega
  have offset : (pos + k - base) % size = k := by
    rw [shifted, Nat.add_mul_mod_self_left, Nat.mod_eq_of_lt short]
  have start : base + (pos + k - base) / size * size = pos := by
    rw [shifted, Nat.add_mul_div_left k m hsize, Nat.div_eq_of_lt short, Nat.zero_add,
      Nat.mul_comm]
    omega
  rw [seen, offset, start, occursAt_window data sub pos short.le]
  simp [below, Nat.add_comm k sub.length]

theorem seen_of_limit_le {data sub : List α} {size limit base pos p : Nat}
    (aligned : (pos - base) % size = 0) (after : base ≤ pos) (atLimit : limit ≤ pos)
    (later : pos ≤ p) : seen data sub size limit base p = false := by
  have start : pos ≤ base + (p - base) / size * size := by
    have steps : (pos - base) / size ≤ (p - base) / size := Nat.div_le_div_right (by omega)
    have exact : (pos - base) / size * size = pos - base :=
      Nat.div_mul_cancel (Nat.dvd_of_mod_eq_zero aligned)
    have grows := Nat.mul_le_mul_right size steps
    omega
  have unseen : ¬base + (p - base) / size * size < limit := by omega
  simp [seen, unseen]

theorem search_getLeft_from {data sub : List α} {size limit : Nat} (hsize : 0 < size)
    (hlimit : limit ≤ data.length) (nonempty : sub ≠ []) (base : Nat) :
    ∀ pos, (pos - base) % size = 0 → base ≤ pos →
      (search data sub size limit pos).getLeft? =
        (List.range' pos (data.length + 1 - pos)).find? (seen data sub size limit base) := by
  intro pos
  -- the induction is on what is left to read after `pos`, which each window reduces
  induction hleft : data.length + 1 - pos using Nat.strong_induction_on generalizing pos with
  | _ left ih =>
    intro aligned after
    by_cases past : data.length < pos
    · have noRead : ¬pos < limit := by omega
      rw [search, if_neg noRead, show left = 0 by omega]
      rfl
    by_cases below : pos < limit
    · obtain ⟨window, window_def⟩ : ∃ window, (data.drop pos).take size = window := ⟨_, rfl⟩
      have d_eq : window.length = min size (data.length - pos) := by rw [← window_def]; simp
      have d_pos : 0 < window.length := by omega
      have notAtEnd : occursAt window sub window.length = false :=
        occursAt_of_length_le nonempty (le_refl _)
      have found : find window sub = (List.range window.length).find? (occursAt window sub) := by
        rw [find, List.range_succ, List.find?_append]
        cases (List.range window.length).find? (occursAt window sub) with
        | some k => rfl
        | none => simp [notAtEnd]
      have windowPart : (List.range' pos window.length).find? (seen data sub size limit base) =
          ((List.range window.length).find? (occursAt window sub)).map (pos + ·) := by
        rw [List.range'_eq_map_range, List.find?_map]
        congr 1
        apply List.find?_congr
        intro k member
        have inside : k < ((data.drop pos).take size).length := by
          rw [window_def]
          exact List.mem_range.mp member
        rw [← window_def]
        exact seen_window hsize aligned after below inside
      have split : List.range' pos left = List.range' pos window.length ++
          List.range' (pos + window.length) (data.length + 1 - (pos + window.length)) := by
        rw [List.range'_append_1]
        congr 1
        omega
      rw [search, if_pos below, window_def, found, split, List.find?_append, windowPart]
      cases hit : (List.range window.length).find? (occursAt window sub) with
      | some k => rfl
      | none =>
        have nonemptyWindow : window.isEmpty = false := by
          cases window with
          | nil => simp at d_pos
          | cons _ _ => rfl
        simp only [Option.map_none, Option.none_or, nonemptyWindow, Bool.false_eq_true, if_false]
        by_cases full : window.length = size
        · -- a whole window: the next one starts aligned
          exact ih (data.length + 1 - (pos + window.length)) (by omega) (pos + window.length) rfl
            (by rw [full, show pos + size - base = pos - base + size by omega]; simp [aligned])
            (by omega)
        · -- the read reached the end of the data
          have atEnd : pos + window.length = data.length := by omega
          have noRead : ¬pos + window.length < limit := by omega
          rw [search, if_neg noRead, atEnd, show data.length + 1 - data.length = 1 by omega]
          have unseen : seen data sub size limit base data.length = false := by
            simp [seen, occursAt_of_length_le nonempty (le_refl _)]
          simp [unseen]
    · have nothing : (List.range' pos left).find?
          (seen data sub size limit base) = none := by
        rw [List.find?_eq_none]
        intro p member
        rw [seen_of_limit_le aligned after (by omega) (List.mem_range'_1.mp member).1]
        simp
      rw [search, if_neg below, nothing]
      rfl

end WindowSearch
