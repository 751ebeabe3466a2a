import Pydoop.Lib.Effect

/-! `itertools.groupby` as CPython implements it (`Modules/itertoolsmodule.c`). The groupby
object pulls items from its source one at a time and keeps at most one of them, with its key, in
`currvalue`/`currkey`. `groupby.__next__` skips what is left of the current group and starts a
grouper for the next one; a grouper yields items while they have the group's key, and a grouper
that is no longer the current one yields nothing. A group may be abandoned half read: the skip
loop reads its remaining items from the source.

The object lives inside a larger state, reached through `view` and `update`; the source is any
computation on that state, `none` when it is exhausted. -/

/-- A `groupbyobject`: the key of the current group, the item pulled last and its key, the
current grouper, and how many groupers were made (a grouper is named by its number). -/
structure GroupBy (κ α : Type) where
  tgtkey : Option κ
  currkey : Option κ
  currvalue : Option α
  currgrouper : Option Nat
  serial : Nat

namespace GroupBy

variable {ε σ κ α τ : Type} [DecidableEq κ]

/-- `groupby(iterable, key)`, before anything is pulled. -/
def new : GroupBy κ α := ⟨none, none, none, none, 0⟩

section Operations

open Effect

variable (view : σ → GroupBy κ α) (update : σ → GroupBy κ α → σ)
  (source : Effect ε σ (Option α)) (key : α → κ)

/-- Change the groupby object within the state. -/
def modifyObj (f : GroupBy κ α → GroupBy κ α) : Effect ε σ Unit :=
  modify fun s => update s (f (view s))

/-- `groupby_step`: pull the next item and its key into `currvalue` and `currkey`; `false` when
the source is exhausted. -/
def step : Effect ε σ Bool := do
  match ← source with
  | none => pure false
  | some item =>
    modifyObj view update fun g => { g with currvalue := some item, currkey := some (key item) }
    pure true

/-- The loop of `groupby_next` that skips to the next group, with at most `fuel` passes: the key
it stops at, or `none` when the source is exhausted. -/
def skip (outOfFuel : ε) : Nat → Effect ε σ (Option κ)
  | 0 => throw outOfFuel
  | fuel + 1 => do
    let g := view (← get)
    match g.currkey, g.tgtkey with
    | some c, none => pure (some c)
    | some c, some t =>
      if t = c then
        if ← step view update source key then skip outOfFuel fuel else pure none
      else pure (some c)
    | none, _ => if ← step view update source key then skip outOfFuel fuel else pure none

/-- `groupby.__next__`: the key of the next group and the number of its grouper, or `none` when
the source is exhausted. -/
def next (outOfFuel : ε) (fuel : Nat) : Effect ε σ (Option (κ × Nat)) := do
  modifyObj view update fun g => { g with currgrouper := none }
  match ← skip view update source key outOfFuel fuel with
  | none => pure none
  | some k =>
    let n := (view (← get)).serial
    modifyObj view update fun g => { g with tgtkey := some k, currgrouper := some n, serial := n + 1 }
    pure (some (k, n))

/-- The end of `_grouper_next`: hand out the pulled item if it has the group's key. -/
def take : Effect ε σ (Option α) := do
  let g := view (← get)
  match g.currvalue, g.currkey, g.tgtkey with
  | some item, some c, some t =>
    if t = c then
      modifyObj view update fun g => { g with currvalue := none, currkey := none }
      pure (some item)
    else pure none
  | _, _, _ => pure none

/-- `_grouper.__next__` of grouper `n`: the next item of its group, or `none` at the group's end,
when the source is exhausted, or when `n` is no longer the current grouper. -/
def grouperNext (n : Nat) : Effect ε σ (Option α) := do
  let g := view (← get)
  if g.currgrouper = some n then
    let held ← if g.currvalue.isSome then pure true else step view update source key
    if held then take view update else pure none
  else pure none

end Operations

/-! A source that reads items off a stream of tokens. A frame is an item with the tokens it is
read from; `embed g ts` is the state holding the groupby object `g`, with the stream at `ts`.
`Feeds` says the source reads each frame's item from the frame's tokens and leaves the groupby
object alone. -/

section Feeding

open Effect

variable {view : σ → GroupBy κ α} {update : σ → GroupBy κ α → σ}
  {source : Effect ε σ (Option α)} {key : α → κ}

/-- The states `embed g ts` give access to `g`, and the source yields the item of every frame of
`frames` from the frame's tokens. -/
structure Feeds (view : σ → GroupBy κ α) (update : σ → GroupBy κ α → σ)
    (source : Effect ε σ (Option α)) (embed : GroupBy κ α → List τ → σ)
    (frames : List (α × List τ)) : Prop where
  view_embed : ∀ g ts, view (embed g ts) = g
  update_embed : ∀ g ts g', update (embed g ts) g' = embed g' ts
  reads : ∀ x ∈ frames, ∀ g ts, source.run (embed g (x.2 ++ ts)) = (.ok (some x.1), embed g ts)

variable {embed : GroupBy κ α → List τ → σ} {frames : List (α × List τ)}

/-- The state of a groupby whose current group has key `t` and grouper `grouper`, before the
frames `xs`: the first of them already pulled when `pulled` holds. -/
def serving (embed : GroupBy κ α → List τ → σ) (key : α → κ) (t : κ) (grouper : Option Nat)
    (serial : Nat) (pulled : Bool) (xs : List (α × List τ)) (ts : List τ) : σ :=
  match pulled, xs with
  | true, x :: rest =>
    embed ⟨some t, some (key x.1), some x.1, grouper, serial⟩ (rest.flatMap Prod.snd ++ ts)
  | _, xs => embed ⟨some t, none, none, grouper, serial⟩ (xs.flatMap Prod.snd ++ ts)

omit [DecidableEq κ] in
theorem serving_map {σ' : Type} (f : σ → σ') (embed : GroupBy κ α → List τ → σ) (key : α → κ)
    (t : κ) (grouper : Option Nat) (serial : Nat) (pulled : Bool) (xs : List (α × List τ))
    (ts : List τ) :
    serving (fun g ts => f (embed g ts)) key t grouper serial pulled xs ts =
      f (serving embed key t grouper serial pulled xs ts) := by
  cases pulled <;> cases xs <;> rfl

theorem grouperNext_stale {n : Nat} {s : σ} (other : (view s).currgrouper ≠ some n) :
    (grouperNext view update source key n).run s = (.ok none, s) := by
  rw [grouperNext, run_bind_ok (run_get s)]
  dsimp only
  rw [if_neg other, run_pure]

omit [DecidableEq κ] in
theorem modifyObj_embed (feeds : Feeds view update source embed frames)
    (f : GroupBy κ α → GroupBy κ α) (g : GroupBy κ α) (ts : List τ) :
    (modifyObj view update f : Effect ε σ Unit).run (embed g ts) = (.ok (), embed (f g) ts) := by
  rw [modifyObj, run_modify, feeds.view_embed, feeds.update_embed]

omit [DecidableEq κ] in
theorem step_reads (feeds : Feeds view update source embed frames) {x : α × List τ}
    (member : x ∈ frames) (g : GroupBy κ α) (ts : List τ) :
    (step view update source key).run (embed g (x.2 ++ ts)) =
      (.ok true, embed { g with currvalue := some x.1, currkey := some (key x.1) } ts) := by
  rw [step, run_bind_ok (feeds.reads x member g ts)]
  dsimp only
  rw [run_bind_ok (modifyObj_embed feeds _ g ts), run_pure]

omit [DecidableEq κ] in
theorem serving_step (feeds : Feeds view update source embed frames) {t : κ}
    {grouper : Option Nat} {serial : Nat} {x : α × List τ} {xs : List (α × List τ)}
    (member : x ∈ frames) (ts : List τ) :
    (step view update source key).run (serving embed key t grouper serial false (x :: xs) ts) =
      (.ok true, serving embed key t grouper serial true (x :: xs) ts) := by
  simp only [serving, List.flatMap_cons, List.append_assoc]
  rw [step_reads feeds member]

theorem grouperNext_member (feeds : Feeds view update source embed frames) {t : κ} {n : Nat}
    {serial : Nat} (pulled : Bool) {x : α × List τ} {xs : List (α × List τ)} (member : x ∈ frames)
    (same : key x.1 = t) (ts : List τ) :
    (grouperNext view update source key n).run
        (serving embed key t (some n) serial pulled (x :: xs) ts) =
      (.ok (some x.1), serving embed key t (some n) serial false xs ts) := by
  have held : (serving embed key t (some n) serial true (x :: xs) ts) =
      embed ⟨some t, some (key x.1), some x.1, some n, serial⟩ (xs.flatMap Prod.snd ++ ts) := rfl
  have taken : (take view update : Effect ε σ (Option α)).run
      (serving embed key t (some n) serial true (x :: xs) ts) =
        (.ok (some x.1), serving embed key t (some n) serial false xs ts) := by
    rw [held, take, run_bind_ok (run_get _), feeds.view_embed]
    dsimp only
    rw [if_pos same.symm, run_bind_ok (modifyObj_embed feeds _ _ _), run_pure]
    rfl
  cases pulled with
  | true =>
    rw [grouperNext, run_bind_ok (run_get _), held, feeds.view_embed]
    dsimp only
    rw [if_pos rfl, Option.isSome_some, if_pos rfl, run_bind_ok (run_pure _ _), if_pos rfl, ← held,
      taken]
  | false =>
    have fresh : serving embed key t (some n) serial false (x :: xs) ts =
        embed ⟨some t, none, none, some n, serial⟩ ((x :: xs).flatMap Prod.snd ++ ts) := rfl
    rw [grouperNext, run_bind_ok (run_get _), fresh, feeds.view_embed]
    dsimp only
    rw [if_pos rfl, Option.isSome_none, if_neg Bool.false_ne_true, ← fresh,
      run_bind_ok (serving_step feeds member ts), if_pos rfl, taken]

theorem grouperNext_end (feeds : Feeds view update source embed frames) {t : κ} {n : Nat}
    {serial : Nat} (pulled : Bool) {y : α × List τ} {ys : List (α × List τ)} (member : y ∈ frames)
    (other : key y.1 ≠ t) (ts : List τ) :
    (grouperNext view update source key n).run
        (serving embed key t (some n) serial pulled (y :: ys) ts) =
      (.ok none, serving embed key t (some n) serial true (y :: ys) ts) := by
  have held : (serving embed key t (some n) serial true (y :: ys) ts) =
      embed ⟨some t, some (key y.1), some y.1, some n, serial⟩ (ys.flatMap Prod.snd ++ ts) := rfl
  have refused : (take view update : Effect ε σ (Option α)).run
      (serving embed key t (some n) serial true (y :: ys) ts) =
        (.ok none, serving embed key t (some n) serial true (y :: ys) ts) := by
    rw [held, take, run_bind_ok (run_get _), feeds.view_embed]
    dsimp only
    rw [if_neg (Ne.symm other), run_pure]
  cases pulled with
  | true =>
    rw [grouperNext, run_bind_ok (run_get _), held, feeds.view_embed]
    dsimp only
    rw [if_pos rfl, Option.isSome_some, if_pos rfl, run_bind_ok (run_pure _ _), if_pos rfl, ← held,
      refused]
  | false =>
    have fresh : serving embed key t (some n) serial false (y :: ys) ts =
        embed ⟨some t, none, none, some n, serial⟩ ((y :: ys).flatMap Prod.snd ++ ts) := rfl
    rw [grouperNext, run_bind_ok (run_get _), fresh, feeds.view_embed]
    dsimp only
    rw [if_pos rfl, Option.isSome_none, if_neg Bool.false_ne_true, ← fresh,
      run_bind_ok (serving_step feeds member ts), if_pos rfl, refused]

theorem skip_pulled (feeds : Feeds view update source embed frames) (outOfFuel : ε) {t : κ}
    {serial : Nat} {y : α × List τ} {later : List (α × List τ)} (next : y ∈ frames)
    (other : key y.1 ≠ t) (ts : List τ) :
    ∀ (rest : List (α × List τ)) (fuel : Nat), (∀ x ∈ rest, x ∈ frames ∧ key x.1 = t) →
      rest.length + 1 ≤ fuel →
      (skip view update source key outOfFuel fuel).run
          (serving embed key t none serial true (rest ++ y :: later) ts) =
        (.ok (some (key y.1)), serving embed key t none serial true (y :: later) ts)
  | [], fuel + 1, _, _ => by
    have reached : (serving embed key t none serial true ([] ++ y :: later) ts) =
        embed ⟨some t, some (key y.1), some y.1, none, serial⟩ (later.flatMap Prod.snd ++ ts) :=
      rfl
    rw [skip, run_bind_ok (run_get _), reached, feeds.view_embed]
    dsimp only
    rw [if_neg (Ne.symm other), run_pure]
    rfl
  | x :: rest, fuel + 1, members, enough => by
    obtain ⟨member, same⟩ := members x (List.mem_cons_self ..)
    have others : ∀ x' ∈ rest, x' ∈ frames ∧ key x'.1 = t :=
      fun x' mem => members x' (List.mem_cons_of_mem _ mem)
    have held : (serving embed key t none serial true ((x :: rest) ++ y :: later) ts) =
        embed ⟨some t, some (key x.1), some x.1, none, serial⟩
          ((rest ++ y :: later).flatMap Prod.snd ++ ts) :=
      rfl
    rw [skip, run_bind_ok (run_get _), held, feeds.view_embed]
    dsimp only
    rw [same, if_pos rfl]
    have dropped : (do
          let pulled ← step view update source key
          if pulled = true then skip view update source key outOfFuel fuel else pure none :
            Effect ε σ (Option κ)).run
        (embed ⟨some t, some t, some x.1, none, serial⟩
          ((rest ++ y :: later).flatMap Prod.snd ++ ts)) =
          (skip view update source key outOfFuel fuel).run
            (serving embed key t none serial true (rest ++ y :: later) ts) := by
      cases rest with
      | nil =>
        rw [List.nil_append, List.flatMap_cons, List.append_assoc,
          run_bind_ok (step_reads feeds next _ _), if_pos rfl]
        rfl
      | cons x' rest' =>
        have member' := (others x' (List.mem_cons_self ..)).1
        rw [List.cons_append, List.flatMap_cons, List.append_assoc,
          run_bind_ok (step_reads feeds member' _ _), if_pos rfl]
        rfl
    rw [dropped]
    exact skip_pulled feeds outOfFuel next other ts rest fuel others (by simp at enough; omega)

theorem skip_serving (feeds : Feeds view update source embed frames) (outOfFuel : ε) {t : κ}
    {serial : Nat} (pulled : Bool) {rest : List (α × List τ)} {y : α × List τ}
    {later : List (α × List τ)} (members : ∀ x ∈ rest, x ∈ frames ∧ key x.1 = t)
    (next : y ∈ frames) (other : key y.1 ≠ t) (ts : List τ) {fuel : Nat}
    (enough : rest.length + 2 ≤ fuel) :
    (skip view update source key outOfFuel fuel).run
        (serving embed key t none serial pulled (rest ++ y :: later) ts) =
      (.ok (some (key y.1)), serving embed key t none serial true (y :: later) ts) := by
  cases pulled with
  | true => exact skip_pulled feeds outOfFuel next other ts rest fuel members (by omega)
  | false =>
    obtain ⟨fuel, rfl⟩ : ∃ k, fuel = k + 1 := ⟨fuel - 1, by omega⟩
    obtain ⟨first, tail, split, firstMember⟩ :
        ∃ first tail, rest ++ y :: later = first :: tail ∧ first ∈ frames := by
      cases rest with
      | nil => exact ⟨y, later, rfl, next⟩
      | cons x rest => exact ⟨x, rest ++ y :: later, rfl, (members x (List.mem_cons_self ..)).1⟩
    have fresh : serving embed key t none serial false (rest ++ y :: later) ts =
        embed ⟨some t, none, none, none, serial⟩ ((rest ++ y :: later).flatMap Prod.snd ++ ts) := by
      rw [split]
      rfl
    rw [skip, run_bind_ok (run_get _), fresh, feeds.view_embed]
    dsimp only
    rw [← fresh, split, run_bind_ok (serving_step feeds firstMember ts), if_pos rfl, ← split]
    exact skip_pulled feeds outOfFuel next other ts rest fuel members (by omega)

theorem next_serving (feeds : Feeds view update source embed frames) (outOfFuel : ε) {t : κ}
    {grouper : Option Nat} {serial : Nat} (pulled : Bool) {rest : List (α × List τ)}
    {y : α × List τ} {later : List (α × List τ)} (members : ∀ x ∈ rest, x ∈ frames ∧ key x.1 = t)
    (next : y ∈ frames) (other : key y.1 ≠ t) (ts : List τ) {fuel : Nat}
    (enough : rest.length + 2 ≤ fuel) :
    (GroupBy.next view update source key outOfFuel fuel).run
        (serving embed key t grouper serial pulled (rest ++ y :: later) ts) =
      (.ok (some (key y.1, serial)),
        serving embed key (key y.1) (some serial) (serial + 1) true (y :: later) ts) := by
  have detached : (modifyObj view update fun g => { g with currgrouper := none } :
      Effect ε σ Unit).run (serving embed key t grouper serial pulled (rest ++ y :: later) ts) =
        (.ok (), serving embed key t none serial pulled (rest ++ y :: later) ts) := by
    unfold serving
    split <;> rw [modifyObj_embed feeds]
  have reached : (serving embed key t none serial true (y :: later) ts) =
      embed ⟨some t, some (key y.1), some y.1, none, serial⟩ (later.flatMap Prod.snd ++ ts) := rfl
  rw [GroupBy.next, run_bind_ok detached,
    run_bind_ok (skip_serving feeds outOfFuel pulled members next other ts enough)]
  dsimp only
  rw [run_bind_ok (run_get _), reached, feeds.view_embed]
  dsimp only
  rw [run_bind_ok (modifyObj_embed feeds _ _ _), run_pure]
  rfl

theorem skip_new (feeds : Feeds view update source embed frames) (outOfFuel : ε)
    {y : α × List τ} {later : List (α × List τ)} (first : y ∈ frames) (ts : List τ) (fuel : Nat) :
    (skip view update source key outOfFuel (fuel + 2)).run
        (embed new ((y :: later).flatMap Prod.snd ++ ts)) =
      (.ok (some (key y.1)),
        embed ⟨none, some (key y.1), some y.1, none, 0⟩ (later.flatMap Prod.snd ++ ts)) := by
  rw [skip, run_bind_ok (run_get _), feeds.view_embed]
  dsimp only [new]
  rw [List.flatMap_cons, List.append_assoc, run_bind_ok (step_reads feeds first _ _), if_pos rfl,
    skip, run_bind_ok (run_get _), feeds.view_embed]
  rfl

theorem next_new (feeds : Feeds view update source embed frames) (outOfFuel : ε)
    {y : α × List τ} {later : List (α × List τ)} (first : y ∈ frames) (ts : List τ) {fuel : Nat}
    (enough : 2 ≤ fuel) :
    (GroupBy.next view update source key outOfFuel fuel).run
        (embed new ((y :: later).flatMap Prod.snd ++ ts)) =
      (.ok (some (key y.1, 0)), serving embed key (key y.1) (some 0) 1 true (y :: later) ts) := by
  obtain ⟨fuel, rfl⟩ : ∃ k, fuel = k + 2 := ⟨fuel - 2, by omega⟩
  have detached : ({ new with currgrouper := none } : GroupBy κ α) = new := rfl
  rw [GroupBy.next, run_bind_ok (modifyObj_embed feeds _ _ _), detached,
    run_bind_ok (skip_new feeds outOfFuel first ts fuel)]
  dsimp only
  rw [run_bind_ok (run_get _), feeds.view_embed]
  dsimp only
  rw [run_bind_ok (modifyObj_embed feeds _ _ _), run_pure]
  rfl

end Feeding

end GroupBy
