import Pydoop.Sercore.Streams
import Pydoop.Lib.PyDict
import Mathlib.Data.List.Induction

/-! `pydoop.hadut`: how `run_tool_cmd` rearranges the arguments of a Hadoop command so that the
generic options come before the command's own. `_merge_csv_args` and `_pop_generic_args` run one
loop, from the last index down, taking each option out of the list together with the element
after it. Read from the left, an argument list is a sequence of options with their values and
plain arguments; the loop collects the options from the last one back, so that the pairs come
out in reverse order. -/

namespace Pydoop.Hadut

open Sercore PyText

/-- `GENERIC_ARGS` -/
def GENERIC_ARGS : List String := ["-conf", "-D", "-fs", "-jt", "-files", "-libjars", "-archives"]

/-- `CSV_ARGS` -/
def CSV_ARGS : List String := ["-files", "-libjars", "-archives"]

/-- The loop of `_pop_generic_args` and `_merge_csv_args`: `i` runs from the last index down to
0, and an element of `names` at `i` is taken out of `args` with the one after it and handed to
`collect`. The argument is `i + 1`. -/
def popPairs {β : Type} (names : List String) (collect : β → String → String → β) (acc : β)
    (args : List String) : Nat → Except PyExc (β × List String)
  | 0 => .ok (acc, args)
  | i + 1 =>
    match args[i]? with
    -- out of range never: removing a pair at `i` leaves `i - 1` in range
    | none => popPairs names collect acc args i
    | some a =>
      if a ∈ names then
        match args[i + 1]? with
        | none => .error (.valueError s!"option {a} has no value")
        | some v => popPairs names collect (collect acc a v) (args.take i ++ args.drop (i + 2)) i
      else popPairs names collect acc args i

/-- `_pop_generic_args(args)`: the generic options with their values, and what is left of
`args`. -/
def popGenericArgs (args : List String) : Except PyExc (List String × List String) :=
  popPairs GENERIC_ARGS (fun generic a v => generic ++ [a, v]) [] args args.length

/-- `_merge_csv_args(args)`: the CSV options taken out, their stripped values collected in a
`merge_map` of lists, and one option per key appended with the comma-join of its list. -/
def mergeCsvArgs (args : List String) : Except PyExc (List String) := do
  let (mergeMap, args) ←
    popPairs CSV_ARGS (fun m k v => m.append k (strip v)) PyDict.empty args args.length
  return args ++ mergeMap.entries.flatMap fun (k, vlist) => [k, ",".intercalate vlist]

/-- The rewriting `run_tool_cmd` applies to a non-empty argument list: the CSV options merged,
then the generic options moved to the front. -/
def rewriteArgs (args : List String) : Except PyExc (List String) := do
  let args ← mergeCsvArgs args
  let (gargs, args) ← popGenericArgs args
  return gargs ++ args

/-- `_construct_property_args(prop_dict)` -/
def constructPropertyArgs (props : PyDict String String) : List String :=
  props.entries.flatMap fun (k, v) => ["-D", s!"{k}={v}"]

/-- The command line `run_tool_cmd(tool, cmd, args, properties, hadoop_conf_dir)` runs, with
`""` for a `hadoop_conf_dir` not given. -/
def runToolCmdArgs (tool cmd : String) (args : List String) (properties : PyDict String String)
    (hadoopConfDir : String) : Except PyExc (List String) := do
  let head := [tool] ++ (if hadoopConfDir = "" then [] else ["--config", hadoopConfDir]) ++
    [cmd] ++ constructPropertyArgs properties
  if args = [] then return head
  else return head ++ (← rewriteArgs args)

/-! ### Reading an argument list from the left -/

/-- One element of an argument list read from the left: an option with the element after it
as its value, or any other element. -/
inductive Arg
  | option (name value : String)
  | plain (text : String)
  deriving DecidableEq, Repr

namespace Arg

/-- The elements an argument stands for. -/
def flatten : Arg → List String
  | .option name value => [name, value]
  | .plain text => [text]

@[simp] theorem flatten_option (name value : String) :
    (Arg.option name value).flatten = [name, value] := rfl

@[simp] theorem flatten_plain (text : String) : (Arg.plain text).flatten = [text] := rfl

/-- An argument read against the option names `names`: an option is one of them and its value
is not, and a plain element is not one of them. -/
def Fits (names : List String) : Arg → Prop
  | .option name value => name ∈ names ∧ value ∉ names
  | .plain text => text ∉ names

instance (names : List String) : DecidablePred (Fits names)
  | .option name value =>
    decidable_of_iff ((decide (name ∈ names) && !decide (value ∈ names)) = true) (by simp [Fits])
  | .plain text => decidable_of_iff ((!decide (text ∈ names)) = true) (by simp [Fits])

/-- The same argument read against `CSV_ARGS` only: another generic option and its value are
then two plain elements. -/
def csvView : Arg → List Arg
  | .option name value => if name ∈ CSV_ARGS then [.option name value] else [.plain name, .plain value]
  | .plain text => [.plain text]

/-- A CSV option. -/
def isCsvOption : Arg → Bool
  | .option name _ => name ∈ CSV_ARGS
  | .plain _ => false

@[simp] theorem isCsvOption_option (name value : String) :
    (Arg.option name value).isCsvOption = decide (name ∈ CSV_ARGS) := rfl

@[simp] theorem isCsvOption_plain (text : String) : (Arg.plain text).isCsvOption = false := rfl

end Arg

/-- The options of a reading, with their values, in order. -/
def optionPairs (ts : List Arg) : List (String × String) :=
  ts.filterMap fun
    | .option name value => some (name, value)
    | .plain _ => none

/-- The plain elements of a reading, in order. -/
def plainArgs (ts : List Arg) : List String :=
  ts.filterMap fun
    | .plain text => some text
    | .option _ _ => none

/-- Option pairs written out. -/
def pairs (ps : List (String × String)) : List String :=
  ps.flatMap fun p => [p.1, p.2]

/-- The `merge_map` of a reading: the stripped values of its CSV options, collected from the
last option back. -/
def csvMerge (ts : List Arg) : PyDict String (List String) :=
  PyDict.grouped (((optionPairs ts).filter (·.1 ∈ CSV_ARGS)).reverse.map fun p => (p.1, strip p.2))

/-- The options `_merge_csv_args` appends, one per key of a `merge_map`. -/
def mergedArgs (m : PyDict String (List String)) : List Arg :=
  m.entries.map fun (k, vlist) => .option k (",".intercalate vlist)

@[simp] theorem optionPairs_nil : optionPairs [] = [] := rfl

@[simp] theorem plainArgs_nil : plainArgs [] = [] := rfl

@[simp] theorem optionPairs_cons_option (name value : String) (ts : List Arg) :
    optionPairs (.option name value :: ts) = (name, value) :: optionPairs ts := rfl

@[simp] theorem optionPairs_cons_plain (text : String) (ts : List Arg) :
    optionPairs (.plain text :: ts) = optionPairs ts := rfl

@[simp] theorem plainArgs_cons_option (name value : String) (ts : List Arg) :
    plainArgs (.option name value :: ts) = plainArgs ts := rfl

@[simp] theorem plainArgs_cons_plain (text : String) (ts : List Arg) :
    plainArgs (.plain text :: ts) = text :: plainArgs ts := rfl

@[simp] theorem optionPairs_append (ts us : List Arg) :
    optionPairs (ts ++ us) = optionPairs ts ++ optionPairs us := List.filterMap_append

@[simp] theorem plainArgs_append (ts us : List Arg) :
    plainArgs (ts ++ us) = plainArgs ts ++ plainArgs us := List.filterMap_append

@[simp] theorem pairs_append (ps qs : List (String × String)) :
    pairs (ps ++ qs) = pairs ps ++ pairs qs := List.flatMap_append

/-! ### The loop, pair by pair -/

section Loop

variable {β : Type} {names : List String} {collect : β → String → String → β} {acc : β}

@[simp] theorem popPairs_zero (args : List String) :
    popPairs names collect acc args 0 = .ok (acc, args) := rfl

theorem popPairs_plain {pre post : List String} {a : String} (notName : a ∉ names) :
    popPairs names collect acc (pre ++ a :: post) (pre.length + 1) =
      popPairs names collect acc (pre ++ a :: post) pre.length := by
  have atName : (pre ++ a :: post)[pre.length]? = some a := by simp
  rw [popPairs, atName]
  simp only [notName, if_false]

theorem popPairs_option {pre post : List String} {a v : String} (isName : a ∈ names)
    (notName : v ∉ names) :
    popPairs names collect acc (pre ++ a :: v :: post) (pre.length + 2) =
      popPairs names collect (collect acc a v) (pre ++ post) pre.length := by
  have atName : (pre ++ a :: v :: post)[pre.length]? = some a := by simp
  have atValue : (pre ++ a :: v :: post)[pre.length + 1]? = some v := by
    simp
  have kept : (pre ++ a :: v :: post).take pre.length ++
      (pre ++ a :: v :: post).drop (pre.length + 2) = pre ++ post := by
    simp [List.drop_append]
  rw [popPairs, atValue]
  simp only [notName, if_false]
  rw [popPairs, atName]
  simp only [isName, if_true, atValue, kept]

theorem popPairs_missing {pre : List String} {a : String} (isName : a ∈ names) :
    popPairs names collect acc (pre ++ [a]) (pre.length + 1) =
      .error (.valueError s!"option {a} has no value") := by
  have atName : (pre ++ [a])[pre.length]? = some a := by simp
  have past : (pre ++ [a])[pre.length + 1]? = none := by simp
  rw [popPairs, atName]
  simp only [isName, if_true, past]

/-- The loop over a reading whose options are `names`: its options are collected from the last
one back and its plain elements stay in order. The induction runs over the reading from its
right end, the loop's direction; what precedes the reading is not yet visited and what follows
it is already done. -/
theorem popPairs_reading (pre post : List String) {ts : List Arg}
    (fits : ∀ t ∈ ts, t.Fits names) (acc : β) :
    popPairs names collect acc (pre ++ ts.flatMap Arg.flatten ++ post)
        (pre.length + (ts.flatMap Arg.flatten).length) =
      popPairs names collect ((optionPairs ts).reverse.foldl (fun acc p => collect acc p.1 p.2) acc)
        (pre ++ plainArgs ts ++ post) pre.length := by
  induction ts using List.reverseRecOn generalizing acc post with
  | nil => simp
  | append_singleton init t ih =>
    have fitsInit : ∀ t ∈ init, t.Fits names := fun t member => fits t (by simp [member])
    have fitsLast : t.Fits names := fits t (by simp)
    have front : pre.length + (init.flatMap Arg.flatten).length =
        (pre ++ init.flatMap Arg.flatten).length := by simp
    cases t with
    | plain a =>
      have shape : pre ++ (init ++ [Arg.plain a]).flatMap Arg.flatten ++ post =
          pre ++ init.flatMap Arg.flatten ++ a :: post := by simp [Arg.flatten_plain]
      have count : pre.length + ((init ++ [Arg.plain a]).flatMap Arg.flatten).length =
          (pre ++ init.flatMap Arg.flatten).length + 1 := by simp [Arg.flatten_plain]; omega
      rw [shape, count, popPairs_plain fitsLast, ← front, ih (a :: post) fitsInit]
      simp
    | option a v =>
      obtain ⟨isName, notName⟩ := fitsLast
      have shape : pre ++ (init ++ [Arg.option a v]).flatMap Arg.flatten ++ post =
          pre ++ init.flatMap Arg.flatten ++ a :: v :: post := by simp [Arg.flatten_option]
      have count : pre.length + ((init ++ [Arg.option a v]).flatMap Arg.flatten).length =
          (pre ++ init.flatMap Arg.flatten).length + 2 := by simp [Arg.flatten_option]; omega
      rw [shape, count, popPairs_option isName notName, ← front, ih post fitsInit]
      simp

end Loop

/-! ### The two passes over a reading -/

theorem csv_subset_generic : ∀ a ∈ CSV_ARGS, a ∈ GENERIC_ARGS := by decide

theorem foldl_extend (ps : List (String × String)) (acc : List String) :
    ps.foldl (fun acc p => acc ++ [p.1, p.2]) acc = acc ++ pairs ps := by
  induction ps generalizing acc with
  | nil => simp [pairs]
  | cons p rest ih =>
    rw [List.foldl_cons, ih]
    simp [pairs]

theorem popGenericArgs_reading {ts : List Arg} (fits : ∀ t ∈ ts, t.Fits GENERIC_ARGS) :
    popGenericArgs (ts.flatMap Arg.flatten) = .ok (pairs (optionPairs ts).reverse, plainArgs ts) := by
  have run := (popPairs_reading [] [] fits [] :
    popPairs GENERIC_ARGS (fun generic a v => generic ++ [a, v]) _ _ _ = _)
  simp only [List.nil_append, List.append_nil, List.length_nil, Nat.zero_add, popPairs_zero,
    foldl_extend] at run
  exact run

theorem mergeCsvArgs_reading {us : List Arg} (fits : ∀ u ∈ us, u.Fits CSV_ARGS) :
    mergeCsvArgs (us.flatMap Arg.flatten) =
      .ok (plainArgs us ++ (mergedArgs (PyDict.grouped
        ((optionPairs us).reverse.map fun p => (p.1, strip p.2)))).flatMap Arg.flatten) := by
  have run := (popPairs_reading [] [] fits PyDict.empty :
    popPairs CSV_ARGS (fun m k v => m.append k (strip v)) _ _ _ = _)
  simp only [List.nil_append, List.append_nil, List.length_nil, Nat.zero_add, popPairs_zero] at run
  have grouped : (optionPairs us).reverse.foldl (fun m p => m.append p.1 (strip p.2)) PyDict.empty =
      PyDict.grouped ((optionPairs us).reverse.map fun p => (p.1, strip p.2)) := by
    rw [PyDict.grouped, List.foldl_map]
  have written (m : PyDict String (List String)) : (mergedArgs m).flatMap Arg.flatten =
      m.entries.flatMap fun (k, vlist) => [k, ",".intercalate vlist] := by
    simp [mergedArgs, List.flatMap_map]
  rw [mergeCsvArgs, run, grouped, written]
  rfl

theorem flatten_csvView (ts : List Arg) :
    (ts.flatMap Arg.csvView).flatMap Arg.flatten = ts.flatMap Arg.flatten := by
  induction ts with
  | nil => rfl
  | cons t rest ih =>
    cases t with
    | option name value => by_cases csv : name ∈ CSV_ARGS <;> simp [Arg.csvView, csv, ih]
    | plain text => simp [Arg.csvView, ih]

theorem fits_csvView {ts : List Arg} (fits : ∀ t ∈ ts, t.Fits GENERIC_ARGS) :
    ∀ u ∈ ts.flatMap Arg.csvView, u.Fits CSV_ARGS := by
  intro u member
  obtain ⟨t, fromTs, fromT⟩ := List.mem_flatMap.mp member
  have fitsT := fits t fromTs
  cases t with
  | option name value =>
    obtain ⟨_, notName⟩ := fitsT
    have valueNotCsv : value ∉ CSV_ARGS := fun csv => notName (csv_subset_generic _ csv)
    by_cases csv : name ∈ CSV_ARGS
    · simp only [Arg.csvView, csv, if_true, List.mem_singleton] at fromT
      subst fromT
      exact ⟨csv, valueNotCsv⟩
    · simp only [Arg.csvView, csv, if_false, List.mem_cons, List.not_mem_nil, or_false] at fromT
      rcases fromT with rfl | rfl
      · exact csv
      · exact valueNotCsv
  | plain text =>
    simp only [Arg.csvView, List.mem_singleton] at fromT
    subst fromT
    exact fun csv => fitsT (csv_subset_generic _ csv)

theorem optionPairs_csvView (ts : List Arg) :
    optionPairs (ts.flatMap Arg.csvView) = (optionPairs ts).filter (·.1 ∈ CSV_ARGS) := by
  induction ts with
  | nil => rfl
  | cons t rest ih =>
    cases t with
    | option name value => by_cases csv : name ∈ CSV_ARGS <;> simp [Arg.csvView, csv, ih]
    | plain text => simp [Arg.csvView, ih]

theorem plainArgs_csvView (ts : List Arg) :
    plainArgs (ts.flatMap Arg.csvView) = (ts.filter (!·.isCsvOption)).flatMap Arg.flatten := by
  induction ts with
  | nil => rfl
  | cons t rest ih =>
    cases t with
    | option name value =>
      by_cases csv : name ∈ CSV_ARGS <;> simp [Arg.csvView, csv, ih]
    | plain text => simp [Arg.csvView, ih]

theorem optionPairs_nonCsv (ts : List Arg) :
    optionPairs (ts.filter (!·.isCsvOption)) = (optionPairs ts).filter (·.1 ∉ CSV_ARGS) := by
  induction ts with
  | nil => rfl
  | cons t rest ih =>
    cases t with
    | option name value => by_cases csv : name ∈ CSV_ARGS <;> simp [csv, ih]
    | plain text => simp [ih]

theorem plainArgs_nonCsv (ts : List Arg) :
    plainArgs (ts.filter (!·.isCsvOption)) = plainArgs ts := by
  induction ts with
  | nil => rfl
  | cons t rest ih =>
    cases t with
    | option name value => by_cases csv : name ∈ CSV_ARGS <;> simp [csv, ih]
    | plain text => simp [ih]

theorem optionPairs_mergedArgs (m : PyDict String (List String)) :
    optionPairs (mergedArgs m) = m.entries.map fun e => (e.1, ",".intercalate e.2) := by
  simp [mergedArgs, optionPairs, List.filterMap_map]

theorem plainArgs_mergedArgs (m : PyDict String (List String)) : plainArgs (mergedArgs m) = [] := by
  simp [mergedArgs, plainArgs, List.filterMap_map]

theorem fits_mergedArgs {ts : List Arg}
    (joined : ∀ entry ∈ (csvMerge ts).entries, ",".intercalate entry.2 ∉ GENERIC_ARGS) :
    ∀ t ∈ mergedArgs (csvMerge ts), t.Fits GENERIC_ARGS := by
  intro t member
  obtain ⟨⟨k, vlist⟩, entry, rfl⟩ := List.mem_map.mp member
  have key : k ∈ (csvMerge ts).keys := List.mem_map_of_mem entry
  have fromOptions := PyDict.mem_keys_grouped key
  simp only [List.map_map, List.mem_map, List.mem_reverse, List.mem_filter,
    Function.comp_def, decide_eq_true_eq] at fromOptions
  obtain ⟨p, ⟨_, csv⟩, rfl⟩ := fromOptions
  exact ⟨csv_subset_generic _ csv, joined _ entry⟩

@[simp] theorem flatten_plains (tail : List String) : (tail.map Arg.plain).flatMap Arg.flatten = tail := by
  induction tail with
  | nil => rfl
  | cons a rest ih => simp [ih]

@[simp] theorem plainArgs_plains (tail : List String) : plainArgs (tail.map Arg.plain) = tail := by
  induction tail with
  | nil => rfl
  | cons a rest ih => simp [ih]

@[simp] theorem optionPairs_plains (tail : List String) : optionPairs (tail.map Arg.plain) = [] := by
  induction tail with
  | nil => rfl
  | cons a rest ih => simp [ih]

theorem mergeCsvArgs_generic {ts : List Arg} (fits : ∀ t ∈ ts, t.Fits GENERIC_ARGS)
    {tail : List String} (plain : ∀ a ∈ tail, a ∉ CSV_ARGS) :
    mergeCsvArgs (ts.flatMap Arg.flatten ++ tail) =
      .ok ((ts.filter (!·.isCsvOption)).flatMap Arg.flatten ++ tail ++
        (mergedArgs (csvMerge ts)).flatMap Arg.flatten) := by
  have csvFits : ∀ u ∈ ts.flatMap Arg.csvView ++ tail.map Arg.plain, u.Fits CSV_ARGS := by
    intro u member
    rcases List.mem_append.mp member with viewed | last
    · exact fits_csvView fits u viewed
    · obtain ⟨a, fromTail, rfl⟩ := List.mem_map.mp last
      exact plain a fromTail
  have merged := mergeCsvArgs_reading csvFits
  rw [List.flatMap_append, flatten_csvView, flatten_plains, plainArgs_append, plainArgs_csvView,
    plainArgs_plains, optionPairs_append, optionPairs_csvView, optionPairs_plains,
    List.append_nil] at merged
  exact merged

/-- Hadoop command-line rewriting, as far as it goes: for an argument list read from the left
against `GENERIC_ARGS`, `run_tool_cmd` puts first one option per CSV name with the comma-join of
its stripped values, the names by the latest of their occurrences last and each list of values
from its last one back; then every other generic option with its value, the last occurrence
first; then the other elements in order. -/
theorem rewriteArgs_reading {ts : List Arg} (fits : ∀ t ∈ ts, t.Fits GENERIC_ARGS)
    (joined : ∀ entry ∈ (csvMerge ts).entries, ",".intercalate entry.2 ∉ GENERIC_ARGS) :
    rewriteArgs (ts.flatMap Arg.flatten) =
      .ok (pairs ((csvMerge ts).entries.map fun e => (e.1, ",".intercalate e.2)).reverse ++
        pairs ((optionPairs ts).filter (·.1 ∉ CSV_ARGS)).reverse ++ plainArgs ts) := by
  have merged : mergeCsvArgs (ts.flatMap Arg.flatten ++ []) = _ :=
    mergeCsvArgs_generic fits (fun _ absent => nomatch absent)
  rw [List.append_nil, List.append_nil] at merged
  have second : ∀ t ∈ ts.filter (!·.isCsvOption) ++ mergedArgs (csvMerge ts),
      t.Fits GENERIC_ARGS := by
    intro t member
    rcases List.mem_append.mp member with kept | appended
    · exact fits t (List.mem_filter.mp kept).1
    · exact fits_mergedArgs joined t appended
  have popped := popGenericArgs_reading second
  rw [List.flatMap_append] at popped
  simp only [csvMerge] at popped
  rw [rewriteArgs, merged]
  simp only [bind, Except.bind, popped, optionPairs_append, plainArgs_append,
    optionPairs_nonCsv, plainArgs_nonCsv, optionPairs_mergedArgs, plainArgs_mergedArgs,
    List.append_nil, List.reverse_append, pairs_append, csvMerge, List.append_assoc]
  rfl

/-- A generic option at the end of a reading has no value, and `run_tool_cmd` raises. -/
theorem rewriteArgs_missing_value {ts : List Arg} (fits : ∀ t ∈ ts, t.Fits GENERIC_ARGS)
    (joined : ∀ entry ∈ (csvMerge ts).entries, ",".intercalate entry.2 ∉ GENERIC_ARGS)
    {a : String} (isGeneric : a ∈ GENERIC_ARGS) :
    rewriteArgs (ts.flatMap Arg.flatten ++ [a]) =
      .error (.valueError s!"option {a} has no value") := by
  by_cases csv : a ∈ CSV_ARGS
  · have missing : popPairs CSV_ARGS (fun m k v => m.append k (strip v)) PyDict.empty
        (ts.flatMap Arg.flatten ++ [a]) ((ts.flatMap Arg.flatten).length + 1) = _ :=
      popPairs_missing csv
    rw [rewriteArgs, mergeCsvArgs, List.length_append, List.length_singleton, missing]
    rfl
  · have merged : mergeCsvArgs (ts.flatMap Arg.flatten ++ [a]) = _ :=
      mergeCsvArgs_generic fits (by simpa using csv)
    have run := (popPairs_reading ((ts.filter (!·.isCsvOption)).flatMap Arg.flatten ++ [a]) []
      (fits_mergedArgs joined) [] :
        popPairs GENERIC_ARGS (fun generic a v => generic ++ [a, v]) _ _ _ = _)
    have missing : ∀ acc, popPairs GENERIC_ARGS (fun generic a v => generic ++ [a, v]) acc
        ((ts.filter (!·.isCsvOption)).flatMap Arg.flatten ++ [a])
        (((ts.filter (!·.isCsvOption)).flatMap Arg.flatten).length + 1) =
          .error (.valueError s!"option {a} has no value") :=
      fun _ => popPairs_missing isGeneric
    simp only [List.append_nil, plainArgs_mergedArgs, List.length_append,
      List.length_singleton] at run
    rw [rewriteArgs, merged]
    simp only [bind, Except.bind, popGenericArgs, List.length_append, List.length_singleton]
    rw [run, missing]

/-- `-files a.py in -D`: the trailing `-D` has no value. -/
theorem rewriteArgs_missing_value_D :
    rewriteArgs ([Arg.option "-files" "a.py", .plain "in"].flatMap Arg.flatten ++ ["-D"]) =
      .error (.valueError "option -D has no value") :=
  @rewriteArgs_missing_value [.option "-files" "a.py", .plain "in"] (by decide) (by decide) "-D"
    (by decide)

/-- `-files x -D a=1 -files y -D a=2 run`: the `-D` options come out the other way round, and so
do the values of `-files`. -/
theorem rewriteArgs_repeated_options :
    rewriteArgs ["-files", "x", "-D", "a=1", "-files", "y", "-D", "a=2", "run"] =
      .ok ["-files", "y,x", "-D", "a=2", "-D", "a=1", "run"] :=
  (@rewriteArgs_reading [.option "-files" "x", .option "-D" "a=1", .option "-files" "y",
    .option "-D" "a=2", .plain "run"] (by decide) (by decide)).trans (by decide)

end Pydoop.Hadut
