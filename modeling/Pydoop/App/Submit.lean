import Pydoop.Hdfs.Path
import Pydoop.Lib.Text
import Pydoop.Lib.PyDict
import Pydoop.Lib.PosixPath

/-! `submit.py`: how `PydoopSubmitter.set_args` fills the distributed cache properties
`mapreduce.job.cache.files` and `mapreduce.job.cache.archives` from the `-D` options, the
`--cache-*` lists and the files it uploads, and how `run` renames MRv1 property names with
`conversion_tables.mrv1_to_mrv2` before it hands the properties to Hadoop. -/

namespace Pydoop.App

open Sercore PyText Hdfs

def IS_JAVA_RR : String := "mapreduce.pipes.isjavarecordreader"
def IS_JAVA_RW : String := "mapreduce.pipes.isjavarecordwriter"
def CACHE_FILES : String := "mapreduce.job.cache.files"
def CACHE_ARCHIVES : String := "mapreduce.job.cache.archives"
def JOB_REDUCES : String := "mapreduce.job.reduces"
def JOB_NAME : String := "mapreduce.job.name"
def COMPRESS_MAP_OUTPUT : String := "mapreduce.map.output.compress"

/-- A property value: the `-D` values and the flags are `str`s, `--num-reducers` an `int`. -/
inductive PropValue
  | str (s : String)
  | int (n : Int)
  deriving DecidableEq, Repr

/-- Python truth of a value. -/
def PropValue.truthy : PropValue → Bool
  | .str s => s ≠ ""
  | .int n => n ≠ 0

/-- What `set_args` and `run` read of the parsed arguments. An `append` option never given is
`None`; here it is the empty list, which every use treats alike (`x if x else []`). -/
structure Args where
  jobName : Option String
  doNotUseJavaRecordReader : Bool
  doNotUseJavaRecordWriter : Bool
  numReducers : Option Int
  jobConf : Option (PyDict String String)
  uploadFileToCache : List String
  uploadArchiveToCache : List String
  pythonZip : List String
  cacheFile : List String
  cacheArchive : List String
  setEnv : List String
  disablePropertyNameConversion : Bool

/-- The parts of a `PydoopSubmitter` that `set_args` fills. -/
structure Submitter where
  properties : PyDict String PropValue
  filesToUpload : List (String × String × String)
  requestedEnv : PyDict String String

/-- `PydoopSubmitter()`. -/
def Submitter.init : Submitter where
  properties := PyDict.ofPairs [(CACHE_FILES, .str ""), (CACHE_ARCHIVES, .str ""),
    ("mapred.create.symlink", .str "yes"), (COMPRESS_MAP_OUTPUT, .str "true")]
  filesToUpload := []
  requestedEnv := .empty

/-- The local host as `set_args` sees it: `os.path.realpath`, and `hdfs.path.isfile` of a
`file://` URL. -/
structure Host where
  realpath : String → String
  isfile : String → Bool

/-- `__cache_archive_link(archive_name)`. -/
def cacheArchiveLink (archiveName : String) : String :=
  String.ofList (PosixPath.splitext (PosixPath.basename archiveName.toList)).1

/-- One entry of `upf_to_cache`: the local URL, the remote path in the work directory and the
link name. -/
def uploadTuple (host : Host) (remoteWd prop e : String) :
    Except PyExc (String × String × String) := do
  let bn := PosixPath.basename e.toList
  let remote ← Path.join [remoteWd.toList, bn]
  pure ("file://" ++ host.realpath e, String.ofList remote,
    if prop = CACHE_FILES then String.ofList bn else cacheArchiveLink e)

/-- `"%s#%s" % (h, b)`. -/
def cachedFile (t : String × String × String) : String := t.2.1 ++ "#" ++ t.2.2

/-- `__set_files_to_cache_helper(prop, upload_and_cache, cache)`. -/
def setFilesToCacheHelper (host : Host) (remoteWd : String) (s : Submitter) (prop : String)
    (uploadAndCache cache : List String) : Except PyExc Submitter := do
  let some current := s.properties.get? prop | throw .keyError
  -- a value that is set is a `str` (or an `int`), and `cfiles += ...` of a list raises on it
  let cfiles ← if current.truthy then throw .typeError else pure cache
  let (cfiles, filesToUpload) ← if uploadAndCache = [] then pure (cfiles, s.filesToUpload) else do
    let upfToCache ← uploadAndCache.mapM (uploadTuple host remoteWd prop)
    let filesToUpload := s.filesToUpload ++ upfToCache
    -- the loop over `files_to_upload` raises at the first one that is not a file
    match filesToUpload.find? (fun t => !host.isfile t.1) with
    | some t => throw (.runtimeError ("not a file: '" ++ t.1 ++ "'"))
    | none => pure (cfiles ++ upfToCache.map cachedFile, filesToUpload)
  pure { s with
    properties := s.properties.insert prop (.str (",".intercalate cfiles))
    filesToUpload := filesToUpload }

/-- `__set_files_to_cache(args)`. -/
def setFilesToCache (host : Host) (remoteWd : String) (args : Args) (s : Submitter) :
    Except PyExc Submitter :=
  setFilesToCacheHelper host remoteWd s CACHE_FILES args.uploadFileToCache args.cacheFile

/-- `__set_archives_to_cache(args)`: the `--python-zip` files are uploaded as archives. -/
def setArchivesToCache (host : Host) (remoteWd : String) (args : Args) (s : Submitter) :
    Except PyExc Submitter :=
  setFilesToCacheHelper host remoteWd s CACHE_ARCHIVES
    (args.uploadArchiveToCache ++ args.pythonZip) args.cacheArchive

/-- One pass of the loop of `_env_arg_to_dict`: `NAME=VALUE` split at its first `=`. -/
def envItem (retval : PyDict String String) (item : String) : Except PyExc (PyDict String String) :=
  match item.toList.dropWhile (· ≠ '=') with
  | _ :: value =>
    pure (retval.insert (strip (String.ofList (item.toList.takeWhile (· ≠ '='))))
      (strip (String.ofList value)))
  | [] => throw (.runtimeError ("Bad syntax in env variable argument '" ++ item ++ "'"))

/-- `_env_arg_to_dict(set_env_list)`. -/
def envArgToDict (setEnvList : List String) : Except PyExc (PyDict String String) :=
  setEnvList.foldlM envItem .empty

/-- The properties `set_args` sets before the cache lists: the job name, the record reader and
writer flags, the number of reducers, and `self.properties.update(args.job_conf or {})`. -/
def jobProperties (args : Args) (props : PyDict String PropValue) : PyDict String PropValue :=
  let jobName := args.jobName.getD ""
  let props := props.insert JOB_NAME (.str (if jobName = "" then "pydoop" else jobName))
  let props := props.insert IS_JAVA_RR
    (.str (if args.doNotUseJavaRecordReader then "false" else "true"))
  let props := props.insert IS_JAVA_RW
    (.str (if args.doNotUseJavaRecordWriter then "false" else "true"))
  let props := match args.numReducers with
    | some n => props.insert JOB_REDUCES (.int n)
    | none => props
  let props := if jobName = "" then props else props.insert JOB_NAME (.str jobName)
  (args.jobConf.getD .empty).entries.foldl (fun props entry => props.insert entry.1 (.str entry.2))
    props

/-- `set_args(args)`, where `remoteWd` is the work directory it draws at random. -/
def setArgs (host : Host) (remoteWd : String) (args : Args) (s : Submitter) :
    Except PyExc Submitter := do
  let s ← setFilesToCache host remoteWd args { s with properties := jobProperties args s.properties }
  let s ← setArchivesToCache host remoteWd args s
  let requestedEnv ← envArgToDict args.setEnv
  pure { s with requestedEnv := requestedEnv }

/-- The properties `run` hands to Hadoop: unless `--disable-property-name-conversion` is given,
each name that `mrv1_to_mrv2` knows is replaced by its MRv2 name. -/
def runProperties (ctable : PyDict String String) (args : Args) (s : Submitter) :
    PyDict String PropValue :=
  if args.disablePropertyNameConversion then s.properties
  else s.properties.rename fun k => (ctable.get? k).getD k

/-! Uploads and the cache helper. -/

section Cache

variable {host : Host} {remoteWd : String}

theorem uploadTuple_local (host : Host) (remoteWd prop e : String) :
    ∃ remote link,
      uploadTuple host remoteWd prop e = .ok ("file://" ++ host.realpath e, remote, link) :=
  ⟨_, _, rfl⟩

theorem mapM_uploadTuple (host : Host) (remoteWd prop : String) :
    ∀ uploads : List String, ∃ upf, uploads.mapM (uploadTuple host remoteWd prop) = .ok upf ∧
      upf.map (·.1) = uploads.map fun e => "file://" ++ host.realpath e
  | [] => ⟨[], rfl, rfl⟩
  | e :: rest => by
    obtain ⟨upf, listed, locals⟩ := mapM_uploadTuple host remoteWd prop rest
    obtain ⟨remote, link, tuple⟩ := uploadTuple_local host remoteWd prop e
    refine ⟨("file://" ++ host.realpath e, remote, link) :: upf, ?_, by simp [locals]⟩
    simp only [List.mapM_cons, tuple, listed]
    rfl

theorem setFilesToCacheHelper_set {s : Submitter} {prop : String} {current : PropValue}
    (found : s.properties.get? prop = some current) (set : current.truthy = true)
    (uploadAndCache cache : List String) :
    setFilesToCacheHelper host remoteWd s prop uploadAndCache cache = .error .typeError := by
  simp only [setFilesToCacheHelper, found, set]
  rfl

theorem setFilesToCacheHelper_unset {s : Submitter} {prop : String} {current : PropValue}
    {uploadAndCache cache : List String} {upf : List (String × String × String)}
    (found : s.properties.get? prop = some current) (unset : current.truthy = false)
    (uploaded : uploadAndCache.mapM (uploadTuple host remoteWd prop) = .ok upf)
    (files : ∀ t ∈ s.filesToUpload ++ upf, host.isfile t.1 = true) :
    setFilesToCacheHelper host remoteWd s prop uploadAndCache cache =
      .ok { s with
        properties := s.properties.insert prop (.str (",".intercalate (cache ++ upf.map cachedFile)))
        filesToUpload := s.filesToUpload ++ upf } := by
  by_cases empty : uploadAndCache = []
  · subst empty
    have noUploads : upf = [] := (Except.ok.inj uploaded).symm
    subst noUploads
    simp only [setFilesToCacheHelper, found, unset]
    simp only [List.map_nil, List.append_nil]
    rfl
  · have allFiles : (s.filesToUpload ++ upf).find? (fun t => !host.isfile t.1) = none := by
      rw [List.find?_eq_none]
      intro t member
      simp [files t member]
    simp only [setFilesToCacheHelper, found, unset, if_neg empty, uploaded, Bool.false_eq_true,
      if_false, bind, Except.bind, pure, Except.pure]
    rw [allFiles]

end Cache

theorem envItem_ok (retval : PyDict String String) {item : String} (split : '=' ∈ item.toList) :
    ∃ d, envItem retval item = .ok d := by
  unfold envItem
  cases after : item.toList.dropWhile (· ≠ '=') with
  | nil =>
    have none := List.dropWhile_eq_nil_iff.mp after '=' split
    simp at none
  | cons c value => exact ⟨_, rfl⟩

theorem envArgToDict_ok {setEnvList : List String} (split : ∀ item ∈ setEnvList, '=' ∈ item.toList) :
    ∃ env, envArgToDict setEnvList = .ok env := by
  have loop : ∀ (items : List String) (retval : PyDict String String),
      (∀ item ∈ items, '=' ∈ item.toList) → ∃ env, items.foldlM envItem retval = .ok env := by
    intro items
    induction items with
    | nil => exact fun retval _ => ⟨retval, rfl⟩
    | cons item rest ih =>
      intro retval each
      obtain ⟨d, first⟩ := envItem_ok retval (each item List.mem_cons_self)
      obtain ⟨env, later⟩ := ih d fun item' member => each item' (List.mem_cons_of_mem _ member)
      refine ⟨env, ?_⟩
      rw [List.foldlM_cons, first]
      exact later
  exact loop setEnvList .empty split

/-! The properties before the cache lists. -/

section JobProperties

variable {args : Args} {props : PyDict String PropValue} {k : String}

theorem jobProperties_get?_conf {v : String} (given : (args.jobConf.getD .empty).get? k = some v) :
    (jobProperties args props).get? k = some (.str v) := by
  have listed : (args.jobConf.getD .empty).entries.lookup k = some v := given
  unfold jobProperties
  rw [PyDict.get?_foldl_insert PropValue.str (PyDict.nodup _), listed]
  rfl

theorem jobProperties_get?_of_not_mem (unset : k ∉ [JOB_NAME, IS_JAVA_RR, IS_JAVA_RW, JOB_REDUCES])
    (notGiven : (args.jobConf.getD .empty).get? k = none) :
    (jobProperties args props).get? k = props.get? k := by
  simp only [List.mem_cons, List.not_mem_nil, or_false, not_or] at unset
  obtain ⟨notName, notReader, notWriter, notReduces⟩ := unset
  have listed : (args.jobConf.getD .empty).entries.lookup k = none := notGiven
  unfold jobProperties
  rw [PyDict.get?_foldl_insert PropValue.str (PyDict.nodup _), listed, Option.map_none,
    Option.none_or]
  cases args.numReducers <;> split <;> simp [notName, notReader, notWriter, notReduces]

theorem mem_keys_jobProperties (member : k ∈ (jobProperties args props).keys) :
    k ∈ props.keys ∨ k ∈ [JOB_NAME, IS_JAVA_RR, IS_JAVA_RW, JOB_REDUCES] ∨
      k ∈ (args.jobConf.getD .empty).keys := by
  by_cases unset : k ∈ [JOB_NAME, IS_JAVA_RR, IS_JAVA_RW, JOB_REDUCES]
  · exact .inr (.inl unset)
  by_cases given : k ∈ (args.jobConf.getD .empty).keys
  · exact .inr (.inr given)
  have notGiven : (args.jobConf.getD .empty).get? k = none := by
    simpa [PyDict.mem_keys_iff] using given
  rw [PyDict.mem_keys_iff, jobProperties_get?_of_not_mem unset notGiven] at member
  exact .inl ((PyDict.mem_keys_iff _ _).mpr member)

theorem head?_keys_jobProperties (nonempty : props.keys ≠ []) :
    (jobProperties args props).keys.head? = props.keys.head? := by
  unfold jobProperties
  rw [PyDict.head?_keys_foldl_insert PropValue.str (by
    cases args.numReducers <;> split <;> simp [PyDict.insert_keys_ne_nil])]
  cases args.numReducers <;> split <;>
    simp [PyDict.head?_keys_insert, PyDict.insert_keys_ne_nil, nonempty]

end JobProperties

/-! `set_args` and `run`. -/

section SetArgs

variable {host : Host} {remoteWd : String} {args : Args} {s : Submitter}

theorem setArgs_files_set {current : PropValue}
    (found : (jobProperties args s.properties).get? CACHE_FILES = some current)
    (set : current.truthy = true) :
    setArgs host remoteWd args s = .error .typeError := by
  unfold setArgs setFilesToCache
  rw [setFilesToCacheHelper_set (s := { s with properties := jobProperties args s.properties })
    found set]
  rfl

theorem uploads_local {upf : List (String × String × String)}
    (uploaded : args.uploadFileToCache.mapM (uploadTuple host remoteWd CACHE_FILES) = .ok upf)
    (isFile : ∀ e ∈ args.uploadFileToCache ++ (args.uploadArchiveToCache ++ args.pythonZip),
      host.isfile ("file://" ++ host.realpath e) = true) :
    ∃ upfArchives, (args.uploadArchiveToCache ++ args.pythonZip).mapM
        (uploadTuple host remoteWd CACHE_ARCHIVES) = .ok upfArchives ∧
      ∀ t ∈ upf ++ upfArchives, host.isfile t.1 = true := by
  obtain ⟨upfFiles, listed, filesLocal⟩ :=
    mapM_uploadTuple host remoteWd CACHE_FILES args.uploadFileToCache
  rw [uploaded] at listed
  cases Except.ok.inj listed
  obtain ⟨upfArchives, archived, archivesLocal⟩ :=
    mapM_uploadTuple host remoteWd CACHE_ARCHIVES (args.uploadArchiveToCache ++ args.pythonZip)
  refine ⟨upfArchives, archived, ?_⟩
  intro t member
  have named : t.1 ∈ (upf ++ upfArchives).map (·.1) := List.mem_map_of_mem member
  rw [List.map_append, filesLocal, archivesLocal, ← List.map_append] at named
  obtain ⟨e, source, fromPath⟩ := List.mem_map.mp named
  rw [← fromPath]
  exact isFile e source

theorem setArgs_cache {files archives : PropValue} {upf : List (String × String × String)}
    (filesFound : (jobProperties args s.properties).get? CACHE_FILES = some files)
    (filesUnset : files.truthy = false)
    (archivesFound : (jobProperties args s.properties).get? CACHE_ARCHIVES = some archives)
    (archivesUnset : archives.truthy = false)
    (uploaded : args.uploadFileToCache.mapM (uploadTuple host remoteWd CACHE_FILES) = .ok upf)
    (isFile : ∀ e ∈ args.uploadFileToCache ++ (args.uploadArchiveToCache ++ args.pythonZip),
      host.isfile ("file://" ++ host.realpath e) = true)
    (earlier : ∀ t ∈ s.filesToUpload, host.isfile t.1 = true)
    (split : ∀ item ∈ args.setEnv, '=' ∈ item.toList) :
    ∃ upfArchives requestedEnv, setArgs host remoteWd args s = .ok {
      properties := ((jobProperties args s.properties).insert CACHE_FILES
          (.str (",".intercalate (args.cacheFile ++ upf.map cachedFile)))).insert CACHE_ARCHIVES
          (.str (",".intercalate (args.cacheArchive ++ upfArchives.map cachedFile)))
      filesToUpload := s.filesToUpload ++ upf ++ upfArchives
      requestedEnv := requestedEnv } := by
  obtain ⟨upfArchives, archived, uploadsLocal⟩ := uploads_local uploaded isFile
  obtain ⟨requestedEnv, parsed⟩ := envArgToDict_ok split
  refine ⟨upfArchives, requestedEnv, ?_⟩
  have filesChecked : ∀ t ∈ s.filesToUpload ++ upf, host.isfile t.1 = true := by
    intro t member
    rcases List.mem_append.mp member with old | new
    · exact earlier t old
    · exact uploadsLocal t (List.mem_append_left _ new)
  have allChecked : ∀ t ∈ s.filesToUpload ++ upf ++ upfArchives, host.isfile t.1 = true := by
    intro t member
    rcases List.mem_append.mp member with front | new
    · exact filesChecked t front
    · exact uploadsLocal t (List.mem_append_right _ new)
  have archivesKept : ((jobProperties args s.properties).insert CACHE_FILES
      (.str (",".intercalate (args.cacheFile ++ upf.map cachedFile)))).get? CACHE_ARCHIVES =
        some archives := by
    rw [PyDict.get?_insert, if_neg (by decide), archivesFound]
  unfold setArgs setFilesToCache setArchivesToCache
  rw [setFilesToCacheHelper_unset (s := { s with properties := jobProperties args s.properties })
    filesFound filesUnset uploaded filesChecked]
  simp only [bind, Except.bind]
  rw [setFilesToCacheHelper_unset archivesKept archivesUnset archived allChecked, parsed]
  rfl

end SetArgs

/-- The properties `PydoopSubmitter()` and then `set_args` set, other than the `-D` names. -/
def FIXED_NAMES : List String :=
  [CACHE_ARCHIVES, "mapred.create.symlink", COMPRESS_MAP_OUTPUT, JOB_NAME, IS_JAVA_RR,
    IS_JAVA_RW, JOB_REDUCES]

theorem getD_eq_iff_of_ne {ctable : PyDict String String} {k key : String} (other : k ≠ key) :
    (ctable.get? k).getD k = key ↔ ctable.get? k = some key := by
  cases found : ctable.get? k with
  | none => simp [other]
  | some target => simp

theorem renamed_fixed {ctable : PyDict String String} {key : String} (fresh : key ∉ FIXED_NAMES)
    (others : ∀ k ∈ FIXED_NAMES, ctable.get? k ≠ some key) :
    ∀ k ∈ FIXED_NAMES, (ctable.get? k).getD k ≠ key := by
  intro k member renamed
  have other : k ≠ key := fun same => fresh (same ▸ member)
  exact others k member ((getD_eq_iff_of_ne other).mp renamed)

section SingleProperty

variable {args : Args} {name v : String}

theorem jobConf_get?_single (conf : args.jobConf = some (PyDict.ofPairs [(name, v)])) (k : String) :
    (args.jobConf.getD .empty).get? k = if k = name then some v else none := by
  rw [conf, Option.getD_some, PyDict.get?_ofPairs]
  by_cases same : k = name <;> simp [same]

theorem jobProperties_cache_single (conf : args.jobConf = some (PyDict.ofPairs [(name, v)]))
    {key : String} (cache : key ∉ [JOB_NAME, IS_JAVA_RR, IS_JAVA_RW, JOB_REDUCES])
    (initial : Submitter.init.properties.get? key = some (.str "")) :
    (jobProperties args Submitter.init.properties).get? key =
      some (.str (if name = key then v else "")) := by
  by_cases named : name = key
  · subst named
    rw [if_pos rfl, jobProperties_get?_conf ((jobConf_get?_single conf name).trans (if_pos rfl))]
  · rw [if_neg named, jobProperties_get?_of_not_mem cache
      ((jobConf_get?_single conf key).trans (if_neg (Ne.symm named))), initial]

theorem head?_keys_cache_lists (files archives : PropValue) :
    (((jobProperties args Submitter.init.properties).insert CACHE_FILES files).insert
      CACHE_ARCHIVES archives).keys.head? = some CACHE_FILES := by
  have startFirst : (jobProperties args Submitter.init.properties).keys.head? = some CACHE_FILES := by
    rw [head?_keys_jobProperties (by decide)]
    rfl
  have started : (jobProperties args Submitter.init.properties).keys ≠ [] := by
    intro empty
    rw [empty] at startFirst
    cases startFirst
  rw [PyDict.head?_keys_insert (PyDict.insert_keys_ne_nil _ _ _), PyDict.head?_keys_insert started,
    startFirst]

theorem renamed_to_files_only_name (conf : args.jobConf = some (PyDict.ofPairs [(name, v)]))
    {ctable : PyDict String String} (others : ∀ k ∈ FIXED_NAMES, ctable.get? k ≠ some CACHE_FILES)
    (files archives : PropValue) :
    ∀ k ∈ (((jobProperties args Submitter.init.properties).insert CACHE_FILES files).insert
      CACHE_ARCHIVES archives).keys,
      k ≠ CACHE_FILES → (ctable.get? k).getD k = CACHE_FILES → k = name := by
  have givenKeys : (args.jobConf.getD .empty).keys = [name] := by
    rw [conf, Option.getD_some, PyDict.keys, PyDict.entries_ofPairs (by simp)]
    rfl
  have fixedApart := renamed_fixed (by decide) others
  have initFixed : ∀ k ∈ Submitter.init.properties.keys, k ≠ CACHE_FILES → k ∈ FIXED_NAMES := by
    decide
  have argsFixed : ∀ k ∈ [JOB_NAME, IS_JAVA_RR, IS_JAVA_RW, JOB_REDUCES], k ∈ FIXED_NAMES := by
    decide
  intro k member notFiles renamed
  rcases PyDict.mem_keys_insert member with inFiles | isArchives
  · rcases PyDict.mem_keys_insert inFiles with inJob | isFiles
    · rcases mem_keys_jobProperties inJob with initially | setByArgs | inConf
      · exact absurd renamed (fixedApart k (initFixed k initially notFiles))
      · exact absurd renamed (fixedApart k (argsFixed k setByArgs))
      · rw [givenKeys, List.mem_singleton] at inConf
        exact inConf
    · exact absurd isFiles notFiles
  · subst isArchives
    exact absurd renamed (fixedApart _ (by decide))

end SingleProperty

/-- The cache files list Hadoop receives when `-D` gives one list under `name`, with a
conversion table that renames no other property `set_args` sets to it: `TypeError` for a
non-empty list under the MRv2 name; the `-D` list alone, every `--cache-file` and upload entry
dropped, under a name the table renames to it; and otherwise the `--cache-file` entries and
then one `remote#link` entry per upload. -/
theorem runProperties_cache_files {host : Host} {remoteWd : String} {args : Args}
    {ctable : PyDict String String} {name v : String} {upf : List (String × String × String)}
    (conf : args.jobConf = some (PyDict.ofPairs [(name, v)]))
    (uploaded : args.uploadFileToCache.mapM (uploadTuple host remoteWd CACHE_FILES) = .ok upf)
    (isFile : ∀ e ∈ args.uploadFileToCache ++ (args.uploadArchiveToCache ++ args.pythonZip),
      host.isfile ("file://" ++ host.realpath e) = true)
    (split : ∀ item ∈ args.setEnv, '=' ∈ item.toList)
    (converted : args.disablePropertyNameConversion = false)
    (mrv2 : ctable.get? CACHE_FILES = none)
    (others : ∀ k ∈ FIXED_NAMES, ctable.get? k ≠ some CACHE_FILES)
    (apart : name ≠ CACHE_ARCHIVES) :
    (setArgs host remoteWd args Submitter.init).map
        (fun s => (runProperties ctable args s).get? CACHE_FILES) =
      if name = CACHE_FILES ∧ v ≠ "" then .error .typeError
      else if name ≠ CACHE_FILES ∧ ctable.get? name = some CACHE_FILES then .ok (some (.str v))
      else .ok (some (.str (",".intercalate (args.cacheFile ++ upf.map cachedFile)))) := by
  have initial : Submitter.init.properties.get? CACHE_FILES = some (.str "") ∧
      Submitter.init.properties.get? CACHE_ARCHIVES = some (.str "") := by decide
  have filesFound := jobProperties_cache_single conf (by decide) initial.1
  by_cases typeError : name = CACHE_FILES ∧ v ≠ ""
  · obtain ⟨named, nonempty⟩ := typeError
    rw [if_pos ⟨named, nonempty⟩,
      setArgs_files_set filesFound (by simpa [PropValue.truthy, named] using nonempty)]
    rfl
  rw [if_neg typeError]
  have filesUnset : (PropValue.str (if name = CACHE_FILES then v else "")).truthy = false := by
    by_cases named : name = CACHE_FILES
    · simpa [PropValue.truthy, named] using typeError
    · simp [PropValue.truthy, named]
  have archivesFound : (jobProperties args Submitter.init.properties).get? CACHE_ARCHIVES =
      some (.str "") := by
    simpa [apart] using jobProperties_cache_single conf (by decide) initial.2
  obtain ⟨upfArchives, requestedEnv, ran⟩ := setArgs_cache filesFound filesUnset archivesFound rfl
    uploaded isFile (fun _ none => absurd none List.not_mem_nil) split
  rw [ran]
  simp only [Except.map, runProperties, converted, Bool.false_eq_true, if_false]
  have kept : (ctable.get? CACHE_FILES).getD CACHE_FILES = CACHE_FILES := by
    rw [mrv2, Option.getD_none]
  rw [PyDict.get?_rename_of_first (f := fun k => (ctable.get? k).getD k)
    (head?_keys_cache_lists _ _) kept (renamed_to_files_only_name conf others _ _)]
  by_cases aliased : name ≠ CACHE_FILES ∧ ctable.get? name = some CACHE_FILES
  · rw [if_pos aliased, if_pos ⟨aliased.1, (getD_eq_iff_of_ne aliased.1).mpr aliased.2⟩,
      PyDict.get?_insert, if_neg apart, PyDict.get?_insert, if_neg aliased.1,
      jobProperties_get?_conf ((jobConf_get?_single conf name).trans (if_pos rfl))]
    rfl
  · have notRenamed : ¬(name ≠ CACHE_FILES ∧ (ctable.get? name).getD name = CACHE_FILES) := by
      rintro ⟨other, renamed⟩
      exact aliased ⟨other, (getD_eq_iff_of_ne other).mp renamed⟩
    rw [if_neg aliased, if_neg notRenamed, PyDict.get?_insert, if_neg (by decide),
      PyDict.get?_insert, if_pos rfl]

/-- A submission that gives the cache files list under its MRv1 name, with one `--cache-file`
and one upload. -/
def mrv1CacheSubmission : Args where
  jobName := none
  doNotUseJavaRecordReader := false
  doNotUseJavaRecordWriter := false
  numReducers := none
  jobConf := some (PyDict.ofPairs [("mapred.cache.files", "hdfs:///user/alice/stop.txt")])
  uploadFileToCache := ["/home/alice/words.txt"]
  uploadArchiveToCache := []
  pythonZip := []
  cacheFile := ["hdfs:///shared/dict.txt"]
  cacheArchive := []
  setEnv := []
  disablePropertyNameConversion := false

/-- The entries of `mrv1_to_mrv2` that rename to the cache lists. -/
def cacheTable : PyDict String String :=
  PyDict.ofPairs [("mapred.cache.archives", CACHE_ARCHIVES), ("mapred.cache.files", CACHE_FILES)]

/-- Hadoop receives the `-D` list alone: the `--cache-file` entry and the upload are lost. -/
theorem runProperties_mrv1_list_replaces_merged :
    (setArgs ⟨id, fun _ => true⟩ "/user/alice/pydoop_submit_x" mrv1CacheSubmission
        Submitter.init).map (fun s => (runProperties cacheTable mrv1CacheSubmission s).get? CACHE_FILES) =
      .ok (some (.str "hdfs:///user/alice/stop.txt")) :=
  (runProperties_cache_files rfl
    (by decide : mrv1CacheSubmission.uploadFileToCache.mapM
        (uploadTuple ⟨id, fun _ => true⟩ "/user/alice/pydoop_submit_x" CACHE_FILES) =
      .ok [("file:///home/alice/words.txt", "/user/alice/pydoop_submit_x/words.txt", "words.txt")])
    (by decide) (by decide) rfl (by decide) (by decide) (by decide)).trans (by decide)

end Pydoop.App
