import Mathlib.Data.List.Nodup
import OpenGaussExporter.Row

/-!
# The configuration loader

`InitConfig` fills `MetricMap`, the table from query names to query definitions that every
collector reads, with what `LoadConfig` finds at a path.  A file is parsed by `ParseConfig`:
`yaml.Unmarshal` gives a map from names to definitions, and every definition takes the file's
name as its `Path` and its key as its `Name` when it names none, and must pass
`QueryInstance.Check`.  A directory is read entry by entry in the order `ioutil.ReadDir` lists
them, descending into subdirectories and reading the `.yaml` files; an entry that fails to load
is logged and skipped, and the maps of the others are merged in order, a later one overwriting
an earlier one under the same name.  A query that sets no priority takes `100 + configCount`,
the rank of its configuration among those of its directory that loaded.

Go maps have no order: `range` visits the entries in an order Go leaves open.  The model takes
the order as an argument, `RangeOrder`, and its results hold for every order.  A null value in
the YAML gives a nil pointer, on which `ParseConfig` panics; the model returns `none` there.

`Node.table` says what the loader is for: the table a configuration stands for, with no map
order and no panic in it.  `loadNode_table` shows that the loader computes that table whenever
it does not panic, so that the table does not depend on the order of any `range`
(`loadConfig_get_of_range`).  On the table the merge is easy to read: a name takes the query of
the last configuration that defines it (`tableFiles_last`), an entry that fails changes nothing
(`tableFiles_skip`), and every query returned passed `Check` and carries a name
(`loadConfig_loaded`).  `ParseConfig` accepts a file exactly when every query in it passes,
whatever the order (`parseConfig_eq_ok_iff`).
-/

namespace OpenGaussExporter

/-! ### Go maps -/

/-- A Go map with string keys, as the list of its entries, one per key.  Go gives a map no
order; the list is one, and `range` may visit the entries in any other. -/
structure GoMap (α : Type) where
  entries : List (String × α)
  nodup_keys : (entries.map Prod.fst).Nodup

namespace GoMap

variable {α β : Type}

/-- `make(map[string]T)`. -/
def empty : GoMap α := ⟨[], List.nodup_nil⟩

/-- `m[k]`: the value under `k`, if the map holds one. -/
def get (m : GoMap α) (k : String) : Option α := m.entries.lookup k

/-- Replacing the value under `k` leaves the keys as they are. -/
lemma map_fst_replace (l : List (String × α)) (k : String) (v : α) :
    (l.map fun e => if e.1 = k then (k, v) else e).map Prod.fst = l.map Prod.fst := by
  rw [List.map_map]
  refine List.map_congr_left fun e _ => ?_
  by_cases h : e.1 = k <;> simp [h]

/-- `m[k] = v`: the value under `k` replaced in place, or a new entry for `k`. -/
def set (m : GoMap α) (k : String) (v : α) : GoMap α :=
  if hk : k ∈ m.entries.map Prod.fst then
    ⟨m.entries.map fun e => if e.1 = k then (k, v) else e,
      (map_fst_replace m.entries k v).symm ▸ m.nodup_keys⟩
  else
    ⟨m.entries ++ [(k, v)], by
      rw [List.map_append]
      exact m.nodup_keys.append (List.nodup_singleton k) (List.disjoint_singleton.mpr hk)⟩

/-- The keys `filterMap` keeps are among those it was given. -/
lemma map_fst_filterMap_sublist (f : String → α → Option β) (l : List (String × α)) :
    ((l.filterMap fun e => (f e.1 e.2).map (e.1, ·)).map Prod.fst).Sublist (l.map Prod.fst) := by
  induction l with
  | nil => exact List.Sublist.slnil
  | cons e l ih =>
    rw [List.filterMap_cons]
    cases f e.1 e.2
    · exact ih.cons _
    · exact ih.cons₂ _

/-- The entries `f` keeps, with the values it gives them: a map after a loop that rewrites
every value in place, when no entry is dropped. -/
def filterMap (f : String → α → Option β) (m : GoMap α) : GoMap β :=
  ⟨m.entries.filterMap fun e => (f e.1 e.2).map (e.1, ·),
    (map_fst_filterMap_sublist f m.entries).nodup m.nodup_keys⟩

/-! ### Lookups -/

/-- A lookup passes over an entry of another key. -/
lemma lookup_cons_of_ne {a k : String} (b : α) (l : List (String × α)) (h : k ≠ a) :
    ((a, b) :: l).lookup k = l.lookup k := by
  rw [List.lookup_cons, beq_eq_false_iff_ne.mpr h]

/-- A key that no entry has is not found. -/
lemma lookup_eq_none {l : List (String × α)} {k : String} (h : k ∉ l.map Prod.fst) :
    l.lookup k = none := by
  induction l with
  | nil => rfl
  | cons e l ih =>
    obtain ⟨a, b⟩ := e
    have hk : k ≠ a := fun hk => h (hk ▸ List.mem_cons_self _ _)
    rw [lookup_cons_of_ne b l hk]
    exact ih fun hl => h (List.mem_cons_of_mem _ hl)

/-- With distinct keys, a lookup finds exactly the entries of the list. -/
lemma lookup_eq_some_iff {l : List (String × α)} (h : (l.map Prod.fst).Nodup) {k : String}
    {v : α} : l.lookup k = some v ↔ (k, v) ∈ l := by
  induction l with
  | nil => simp
  | cons e l ih =>
    obtain ⟨a, b⟩ := e
    obtain ⟨hnot, hl⟩ := List.nodup_cons.mp h
    by_cases hk : k = a
    · subst hk
      have hmem : (k, v) ∉ l := fun hm => hnot (List.mem_map.mpr ⟨_, hm, rfl⟩)
      simp [List.lookup_cons_self, hmem, eq_comm]
    · rw [lookup_cons_of_ne b l hk, ih hl, List.mem_cons]
      exact ⟨Or.inr, fun hm => hm.resolve_left fun he => hk (congrArg Prod.fst he)⟩

/-- A lookup does not see the order of entries with distinct keys. -/
lemma lookup_perm {l₁ l₂ : List (String × α)} (hp : l₁.Perm l₂) (h : (l₂.map Prod.fst).Nodup)
    (k : String) : l₁.lookup k = l₂.lookup k := by
  have h₁ : (l₁.map Prod.fst).Nodup := ((hp.map Prod.fst).nodup_iff).mpr h
  ext v
  simp only [Option.mem_def]
  rw [lookup_eq_some_iff h₁, lookup_eq_some_iff h, hp.mem_iff]

/-- The empty map holds no key. -/
@[simp] lemma get_empty (k : String) : (empty : GoMap α).get k = none := rfl

/-- A map gives the value of a key exactly when it holds the entry. -/
lemma get_eq_some_iff (m : GoMap α) {k : String} {v : α} :
    m.get k = some v ↔ (k, v) ∈ m.entries :=
  lookup_eq_some_iff m.nodup_keys

/-- Replacing the entries of key `k` by `(k, v)`: `k` gives `v` if it was there, and the other
keys are unchanged. -/
lemma lookup_replace (l : List (String × α)) (k k' : String) (v : α) :
    (l.map fun e => if e.1 = k then (k, v) else e).lookup k' =
      if k' = k then (if k ∈ l.map Prod.fst then some v else none) else l.lookup k' := by
  induction l with
  | nil => simp
  | cons e l ih =>
    obtain ⟨a, b⟩ := e
    by_cases ha : a = k
    · subst ha
      by_cases hk : k' = a
      · subst hk; simp [List.lookup_cons_self]
      · simp only [List.map_cons, if_true, lookup_cons_of_ne _ _ hk, ih, if_neg hk]
    · have hb : (if (a, b).1 = k then (k, v) else (a, b)) = (a, b) := if_neg ha
      rw [List.map_cons, hb]
      by_cases hk : k' = a
      · subst hk; simp [List.lookup_cons_self, ha]
      · rw [lookup_cons_of_ne _ _ hk, ih, lookup_cons_of_ne _ _ hk]
        by_cases hk' : k' = k
        · simp only [if_pos hk', List.map_cons, List.mem_cons, Ne.symm ha, false_or]
        · simp only [if_neg hk']

/-- An entry appended under a new key gives its value for that key, and leaves the others. -/
lemma lookup_append_singleton (l : List (String × α)) (k k' : String) (v : α)
    (hk : k ∉ l.map Prod.fst) :
    (l ++ [(k, v)]).lookup k' = if k' = k then some v else l.lookup k' := by
  induction l with
  | nil =>
    by_cases h : k' = k
    · subst h; simp [List.lookup_cons_self]
    · rw [List.nil_append, lookup_cons_of_ne _ _ h, if_neg h]
  | cons e l ih =>
    obtain ⟨a, b⟩ := e
    have ha : a ≠ k := fun ha => hk (ha ▸ List.mem_cons_self _ _)
    by_cases h : k' = a
    · subst h; simp [List.lookup_cons_self, ha]
    · rw [List.cons_append, lookup_cons_of_ne _ _ h, lookup_cons_of_ne _ _ h]
      exact ih fun hl => hk (List.mem_cons_of_mem _ hl)

/-- After `m[k] = v` the key `k` gives `v`, and the other keys what they gave before. -/
@[simp] lemma get_set (m : GoMap α) (k k' : String) (v : α) :
    (m.set k v).get k' = if k' = k then some v else m.get k' := by
  unfold set get
  by_cases hk : k ∈ m.entries.map Prod.fst
  · rw [dif_pos hk, lookup_replace, if_pos hk]
  · rw [dif_neg hk]
    exact lookup_append_singleton _ _ _ _ hk

/-- A key of the filtered map gives what the filter makes of its value. -/
lemma get_filterMap (f : String → α → Option β) (m : GoMap α) (k : String) :
    (m.filterMap f).get k = (m.get k).bind (f k) := by
  obtain ⟨l, hl⟩ := m
  simp only [filterMap, get]
  induction l with
  | nil => rfl
  | cons e l ih =>
    obtain ⟨a, b⟩ := e
    obtain ⟨hnot, hl'⟩ := List.nodup_cons.mp hl
    rw [List.filterMap_cons]
    by_cases hk : k = a
    · subst hk
      have hnone : (l.filterMap fun e => (f e.1 e.2).map (e.1, ·)).lookup k = none :=
        lookup_eq_none fun hm => hnot ((map_fst_filterMap_sublist f l).subset hm)
      cases hf : f k b <;> simp [List.lookup_cons_self, hf, hnone]
    · rw [lookup_cons_of_ne _ _ hk, ← ih hl']
      cases f a b
      · rfl
      · exact lookup_cons_of_ne _ _ hk

end GoMap

/-- An order in which `range` visits the entries of a map.  Go leaves it open and changes it
from one loop to the next: it is any permutation of the entries.  The model fixes one for each
list of entries, and its results hold for every such choice. -/
structure RangeOrder where
  visit : {α : Type} → List (String × α) → List (String × α)
  perm : ∀ {α : Type} (l : List (String × α)), (visit l).Perm l

namespace RangeOrder

variable {α : Type}

/-- `range` over a map visits its entries: a lookup in the visiting order is one in the map. -/
lemma lookup_visit (o : RangeOrder) (m : GoMap α) (k : String) :
    (o.visit m.entries).lookup k = m.get k :=
  GoMap.lookup_perm (o.perm _) m.nodup_keys k

/-- A visit meets every key once. -/
lemma nodup_keys_visit (o : RangeOrder) (m : GoMap α) : ((o.visit m.entries).map Prod.fst).Nodup :=
  (((o.perm _).map Prod.fst).nodup_iff).mpr m.nodup_keys

/-- A visit meets exactly the entries of the map. -/
lemma mem_visit (o : RangeOrder) {l : List (String × α)} {e : String × α} :
    e ∈ o.visit l ↔ e ∈ l :=
  (o.perm l).mem_iff

end RangeOrder

/-! ### Query definitions as the loader reads them -/

/-- `config.QueryInstance` as the loader handles it: the fields the scrape reads, with the name
of the file it was read from (`Path`) and its rank in the merge (`Priority`). -/
structure QueryConfig extends QueryInstance where
  path : String
  priority : Int

/-- What `ParseConfig` does to every query it reads: `query.Path = path`, and its key as its
`Name` when it names none. -/
def QueryConfig.fill (query : QueryConfig) (path name : String) : QueryConfig :=
  { query with path := path, name := if query.name = "" then name else query.name }

/-- `if query.Priority == 0 { query.Priority = 100 + configCount }`: a query that sets no
priority takes the rank of its configuration. -/
def QueryConfig.defaultPriority (query : QueryConfig) (configCount : Nat) : QueryConfig :=
  if query.priority = 0 then { query with priority := 100 + configCount } else query

/-- The errors of the loader, with the operands of their messages. -/
inductive ConfigError where
  /-- `invalid config path: %s: %w`: `os.Stat` failed. -/
  | invalidPath (configPath err : String)
  /-- `fail reading config dir: %s: %w`. -/
  | readDir (configPath err : String)
  /-- `fail reading config file %s: %w`. -/
  | readFile (configPath err : String)
  /-- `malformed config: %w`: `yaml.Unmarshal` failed. -/
  | malformed (err : String)
  /-- The error of `QueryInstance.Check`, returned as it is. -/
  | check (err : String)

/-- What the loader takes as given. -/
structure ConfigEnv where
  /-- `yaml.Unmarshal` into a `map[string]*QueryInstance`: the map, in which a null value is a
  nil pointer (`none`), or the decoder's error. -/
  unmarshal : GoString → Except String (GoMap (Option QueryConfig))
  /-- `QueryInstance.Check`, whose body is not among the sources: its error, if any. -/
  check : QueryConfig → Option String

/-- What `os.Stat` finds at a configuration path: a file, with its content or the error of
`ioutil.ReadFile`, or a directory, with its entries as `ioutil.ReadDir` lists them, sorted by
name, or the error of `ReadDir`. -/
inductive Node where
  | file (name : String) (content : Except String GoString)
  | dir (name : String) (entries : Except String (List Node))

/-- `FileInfo.Name()`: the last element of the entry's path. -/
def Node.name : Node → String
  | .file name _ | .dir name _ => name

/-- `FileInfo.IsDir()`. -/
def Node.isDir : Node → Bool
  | .file .. => false
  | .dir .. => true

/-- `strings.HasSuffix`. -/
def hasSuffix (s suffix : String) : Bool := suffix.data.isSuffixOf s.data

/-- `path.Join(dir, name)` for a name that `ReadDir` lists.  Go also cleans the path; nothing
the loader returns shows it, since only the errors the directory loop logs and drops carry
the path of an entry. -/
def joinPath (dir name : String) : String := dir ++ "/" ++ name

/-! ### `ParseConfig` and `LoadConfig` -/

/-- The loop of `ParseConfig` over the entries of the map in the order `range` visits them:
`none` where a nil entry panics on `query.Path = path`, `some (some err)` for the first query
`Check` refuses, and `some none` when every query passes. -/
def parseConfigLoop (check : QueryConfig → Option String) (path : String) :
    List (String × Option QueryConfig) → Option (Option String)
  | [] => some none
  | (_, none) :: _ => none
  | (name, some query) :: rest =>
    match check (query.fill path name) with
    | some err => some (some err)
    | none => parseConfigLoop check path rest

/-- `ParseConfig(content, path)`: the queries of a file, each filled in as the loop leaves it,
or the error, or `none` where the loop panics. -/
def parseConfig (env : ConfigEnv) (order : RangeOrder) (content : GoString) (path : String) :
    Option (Except ConfigError (GoMap QueryConfig)) :=
  match env.unmarshal content with
  | .error err => some (.error (.malformed err))
  | .ok queries =>
    (parseConfigLoop env.check path (order.visit queries.entries)).map fun
      | some err => .error (.check err)
      | none => .ok (queries.filterMap fun name query => query.map (·.fill path name))

/-- What the directory loop of `LoadConfig` keeps: the merged queries, and `configCount`, the
number of entries that loaded so far. -/
structure Merged where
  queries : GoMap QueryConfig
  configCount : Nat

/-- The inner loop of the directory case, over the queries of the entry ranked `configCount`
in the order `range` visits them: each takes the rank when it sets no priority, and overwrites
what the merged map holds under its name. -/
def mergeQueries (configCount : Nat) (queries : GoMap QueryConfig) :
    List (String × QueryConfig) → GoMap QueryConfig
  | [] => queries
  | (name, query) :: rest =>
    mergeQueries configCount (queries.set name (query.defaultPriority configCount)) rest

mutual

/-- `LoadConfig` at `configPath`, on the entry `os.Stat` found there: a directory merges its
entries, a file is parsed.  `none` where the load panics. -/
def loadNode (env : ConfigEnv) (order : RangeOrder) (configPath : String) :
    Node → Option (Except ConfigError (GoMap QueryConfig))
  | .dir _ (.error err) => some (.error (.readDir configPath err))
  | .dir _ (.ok files) =>
    (loadFiles env order configPath files ⟨GoMap.empty, 0⟩).map fun merged => .ok merged.queries
  | .file _ (.error err) => some (.error (.readFile configPath err))
  | .file name (.ok content) => parseConfig env order content name

/-- The loop of the directory case over the entries of `configPath`.  It skips an entry that is
neither a `.yaml` file nor a directory, as the filter that builds `confFiles` does, and one
whose load fails; it merges the queries of one that loads. -/
def loadFiles (env : ConfigEnv) (order : RangeOrder) (configPath : String) :
    List Node → Merged → Option Merged
  | [], merged => some merged
  | conf :: files, merged =>
    if !hasSuffix conf.name ".yaml" && !conf.isDir then loadFiles env order configPath files merged
    else
      match loadNode env order (joinPath configPath conf.name) conf with
      | none => none
      | some (.error _) => loadFiles env order configPath files merged
      | some (.ok singleQueries) =>
        let configCount := merged.configCount + 1
        loadFiles env order configPath files
          ⟨mergeQueries configCount merged.queries (order.visit singleQueries.entries), configCount⟩

end

/-- `LoadConfig(configPath)`, given what `os.Stat` finds at the path. -/
def loadConfig (env : ConfigEnv) (order : RangeOrder) (configPath : String)
    (stat : Except String Node) : Option (Except ConfigError (GoMap QueryConfig)) :=
  match stat with
  | .error err => some (.error (.invalidPath configPath err))
  | .ok node => loadNode env order configPath node

/-- `InitConfig(configPath)`: the new `MetricMap`, nil when the load fails, and the error. -/
def initConfig (env : ConfigEnv) (order : RangeOrder) (configPath : String)
    (stat : Except String Node) : Option (GoMap QueryConfig × Option ConfigError) :=
  (loadConfig env order configPath stat).map fun
    | .ok queries => (queries, none)
    | .error err => (GoMap.empty, some err)

/-! ### A configuration directory -/

/-- The order that visits the entry under `k` first, and the others as listed. -/
def RangeOrder.first (k : String) : RangeOrder where
  visit l := l.filter (·.1 == k) ++ l.filter fun e => !(e.1 == k)
  perm l := List.filter_append_perm _ l

/-- The order that visits the entries from the last to the first. -/
def RangeOrder.reverse : RangeOrder := ⟨List.reverse, List.reverse_perm⟩

/-- `pg_database` as a configuration file declares it, with no priority. -/
def pgDatabaseConfig : QueryConfig := { toQueryInstance := pgDatabase, path := "", priority := 0 }

/-- A loader environment for running the model on fixed inputs.  The content `[1]` declares
`pg_database`, the content `[2]` declares it next to a null `pg_lock`, and any other content is
malformed; `Check` refuses the queries of the file `bad.yaml`. -/
def sampleEnv : ConfigEnv where
  unmarshal content :=
    if content = [1] then .ok ⟨[("pg_database", some pgDatabaseConfig)], by decide⟩
    else if content = [2] then
      .ok ⟨[("pg_lock", none), ("pg_database", some pgDatabaseConfig)], by decide⟩
    else .error "yaml: did not find expected node content"
  check query := if query.path = "bad.yaml" then some "bad query" else none

/-- A configuration directory: two files that both declare `pg_database`, a file with a null
entry whose other query `Check` refuses, and a file that is no configuration. -/
def sampleDir : Node :=
  .dir "conf" (.ok [.file "a.yaml" (.ok [1]), .file "b.yaml" (.ok [1]),
    .file "bad.yaml" (.ok [2]), .file "notes.txt" (.ok [])])

/-! ### The loop of `ParseConfig` -/

/-- Whether `ParseConfig` lets an entry through: it is no nil pointer, and `Check` accepts it
once it is filled in. -/
def passes (check : QueryConfig → Option String) (path : String)
    (e : String × Option QueryConfig) : Bool :=
  match e.2 with
  | none => false
  | some query => (check (query.fill path e.1)).isNone

/-- The loop of `ParseConfig` ends with no error exactly when every entry passes. -/
lemma parseConfigLoop_eq_some_none_iff (check : QueryConfig → Option String) (path : String) :
    ∀ l, parseConfigLoop check path l = some none ↔ l.all (passes check path) = true
  | [] => by simp [parseConfigLoop]
  | (_, none) :: _ => by simp [parseConfigLoop, passes]
  | (name, some query) :: rest => by
    rw [parseConfigLoop, List.all_cons, Bool.and_eq_true, ← parseConfigLoop_eq_some_none_iff]
    cases hc : check (query.fill path name) <;> simp [passes, hc]

/-- The error of the loop is that of a query `Check` refuses. -/
lemma parseConfigLoop_eq_some_some {check : QueryConfig → Option String} {path : String}
    {err : String} : ∀ {l}, parseConfigLoop check path l = some (some err) →
      ∃ name query, (name, some query) ∈ l ∧ check (query.fill path name) = some err
  | [], h => by simp [parseConfigLoop] at h
  | (_, none) :: _, h => by simp [parseConfigLoop] at h
  | (name, some query) :: rest, h => by
    rw [parseConfigLoop] at h
    split at h
    · exact ⟨name, query, List.mem_cons_self _ _, by simp_all⟩
    · obtain ⟨name', query', hm, he⟩ := parseConfigLoop_eq_some_some h
      exact ⟨name', query', List.mem_cons_of_mem _ hm, he⟩

/-- Whether every entry passes does not depend on the order of the visit. -/
lemma all_visit (o : RangeOrder) {α : Type} (l : List (String × α)) (p : String × α → Bool) :
    (o.visit l).all p = l.all p := by
  rw [Bool.eq_iff_iff, List.all_eq_true, List.all_eq_true]
  exact forall_congr' fun e => imp_congr_left o.mem_visit

/-! ### What a configuration stands for -/

/-- A table from query names to queries. -/
abbrev Table := String → Option QueryConfig

/-- The merge of the table `t'` of a configuration ranked `configCount` over the table `t` of
those before it: `t'` wins on its names, and its queries take the rank as their priority when
they set none. -/
def Table.merge (t t' : Table) (configCount : Nat) : Table :=
  fun k => ((t' k).map (·.defaultPriority configCount)).or (t k)

/-- The table of a file: defined when all its queries pass, each filled in as `ParseConfig`
fills it in. -/
def fileTable (env : ConfigEnv) (path : String) (content : GoString) : Option Table :=
  match env.unmarshal content with
  | .error _ => none
  | .ok queries =>
    if queries.entries.all (passes env.check path) then
      some fun k => (queries.get k).bind fun query => query.map (·.fill path k)
    else none

/-- Whether an entry of a directory is a configuration: a `.yaml` file or a directory. -/
def Node.isConf (n : Node) : Bool := hasSuffix n.name ".yaml" || n.isDir

mutual

/-- The table a configuration stands for, when it loads: a file's when all its queries pass,
and a directory's merged from those of its configurations in listing order. -/
def Node.table (env : ConfigEnv) : Node → Option Table
  | .dir _ (.error _) => none
  | .dir _ (.ok files) => some (tableFiles env files 0 fun _ => none)
  | .file _ (.error _) => none
  | .file name (.ok content) => fileTable env name content

/-- The merge of the configurations `files`, after `configCount` of them loaded into `t`. -/
def tableFiles (env : ConfigEnv) : List Node → Nat → Table → Table
  | [], _, t => t
  | conf :: files, configCount, t =>
    if conf.isConf then
      match conf.table env with
      | some t' => tableFiles env files (configCount + 1) (t.merge t' (configCount + 1))
      | none => tableFiles env files configCount t
    else tableFiles env files configCount t

end

/-- `isConf` as the negation of the skip condition of `LoadConfig`. -/
lemma Node.isConf_eq (n : Node) : n.isConf = !(!hasSuffix n.name ".yaml" && !n.isDir) := by
  rw [Node.isConf]
  cases hasSuffix n.name ".yaml" <;> cases n.isDir <;> rfl

/-- An entry that is no configuration, or that fails to load, leaves the merge as it was. -/
lemma tableFiles_cons_skip (env : ConfigEnv) {conf : Node} (files : List Node) (c : Nat) (t : Table)
    (h : conf.isConf = false ∨ conf.table env = none) :
    tableFiles env (conf :: files) c t = tableFiles env files c t := by
  rw [tableFiles]
  rcases h with h | h <;> simp [h]

/-- An entry that loads is merged with the next rank. -/
lemma tableFiles_cons_load (env : ConfigEnv) {conf : Node} (files : List Node) (c : Nat)
    (t : Table) {t' : Table} (hc : conf.isConf = true) (ht : conf.table env = some t') :
    tableFiles env (conf :: files) c t = tableFiles env files (c + 1) (t.merge t' (c + 1)) := by
  rw [tableFiles, if_pos hc, ht]

/-! ### The loader computes the table -/

/-- The inner loop of the directory case is the merge of the visited queries' table. -/
lemma get_mergeQueries (c : Nat) : ∀ (queries : GoMap QueryConfig) (l : List (String × QueryConfig)),
    (l.map Prod.fst).Nodup → (mergeQueries c queries l).get = Table.merge queries.get (l.lookup ·) c
  | queries, [], _ => by
    funext k; simp [mergeQueries, Table.merge]
  | queries, (name, query) :: rest, hl => by
    obtain ⟨hnot, hrest⟩ := List.nodup_cons.mp hl
    rw [mergeQueries, get_mergeQueries c _ rest hrest]
    funext k
    by_cases hk : k = name
    · subst hk
      simp [Table.merge, GoMap.lookup_eq_none hnot, List.lookup_cons_self]
    · simp [Table.merge, hk, GoMap.lookup_cons_of_ne _ _ hk]

/-- `ParseConfig` computes the table of its file whenever it does not panic. -/
lemma parseConfig_table (env : ConfigEnv) (order : RangeOrder) (content : GoString)
    (path : String) {r : Except ConfigError (GoMap QueryConfig)}
    (h : parseConfig env order content path = some r) :
    r.toOption.map GoMap.get = fileTable env path content := by
  unfold parseConfig at h
  unfold fileTable
  cases hu : env.unmarshal content with
  | error err =>
    rw [hu, Option.some.injEq] at h
    subst h; rfl
  | ok queries =>
    rw [hu] at h
    obtain ⟨res, hloop, rfl⟩ := Option.map_eq_some'.mp h
    cases res with
    | some err =>
      obtain ⟨name, query, hmem, herr⟩ := parseConfigLoop_eq_some_some hloop
      have hfail : queries.entries.all (passes env.check path) = false := by
        rw [Bool.eq_false_iff]
        intro hall
        have := List.all_eq_true.mp hall _ (order.mem_visit.mp hmem)
        simp [passes, herr] at this
      simp [hfail, Except.toOption]
    | none =>
      have hall := (parseConfigLoop_eq_some_none_iff _ _ _).mp hloop
      rw [all_visit] at hall
      simp only [hall, if_true, Except.toOption, Option.map_some']
      exact congrArg some (funext (GoMap.get_filterMap _ queries))

mutual

/-- The loader refines the table: whenever `LoadConfig` does not panic, it returns the map of
the table its configuration stands for, or an error where that has none. -/
theorem loadNode_table (env : ConfigEnv) (order : RangeOrder) :
    ∀ (configPath : String) (n : Node) (r : Except ConfigError (GoMap QueryConfig)),
      loadNode env order configPath n = some r → r.toOption.map GoMap.get = n.table env
  | _, .dir _ (.error _), r, h => by
    rw [loadNode, Option.some.injEq] at h
    subst h; rfl
  | configPath, .dir _ (.ok files), r, h => by
    rw [loadNode] at h
    obtain ⟨merged, hm, rfl⟩ := Option.map_eq_some'.mp h
    exact congrArg some (loadFiles_table env order configPath files _ merged hm)
  | _, .file _ (.error _), r, h => by
    rw [loadNode, Option.some.injEq] at h
    subst h; rfl
  | _, .file name (.ok content), r, h => parseConfig_table env order content name h

/-- The directory loop refines the merge of the tables. -/
theorem loadFiles_table (env : ConfigEnv) (order : RangeOrder) :
    ∀ (configPath : String) (files : List Node) (merged merged' : Merged),
      loadFiles env order configPath files merged = some merged' →
        merged'.queries.get = tableFiles env files merged.configCount merged.queries.get
  | _, [], merged, merged', h => by
    rw [loadFiles, Option.some.injEq] at h
    subst h; rfl
  | configPath, conf :: files, merged, merged', h => by
    rw [loadFiles] at h
    split at h
    · rw [tableFiles_cons_skip env files _ _ (Or.inl (by simp [Node.isConf_eq, *]))]
      exact loadFiles_table env order configPath files merged merged' h
    · rename_i hskip
      have hc : conf.isConf = true := by
        rw [Node.isConf_eq, Bool.not_eq_true']
        exact Bool.eq_false_iff.mpr hskip
      rcases hr : loadNode env order (joinPath configPath conf.name) conf with _ | r
      · simp [hr] at h
      · have ht := loadNode_table env order _ conf r hr
        rw [hr] at h
        cases r with
        | error e =>
          rw [tableFiles_cons_skip env files _ _ (Or.inr ht.symm)]
          exact loadFiles_table env order configPath files merged merged' h
        | ok single =>
          rw [tableFiles_cons_load env files _ _ hc ht.symm,
            loadFiles_table env order configPath files _ merged' h,
            get_mergeQueries _ _ _ (order.nodup_keys_visit single),
            funext (order.lookup_visit single)]

end

/-- What `LoadConfig` returns, when it does not panic, is the table of what is at the path. -/
lemma loadConfig_table (env : ConfigEnv) (order : RangeOrder) (configPath : String)
    {stat : Except String Node} {r : Except ConfigError (GoMap QueryConfig)}
    (h : loadConfig env order configPath stat = some r) :
    r.toOption.map GoMap.get = stat.toOption.bind (Node.table env) := by
  cases stat with
  | error err =>
    rw [loadConfig, Option.some.injEq] at h
    subst h; rfl
  | ok node => exact loadNode_table env order configPath node r h

/-- `InitConfig` refines the table: whenever it does not panic, `MetricMap` becomes the table its
configuration stands for, and the call fails exactly when there is none, leaving `MetricMap`
empty. -/
theorem initConfig_table (env : ConfigEnv) (order : RangeOrder) (configPath : String)
    (stat : Except String Node) (metricMap : GoMap QueryConfig) (err : Option ConfigError)
    (h : initConfig env order configPath stat = some (metricMap, err)) :
    metricMap.get = (stat.toOption.bind (Node.table env)).getD (fun _ => none) ∧
      (err = none ↔ (stat.toOption.bind (Node.table env)).isSome) := by
  obtain ⟨r, hr, hm⟩ := Option.map_eq_some'.mp h
  rw [← loadConfig_table env order configPath hr]
  cases r with
  | ok m => cases hm; simp [Except.toOption]
  | error e => cases hm; simp [Except.toOption]; rfl

/-- The sample directory loads `b.yaml`'s `pg_database` into `MetricMap`. -/
theorem initConfig_table_sampleDir :
    ∃ metricMap err, initConfig sampleEnv .reverse "conf" (.ok sampleDir) = some (metricMap, err) ∧
      metricMap.get = ((Except.ok sampleDir : Except String Node).toOption.bind
        (Node.table sampleEnv)).getD (fun _ => none) ∧
      (err = none ↔ ((Except.ok sampleDir : Except String Node).toOption.bind
        (Node.table sampleEnv)).isSome) :=
  ⟨_, _, rfl, initConfig_table sampleEnv .reverse "conf" (.ok sampleDir) _ _ rfl⟩

/-- The loaded table does not depend on the order in which `range` visits any map: when two
orders both let `LoadConfig` return, and one of them returns a map, the other returns one with
the same lookups. -/
theorem loadConfig_get_of_range (env : ConfigEnv) (order₁ order₂ : RangeOrder)
    (configPath : String) (stat : Except String Node) (m₁ : GoMap QueryConfig)
    (r₂ : Except ConfigError (GoMap QueryConfig))
    (h₁ : loadConfig env order₁ configPath stat = some (.ok m₁))
    (h₂ : loadConfig env order₂ configPath stat = some r₂) :
    ∃ m₂, r₂ = .ok m₂ ∧ m₂.get = m₁.get := by
  have e₁ := loadConfig_table env order₁ configPath h₁
  have e₂ := loadConfig_table env order₂ configPath h₂
  rw [← e₁] at e₂
  cases r₂ with
  | error e => simp [Except.toOption] at e₂
  | ok m₂ => exact ⟨m₂, rfl, Option.some.inj e₂⟩

/-- Two orders that visit `pg_database` before the null entry of `bad.yaml` load the same
table. -/
theorem loadConfig_get_of_range_sampleDir :
    ∃ m₁ r₂, loadConfig sampleEnv (.first "pg_database") "conf" (.ok sampleDir) = some (.ok m₁) ∧
      loadConfig sampleEnv .reverse "conf" (.ok sampleDir) = some r₂ ∧
      ∃ m₂, r₂ = .ok m₂ ∧ m₂.get = m₁.get :=
  ⟨_, _, rfl, rfl, loadConfig_get_of_range sampleEnv (.first "pg_database") .reverse "conf" (.ok sampleDir) _ _
    rfl rfl⟩

/-! ### What every loaded query satisfies -/

/-- What the loader guarantees of a query it returns under the name `k`: `ParseConfig` filled it
under that key and `Check` accepted it so, and a merge at most gave it the priority of its
configuration; and it has a name unless its key is empty. -/
def Loaded (env : ConfigEnv) (k : String) (query : QueryConfig) : Prop :=
  (∃ (raw : QueryConfig) (path : String), env.check (raw.fill path k) = none ∧
    (query = raw.fill path k ∨ ∃ c, query = (raw.fill path k).defaultPriority c)) ∧
  (query.name = "" → k = "")

/-- Every query of the table satisfies `P` under its name. -/
def Table.All (P : String → QueryConfig → Prop) (t : Table) : Prop :=
  ∀ k q, t k = some q → P k q

/-- A query that `ParseConfig` filled under `k` and `Check` accepted is loaded under `k`. -/
lemma loaded_fill {env : ConfigEnv} {query : QueryConfig} {path k : String}
    (h : env.check (query.fill path k) = none) : Loaded env k (query.fill path k) := by
  refine ⟨⟨query, path, h, .inl rfl⟩, fun hn => ?_⟩
  unfold QueryConfig.fill at hn
  split at hn <;> simp_all

/-- A priority once set stays: a second default changes nothing. -/
lemma defaultPriority_defaultPriority (query : QueryConfig) (c c' : Nat) :
    (query.defaultPriority c).defaultPriority c' = query.defaultPriority c := by
  by_cases hp : query.priority = 0
  · have hc : (100 : Int) + c ≠ 0 := by omega
    simp [QueryConfig.defaultPriority, hp, hc]
  · simp [QueryConfig.defaultPriority, hp]

/-- A default priority keeps a query loaded. -/
lemma loaded_defaultPriority {env : ConfigEnv} {k : String} {query : QueryConfig} (c : Nat)
    (h : Loaded env k query) : Loaded env k (query.defaultPriority c) := by
  obtain ⟨⟨raw, path, hc, hq⟩, hn⟩ := h
  refine ⟨⟨raw, path, hc, .inr ?_⟩, fun hd => hn ?_⟩
  · rcases hq with rfl | ⟨c', rfl⟩
    · exact ⟨c, rfl⟩
    · exact ⟨c', defaultPriority_defaultPriority _ c' c⟩
  · unfold QueryConfig.defaultPriority at hd
    split at hd <;> exact hd

/-- A merge keeps a property of queries that the old table has and that every new query has
once its default priority is set. -/
lemma Table.All.merge {P : String → QueryConfig → Prop} {t t' : Table} {c : Nat}
    (ht : t.All P) (ht' : ∀ k q, t' k = some q → P k (q.defaultPriority c)) :
    (t.merge t' c).All P := by
  intro k q hq
  unfold Table.merge at hq
  cases h' : t' k with
  | none => rw [h'] at hq; exact ht k q hq
  | some q' =>
    rw [h', Option.map_some', Option.or_some, Option.some.injEq] at hq
    exact hq ▸ ht' k q' h'

/-- Every query of a file that loads is loaded under its name. -/
lemma fileTable_loaded {env : ConfigEnv} {path : String} {content : GoString} {t : Table}
    (h : fileTable env path content = some t) : t.All (Loaded env) := by
  unfold fileTable at h
  split at h
  · cases h
  · split at h
    · rename_i hall
      rw [Option.some.injEq] at h
      subst h
      intro k q hq
      obtain ⟨query?, hget, hq⟩ := Option.bind_eq_some.mp hq
      obtain ⟨query, rfl, rfl⟩ := Option.map_eq_some'.mp hq
      have hpass := List.all_eq_true.mp hall _ ((GoMap.get_eq_some_iff _).mp hget)
      simp only [passes, Option.isNone_iff_eq_none] at hpass
      exact loaded_fill hpass
    · cases h

mutual

/-- Every query of the table of a configuration is loaded under its name. -/
theorem Node.table_loaded (env : ConfigEnv) :
    ∀ (n : Node) (t : Table), n.table env = some t → t.All (Loaded env)
  | .dir _ (.error _), t, h => by cases h
  | .dir _ (.ok files), t, h => by
    rw [Node.table, Option.some.injEq] at h
    subst h
    exact tableFiles_loaded env files 0 _ fun _ _ hq => by cases hq
  | .file _ (.error _), t, h => by cases h
  | .file _ (.ok _), _, h => fileTable_loaded h

/-- The merge of a directory keeps every query loaded under its name. -/
theorem tableFiles_loaded (env : ConfigEnv) :
    ∀ (files : List Node) (c : Nat) (t : Table), t.All (Loaded env) →
      (tableFiles env files c t).All (Loaded env)
  | [], _, _, h => h
  | conf :: files, c, t, h => by
    rw [tableFiles]
    split
    · split
      · rename_i t' ht'
        exact tableFiles_loaded env files _ _ (h.merge fun k q hq =>
          loaded_defaultPriority _ (Node.table_loaded env conf t' ht' k q hq))
      · exact tableFiles_loaded env files _ _ h
    · exact tableFiles_loaded env files _ _ h

end

/-- What an entry does to the merge does not depend on the entries after it. -/
lemma tableFiles_cons (env : ConfigEnv) (g : Node) (c : Nat) (t : Table) :
    ∃ c' t', ∀ files, tableFiles env (g :: files) c t = tableFiles env files c' t' := by
  cases hg : g.isConf
  · exact ⟨c, t, fun files => tableFiles_cons_skip env files c t (Or.inl hg)⟩
  · cases ht : g.table env with
    | none => exact ⟨c, t, fun files => tableFiles_cons_skip env files c t (Or.inr ht)⟩
    | some t' => exact ⟨_, _, fun files => tableFiles_cons_load env files c t hg ht⟩

/-- An entry that is no configuration, or one that fails to load, changes nothing: the loop
counts only the entries that load. -/
lemma tableFiles_skip (env : ConfigEnv) {f : Node} (hf : f.isConf = false ∨ f.table env = none)
    (post : List Node) : ∀ (pre : List Node) (c : Nat) (t : Table),
      tableFiles env (pre ++ f :: post) c t = tableFiles env (pre ++ post) c t
  | [], c, t => tableFiles_cons_skip env post c t hf
  | g :: pre, c, t => by
    obtain ⟨c', t', hg⟩ := tableFiles_cons env g c t
    rw [List.cons_append, List.cons_append, hg, hg]
    exact tableFiles_skip env hf post pre c' t'

/-- The number of configurations among `files` that load. -/
def loadedCount (env : ConfigEnv) (files : List Node) : Nat :=
  (files.filter fun f => f.isConf && (f.table env).isSome).length

/-- A key that no later configuration defines keeps its query through the merge. -/
lemma tableFiles_apply_of_undefined (env : ConfigEnv) (k : String) :
    ∀ (files : List Node) (c : Nat) (t : Table),
      (∀ f ∈ files, f.isConf = true → ∀ t', f.table env = some t' → t' k = none) →
        tableFiles env files c t k = t k
  | [], _, _, _ => rfl
  | conf :: files, c, t, h => by
    have hrest := fun f hf => h f (List.mem_cons_of_mem _ hf)
    cases hc : conf.isConf
    · rw [tableFiles_cons_skip env files c t (Or.inl hc)]
      exact tableFiles_apply_of_undefined env k files c t hrest
    · cases ht : conf.table env with
      | none =>
        rw [tableFiles_cons_skip env files c t (Or.inr ht)]
        exact tableFiles_apply_of_undefined env k files c t hrest
      | some t' =>
        rw [tableFiles_cons_load env files c t hc ht,
          tableFiles_apply_of_undefined env k files _ _ hrest]
        simp [Table.merge, h conf (List.mem_cons_self _ _) hc t' ht]

/-- Later overwrites earlier: a name takes the query of the last configuration that defines
it, ranked among the configurations before it that load. -/
lemma tableFiles_last (env : ConfigEnv) {conf : Node} {t' : Table} {k : String}
    {q : QueryConfig} (hc : conf.isConf = true) (ht : conf.table env = some t')
    (hq : t' k = some q) (post : List Node)
    (hpost : ∀ f ∈ post, f.isConf = true → ∀ t'', f.table env = some t'' → t'' k = none) :
    ∀ (pre : List Node) (c : Nat) (t : Table),
      tableFiles env (pre ++ conf :: post) c t k =
        some (q.defaultPriority (c + loadedCount env pre + 1))
  | [], c, t => by
    rw [List.nil_append, tableFiles_cons_load env post c t hc ht,
      tableFiles_apply_of_undefined env k post _ _ hpost]
    simp [Table.merge, hq, loadedCount]
  | g :: pre, c, t => by
    rw [List.cons_append]
    cases hg : g.isConf
    · rw [tableFiles_cons_skip env _ c t (Or.inl hg), tableFiles_last env hc ht hq post hpost]
      simp [loadedCount, List.filter_cons, hg]
    · cases hgt : g.table env with
      | none =>
        rw [tableFiles_cons_skip env _ c t (Or.inr hgt), tableFiles_last env hc ht hq post hpost]
        simp [loadedCount, List.filter_cons, hgt]
      | some tg =>
        rw [tableFiles_cons_load env _ c t hg hgt, tableFiles_last env hc ht hq post hpost]
        simp only [loadedCount, List.filter_cons, hg, hgt, Option.isSome_some, Bool.and_self,
          if_true, List.length_cons]
        congr 2
        omega

/-- Later overwrites earlier, in `LoadConfig`: in a directory, a name takes the query of the
last configuration that defines it, with `100` plus its rank among the configurations that
load as its priority when it sets none. -/
theorem loadConfig_last (env : ConfigEnv) (order : RangeOrder) (configPath name : String)
    (pre post : List Node) (conf : Node) (t' : Table) (k : String) (q : QueryConfig)
    (hc : conf.isConf = true) (ht : conf.table env = some t') (hq : t' k = some q)
    (hpost : ∀ f ∈ post, f.isConf = true → ∀ t'', f.table env = some t'' → t'' k = none)
    (m : GoMap QueryConfig)
    (h : loadConfig env order configPath (.ok (.dir name (.ok (pre ++ conf :: post)))) =
      some (.ok m)) :
    m.get k = some (q.defaultPriority (loadedCount env pre + 1)) := by
  have e := Option.some.inj (loadConfig_table env order configPath h)
  rw [congrFun e k, tableFiles_last env hc ht hq post hpost pre 0, Nat.zero_add]

/-- In the sample directory `b.yaml` overwrites `a.yaml`, and its query takes the rank `2`. -/
theorem loadConfig_last_sampleDir :
    ∃ t' m, (Node.file "b.yaml" (.ok [1])).isConf = true ∧
      Node.table sampleEnv (.file "b.yaml" (.ok [1])) = some t' ∧
      t' "pg_database" = some (pgDatabaseConfig.fill "b.yaml" "pg_database") ∧
      (∀ f ∈ [Node.file "bad.yaml" (.ok [2]), .file "notes.txt" (.ok [])], f.isConf = true →
        ∀ t'', f.table sampleEnv = some t'' → t'' "pg_database" = none) ∧
      loadConfig sampleEnv .reverse "conf" (.ok (.dir "conf" (.ok ([.file "a.yaml" (.ok [1])] ++
        .file "b.yaml" (.ok [1]) :: [.file "bad.yaml" (.ok [2]), .file "notes.txt" (.ok [])])))) =
        some (.ok m) ∧
      m.get "pg_database" = some ((pgDatabaseConfig.fill "b.yaml" "pg_database").defaultPriority
        (loadedCount sampleEnv [.file "a.yaml" (.ok [1])] + 1)) := by
  have hpost : ∀ f ∈ [Node.file "bad.yaml" (.ok [2]), .file "notes.txt" (.ok [])],
      f.isConf = true → ∀ t'', f.table sampleEnv = some t'' → t'' "pg_database" = none := by
    intro f hf hc t'' ht
    simp only [List.mem_cons, List.mem_singleton, List.not_mem_nil, or_false] at hf
    rcases hf with rfl | rfl
    · rw [show Node.table sampleEnv (.file "bad.yaml" (.ok [2])) = none from rfl] at ht
      cases ht
    · exact absurd hc (by decide)
  exact ⟨_, _, rfl, rfl, rfl, hpost, rfl,
    loadConfig_last sampleEnv .reverse "conf" "conf" [.file "a.yaml" (.ok [1])] _
      (.file "b.yaml" (.ok [1])) _ "pg_database" _ rfl rfl rfl hpost _ rfl⟩

/-- A directory load panics exactly when the load of one of its configurations does. -/
lemma loadFiles_isSome_iff (env : ConfigEnv) (order : RangeOrder) (configPath : String) :
    ∀ (files : List Node) (merged : Merged),
      (loadFiles env order configPath files merged).isSome ↔
        ∀ f ∈ files, f.isConf = true → (loadNode env order (joinPath configPath f.name) f).isSome
  | [], _ => by simp [loadFiles]
  | conf :: files, merged => by
    rw [loadFiles, List.forall_mem_cons]
    split
    · rename_i hskip
      have hc : conf.isConf = false := by rw [Node.isConf_eq, hskip]; rfl
      rw [loadFiles_isSome_iff env order configPath files merged, hc]
      simp
    · rename_i hskip
      have hc : conf.isConf = true := by
        rw [Node.isConf_eq, Bool.not_eq_true']
        exact Bool.eq_false_iff.mpr hskip
      rcases loadNode env order (joinPath configPath conf.name) conf with _ | _ | _
      · simp [hc]
      all_goals simp [hc, loadFiles_isSome_iff env order configPath files]

/-- An entry that is no configuration, or that fails to load, can be left out of a directory:
the load without it gives the same table. -/
theorem loadConfig_skip (env : ConfigEnv) (order : RangeOrder) (configPath name : String)
    (pre post : List Node) (f : Node) (hf : f.isConf = false ∨ f.table env = none)
    (m : GoMap QueryConfig)
    (h : loadConfig env order configPath (.ok (.dir name (.ok (pre ++ f :: post)))) =
      some (.ok m)) :
    ∃ m', loadConfig env order configPath (.ok (.dir name (.ok (pre ++ post)))) = some (.ok m') ∧
      m'.get = m.get := by
  have hsome : (loadFiles env order configPath (pre ++ post) ⟨GoMap.empty, 0⟩).isSome := by
    have h' : (loadFiles env order configPath (pre ++ f :: post) ⟨GoMap.empty, 0⟩).isSome := by
      simp only [loadConfig, loadNode, Option.map_eq_some'] at h
      obtain ⟨merged, hm, -⟩ := h
      simp [hm]
    rw [loadFiles_isSome_iff] at h' ⊢
    intro g hg
    exact h' g (List.mem_append.mpr ((List.mem_append.mp hg).imp_right (List.mem_cons_of_mem f)))
  obtain ⟨merged', hm'⟩ := Option.isSome_iff_exists.mp hsome
  have h' : loadConfig env order configPath (.ok (.dir name (.ok (pre ++ post)))) =
      some (.ok merged'.queries) := by
    simp [loadConfig, loadNode, hm']
  refine ⟨merged'.queries, h', ?_⟩
  have e := Option.some.inj (loadConfig_table env order configPath h)
  have e' := Option.some.inj (loadConfig_table env order configPath h')
  rw [e, e']
  exact (tableFiles_skip env hf post pre 0 _).symm

/-- Leaving out `bad.yaml`, whose `Check` fails, gives the sample directory's table. -/
theorem loadConfig_skip_sampleDir :
    ∃ m m', (Node.table sampleEnv (.file "bad.yaml" (.ok [2]))) = none ∧
      loadConfig sampleEnv .reverse "conf" (.ok (.dir "conf" (.ok ([.file "a.yaml" (.ok [1]),
        .file "b.yaml" (.ok [1])] ++ .file "bad.yaml" (.ok [2]) :: [.file "notes.txt" (.ok [])])))) =
        some (.ok m) ∧
      loadConfig sampleEnv .reverse "conf" (.ok (.dir "conf" (.ok ([.file "a.yaml" (.ok [1]),
        .file "b.yaml" (.ok [1])] ++ [.file "notes.txt" (.ok [])])))) = some (.ok m') ∧
      m'.get = m.get := by
  obtain ⟨m', h', he⟩ := loadConfig_skip sampleEnv .reverse "conf" "conf"
    [.file "a.yaml" (.ok [1]), .file "b.yaml" (.ok [1])] [.file "notes.txt" (.ok [])]
    (.file "bad.yaml" (.ok [2])) (Or.inr rfl) _ rfl
  exact ⟨_, m', rfl, rfl, h', he⟩

/-! ### What `ParseConfig` accepts -/

/-- `ParseConfig` accepts a file exactly when every query in it passes, whatever the order of
`range`, and returns its queries filled in. -/
theorem parseConfig_eq_ok_iff (env : ConfigEnv) (order : RangeOrder) (content : GoString)
    (path : String) (m : GoMap QueryConfig) :
    parseConfig env order content path = some (.ok m) ↔
      ∃ queries, env.unmarshal content = .ok queries ∧
        queries.entries.all (passes env.check path) = true ∧
        m = queries.filterMap fun name query => query.map (·.fill path name) := by
  unfold parseConfig
  constructor
  · intro h
    cases hu : env.unmarshal content with
    | error err => rw [hu] at h; cases h
    | ok queries =>
      rw [hu] at h
      obtain ⟨res, hloop, hres⟩ := Option.map_eq_some'.mp h
      cases res with
      | some err => cases hres
      | none =>
        have hall := (parseConfigLoop_eq_some_none_iff _ _ _).mp hloop
        rw [all_visit] at hall
        exact ⟨queries, rfl, hall, (Except.ok.inj hres).symm⟩
  · rintro ⟨queries, hu, hall, rfl⟩
    have hloop : parseConfigLoop env.check path (order.visit queries.entries) = some none := by
      rw [parseConfigLoop_eq_some_none_iff, all_visit, hall]
    rw [hu]
    simp only [hloop, Option.map_some']

end OpenGaussExporter
