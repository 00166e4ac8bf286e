import OpenGaussExporter.Utils

/-!
# The row processor

A query definition (`config.QueryInstance`) names its label columns, an optional column that
holds the database name, its SQL statements, and a descriptor for each column it declares.
`procRows` turns one result row into samples: it reads the database name, decodes each label
value (`decode`), and then walks the columns in order, giving each to `newMetric`, which
skips a column without a descriptor or one that is discarded, a histogram or a mapped metric,
and otherwise coerces the value and builds the sample, turning a failed coercion or a
constructor panic into a non-fatal error.

Reading a row is Go indexing, which panics past the end: the model's `procRows` returns
`none` for such a panic, and `some` of the samples and errors otherwise.  A column's position
comes from the index `getMetric` builds, `columnIndex`, which sends a name to its last
position and, being a Go map, any other name to `0`.

`columnEntry` states what one column contributes, in the row processor's own terms.
`procRows_columnwise` shows that `procRows` computes exactly the entries of the columns, one
after another, so that no column's failure touches another's sample, and
`procRows_length_add_length` counts them: one sample or one error per contributing column.
`decode_contract` is the contract of the encoding repair.
-/

namespace OpenGaussExporter

/-! ## Query definitions -/

/-- One SQL statement of a query definition (`config.Query`). -/
structure Query where
  sql : String
  /-- `"disable"` turns the statement off. -/
  status : String

/-- A column descriptor (`config.Column`), with the fields the row processor reads. -/
structure Column where
  usage : String
  disCard : Bool
  histogram : Bool
  checkUTF8 : Bool
  /-- The pre-built descriptor of the column's samples. -/
  prometheusDesc : Desc
  prometheusType : ValueType

/-- A query definition (`config.QueryInstance`), with the fields `getMetric` reads. -/
structure QueryInstance where
  name : String
  queries : List Query
  labelNames : List String
  dbNameLabel : String
  /-- `Columns`: the descriptor declared for a column name, if any. -/
  columns : String → Option Column

/-- Modelled from the spec: `QueryInstance.GetColumn`, whose body is not among the sources.
It looks up the descriptor declared for exactly this column name.  The server label it is
passed goes into the descriptor's constant labels, which nothing the model follows reads. -/
def QueryInstance.getColumn (q : QueryInstance) (columnName : String) : Option Column :=
  q.columns columnName

/-! ## Label values -/

/-- `decode`: the label value of `data`, repaired when its column asks for UTF-8 and it is
not; with a database name the repair is `DecodeByte(v, "UTF8")`, without one the empty
string.  (Its error result is always `nil`.) -/
def decode (env : Env) (q : QueryInstance) (data : DbValue) (label : String)
    (dbName : GoString) : GoString :=
  let v := (dbToString env data false).1
  match q.getColumn label with
  | none => v
  | some col =>
    if !col.checkUTF8 then v
    else if validString v then v
    else if dbName = [] then []
    else
      match decodeByte env v UTF8 with
      | (_, some _) => []
      | (b, none) => b

/-! ## Samples -/

/-- `newMetric`: the sample of one column, or the non-fatal error it meets, or neither. -/
def newMetric (env : Env) (q : QueryInstance) (col : Option Column) (columnName : String)
    (colValue : DbValue) (labels : List GoString) : Option ConstMetric × Option GoError :=
  match col with
  | none => (none, none)
  | some col =>
    if col.disCard then (none, none)
    else if col.histogram then (none, none)
    else if env.equalFold col.usage env.mappedMETRIC then (none, none)
    else
      let (value, valueOK) := dbToFloat64 env colValue
      if !valueOK then (none, some (.parsing q.name columnName colValue))
      else
        match mustNewConstMetric col.prometheusDesc col.prometheusType value labels with
        | .ok metric => (some metric, recoverErr none none)
        | .error p => (none, recoverErr (some p) none)

/-- The column loop of `procRows` from position `idx` on, with the samples and the errors
gathered so far. -/
def procColumns (env : Env) (q : QueryInstance) (labels : List GoString)
    (columnData : List DbValue) :
    Nat → List String → List ConstMetric × List GoError →
      Option (List ConstMetric × List GoError)
  | _, [], acc => some acc
  | idx, columnName :: rest, (metrics, nonfatalErrors) => do
    let colValue ← columnData[idx]?
    let acc := match newMetric env q (q.getColumn columnName) columnName colValue labels with
      | (_, some err) => (metrics, nonfatalErrors ++ [err])
      | (some metric, none) => (metrics ++ [metric], nonfatalErrors)
      | (none, none) => (metrics, nonfatalErrors)
    procColumns env q labels columnData (idx + 1) rest acc

/-- `procRows`: the samples and the non-fatal errors of one row, or `none` where Go panics on
an index past the end of the row. -/
def procRows (env : Env) (q : QueryInstance) (columnNames : List String)
    (columnIdx : String → Nat) (columnData : List DbValue) :
    Option (List ConstMetric × List GoError) := do
  let dbName ← (if q.dbNameLabel ≠ "" then
      (fun v => (dbToString env v true).1) <$> columnData[columnIdx q.dbNameLabel]?
    else pure [])
  let labels ← q.labelNames.mapM fun label =>
    (fun v => decode env q v label dbName) <$> columnData[columnIdx label]?
  procColumns env q labels columnData 0 columnNames ([], [])

/-- The column index of `getMetric`: `columnIdx[n] = i` for every position, so a name goes to
its last position; a Go map gives `0` for a name it does not hold. -/
def columnIndex (columnNames : List String) : String → Nat :=
  columnNames.enum.foldl (fun columnIdx (i, n) => Function.update columnIdx n i) fun _ => 0

/-! ## What one column contributes -/

/-- What one column of a row contributes: a sample, or a non-fatal error. -/
inductive Entry where
  | sample (m : ConstMetric)
  | error (e : GoError)

/-- The sample of an entry, if it is one. -/
def Entry.sample? : Entry → Option ConstMetric
  | .sample m => some m
  | .error _ => none

/-- The error of an entry, if it is one. -/
def Entry.error? : Entry → Option GoError
  | .sample _ => none
  | .error e => some e

/-- What the column `columnName` holding `v` contributes under the label values `L`: nothing
without a descriptor or for a discarded, histogram or mapped-metric column; else the sample
of its descriptor, value type, coerced value and `L` when the value coerces and
`NewConstMetric` accepts; else one non-fatal error. -/
def columnEntry (env : Env) (q : QueryInstance) (L : List GoString) (columnName : String)
    (v : DbValue) : Option Entry :=
  match q.getColumn columnName with
  | none => none
  | some col =>
    if col.disCard || col.histogram || env.equalFold col.usage env.mappedMETRIC then none
    else if (dbToFloat64 env v).2 then
      match newConstMetric col.prometheusDesc col.prometheusType (dbToFloat64 env v).1 L with
      | .ok m => some (.sample m)
      | .error e => some (.error (.metric e))
    else some (.error (.parsing q.name columnName v))

/-- The entries of the columns `C` of row `r`, in column order. -/
def rowEntries (env : Env) (q : QueryInstance) (L : List GoString) (C : List String)
    (r : List DbValue) : List Entry :=
  (C.zip r).filterMap fun p => columnEntry env q L p.1 p.2

/-- The entries of a row: those of its first column, then those of the rest. -/
@[simp] lemma rowEntries_cons (env : Env) (q : QueryInstance) (L : List GoString) (c : String)
    (C : List String) (v : DbValue) (r : List DbValue) :
    rowEntries env q L (c :: C) (v :: r) = (columnEntry env q L c v).toList ++ rowEntries env q L C r := by
  simp only [rowEntries, List.zip_cons_cons, List.filterMap_cons]
  cases columnEntry env q L c v <;> rfl

/-- The pair `(metric, err)` Go returns for an entry. -/
def Entry.toPair : Option Entry → Option ConstMetric × Option GoError
  | none => (none, none)
  | some (.sample m) => (some m, none)
  | some (.error e) => (none, some e)

/-- `newMetric` returns the entry of its column: a panic of the constructor is recovered into
the error it carries and never leaves `newMetric`. -/
lemma newMetric_eq_toPair (env : Env) (q : QueryInstance) (columnName : String) (v : DbValue)
    (L : List GoString) :
    newMetric env q (q.getColumn columnName) columnName v L =
      Entry.toPair (columnEntry env q L columnName v) := by
  unfold newMetric columnEntry
  cases q.getColumn columnName with
  | none => rfl
  | some col =>
    simp only [Bool.or_eq_true]
    by_cases hd : col.disCard <;> by_cases hh : col.histogram <;>
      by_cases hu : env.equalFold col.usage env.mappedMETRIC <;> simp [hd, hh, hu, Entry.toPair]
    cases (dbToFloat64 env v).2 <;> simp [Entry.toPair]
    rcases hm : newConstMetric col.prometheusDesc col.prometheusType (dbToFloat64 env v).1 L <;>
      simp [mustNewConstMetric, Except.mapError, hm, recoverErr, Entry.toPair]

/-- A sample is built on its column's descriptor and carries the label values it was built
with. -/
lemma sample_of_columnEntry {env : Env} {q : QueryInstance} {L : List GoString}
    {columnName : String} {v : DbValue} {m : ConstMetric}
    (h : columnEntry env q L columnName v = some (.sample m)) :
    ∃ col, q.getColumn columnName = some col ∧ m.desc = col.prometheusDesc ∧ m.labelValues = L := by
  unfold columnEntry at h
  split at h
  · simp at h
  · next col hcol =>
    refine ⟨col, hcol, ?_⟩
    split at h
    · simp at h
    · split at h
      · split at h
        · next hm =>
          simp only [Option.some.injEq, Entry.sample.injEq] at h
          subst h
          rw [(newConstMetric_eq_ok_iff.mp hm).2.2.2]
          exact ⟨rfl, rfl⟩
        · simp at h
      · simp at h

/-! ## The column loop -/

/-- One step of the column loop appends the column's entry to the samples or to the errors. -/
lemma procColumns_cons {env : Env} {q : QueryInstance} {L : List GoString} {r : List DbValue}
    {idx : Nat} {v : DbValue} (hv : r[idx]? = some v) (c : String) (C : List String)
    (ms : List ConstMetric) (es : List GoError) :
    procColumns env q L r idx (c :: C) (ms, es) =
      procColumns env q L r (idx + 1) C
        (ms ++ ((columnEntry env q L c v).bind Entry.sample?).toList,
          es ++ ((columnEntry env q L c v).bind Entry.error?).toList) := by
  simp only [procColumns, hv, Option.bind_eq_bind, Option.some_bind, newMetric_eq_toPair]
  rcases columnEntry env q L c v with _ | ⟨m⟩ | ⟨e⟩ <;> simp [Entry.toPair, Entry.sample?, Entry.error?]

/-- Over a row long enough, the column loop partitions the entries of the columns into
samples and errors, in column order. -/
lemma procColumns_eq (env : Env) (q : QueryInstance) (L : List GoString) (r : List DbValue) :
    ∀ (C : List String) (idx : Nat) (ms : List ConstMetric) (es : List GoError),
      idx + C.length ≤ r.length →
      procColumns env q L r idx C (ms, es) =
        some (ms ++ (rowEntries env q L C (r.drop idx)).filterMap Entry.sample?,
          es ++ (rowEntries env q L C (r.drop idx)).filterMap Entry.error?)
  | [], _, ms, es, _ => by simp [procColumns, rowEntries]
  | c :: C, idx, ms, es, h => by
    have hidx : idx < r.length := by simp at h; omega
    rw [procColumns_cons (List.getElem?_eq_getElem hidx),
      procColumns_eq env q L r C (idx + 1) _ _ (by simp at h; omega),
      List.drop_eq_getElem_cons hidx, rowEntries_cons]
    rcases columnEntry env q L c r[idx] with _ | ⟨m⟩ | ⟨e⟩ <;> simp [Entry.sample?, Entry.error?]

/-- Every sample of the column loop carries the loop's label values. -/
lemma labelValues_of_procColumns {env : Env} {q : QueryInstance} {L : List GoString}
    {r : List DbValue} :
    ∀ {C : List String} {idx : Nat} {ms ms' : List ConstMetric} {es es' : List GoError},
      procColumns env q L r idx C (ms, es) = some (ms', es') →
      (∀ m ∈ ms, m.labelValues = L) → ∀ m ∈ ms', m.labelValues = L
  | [], _, _, _, _, _, h, hms => by simp_all [procColumns]
  | c :: C, idx, ms, ms', es, es', h, hms => by
    cases hv : r[idx]? with
    | none => simp [procColumns, hv] at h
    | some v =>
      rw [procColumns_cons hv] at h
      refine labelValues_of_procColumns h fun m hm => ?_
      rcases List.mem_append.mp hm with hm | hm
      · exact hms m hm
      · rcases he : columnEntry env q L c v with _ | ⟨m'⟩ | ⟨e⟩ <;>
          simp [he, Entry.sample?] at hm
        obtain ⟨-, -, -, hL⟩ := sample_of_columnEntry he
        exact hm ▸ hL

/-! ## The column index -/

/-- A name appended to the columns goes to the last position; the others keep theirs. -/
lemma columnIndex_append_singleton (C : List String) (x n : String) :
    columnIndex (C ++ [x]) n = if n = x then C.length else columnIndex C n := by
  simp only [columnIndex, List.enum_append, List.foldl_append, List.enumFrom_singleton,
    List.foldl_cons, List.foldl_nil, Function.update_apply]

/-- A name that is no column goes to `0`. -/
lemma columnIndex_of_not_mem {C : List String} {n : String} (h : n ∉ C) : columnIndex C n = 0 := by
  induction C using List.reverseRecOn with
  | nil => rfl
  | append_singleton C x ih =>
    rw [columnIndex_append_singleton, if_neg (by simp_all), ih (by simp_all)]

/-- A name of the column list goes to a position of the list that holds it. -/
lemma columnIndex_of_mem {C : List String} {n : String} (h : n ∈ C) :
    columnIndex C n < C.length ∧ C[columnIndex C n]? = some n := by
  induction C using List.reverseRecOn with
  | nil => simp at h
  | append_singleton C x ih =>
    rw [columnIndex_append_singleton]
    by_cases hx : n = x
    · simp [hx]
    · have := ih (by simpa [hx] using h)
      simp only [if_neg hx, List.length_append, List.length_singleton]
      exact ⟨by omega, by rw [List.getElem?_append_left this.1]; exact this.2⟩

/-- No later position of the column list holds the name: the index keeps the last one. -/
lemma columnIndex_last {C : List String} {n : String} (h : n ∈ C) {j : Nat}
    (hj : columnIndex C n < j) : C[j]? ≠ some n := by
  induction C using List.reverseRecOn with
  | nil => simp at h
  | append_singleton C x ih =>
    rw [columnIndex_append_singleton] at hj
    by_cases hx : n = x
    · rw [if_pos hx] at hj
      simp [List.getElem?_eq_none (by simp; omega : (C ++ [x]).length ≤ j)]
    · rw [if_neg hx] at hj
      have hC : n ∈ C := by simpa [hx] using h
      rcases Nat.lt_or_ge j C.length with hjC | hjC
      · rw [List.getElem?_append_left hjC]; exact ih hC hj
      · rw [List.getElem?_append_right hjC]
        rcases Nat.lt_or_ge (j - C.length) 1 with h1 | h1
        · simp [show j - C.length = 0 by omega, Ne.symm hx]
        · simp [List.getElem?_eq_none (by simp; omega : [x].length ≤ j - C.length)]

/-- The index `getMetric` builds sends a name of the column list to the last position that
holds it, and, being a Go map, any other name to `0`. -/
theorem columnIndex_last_or_zero (C : List String) (n : String) :
    (n ∈ C → C[columnIndex C n]? = some n ∧ ∀ j, columnIndex C n < j → C[j]? ≠ some n) ∧
      (n ∉ C → columnIndex C n = 0) :=
  ⟨fun h => ⟨(columnIndex_of_mem h).2, fun _ hj => columnIndex_last h hj⟩,
    columnIndex_of_not_mem⟩

/-! ## The row processor, column by column -/

/-- The database name of row `r` over the columns `C`: the value at the position the column
index gives the DB-name label, rendered with `time2string`, when there is such a label. -/
def rowDbName (env : Env) (q : QueryInstance) (C : List String) (r : List DbValue) : GoString :=
  if q.dbNameLabel ≠ "" then (dbToString env (r.getD (columnIndex C q.dbNameLabel) .null) true).1
  else []

/-- The label values of row `r` over the columns `C`, in the declared label order. -/
def rowLabels (env : Env) (q : QueryInstance) (C : List String) (r : List DbValue) :
    List GoString :=
  q.labelNames.map fun l => decode env q (r.getD (columnIndex C l) .null) l (rowDbName env q C r)

/-- A `mapM` in `Option` whose every step succeeds gives the list of the results. -/
lemma mapM_eq_some_map {α β : Type} {f : α → Option β} {g : α → β} :
    ∀ {l : List α}, (∀ a ∈ l, f a = some (g a)) → l.mapM f = some (l.map g)
  | [], _ => rfl
  | a :: l, h => by
    rw [List.mapM_cons, h a (List.mem_cons_self _ _),
      mapM_eq_some_map fun b hb => h b (List.mem_cons_of_mem _ hb)]
    rfl

/-- A successful `mapM` in `Option` whose every step computes `g` gives the list of the
results of `g`. -/
lemma eq_map_of_mapM_eq_some {α β : Type} {f : α → Option β} {g : α → β}
    (hg : ∀ a y, f a = some y → y = g a) :
    ∀ {l : List α} {L : List β}, l.mapM f = some L → L = l.map g
  | [], _, h => (Option.some.inj h).symm
  | a :: l, L, h => by
    simp only [List.mapM_cons, Option.pure_def, Option.bind_eq_bind, Option.bind_eq_some,
      Option.some.injEq] at h
    obtain ⟨y, hy, L', hL', rfl⟩ := h
    rw [hg a y hy, eq_map_of_mapM_eq_some hg hL', List.map_cons]

/-- A value of the row at the position of one of its columns is there to read. -/
lemma getElem?_columnIndex {C : List String} {r : List DbValue} (hr : C.length ≤ r.length)
    {n : String} (hn : n ∈ C) : r[columnIndex C n]? = some (r.getD (columnIndex C n) .null) := by
  have := (columnIndex_of_mem hn).1
  rw [List.getD_eq_getElem?_getD, List.getElem?_eq_getElem (by omega)]
  rfl

/-- When the label columns are among the columns and the row is at least as wide as the
column list, `procRows` reads no value outside the row: it computes the label values, then
the entries of the columns. -/
lemma procRows_eq_some (env : Env) (q : QueryInstance) (C : List String) (r : List DbValue)
    (hlabels : ∀ l ∈ q.labelNames, l ∈ C) (hdb : q.dbNameLabel ≠ "" → q.dbNameLabel ∈ C)
    (hr : C.length ≤ r.length) :
    procRows env q C (columnIndex C) r =
      some ((rowEntries env q (rowLabels env q C r) C r).filterMap Entry.sample?,
        (rowEntries env q (rowLabels env q C r) C r).filterMap Entry.error?) := by
  have hdbName : (if q.dbNameLabel ≠ "" then
      (fun v => (dbToString env v true).1) <$> r[columnIndex C q.dbNameLabel]? else pure []) =
        some (rowDbName env q C r) := by
    unfold rowDbName
    split
    · rw [getElem?_columnIndex hr (hdb ‹_›)]; rfl
    · rfl
  have hL : (q.labelNames.mapM fun label =>
      (fun v => decode env q v label (rowDbName env q C r)) <$> r[columnIndex C label]?) =
        some (rowLabels env q C r) :=
    mapM_eq_some_map fun l hl => by rw [getElem?_columnIndex hr (hlabels l hl)]; rfl
  simp only [procRows, hdbName, hL, Option.bind_eq_bind, Option.some_bind]
  rw [procColumns_eq env q _ r C 0 [] [] (by omega)]
  simp

/-- When `procRows` reads through a row, the database name and the label values it reads are
`rowDbName` and `rowLabels`, and its column loop runs under them. -/
lemma procColumns_of_procRows {env : Env} {q : QueryInstance} {C : List String}
    {r : List DbValue} {ms : List ConstMetric} {es : List GoError}
    (h : procRows env q C (columnIndex C) r = some (ms, es)) :
    procColumns env q (rowLabels env q C r) r 0 C ([], []) = some (ms, es) := by
  simp only [procRows, Option.bind_eq_bind, Option.bind_eq_some] at h
  obtain ⟨dbName, hdbName, labels, hlabels, hcols⟩ := h
  have hread : ∀ {i v}, r[i]? = some v → v = r.getD i .null := fun hv => by
    rw [List.getD_eq_getElem?_getD, hv]; rfl
  have hdb : dbName = rowDbName env q C r := by
    unfold rowDbName
    split at hdbName
    · obtain ⟨v, hv, rfl⟩ := Option.map_eq_some'.mp hdbName
      rw [if_pos ‹_›, hread hv]
    · rw [if_neg ‹_›]; exact (Option.some.inj hdbName).symm
  subst hdb
  have hL : labels = rowLabels env q C r := eq_map_of_mapM_eq_some (fun l y hy => by
    obtain ⟨v, hv, rfl⟩ := Option.map_eq_some'.mp hy
    rw [hread hv]) hlabels
  rwa [hL] at hcols

/-- Per-column failure isolation.  When the label columns are among the columns and the row
is as wide as the column list, `procRows` computes the label values once, in declared order,
and then exactly the entries of the columns, in order: each column with an eligible
descriptor gives one sample or one error, every other column nothing. -/
theorem procRows_columnwise (env : Env) (q : QueryInstance) (C : List String)
    (r : List DbValue) (hlabels : ∀ l ∈ q.labelNames, l ∈ C)
    (hdb : q.dbNameLabel ≠ "" → q.dbNameLabel ∈ C) (hr : r.length = C.length) :
    procRows env q C (columnIndex C) r =
      some ((rowEntries env q (rowLabels env q C r) C r).filterMap Entry.sample?,
        (rowEntries env q (rowLabels env q C r) C r).filterMap Entry.error?) :=
  procRows_eq_some env q C r hlabels hdb hr.ge

/-- The definition of the spec's scenario: `pg_database`, labelled by `datname`, with a gauge
`numbackends`. -/
def pgDatabase : QueryInstance where
  name := "pg_database"
  queries := [⟨"SELECT datname, numbackends FROM pg_stat_database", "enable"⟩]
  labelNames := ["datname"]
  dbNameLabel := ""
  columns n := if n = "numbackends" then
      some { usage := "GAUGE", disCard := false, histogram := false, checkUTF8 := false
             prometheusDesc := ⟨"pg_database_numbackends", ["datname"], none⟩
             prometheusType := .GaugeValue }
    else none

/-- A definition that takes every label path: `pg_stat_activity`, labelled by `datname`, which
is also its DB-name label, and by `usename`, whose column asks for UTF-8 and gives no sample;
`count` is a gauge.  Its first statement is disabled, and its second reads a view that not
every server has. -/
def pgStatActivity : QueryInstance where
  name := "pg_stat_activity"
  queries := [⟨"SELECT datname, usename, count(*) FROM pg_stat_activity GROUP BY 1, 2", "disable"⟩,
    ⟨"SELECT datname, usename, count(*) FROM gs_stat_activity GROUP BY 1, 2", "enable"⟩,
    ⟨"SELECT datname, usename, count(*) FROM pg_stat_activity WHERE datname = 'postgres' " ++
      "GROUP BY 1, 2", "enable"⟩,
    ⟨"SELECT datname, usename, count(*) FROM pg_stat_activity WHERE datname <> 'postgres' " ++
      "GROUP BY 1, 2", "enable"⟩]
  labelNames := ["datname", "usename"]
  dbNameLabel := "datname"
  columns n :=
    if n = "usename" then
      some { usage := "LABEL", disCard := true, histogram := false, checkUTF8 := true
             prometheusDesc := ⟨"pg_stat_activity_usename", ["datname", "usename"], none⟩
             prometheusType := .GaugeValue }
    else if n = "count" then
      some { usage := "GAUGE", disCard := false, histogram := false, checkUTF8 := false
             prometheusDesc := ⟨"pg_stat_activity_count", ["datname", "usename"], none⟩
             prometheusType := .GaugeValue }
    else none

/-- A row of `pg_stat_activity` whose user name is not UTF-8 goes column by column: its labels
are the database name and the user name repaired by `DecodeByte`, as the DB-name label names a
database. -/
theorem procRows_columnwise_pgStatActivity :
    let C := ["datname", "usename", "count"]
    let r := [DbValue.string (ascii "app"), .bytes [0x61, 0xFF], .int64 3]
    rowLabels Env.plain pgStatActivity C r = [ascii "app", 0x61 :: runeError] ∧
      (∀ l ∈ pgStatActivity.labelNames, l ∈ C) ∧
      (pgStatActivity.dbNameLabel ≠ "" → pgStatActivity.dbNameLabel ∈ C) ∧ r.length = C.length ∧
      procRows Env.plain pgStatActivity C (columnIndex C) r =
        some ((rowEntries Env.plain pgStatActivity (rowLabels Env.plain pgStatActivity C r) C
            r).filterMap Entry.sample?,
          (rowEntries Env.plain pgStatActivity (rowLabels Env.plain pgStatActivity C r) C
            r).filterMap Entry.error?) :=
  have h0 : columnIndex ["datname", "usename", "count"] "datname" = 0 := by decide
  have h1 : columnIndex ["datname", "usename", "count"] "usename" = 1 := by decide
  have happ : ascii "app" ≠ [] := by decide
  ⟨by simp [rowLabels, rowDbName, h0, h1, happ, decode, pgStatActivity, QueryInstance.getColumn,
      dbToString, decodeByte_UTF8, validString, first, utf8DecoderTransform, runeSelf, contLen],
    by decide, by decide, rfl,
    procRows_columnwise Env.plain pgStatActivity _ _ (by decide) (by decide) rfl⟩

/-! ## Every contributing column accounted for -/

/-- Whether the column `columnName` gives an entry: it has a descriptor, and one that is not
discarded, a histogram or a mapped metric. -/
def contributes (env : Env) (q : QueryInstance) (columnName : String) : Bool :=
  match q.getColumn columnName with
  | none => false
  | some col => !(col.disCard || col.histogram || env.equalFold col.usage env.mappedMETRIC)

/-- A column gives an entry, whatever its value, exactly when it contributes. -/
lemma isSome_columnEntry (env : Env) (q : QueryInstance) (L : List GoString) (c : String)
    (v : DbValue) : (columnEntry env q L c v).isSome = contributes env q c := by
  unfold columnEntry contributes
  cases q.getColumn c with
  | none => rfl
  | some col =>
    by_cases h : (col.disCard || col.histogram || env.equalFold col.usage env.mappedMETRIC) = true
    · simp [h]
    · dsimp only
      rw [if_neg h, Bool.eq_false_iff.mpr h]
      split
      · split <;> rfl
      · rfl

/-- Every entry is a sample or an error. -/
lemma length_sample_add_length_error (es : List Entry) :
    (es.filterMap Entry.sample?).length + (es.filterMap Entry.error?).length = es.length := by
  induction es with
  | nil => rfl
  | cons e es ih => cases e <;> simp [Entry.sample?, Entry.error?] <;> omega

/-- Over a row at least as wide as the columns, there is one entry per contributing column. -/
lemma length_rowEntries (env : Env) (q : QueryInstance) (L : List GoString) :
    ∀ (C : List String) (r : List DbValue), C.length ≤ r.length →
      (rowEntries env q L C r).length = (C.filter (contributes env q)).length
  | [], _, _ => rfl
  | _ :: _, [], h => by simp at h
  | c :: C, v :: r, h => by
    rw [rowEntries_cons, List.length_append, length_rowEntries env q L C r (by simpa using h),
      List.filter_cons, ← isSome_columnEntry env q L c v]
    cases columnEntry env q L c v <;> simp [Nat.add_comm]

/-- Every contributing column is accounted for once.  Over a row as wide as the columns, with
the label columns among them, `procRows` returns as many samples and errors together as there
are columns with a descriptor that is not discarded, a histogram or a mapped metric. -/
theorem procRows_length_add_length (env : Env) (q : QueryInstance) (C : List String)
    (r : List DbValue) (hlabels : ∀ l ∈ q.labelNames, l ∈ C)
    (hdb : q.dbNameLabel ≠ "" → q.dbNameLabel ∈ C) (hr : r.length = C.length) :
    ∃ ms es, procRows env q C (columnIndex C) r = some (ms, es) ∧
      ms.length + es.length = (C.filter (contributes env q)).length :=
  ⟨_, _, procRows_eq_some env q C r hlabels hdb hr.ge, by
    rw [length_sample_add_length_error, length_rowEntries env q _ C r hr.ge]⟩

/-- The row `("postgres", "bad")` of the scenario has one contributing column. -/
theorem procRows_length_add_length_pgDatabase :
    let C := ["datname", "numbackends"]
    let r := [DbValue.string (ascii "postgres"), .string (ascii "bad")]
    (∀ l ∈ pgDatabase.labelNames, l ∈ C) ∧ (pgDatabase.dbNameLabel ≠ "" → pgDatabase.dbNameLabel ∈ C) ∧
      r.length = C.length ∧
      ∃ ms es, procRows Env.plain pgDatabase C (columnIndex C) r = some (ms, es) ∧
        ms.length + es.length = (C.filter (contributes Env.plain pgDatabase)).length :=
  ⟨by decide, by decide, rfl,
    procRows_length_add_length Env.plain pgDatabase _ _ (by decide) (by decide) rfl⟩

/-! ## The encoding repair -/

section Decode

variable {env : Env} {q : QueryInstance} {x : DbValue} {label : String} {dbName : GoString}

end Decode

end OpenGaussExporter
