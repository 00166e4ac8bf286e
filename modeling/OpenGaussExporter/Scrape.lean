import OpenGaussExporter.Row

/-!
# The scrape of one query definition

`getMetric` runs the enabled statements of a definition one after another.  It skips a
statement whose query fails; for one that succeeds it takes the statement's column list as the
current one and collects the rows `rows.Next` and `rows.Scan` deliver, until a `Scan` fails.
Only after the last statement does it build the column index, from the column list of the last
statement that succeeded, and hand every collected row to `procRows` against that list.

The database is an oracle: `DB.queryContext n sql` is the outcome of the `n`-th query of the
scrape, so the model covers every sequence of outcomes.  The rows of a result set all have as
many values as it has columns, as `database/sql` scans them; `ResultSet` carries that as a
field.

`getMetric_eq_perStatement` shows that when every result has the same column list, collecting
first and resolving against the last list is the same as processing each statement's rows on
their own.  `getMetric_isSome` is the bounds discipline: the scrape reads no value outside a
row, and so does not panic, when the label columns are among the final columns and every
collected row is as wide as they are, as it is whenever the statements agree on their columns
(`getMetric_isSome_of_sameColumns`); `getMetric_narrow_statement` shows an earlier, narrower
statement breaking it.
-/

namespace OpenGaussExporter

/-- The rows of a successful query, as `database/sql` delivers them. -/
structure ResultSet where
  columns : List String
  rows : List (List DbValue)
  rows_width : ∀ r ∈ rows, r.length = columns.length
  /-- The position of the first row whose `Scan` fails, if one does. -/
  scanFailure : Option Nat

/-- What `db.QueryContext` gives a statement. -/
inductive Outcome where
  | queryError
  | result (rs : ResultSet)

/-- The database a scrape queries: the outcome of its `n`-th query, given the SQL text. -/
structure DB where
  queryContext : Nat → String → Outcome

/-- The `rows.Next`/`rows.Scan` loop: the rows before the first failing `Scan`. -/
def ResultSet.scanned (rs : ResultSet) : List (List DbValue) :=
  match rs.scanFailure with
  | none => rs.rows
  | some k => rs.rows.take k

/-- A scanned row is a row of the result. -/
lemma ResultSet.mem_rows_of_mem_scanned {rs : ResultSet} {r : List DbValue}
    (h : r ∈ rs.scanned) : r ∈ rs.rows := by
  unfold ResultSet.scanned at h
  split at h
  · exact h
  · exact List.mem_of_mem_take h

/-- What the statement loop of `getMetric` keeps: the current column list and the rows so
far. -/
structure Collected where
  columnNames : List String
  list : List (List DbValue)

/-- The statement loop of `getMetric`, from the `n`-th query of the scrape on. -/
def collect (db : DB) : Nat → List Query → Collected → Collected
  | _, [], c => c
  | n, query :: rest, c =>
    if query.status = "disable" then collect db n rest c
    else match db.queryContext n query.sql with
      | .queryError => collect db (n + 1) rest c
      | .result rs => collect db (n + 1) rest ⟨rs.columns, c.list ++ rs.scanned⟩

/-- What every successful statement preserves of what the loop keeps holds at the end of the
loop: disabled and failing statements change nothing. -/
lemma collect_induction (db : DB) (P : Collected → Prop)
    (hstep : ∀ n sql rs c, db.queryContext n sql = .result rs → P c →
      P ⟨rs.columns, c.list ++ rs.scanned⟩) :
    ∀ (qs : List Query) (n : Nat) (c : Collected), P c → P (collect db n qs c)
  | [], _, _, h => h
  | query :: rest, n, c, h => by
    unfold collect
    split
    · exact collect_induction db P hstep rest n c h
    · rcases hq : db.queryContext n query.sql with _ | rs
      · exact collect_induction db P hstep rest (n + 1) c h
      · exact collect_induction db P hstep rest (n + 1) _ (hstep n query.sql rs c hq h)

/-- One turn of the row loop of `getMetric`: the row's samples appended to those so far. -/
def procBatchStep (env : Env) (q : QueryInstance) (columnNames : List String)
    (columnIdx : String → Nat) (metrics : List ConstMetric) (row : List DbValue) :
    Option (List ConstMetric) :=
  (procRows env q columnNames columnIdx row).map fun (metric, _) => metrics ++ metric

/-- The row loop of `getMetric`: every row through `procRows`, against the column index of
`columnNames`. -/
def procBatch (env : Env) (q : QueryInstance) (columnNames : List String)
    (list : List (List DbValue)) : Option (List ConstMetric) :=
  list.foldlM (procBatchStep env q columnNames (columnIndex columnNames)) []

/-- `getMetric`: the samples of one query definition, or `none` where the scrape panics. -/
def getMetric (env : Env) (db : DB) (q : QueryInstance) : Option (List ConstMetric) :=
  let c := collect db 0 q.queries ⟨[], []⟩
  procBatch env q c.columnNames c.list

/-! ## The row loop is a concatenation -/

/-- The samples of a batch of rows: those of each row, concatenated in row order. -/
def rowSamples (env : Env) (q : QueryInstance) (C : List String) (rows : List (List DbValue)) :
    Option (List ConstMetric) :=
  (rows.mapM (procRows env q C (columnIndex C))).map fun ps => ps.flatMap Prod.fst

/-- No rows, no samples. -/
lemma rowSamples_nil (env : Env) (q : QueryInstance) (C : List String) :
    rowSamples env q C [] = some [] := rfl

/-- The samples of a batch: those of its first row, then those of the others. -/
lemma rowSamples_cons (env : Env) (q : QueryInstance) (C : List String) (row : List DbValue)
    (rows : List (List DbValue)) :
    rowSamples env q C (row :: rows) = (procRows env q C (columnIndex C) row).bind fun p =>
      (rowSamples env q C rows).map (p.1 ++ ·) := by
  simp only [rowSamples, List.mapM_cons]
  cases procRows env q C (columnIndex C) row <;> cases rows.mapM (procRows env q C (columnIndex C))
    <;> rfl

/-- The row loop, from samples `acc` on, appends the samples of the remaining rows. -/
lemma foldlM_procBatchStep (env : Env) (q : QueryInstance) (C : List String) :
    ∀ (rows : List (List DbValue)) (acc : List ConstMetric),
      rows.foldlM (procBatchStep env q C (columnIndex C)) acc =
        (rowSamples env q C rows).map (acc ++ ·)
  | [], acc => by simp [rowSamples_nil]
  | row :: rows, acc => by
    rw [List.foldlM_cons, rowSamples_cons]
    rcases hp : procRows env q C (columnIndex C) row with _ | p
    · simp [procBatchStep, hp]
    · simp only [procBatchStep, hp, Option.map_some', Option.bind_eq_bind, Option.some_bind,
        foldlM_procBatchStep env q C rows]
      cases rowSamples env q C rows <;> simp

/-- The row loop of `getMetric` computes the samples of the batch. -/
lemma procBatch_eq_rowSamples (env : Env) (q : QueryInstance) (C : List String)
    (rows : List (List DbValue)) : procBatch env q C rows = rowSamples env q C rows := by
  simp [procBatch, foldlM_procBatchStep]

/-- The samples of two batches one after the other. -/
lemma rowSamples_append (env : Env) (q : QueryInstance) (C : List String) :
    ∀ (rows rows' : List (List DbValue)),
      rowSamples env q C (rows ++ rows') = (rowSamples env q C rows).bind fun ms =>
        (rowSamples env q C rows').map (ms ++ ·)
  | [], rows' => by simp [rowSamples_nil]
  | row :: rows, rows' => by
    rw [List.cons_append, rowSamples_cons, rowSamples_cons, rowSamples_append env q C rows rows']
    cases procRows env q C (columnIndex C) row <;> cases rowSamples env q C rows <;>
      cases rowSamples env q C rows' <;> simp

/-! ## Statement by statement -/

/-- The samples of the statements taken one at a time: for every enabled statement, in order,
whose query succeeds, the samples of its rows before the first failing `Scan`, each row
resolved against the columns `C`; nothing for the others. -/
def perStatement (env : Env) (db : DB) (q : QueryInstance) (C : List String) :
    Nat → List Query → Option (List ConstMetric)
  | _, [] => some []
  | n, query :: rest =>
    if query.status = "disable" then perStatement env db q C n rest
    else match db.queryContext n query.sql with
      | .queryError => perStatement env db q C (n + 1) rest
      | .result rs => (rowSamples env q C rs.scanned).bind fun ms =>
          (perStatement env db q C (n + 1) rest).map (ms ++ ·)

/-- Against a fixed column list, the rows the statement loop adds have the samples of the
statements that add them. -/
lemma rowSamples_collect (env : Env) (db : DB) (q : QueryInstance) (C : List String) :
    ∀ (qs : List Query) (n : Nat) (c : Collected),
      rowSamples env q C (collect db n qs c).list = (rowSamples env q C c.list).bind fun ms =>
        (perStatement env db q C n qs).map (ms ++ ·)
  | [], n, c => by
    simp only [collect, perStatement, Option.map_some', List.append_nil]
    cases rowSamples env q C c.list <;> rfl
  | query :: rest, n, c => by
    unfold collect perStatement
    split
    · exact rowSamples_collect env db q C rest n c
    · rcases h : db.queryContext n query.sql with _ | rs
      · exact rowSamples_collect env db q C rest (n + 1) c
      · simp only
        rw [rowSamples_collect env db q C rest (n + 1), rowSamples_append]
        cases rowSamples env q C c.list <;> cases rowSamples env q C rs.scanned <;>
          cases perStatement env db q C (n + 1) rest <;> simp

section SameColumns

variable (db : DB) (C : List String)
  (hC : ∀ n sql rs, db.queryContext n sql = .result rs → rs.columns = C)
include hC

/-- Under one column list, the statement loop ends on that list, or changes nothing. -/
lemma collect_columnNames (qs : List Query) (n : Nat) (c : Collected) :
    (collect db n qs c).columnNames = C ∨ collect db n qs c = c :=
  collect_induction db (fun c' => c'.columnNames = C ∨ c' = c)
    (fun n sql rs _ hq _ => .inl (hC n sql rs hq)) qs n c (.inr rfl)

/-- The batched aggregator agrees with per-statement processing: when every result has the
column list `C`, `getMetric` is the concatenation, over the enabled statements in order whose
query succeeds, of the samples of their rows before the first failing `Scan`, resolved
against `C`.  Disabled and failing statements add nothing, and change nothing of what the
others add. -/
theorem getMetric_eq_perStatement (env : Env) (q : QueryInstance) :
    getMetric env db q = perStatement env db q C 0 q.queries := by
  have hsum := rowSamples_collect env db q C q.queries 0 ⟨[], []⟩
  simp only [rowSamples_nil, Option.some_bind, List.nil_append, Option.map_id'] at hsum
  unfold getMetric
  rw [procBatch_eq_rowSamples]
  rcases collect_columnNames db C hC q.queries 0 ⟨[], []⟩ with h | h
  · rw [h, hsum]
  · rw [h] at hsum ⊢
    exact hsum

/-- Under one column list, every row the statement loop adds is as wide as that list. -/
lemma collect_list_width : ∀ (qs : List Query) (n : Nat) (c : Collected),
    (∀ r ∈ c.list, r.length = C.length) → ∀ r ∈ (collect db n qs c).list, r.length = C.length :=
  collect_induction db (fun c => ∀ r ∈ c.list, r.length = C.length) fun n sql rs c hq h r hr => by
    rcases List.mem_append.mp hr with hr | hr
    · exact h r hr
    · rw [rs.rows_width r (ResultSet.mem_rows_of_mem_scanned hr), hC n sql rs hq]

end SameColumns

/-- The database of the scenario: every query returns the row `("postgres", 3)` under the
columns `datname, numbackends`. -/
def pgDatabaseDB : DB :=
  ⟨fun _ _ => .result ⟨["datname", "numbackends"], [[.string (ascii "postgres"), .int64 3]],
    by decide, none⟩⟩

/-- A database for `pg_stat_activity`: its first query fails, its second gives two rows, and its
third gives a row whose user name is not UTF-8 and then a row whose `Scan` fails. -/
def pgStatActivityDB : DB :=
  ⟨fun n _ =>
    if n = 0 then .queryError
    else if n = 1 then
      .result ⟨["datname", "usename", "count"],
        [[.string (ascii "postgres"), .string (ascii "omm"), .int64 2],
          [.string (ascii "postgres"), .string (ascii "bob"), .int64 1]], by decide, none⟩
    else
      .result ⟨["datname", "usename", "count"],
        [[.string (ascii "app"), .bytes [0x61, 0xFF], .int64 3],
          [.string (ascii "app"), .string (ascii "carol"), .int64 1]], by decide, some 1⟩⟩

/-- A disabled, a failing and two succeeding statements under one column list. -/
theorem getMetric_eq_perStatement_pgStatActivity :
    (∀ n sql rs, pgStatActivityDB.queryContext n sql = .result rs →
        rs.columns = ["datname", "usename", "count"]) ∧
      getMetric Env.plain pgStatActivityDB pgStatActivity =
        perStatement Env.plain pgStatActivityDB pgStatActivity ["datname", "usename", "count"] 0
          pgStatActivity.queries := by
  have h : ∀ n sql rs, pgStatActivityDB.queryContext n sql = .result rs →
      rs.columns = ["datname", "usename", "count"] := fun n _ _ hr => by
    simp only [pgStatActivityDB] at hr
    split at hr
    · cases hr
    · split at hr <;> cases hr <;> rfl
  exact ⟨h, getMetric_eq_perStatement _ _ h _ _⟩

/-! ## Reading within the rows -/

/-- With the label columns among the columns, a batch of rows at least as wide as the column
list is read within the bounds of every row. -/
lemma rowSamples_isSome (env : Env) (q : QueryInstance) (C : List String)
    (hlabels : ∀ l ∈ q.labelNames, l ∈ C) (hdb : q.dbNameLabel ≠ "" → q.dbNameLabel ∈ C) :
    ∀ rows : List (List DbValue), (∀ r ∈ rows, C.length ≤ r.length) →
      (rowSamples env q C rows).isSome
  | [], _ => rfl
  | row :: rows, h => by
    obtain ⟨ms, hms⟩ := Option.isSome_iff_exists.mp
      (rowSamples_isSome env q C hlabels hdb rows fun r hr => h r (by simp [hr]))
    rw [rowSamples_cons, procRows_eq_some env q C row hlabels hdb (h row (by simp)), hms]
    rfl

/-- The scrape reads no value outside a row, and so never panics on an index, when the label
columns are among the columns of the last statement that succeeded and every row it collects
is at least as wide as that column list. -/
theorem getMetric_isSome (env : Env) (db : DB) (q : QueryInstance)
    (hlabels : ∀ l ∈ q.labelNames, l ∈ (collect db 0 q.queries ⟨[], []⟩).columnNames)
    (hdb : q.dbNameLabel ≠ "" → q.dbNameLabel ∈ (collect db 0 q.queries ⟨[], []⟩).columnNames)
    (hwidth : ∀ r ∈ (collect db 0 q.queries ⟨[], []⟩).list,
      (collect db 0 q.queries ⟨[], []⟩).columnNames.length ≤ r.length) :
    (getMetric env db q).isSome := by
  unfold getMetric
  rw [procBatch_eq_rowSamples]
  exact rowSamples_isSome env q _ hlabels hdb _ hwidth

/-- The scenario's scrape reads within its rows. -/
theorem getMetric_isSome_pgDatabase :
    (∀ l ∈ pgDatabase.labelNames,
        l ∈ (collect pgDatabaseDB 0 pgDatabase.queries ⟨[], []⟩).columnNames) ∧
      (pgDatabase.dbNameLabel ≠ "" →
        pgDatabase.dbNameLabel ∈ (collect pgDatabaseDB 0 pgDatabase.queries ⟨[], []⟩).columnNames) ∧
      (∀ r ∈ (collect pgDatabaseDB 0 pgDatabase.queries ⟨[], []⟩).list,
        (collect pgDatabaseDB 0 pgDatabase.queries ⟨[], []⟩).columnNames.length ≤ r.length) ∧
      (getMetric Env.plain pgDatabaseDB pgDatabase).isSome :=
  ⟨by decide, by decide, by decide,
    getMetric_isSome Env.plain pgDatabaseDB pgDatabase (by decide) (by decide) (by decide)⟩

/-- When every result has the column list `C`, as the statements of one definition are to
agree, and the label columns are among `C`, the scrape never panics on an index. -/
theorem getMetric_isSome_of_sameColumns (env : Env) (db : DB) (q : QueryInstance)
    (C : List String) (hC : ∀ n sql rs, db.queryContext n sql = .result rs → rs.columns = C)
    (hlabels : ∀ l ∈ q.labelNames, l ∈ C) (hdb : q.dbNameLabel ≠ "" → q.dbNameLabel ∈ C) :
    (getMetric env db q).isSome := by
  unfold getMetric
  rw [procBatch_eq_rowSamples]
  have hwidth := collect_list_width db C hC q.queries 0 ⟨[], []⟩ (by simp)
  rcases collect_columnNames db C hC q.queries 0 ⟨[], []⟩ with h | h
  · rw [h]
    exact rowSamples_isSome env q C hlabels hdb _ fun r hr => (hwidth r hr).ge
  · rw [h]
    rfl

/-- The scenario's database agrees with itself on the column list. -/
theorem getMetric_isSome_of_sameColumns_pgDatabase :
    (∀ n sql rs, pgDatabaseDB.queryContext n sql = .result rs →
        rs.columns = ["datname", "numbackends"]) ∧
      (∀ l ∈ pgDatabase.labelNames, l ∈ ["datname", "numbackends"]) ∧
      (pgDatabase.dbNameLabel ≠ "" → pgDatabase.dbNameLabel ∈ ["datname", "numbackends"]) ∧
      (getMetric Env.plain pgDatabaseDB pgDatabase).isSome := by
  have h : ∀ n sql rs, pgDatabaseDB.queryContext n sql = .result rs →
      rs.columns = ["datname", "numbackends"] := fun _ _ _ hr => by cases hr; rfl
  exact ⟨h, by decide, by decide,
    getMetric_isSome_of_sameColumns Env.plain pgDatabaseDB pgDatabase _ h (by decide) (by decide)⟩

/-- A first statement with one column and a row, then a second with two columns and none: the
row is resolved against two columns and read past its end, though the definition declares no
label at all. -/
theorem getMetric_narrow_statement :
    let db : DB := ⟨fun n _ => if n = 0 then .result ⟨["a"], [[.int64 1]], by decide, none⟩
      else .result ⟨["a", "b"], [], by decide, none⟩⟩
    let q : QueryInstance :=
      ⟨"narrow", [⟨"SELECT a", "enable"⟩, ⟨"SELECT a, b", "enable"⟩], [], "", fun _ => none⟩
    (∀ l ∈ q.labelNames, l ∈ (collect db 0 q.queries ⟨[], []⟩).columnNames) ∧
      q.dbNameLabel = "" ∧ getMetric Env.plain db q = none := by
  intro db q
  exact ⟨by decide, rfl, rfl⟩

end OpenGaussExporter
