import Mathlib.Data.List.Nodup
import OpenGaussExporter.Scrape

/-!
# Distinct series

An exposition may hold one sample per series, a series being a metric name with its label
values; the registry's `Gather` refuses one that holds two.  The samples of one row have one
label vector and come from distinct columns, so their names differ when the descriptors of
distinct columns have distinct names.  Across rows the label vectors must differ, and they are
texts derived from the values: `rowLabels`, through `DbToString` and `decode`.

`getMetric_nodup_seriesKey` is the guarantee: rows whose label vectors are pairwise distinct
give pairwise distinct series.  Distinct database values need not give distinct label
vectors: `getMetric_null_empty_duplicate` shows a `NULL` and an empty text both rendered as
the empty label value, and their rows giving one series twice.
-/

namespace OpenGaussExporter

/-- What identifies a series: the metric name and the label values. -/
def seriesKey (m : ConstMetric) : String × List GoString := (m.desc.fqName, m.labelValues)

/-- Distinct columns of `C` have descriptors of distinct names. -/
def DistinctNames (q : QueryInstance) (C : List String) : Prop :=
  ∀ a ∈ C, ∀ b ∈ C, a ≠ b → ∀ ca cb, q.getColumn a = some ca → q.getColumn b = some cb →
    ca.prometheusDesc.fqName ≠ cb.prometheusDesc.fqName

/-! ## One row -/

/-- A sample of a row comes from one of its columns, and is built on that column's
descriptor. -/
lemma desc_of_mem_rowEntries {env : Env} {q : QueryInstance} {L : List GoString}
    {C : List String} {r : List DbValue} {m : ConstMetric}
    (hm : m ∈ (rowEntries env q L C r).filterMap Entry.sample?) :
    ∃ c ∈ C, ∃ col, q.getColumn c = some col ∧ m.desc = col.prometheusDesc := by
  obtain ⟨e, he, hme⟩ := List.mem_filterMap.mp hm
  obtain ⟨p, hp, hpe⟩ := List.mem_filterMap.mp he
  cases e with
  | error => cases hme
  | sample m' =>
    obtain rfl : m' = m := Option.some.inj hme
    obtain ⟨col, hcol, hdesc, -⟩ := sample_of_columnEntry hpe
    exact ⟨p.1, (List.of_mem_zip hp).1, col, hcol, hdesc⟩

/-- The samples of a row carry pairwise distinct names when its columns are distinct and the
descriptors of distinct columns have distinct names. -/
lemma nodup_fqName_rowEntries (env : Env) (q : QueryInstance) (L : List GoString) :
    ∀ (C : List String) (r : List DbValue), C.Nodup → DistinctNames q C →
      (((rowEntries env q L C r).filterMap Entry.sample?).map fun m => m.desc.fqName).Nodup
  | [], _, _, _ => by simp [rowEntries]
  | _ :: _, [], _, _ => by simp [rowEntries]
  | c :: C, v :: r, hC, hd => by
    have hC' := List.nodup_cons.mp hC
    have ih := nodup_fqName_rowEntries env q L C r hC'.2
      fun a ha b hb => hd a (by simp [ha]) b (by simp [hb])
    rw [rowEntries_cons, List.filterMap_append]
    rcases he : columnEntry env q L c v with _ | ⟨m⟩ | ⟨e⟩
    case some.sample =>
      obtain ⟨col, hcol, hm, -⟩ := sample_of_columnEntry he
      simp only [Option.toList_some, Entry.sample?, List.filterMap_cons, List.filterMap_nil,
        List.singleton_append, List.map_cons, List.nodup_cons, List.mem_map]
      refine ⟨fun ⟨m', hm', hname⟩ => ?_, ih⟩
      obtain ⟨c', hc', col', hcol', hm'⟩ := desc_of_mem_rowEntries hm'
      exact hd c (by simp) c' (by simp [hc']) (fun h => hC'.1 (h ▸ hc')) col col' hcol hcol'
        (by rw [← hm, ← hm', hname])
    all_goals simpa [Entry.sample?] using ih

/-- A row that `procRows` reads through, as wide as the columns, carries the label vector
`rowLabels` on every sample, and samples of pairwise distinct names. -/
lemma procRows_series {env : Env} {q : QueryInstance} {C : List String} {r : List DbValue}
    {ms : List ConstMetric} {es : List GoError} (hC : C.Nodup) (hd : DistinctNames q C)
    (hr : r.length = C.length) (h : procRows env q C (columnIndex C) r = some (ms, es)) :
    (∀ m ∈ ms, m.labelValues = rowLabels env q C r) ∧ (ms.map fun m => m.desc.fqName).Nodup := by
  have hcols := procColumns_of_procRows h
  refine ⟨labelValues_of_procColumns hcols (by simp), ?_⟩
  rw [procColumns_eq env q _ r C 0 [] [] (by omega)] at hcols
  simp only [Option.some.injEq, Prod.mk.injEq, List.nil_append, List.drop_zero] at hcols
  rw [← hcols.1]
  exact nodup_fqName_rowEntries env q _ C r hC hd

/-! ## A batch of rows -/

/-- The series of a batch are pairwise distinct when its rows' label vectors are, and every
sample carries the label vector of one of the rows. -/
lemma rowSamples_series (env : Env) (q : QueryInstance) (C : List String) (hC : C.Nodup)
    (hd : DistinctNames q C) :
    ∀ (rows : List (List DbValue)) (ms : List ConstMetric), (∀ r ∈ rows, r.length = C.length) →
      (rows.map (rowLabels env q C)).Nodup → rowSamples env q C rows = some ms →
      (ms.map seriesKey).Nodup ∧ ∀ m ∈ ms, m.labelValues ∈ rows.map (rowLabels env q C)
  | [], ms, _, _, h => by
    rw [rowSamples_nil, Option.some.injEq] at h
    simp [← h]
  | row :: rows, ms, hw, hL, h => by
    rw [rowSamples_cons, Option.bind_eq_some] at h
    obtain ⟨⟨ms₁, es₁⟩, h₁, hrest⟩ := h
    obtain ⟨ms₂, h₂, rfl⟩ := Option.map_eq_some'.mp hrest
    have hL' := List.nodup_cons.mp hL
    obtain ⟨hlab, hnames⟩ := procRows_series hC hd (hw row (by simp)) h₁
    obtain ⟨ih, hmem⟩ := rowSamples_series env q C hC hd rows ms₂
      (fun r hr => hw r (by simp [hr])) hL'.2 h₂
    refine ⟨?_, fun m hm => ?_⟩
    · rw [List.map_append, List.nodup_append]
      refine ⟨.of_map Prod.fst (by simpa [List.map_map, seriesKey] using hnames), ih, ?_⟩
      intro k hk hk'
      obtain ⟨m, hm, rfl⟩ := List.mem_map.mp hk
      obtain ⟨m', hm', hkey⟩ := List.mem_map.mp hk'
      have hsame : m'.labelValues = m.labelValues := congrArg Prod.snd hkey
      exact hL'.1 (hlab m hm ▸ hsame ▸ hmem m' hm')
    · rcases List.mem_append.mp hm with hm | hm
      · rw [hlab m hm]; exact List.mem_cons_self _ _
      · exact List.mem_cons_of_mem _ (hmem m hm)

/-- No duplicate series.  Let the scrape collect the column list `C` and the rows `rows`, with
`C` free of repeats, descriptors of distinct names for distinct columns, every row as wide as
`C`, and the label vectors of the rows pairwise distinct.  Then the samples `getMetric` returns
are pairwise distinct in metric name and label values. -/
theorem getMetric_nodup_seriesKey (env : Env) (db : DB) (q : QueryInstance) (C : List String)
    (rows : List (List DbValue)) (hc : collect db 0 q.queries ⟨[], []⟩ = ⟨C, rows⟩)
    (hC : C.Nodup) (hd : DistinctNames q C) (hw : ∀ r ∈ rows, r.length = C.length)
    (hL : (rows.map (rowLabels env q C)).Nodup) (ms : List ConstMetric)
    (h : getMetric env db q = some ms) : (ms.map seriesKey).Nodup := by
  rw [getMetric, hc, procBatch_eq_rowSamples] at h
  exact (rowSamples_series env q C hC hd rows ms hw hL h).1

/-- Of the scenario's columns only `numbackends` has a descriptor. -/
lemma distinctNames_pgDatabase : DistinctNames pgDatabase ["datname", "numbackends"] := by
  intro a ha b hb hab ca cb hca hcb
  simp only [QueryInstance.getColumn, pgDatabase] at hca hcb
  split at hca <;> split at hcb
  · exact absurd (‹a = _›.trans ‹b = _›.symm) hab
  all_goals simp at hca hcb

/-- Of the columns of `pg_stat_activity`, `usename` and `count` have descriptors, of distinct
names. -/
lemma distinctNames_pgStatActivity :
    DistinctNames pgStatActivity ["datname", "usename", "count"] := by
  intro a ha b hb hab ca cb hca hcb
  simp only [List.mem_cons, List.mem_singleton, List.not_mem_nil, or_false] at ha hb
  rcases ha with rfl | rfl | rfl <;> rcases hb with rfl | rfl | rfl <;>
    simp [QueryInstance.getColumn, pgStatActivity] at hab hca hcb <;> subst hca hcb <;> decide

/-- The `pg_stat_activity` scrape collects three rows of distinct label vectors, two of them
with one database name and one with a user name to repair, and gives distinct series. -/
theorem getMetric_nodup_seriesKey_pgStatActivity :
    let C := ["datname", "usename", "count"]
    let rows := [[DbValue.string (ascii "postgres"), .string (ascii "omm"), .int64 2],
      [.string (ascii "postgres"), .string (ascii "bob"), .int64 1],
      [.string (ascii "app"), .bytes [0x61, 0xFF], .int64 3]]
    collect pgStatActivityDB 0 pgStatActivity.queries ⟨[], []⟩ = ⟨C, rows⟩ ∧ C.Nodup ∧
      DistinctNames pgStatActivity C ∧ (∀ r ∈ rows, r.length = C.length) ∧
      (rows.map (rowLabels Env.plain pgStatActivity C)).Nodup ∧
      ∃ ms, getMetric Env.plain pgStatActivityDB pgStatActivity = some ms ∧
        (ms.map seriesKey).Nodup := by
  intro C rows
  have h0 : columnIndex C "datname" = 0 := by decide
  have h1 : columnIndex C "usename" = 1 := by decide
  have hL : (rows.map (rowLabels Env.plain pgStatActivity C)).Nodup := by
    simp [rows, rowLabels, rowDbName, h0, h1, decode, pgStatActivity, QueryInstance.getColumn,
      dbToString, validString_ascii "omm" (by decide), validString_ascii "bob" (by decide)]
    decide
  exact ⟨rfl, by decide, distinctNames_pgStatActivity, by decide, hL, _, rfl,
    getMetric_nodup_seriesKey Env.plain pgStatActivityDB pgStatActivity C rows rfl (by decide)
      distinctNames_pgStatActivity (by decide) hL _ rfl⟩

/-- A `NULL` and an empty text are distinct values of the label column, but both are written
as the empty label value, and the scrape gives the series
`pg_database_numbackends{datname=""}` twice. -/
theorem getMetric_null_empty_duplicate :
    let db : DB := ⟨fun _ _ => .result ⟨["datname", "numbackends"],
      [[.null, .int64 1], [.string [], .int64 2]], by decide, none⟩⟩
    collect db 0 pgDatabase.queries ⟨[], []⟩ =
        ⟨["datname", "numbackends"], [[.null, .int64 1], [.string [], .int64 2]]⟩ ∧
      ["datname", "numbackends"].Nodup ∧ DistinctNames pgDatabase ["datname", "numbackends"] ∧
      DbValue.null ≠ .string [] ∧
      ∃ ms, getMetric Env.plain db pgDatabase = some ms ∧ ¬ (ms.map seriesKey).Nodup := by
  intro db
  refine ⟨rfl, by decide, distinctNames_pgDatabase, DbValue.noConfusion, _, rfl, ?_⟩
  have hidx : columnIndex ["datname", "numbackends"] "datname" = 0 := by decide
  simp [db, collect, hidx, decode, dbToString, newMetric, pgDatabase, QueryInstance.getColumn,
    mustNewConstMetric, newConstMetric, validateLabelValues, populateMetric, Env.plain,
    dbToFloat64, Except.mapError, seriesKey, recoverErr]

end OpenGaussExporter
