import OpenGaussExporter.Config
import OpenGaussExporter.Scrape

/-!
# The collectors

Each collector of `collector/opengauss` serves one query definition.  Its `Update` looks the
definition up in `MetricMap` under the collector's name, runs `QueryInstance.Check` on it, scrapes
it with `getMetric` on the collector's connection, and sends every sample on the channel.
Thirteen collectors do only that, and differ in their name and in the text of the error when
`MetricMap` has no such query: `QueryCollector.updateQuery` is their `Update`, and each one's is
that definition applied to its own name and text.  `pgCollector` does more: after the samples it
sets its gauge `up` to 1 and sends it, and then sends a new gauge `version` labelled with the
version `DBMap` records for the server, or fails when `DBMap` records none.

A collector takes its connection from `DBMap` when it is built, under the name of the server,
`fmt.Sprintf("%s:%d", address, port)`; a server without an entry gives a nil `*sql.DB`, on which
the first query panics.  The collector of `pg_database` alone opens a connection of its own.  The
channel is the list of what `Update` sends, in order; the registration of the collectors is left
out.

`serverKey_inj` shows that distinct servers have distinct names, so that no two servers share
an entry of `DBMap`, and `QueryCollector.updateQuery_error` that an `Update` which returns an
error has sent nothing.
-/

namespace OpenGaussExporter

/-! ### Servers -/

/-- `config.GaussDBConnectConfig`, with the fields that name the server. -/
structure GaussDBConnectConfig where
  address : GoString
  port : Int

/-- `fmt.Sprintf("%s:%d", address, port)`: the name of a server in `DBMap`, and its `server`
label. -/
def serverKey (address : GoString) (port : Int) : GoString :=
  address ++ ascii ":" ++ formatInt port

/-- `config.GBInfo`, what `DBMap` records for a server, with the fields the collectors read. -/
structure GBInfo where
  version : GoString
  connection : DB

/-- `GetDBConnection`: the connection `DBMap` records for the server, or a nil `*sql.DB`. -/
def getDBConnection (dbMap : GoString → Option GBInfo) (address : GoString) (port : Int) :
    Option DB :=
  (dbMap (serverKey address port)).map GBInfo.connection

/-- `GetDBVersion`: the version `DBMap` records for the server, or `""`. -/
def getDBVersion (dbMap : GoString → Option GBInfo) (address : GoString) (port : Int) :
    GoString :=
  ((dbMap (serverKey address port)).map GBInfo.version).getD []

/-- `formatInt` writes digits and a sign, never a colon. -/
lemma colon_not_mem_formatInt (x : Int) : (58 : UInt8) ∉ formatInt x := by
  have hdig : ∀ n, (58 : UInt8) ∉ formatUint n := fun n hm =>
    absurd (List.all_eq_true.mp (all_isDigit_formatUint n) _ hm) (by decide)
  unfold formatInt
  split
  · rw [List.mem_cons, not_or]
    exact ⟨by decide, hdig _⟩
  · exact hdig _

/-- A list cut at an element `c` that neither tail holds determines both sides. -/
lemma append_cons_inj {α : Type} {c : α} :
    ∀ {a a' s s' : List α}, c ∉ s → c ∉ s' → a ++ c :: s = a' ++ c :: s' → a = a' ∧ s = s'
  | [], [], _, _, _, _, h => ⟨rfl, (List.cons.inj h).2⟩
  | [], _ :: _, _, _, hs, _, h => by
    obtain ⟨rfl, rfl⟩ := List.cons.inj h
    exact absurd (List.mem_append_right _ (List.mem_cons_self _ _)) hs
  | _ :: _, [], _, _, _, hs', h => by
    obtain ⟨rfl, rfl⟩ := List.cons.inj h
    exact absurd (List.mem_append_right _ (List.mem_cons_self _ _)) hs'
  | _ :: _, _ :: _, _, _, hs, hs', h => by
    obtain ⟨rfl, h'⟩ := List.cons.inj h
    obtain ⟨rfl, rfl⟩ := append_cons_inj hs hs' h'
    exact ⟨rfl, rfl⟩

/-- Distinct servers have distinct names: the address is what stands before the last colon of
the name, and the port is what the digits after it denote. -/
theorem serverKey_inj {address address' : GoString} {port port' : Int}
    (h : serverKey address port = serverKey address' port') : address = address' ∧ port = port' := by
  simp only [serverKey, show ascii ":" = [58] from rfl, List.append_assoc,
    List.singleton_append] at h
  obtain ⟨ha, hp⟩ := append_cons_inj (colon_not_mem_formatInt port)
    (colon_not_mem_formatInt port') h
  refine ⟨ha, Option.some.inj ?_⟩
  rw [← decimalValue_formatInt port, hp, decimalValue_formatInt]

/-- The name of `localhost:5432` is its own only. -/
theorem serverKey_inj_localhost :
    serverKey (ascii "localhost") 5432 = serverKey (ascii "localhost") 5432 ∧
      ascii "localhost" = ascii "localhost" ∧ (5432 : Int) = 5432 :=
  ⟨rfl, serverKey_inj rfl⟩

/-- `getMetric` on a collector's connection, which is nil when `DBMap` had none: on a nil
`*sql.DB` `QueryContext` panics, so the scrape panics at the first statement it does not skip,
and returns no sample when it skips them all. -/
def getMetricOn (env : Env) (db : Option DB) (q : QueryInstance) : Option (List ConstMetric) :=
  match db with
  | some db => getMetric env db q
  | none => if q.queries.all (·.status = "disable") then some [] else none

/-! ### What a collector sends -/

/-- A gauge of `prometheus.NewGauge`: the name `BuildFQName` makes of its namespace and name, its
help text, its constant labels, and its value, `0` when it is made. -/
structure Gauge where
  fqName : String
  help : String
  constLabels : List (String × GoString)
  value : Float

/-- `prometheus.NewGauge(prometheus.GaugeOpts{Namespace: ns, Name: name, Help: help,
ConstLabels: constLabels})`. -/
def newGauge (ns name help : String) (constLabels : List (String × GoString)) : Gauge :=
  ⟨ns ++ "_" ++ name, help, constLabels, 0⟩

/-- `Gauge.Set`. -/
def Gauge.set (g : Gauge) (v : Float) : Gauge := { g with value := v }

/-- What a collector sends on its channel. -/
inductive Sent where
  | metric (m : ConstMetric)
  | gauge (g : Gauge)

/-- The errors `Update` returns. -/
inductive UpdateError where
  /-- `fmt.Errorf` of a fixed text. -/
  | errorf (text : String)
  /-- The error of `QueryInstance.Check`, returned as it is. -/
  | check (err : String)

/-! ### The collectors of one query -/

/-- A collector of `collector/opengauss` other than `pg`: its connection. -/
structure QueryCollector where
  db : Option DB

/-- The constructors of the collectors but `NewPGDataBaseCollector`: the connection
`GetDBConnection` gives for `MonitDB`. -/
def newQueryCollector (dbMap : GoString → Option GBInfo) (monitDB : GaussDBConnectConfig) :
    QueryCollector :=
  ⟨getDBConnection dbMap monitDB.address monitDB.port⟩

/-- `NewPGDataBaseCollector`, which opens a connection of its own with `sql.Open`, to an address
written in the source. -/
def newPGDataBaseCollector (own : DB) : QueryCollector := ⟨some own⟩

/-- The `Update` the thirteen collectors share: the samples of the query named `name` in
`MetricMap`, sent in order, or the error `notFound` when there is none, or the error of `Check`;
`none` where the scrape panics. -/
def QueryCollector.updateQuery (name notFound : String) (p : QueryCollector) (env : Env)
    (check : QueryConfig → Option String) (metricMap : GoMap QueryConfig) :
    Option (List Sent × Option UpdateError) :=
  match metricMap.get name with
  | none => some ([], some (.errorf notFound))
  | some queryInstance =>
    match check queryInstance with
    | some err => some ([], some (.check err))
    | none => (getMetricOn env p.db queryInstance.toQueryInstance).map fun metrics =>
      (metrics.map .metric, none)

/-- `pgConnectionsCollector.Update`. -/
def PgConnectionsCollector.update :=
  QueryCollector.updateQuery "pg_connections" "can not find pg_connections from MetricMap"

/-- `pgStatBgwriterCollector.Update`. -/
def PgStatBgwriterCollector.update :=
  QueryCollector.updateQuery "pg_stat_bgwriter" "can not find pg_stat_bgwriter from MetricMap"

/-- `gaussGlobalSessionStatCollector.Update`. -/
def GaussGlobalSessionStatCollector.update :=
  QueryCollector.updateQuery "gauss_global_session_stat"
    "can not find gauss_global_session_stat from MetricMap"

/-- `pgDataBaseCollector.Update`, whose error text doubles its first letter. -/
def PgDataBaseCollector.update :=
  QueryCollector.updateQuery "pg_database" "ccan not find pg_database from MetricMap"

/-- `gaussSlowSqlAiCollector.Update`. -/
def GaussSlowSqlAiCollector.update :=
  QueryCollector.updateQuery "gauss_slow_sql_ai" "can not find gauss_slow_sql_ai from MetricMap"

/-- `gaussTopEventCollector.Update`. -/
def GaussTopEventCollector.update :=
  QueryCollector.updateQuery "gauss_top_event" "can not find gauss_top_event from MetricMap"

/-- `gsSessionMemoryDetailCollector.Update`. -/
def GsSessionMemoryDetailCollector.update :=
  QueryCollector.updateQuery "gs_session_memory_detail"
    "can not find gs_session_memory_detail from MetricMap"

/-- `pgLockCollector.Update`. -/
def PgLockCollector.update :=
  QueryCollector.updateQuery "pg_lock" "can not find pg_lock from MetricMap"

/-- `gaussWorkloadSqlCountCollector.Update`. -/
def GaussWorkloadSqlCountCollector.update :=
  QueryCollector.updateQuery "gauss_workload_sql_count"
    "can not find gauss_workload_sql_count from MetricMap"

/-- `pgxactCollector.Update`. -/
def PgxactCollector.update :=
  QueryCollector.updateQuery "pg_xact" "can not find pg_xact from MetricMap"

/-- `pgActiveSlowsqlCollector.Update`. -/
def PgActiveSlowsqlCollector.update :=
  QueryCollector.updateQuery "pg_active_slowsql" "can not find pg_active_slowsql from MetricMap"

/-- `pgDownStreamCollector.Update`, whose error text names `pgDownStream` rather than the key it
looks up. -/
def PgDownStreamCollector.update :=
  QueryCollector.updateQuery "pg_downstream" "can not find pgDownStream from MetricMap"

/-- `pgStatReplicationCollector.Update`. -/
def PgStatReplicationCollector.update :=
  QueryCollector.updateQuery "pg_stat_replication"
    "can not find pg_stat_replication from MetricMap"

/-- An `Update` of the thirteen that returns an error has sent nothing. -/
lemma QueryCollector.updateQuery_error {name notFound : String} {p : QueryCollector} {env : Env}
    {check : QueryConfig → Option String} {metricMap : GoMap QueryConfig} {sent : List Sent}
    {e : UpdateError} (h : p.updateQuery name notFound env check metricMap = some (sent, some e)) :
    sent = [] := by
  unfold QueryCollector.updateQuery at h
  split at h
  · cases h; rfl
  · split at h
    · cases h; rfl
    · obtain ⟨_, -, h⟩ := Option.map_eq_some'.mp h
      cases h

/-! ### `pg` -/

/-- `pgCollector`, with the fields `Update` reads and writes: its two gauges and its
connection. -/
structure PgCollector where
  up : Gauge
  version : Option Gauge
  db : Option DB

/-- `NewpgCollector`: the gauge `pg_up` labelled with the server, and the connection
`GetDBConnection` gives for `MonitDB`. -/
def newpgCollector (dbMap : GoString → Option GBInfo) (monitDB : GaussDBConnectConfig) :
    PgCollector where
  up := newGauge "pg" "up" "always be 1 if your could retrieve metrics"
    [("server", serverKey monitDB.address monitDB.port)]
  version := none
  db := getDBConnection dbMap monitDB.address monitDB.port

/-- `pgCollector.Update`: the collector as it leaves it, what it sends, and its error; `none`
where the scrape panics.  After the samples it sends `up`, set to 1, and then a new `version`
gauge, or the error when `DBMap` has no version for the server. -/
def PgCollector.update (p : PgCollector) (env : Env) (check : QueryConfig → Option String)
    (metricMap : GoMap QueryConfig) (dbMap : GoString → Option GBInfo)
    (monitDB : GaussDBConnectConfig) : Option (PgCollector × List Sent × Option UpdateError) :=
  match metricMap.get "pg" with
  | none => some (p, [], some (.errorf "can not find pg from MetricMap"))
  | some queryInstance =>
    match check queryInstance with
    | some err => some (p, [], some (.check err))
    | none => (getMetricOn env p.db queryInstance.toQueryInstance).map fun metrics =>
      let p := { p with up := p.up.set 1 }
      let sent := metrics.map .metric ++ [.gauge p.up]
      let dbVersion := getDBVersion dbMap monitDB.address monitDB.port
      if dbVersion = [] then (p, sent, some (.errorf "can not get version information"))
      else
        let version := newGauge "pg" "version" "get version information"
          [("server", serverKey monitDB.address monitDB.port), ("short_version", dbVersion)]
        ({ p with version := some version }, sent ++ [.gauge version], none)

end OpenGaussExporter
