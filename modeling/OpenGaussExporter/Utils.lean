import OpenGaussExporter.Time
import OpenGaussExporter.Prometheus

/-!
# The coercions of `collector/utils`

The database driver stores each column of a row into an `interface{}`, and the exporter
reads such a value in two ways: `DbToFloat64` makes a sample value of it, and `DbToString` a
label value.  Both switch on the dynamic type the driver chose.  A `NULL` is a valid absence:
`NaN` for a value, the empty string for a label.  Text and bytes become a value only when
`strconv.ParseFloat` accepts them.  An instant is a value in whole seconds, and as a label
either its RFC 3339 rendering or the compact form `%v%03d` of its seconds and milliseconds.

A few library functions are too large to restate and come in as the fields of `Env`: float
parsing and printing, Unicode case folding, and the decoders of encodings other than UTF-8.
`Env` also holds `config.MappedMETRIC`, a constant whose declaration is not among the sources.

`decimalValue_dbToString_time` reads the compact form back: `1000 · s + ms` for an instant at or
after the epoch, but `1000 · s - ms` before it, since the sign of the seconds covers the
milliseconds too.  `decodeByte_UTF8` says that `DecodeByte(b, "UTF8")` is the UTF-8 decoder
of `Utf8`, and never fails; `decodeByte_UTF8_eq_self_iff` that it changes exactly the input that
is not well-formed.  `decimalValue_dbToString_int64` reads the label text of an integer back.
-/

namespace OpenGaussExporter

/-- The bytes of an ASCII string literal. -/
def ascii (s : String) : GoString := s.toList.map fun c => c.toNat.toUInt8

/-- The bytes of an ASCII string are well-formed UTF-8. -/
lemma validString_ascii (s : String) (h : ∀ c ∈ s.toList, c.toNat < 0x80) :
    validString (ascii s) = true := by
  obtain ⟨l⟩ := s
  change ∀ c ∈ l, _ at h
  show validString (l.map _) = true
  induction l with
  | nil => exact validString_nil
  | cons c l ih =>
    have hc := h c (List.mem_cons_self _ _)
    rw [List.map_cons, validString_cons_of_lt _ ?_]
    · exact ih fun d hd => h d (List.mem_cons_of_mem _ hd)
    · simp [runeSelf, UInt8.lt_def, Nat.toUInt8, UInt8.ofNat, Fin.ofNat]
      omega

/-- A value `rows.Scan` stores into an `interface{}`: what the driver returns for a column. -/
inductive DbValue where
  | int64 (v : Int)
  | float64 (v : Float)
  | time (t : Time)
  | bytes (b : GoString)
  | string (s : GoString)
  | bool (b : Bool)
  /-- `nil`, the driver's `NULL`. -/
  | null
  /-- A value of any other dynamic type, which neither coercion reads. -/
  | other

/-- What the row pipeline reads that the model takes as given. -/
structure Env where
  /-- `strconv.ParseFloat(s, 64)`: the value, or `none` where it returns an error. -/
  parseFloat : GoString → Option Float
  /-- `%v` of a `float64`, which is `strconv.FormatFloat(f, 'g', -1, 64)`. -/
  formatFloat : Float → GoString
  /-- `strings.EqualFold`, under Unicode simple case folding. -/
  equalFold : String → String → Bool
  /-- `ianaindex.MIB.Encoding` on a name that is no alias of UTF-8: the decoder of the
  encoding it names, read to the end, or `none` for a name it does not know. -/
  encoding : String → Option (GoString → Except String GoString)
  /-- `config.MappedMETRIC`, the usage of a mapped-metric column. -/
  mappedMETRIC : String

/-- An environment for running the model on fixed inputs: no text parses as a float, and no
encoding but UTF-8 is known. -/
def Env.plain : Env where
  parseFloat _ := none
  formatFloat _ := []
  equalFold a b := a == b
  encoding _ := none
  mappedMETRIC := "MAPPEDMETRIC"

/-- `math.NaN()`. -/
def nan : Float := 0.0 / 0.0

/-- `DbToFloat64`: a sample value, and whether the value could be read as one. -/
def dbToFloat64 (env : Env) : DbValue → Float × Bool
  | .int64 v => (Float.ofInt v, true)
  | .float64 v => (v, true)
  | .time v => (Float.ofInt v.unix, true)
  | .bytes v | .string v =>
    match env.parseFloat v with
    | some result => (result, true)
    | none => (nan, false)
  | .bool v => (if v then 1.0 else 0.0, true)
  | .null => (nan, true)
  | .other => (nan, false)

/-- `DbToString`: a label value, and whether the value could be read as one. -/
def dbToString (env : Env) (t : DbValue) (time2string : Bool) : GoString × Bool :=
  match t with
  | .int64 v => (formatInt v, true)
  | .float64 v => (env.formatFloat v, true)
  | .time v =>
    if time2string then (v.formatRFC3339Nano, true)
    else (formatInt v.unix ++ padZeros 3 (formatUint (v.nanosecond / 1000000)), true)
  | .null => ([], true)
  | .bytes v => (v, true)
  | .string v => (v, true)
  | .bool v => (if v then ascii "true" else ascii "false", true)
  | .other => ([], false)

/-- The `error` values of the row pipeline. -/
inductive GoError where
  /-- `errors.New(fmt.Sprintln("Unexpected error parsing column: ", metricName, columnName,
  colValue))`; the model keeps the operands of the message. -/
  | parsing (metricName columnName : String) (colValue : DbValue)
  /-- An error `NewConstMetric` returned, recovered from `MustNewConstMetric`'s panic. -/
  | metric (e : MetricError)
  /-- `fmt.Errorf("unexpected error: %#v", e)`, for a panic value that is no error. -/
  | unexpected (v : String)

/-- `RecoverErr(&err)`, deferred: given what `recover()` returns and the error so far, the
error the function returns. -/
def recoverErr (e : Option PanicValue) (err : Option GoError) : Option GoError :=
  match e with
  | none => err
  | some (.error v) => some (.metric v)
  | some (.other v) => some (.unexpected v)

/-! ## Character sets -/

/-- `strings.ToUpper` on the ASCII letters, the only ones whose upper case can meet a key of
`CharSetMap`. -/
def toUpper (s : String) : String := ⟨s.data.map Char.toUpper⟩

/-- `strings.ToLower` on the ASCII letters, the only ones whose lower case can meet an alias
of UTF-8. -/
def toLower (s : String) : String := ⟨s.data.map Char.toLower⟩

/-- `unicode.IsSpace`. -/
def isSpace (c : Char) : Bool :=
  c ∈ ['\t', '\n', '\x0B', '\x0C', '\r', ' ', '\x85', '\xA0'] || c.toNat = 0x1680 ||
    (0x2000 ≤ c.toNat && c.toNat ≤ 0x200A) || c.toNat ∈ [0x2028, 0x2029, 0x202F, 0x205F, 0x3000]

/-- `strings.TrimSpace`. -/
def trimSpace (s : String) : String :=
  ⟨((s.data.dropWhile isSpace).reverse.dropWhile isSpace).reverse⟩

/-- The charset names of `collector/utils`. -/
def UTF8 : String := "UTF8"
/-- `UTF8Underline`. -/
def UTF8Underline : String := "UTF-8"
/-- `GBK`. -/
def GBK : String := "GBK"
/-- `GB18030`. -/
def GB18030 : String := "GB18030"

/-- `CharSetMap`. -/
def charSetMap : List (String × String) :=
  [(UTF8, UTF8Underline), (GBK, GBK), (GB18030, GBK)]

/-- `GetMapCharset`: the entry of `CharSetMap` for the upper-cased name, or the name itself. -/
def getMapCharset (s : String) : String :=
  (charSetMap.lookup (toUpper s)).getD s

/-- The aliases `ianaindex` lists for UTF-8, lower-cased as its lookup compares them. -/
def utf8Aliases : List String := ["utf-8", "csutf8"]

/-- `ianaindex.MIB.Encoding(name)`, with the decoder of the encoding it finds read to the end:
`unicode.UTF8`'s for an alias of UTF-8, and whatever `Env` says for other names. -/
def mibEncoding (env : Env) (name : String) : Option (GoString → Except String GoString) :=
  if toLower (trimSpace name) ∈ utf8Aliases then some fun b => .ok (utf8DecoderTransform b)
  else env.encoding name

/-- `DecodeByte(b, charset)`: the bytes decoded into UTF-8, or the input beside the error. -/
def decodeByte (env : Env) (b : GoString) (charset : String) : GoString × Option String :=
  match mibEncoding env (getMapCharset charset) with
  | none => (b, some "ianaindex: invalid encoding name")
  | some decoder =>
    match decoder b with
    | .error err => (b, some err)
    | .ok tmp => (tmp, none)

/-! ## Laws of the coercions -/

/-- `DecodeByte(b, "UTF8")` runs the UTF-8 decoder and never fails: `GetMapCharset` maps
`"UTF8"` to `"UTF-8"`, an alias `ianaindex` resolves to `unicode.UTF8`. -/
theorem decodeByte_UTF8 (env : Env) (b : GoString) :
    decodeByte env b UTF8 = (utf8DecoderTransform b, none) := by
  have hmap : getMapCharset UTF8 = UTF8Underline := by decide
  have halias : toLower (trimSpace UTF8Underline) ∈ utf8Aliases := by decide
  simp [decodeByte, hmap, mibEncoding, halias]

/-- `DecodeByte(b, "UTF8")` hands `b` back as it is, with no error, exactly when `b` is
well-formed UTF-8; any other input comes back repaired. -/
theorem decodeByte_UTF8_eq_self_iff (env : Env) (b : GoString) :
    decodeByte env b UTF8 = (b, none) ↔ validString b = true := by
  rw [decodeByte_UTF8, Prod.mk.injEq]
  constructor
  · rintro ⟨h, -⟩
    rw [← h]
    exact validString_utf8DecoderTransform b
  · exact fun h => ⟨utf8DecoderTransform_of_validString h, rfl⟩

/-- The label text of an `int64` is its decimal numeral, which reads back as the value: distinct
integers never share a label value. -/
theorem decimalValue_dbToString_int64 (env : Env) (v : Int) (time2string : Bool) :
    decimalValue (dbToString env (.int64 v) time2string).1 = some v :=
  decimalValue_formatInt v

/-- The compact form `DbToString` gives an instant with Unix seconds `s` and `ms` whole
milliseconds denotes `1000 · s + ms` when `s ≥ 0` and `1000 · s - ms` when `s < 0`. -/
theorem decimalValue_dbToString_time (env : Env) (t : Time) :
    decimalValue (dbToString env (.time t) false).1 =
      some (if 0 ≤ t.unix then 1000 * t.unix + (t.nanosecond / 1000000 : Nat)
        else 1000 * t.unix - (t.nanosecond / 1000000 : Nat)) :=
  decimalValue_formatInt_append_pad t.unix (by have := t.nanosecond_lt; omega)

/-- Half a second before the epoch is written `-1500`, which is not the instant's `-500`
milliseconds. -/
theorem dbToString_time_before_epoch :
    decimalValue (dbToString Env.plain (.time ⟨-1, 500000000, by decide, 0⟩) false).1 ≠
      some (1000 * (-1) + (500000000 / 1000000 : Nat)) := by
  rw [show (dbToString Env.plain (.time ⟨-1, 500000000, by decide, 0⟩) false).1 =
      formatInt (-1) ++ padZeros 3 (formatUint (500000000 / 1000000)) from rfl,
    decimalValue_formatInt_append_pad (-1) (by decide)]
  decide

end OpenGaussExporter
