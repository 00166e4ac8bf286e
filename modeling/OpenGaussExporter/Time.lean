import OpenGaussExporter.Fmt

/-!
# Instants and their RFC 3339 rendering

For the exporter a `time.Time` from the database driver is three numbers: `Unix()`, the whole
seconds since 1970-01-01 UTC rounded down, so that instants before the epoch have negative
seconds; `Nanosecond()`, the nanoseconds within that second, always below `10^9`; and the
offset of the instant's location, which only the RFC 3339 rendering reads.  `Time` carries the
bound on the nanoseconds as a field, so every instant the model builds is one Go can hold.

`DbToString(t, true)` renders an instant with `t.Format(time.RFC3339Nano)`, which Go writes
with `appendFormatRFC3339`: the local date and clock, the trimmed fraction of a second, and
`Z` or a numeric zone.  The date is the proleptic Gregorian one; `civilFromDays` computes it
by the era-based day count Go's `absDate` agrees with.
-/

namespace OpenGaussExporter

/-- A `time.Time`, as far as the exporter reads it. -/
structure Time where
  /-- `t.Unix()`: whole seconds since 1970-01-01 UTC, rounded down. -/
  unix : Int
  /-- `t.Nanosecond()`: the nanoseconds within that second. -/
  nanosecond : Nat
  nanosecond_lt : nanosecond < 1000000000
  /-- The offset east of UTC, in seconds, of `t`'s location at `t`. -/
  offset : Int

/-- The proleptic Gregorian date `(year, month, day)` of the day `z` days after 1970-01-01. -/
def civilFromDays (z : Int) : Int × Int × Int :=
  let z := z + 719468
  let era := z / 146097
  let doe := z - era * 146097
  let yoe := (doe - doe / 1460 + doe / 36524 - doe / 146096) / 365
  let doy := doe - (365 * yoe + yoe / 4 - yoe / 100)
  let mp := (5 * doy + 2) / 153
  let day := doy - (153 * mp + 2) / 5 + 1
  let month := if mp < 10 then mp + 3 else mp - 9
  (yoe + era * 400 + (if month ≤ 2 then 1 else 0), month, day)

/-- `time`'s `appendInt(b, x, width)`: a `-` for a negative `x`, then the digits of `|x|`
padded with zeros to `width`. -/
def appendInt (x : Int) (width : Nat) : GoString :=
  (if x < 0 then [0x2D] else []) ++ padZeros width (formatUint x.natAbs)

/-- `appendNano` under the `.999999999` of `RFC3339Nano`: nothing for a whole second, else a
dot and nine digits with the trailing zeros trimmed (and the dot, were it left last). -/
def appendNano (nanosec : Nat) : GoString :=
  if nanosec = 0 then []
  else
    let b := ((0x2E :: padZeros 9 (formatUint nanosec)).reverse.dropWhile (· == 0x30)).reverse
    if b.getLast? = some 0x2E then b.dropLast else b

/-- The zone of `appendFormatRFC3339`: `Z` at offset zero, else a sign and `hh:mm` of the
offset in whole minutes, truncated toward zero as Go's integer division does. -/
def appendZone (offset : Int) : GoString :=
  if offset = 0 then [0x5A]
  else
    let zone := offset.tdiv 60
    (if zone < 0 then 0x2D else 0x2B) ::
      appendInt (zone.natAbs / 60 : Nat) 2 ++ 0x3A :: appendInt (zone.natAbs % 60 : Nat) 2

/-- `t.Format(time.RFC3339Nano)`, as `appendFormatRFC3339(b, true)` writes it. -/
def Time.formatRFC3339Nano (t : Time) : GoString :=
  let abs := t.unix + t.offset
  let (year, month, day) := civilFromDays (abs / 86400)
  let sec := abs % 86400
  appendInt year 4 ++ 0x2D :: appendInt month 2 ++ 0x2D :: appendInt day 2 ++ 0x54 ::
    appendInt (sec / 3600) 2 ++ 0x3A :: appendInt (sec % 3600 / 60) 2 ++ 0x3A ::
      appendInt (sec % 60) 2 ++ appendNano t.nanosecond ++ appendZone t.offset

end OpenGaussExporter
