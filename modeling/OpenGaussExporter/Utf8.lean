import Mathlib.Data.List.Basic

/-!
# UTF-8 as the exporter's libraries read it

A Go `string` is a sequence of bytes that need not be well-formed UTF-8, and label values
reach the exporter as such sequences; the model writes them as `GoString := List UInt8`.
Two library routines read them byte by byte: `utf8.ValidString`, with which `decode` decides
that a label needs repair, and the `Transform` of `x/text`'s UTF-8 decoder, which
`DecodeByte` runs to repair it.

Both look a leading byte up in the same `first` table, which gives the length of the sequence
it starts and the accept range of the byte after it; every later continuation byte lies in
`0x80..0xBF`.  `contLen` counts how many continuation bytes are there.  The validator refuses
as soon as a sequence is short; the decoder copies each well-formed sequence and replaces the
maximal ill-formed subpart of every other one by U+FFFD, the leading byte and the
continuation bytes `contLen` accepted, so that decoding resumes at the first byte that
breaks the sequence.

`validString_utf8DecoderTransform` is what the exporter relies on: whatever the decoder reads,
it writes well-formed UTF-8.  `utf8DecoderTransform_of_validString` says that it leaves
well-formed text as it is.  What it writes for any text is said in Unicode's terms, through
`validString` alone: it copies well-formed text (`utf8DecoderTransform_append_of_validString`)
and writes one U+FFFD for each maximal subpart of an ill-formed subsequence (D93b,
`MaximalSubpart`; `utf8DecoderTransform_maximalSubpart`), and every text starts with one or the
other (`validString_or_maximalSubpart`).
-/

namespace OpenGaussExporter

/-- A Go `string` or `[]byte`: its bytes, in order. -/
abbrev GoString := List UInt8

/-- `utf8.RuneSelf`: the bytes below it are runes of their own. -/
def runeSelf : UInt8 := 0x80

/-- What Go's `first` table records for a byte that starts a sequence. -/
inductive Lead where
  /-- `as`: an ASCII byte. -/
  | ascii
  /-- `xx`: a byte that starts no sequence. -/
  | invalid
  /-- A sequence of `size` bytes whose second byte lies in `lo..hi` (`acceptRanges`). -/
  | seq (size : Nat) (lo hi : UInt8)
  deriving DecidableEq, Repr

/-- The `first` table of `unicode/utf8`, which `x/text/internal/utf8internal` copies. -/
def first (c : UInt8) : Lead :=
  if c < 0x80 then .ascii
  else if c < 0xC2 then .invalid
  else if c < 0xE0 then .seq 2 0x80 0xBF
  else if c = 0xE0 then .seq 3 0xA0 0xBF
  else if c < 0xED then .seq 3 0x80 0xBF
  else if c = 0xED then .seq 3 0x80 0x9F
  else if c < 0xF0 then .seq 3 0x80 0xBF
  else if c = 0xF0 then .seq 4 0x90 0xBF
  else if c < 0xF4 then .seq 4 0x80 0xBF
  else if c = 0xF4 then .seq 4 0x80 0x8F
  else .invalid

/-- How many of the at most `n` continuation bytes owed by a leading byte with accept range
`lo..hi` are there: the first must lie in `lo..hi`, the others in `locb..hicb = 0x80..0xBF`. -/
def contLen (lo hi : UInt8) : Nat → GoString → Nat
  | 0, _ => 0
  | _ + 1, [] => 0
  | n + 1, b :: s => if lo ≤ b ∧ b ≤ hi then contLen 0x80 0xBF n s + 1 else 0

/-- `utf8.ValidString`: every sequence starts with an ASCII byte or with a leading byte
followed by all the continuation bytes it owes.  (Go's fast path skips eight ASCII bytes at a
time; it decides nothing the byte loop would not.) -/
def validString : GoString → Bool
  | [] => true
  | c :: s =>
    if c < runeSelf then validString s
    else match first c with
      | .seq size lo hi => contLen lo hi (size - 1) s == size - 1 && validString (s.drop (size - 1))
      | _ => false
termination_by s => s.length
decreasing_by
  all_goals
    simp only [List.length_drop, List.length_cons]
    first
    | exact Nat.lt_succ_self _
    | exact Nat.lt_succ_of_le (Nat.sub_le _ _)

/-- `"�"`, the replacement rune, in UTF-8. -/
def runeError : GoString := [0xEF, 0xBF, 0xBD]

/-- The `Transform` of `x/text/encoding/unicode`'s `utf8Decoder`, run over the whole input at
end of file, as `ioutil.ReadAll` over a `transform.Reader` drives it. -/
def utf8DecoderTransform : GoString → GoString
  | [] => []
  | c :: s =>
    if c < runeSelf then c :: utf8DecoderTransform s
    else match first c with
      | .seq size lo hi =>
        if contLen lo hi (size - 1) s = size - 1 then
          c :: s.take (size - 1) ++ utf8DecoderTransform (s.drop (size - 1))
        else runeError ++ utf8DecoderTransform (s.drop (contLen lo hi (size - 1) s))
      | _ => runeError ++ utf8DecoderTransform s
termination_by s => s.length
decreasing_by
  all_goals
    simp only [List.length_drop, List.length_cons]
    first
    | exact Nat.lt_succ_self _
    | exact Nat.lt_succ_of_le (Nat.sub_le _ _)

/-! ## Continuation bytes -/

/-- `contLen` counts no more bytes than it may, and no more than there are. -/
lemma contLen_le (lo hi : UInt8) (n : Nat) (s : GoString) :
    contLen lo hi n s ≤ n ∧ contLen lo hi n s ≤ s.length := by
  induction n generalizing lo hi s with
  | zero => simp [contLen]
  | succ n ih =>
    cases s with
    | nil => simp [contLen]
    | cons b s =>
      have := ih 0x80 0xBF s
      simp only [contLen]
      split
      · simp only [List.length_cons]; omega
      · simp

/-- A complete run of continuation bytes is read again from its own bytes, whatever follows. -/
lemma contLen_take_append {lo hi : UInt8} {n : Nat} {s : GoString} (t : GoString)
    (h : contLen lo hi n s = n) : contLen lo hi n (s.take n ++ t) = n := by
  induction n generalizing lo hi s with
  | zero => simp [contLen]
  | succ n ih =>
    cases s with
    | nil => simp [contLen] at h
    | cons b s =>
      simp only [contLen] at h
      split at h
      · next hb =>
        simp only [List.take_succ_cons, List.cons_append, contLen, if_pos hb, List.append_eq]
        rw [ih (by omega)]
      · omega

/-- A leading byte owes one to three continuation bytes, and its accept range is not empty. -/
lemma first_seq {c lo hi : UInt8} {size : Nat} (h : first c = .seq size lo hi) :
    2 ≤ size ∧ lo ≤ hi := by
  -- through the table one `if` at a time: `split at h` would simplify `h` at every step
  let P : Lead → Prop := fun l => ∀ size lo hi, l = .seq size lo hi → 2 ≤ size ∧ lo ≤ hi
  have hite : ∀ {p : Prop} [Decidable p] {a b : Lead}, P a → P b → P (if p then a else b) :=
    fun ha hb => by split <;> assumption
  have hfirst : P (first c) := by
    unfold first
    repeat' apply hite
    all_goals intro _ _ _ h; cases h <;> decide
  exact hfirst size lo hi h

/-- `contLen` reads at most `n` bytes: bounded by `n`, it only sees the first `n`. -/
lemma contLen_append_of_le {lo hi : UInt8} {n : Nat} {l : GoString} (t : GoString)
    (h : n ≤ l.length) : contLen lo hi n (l ++ t) = contLen lo hi n l := by
  induction n generalizing lo hi l with
  | zero => simp [contLen]
  | succ n ih =>
    cases l with
    | nil => simp at h
    | cons b l =>
      rw [List.cons_append, contLen, contLen, ih (by simp at h; omega)]

/-- Counting within the first `j` bytes is counting up to `j`. -/
lemma contLen_take {lo hi : UInt8} {j n : Nat} (l : GoString) (h : j ≤ n) :
    contLen lo hi j (l.take j) = min j (contLen lo hi n l) := by
  induction j generalizing lo hi n l with
  | zero => simp [contLen]
  | succ j ih =>
    obtain ⟨n, rfl⟩ : ∃ n', n = n' + 1 := ⟨n - 1, by omega⟩
    cases l with
    | nil => simp [contLen]
    | cons b l =>
      simp only [List.take_succ_cons, contLen]
      split
      · rw [ih (n := n) l (by omega)]; omega
      · simp

/-- A complete run of `k` continuation bytes, then `m` more counted from the range the next
position asks for. -/
lemma contLen_append {lo hi : UInt8} {k m : Nat} {u : GoString} (v : GoString)
    (hu : contLen lo hi k u = k) (hk : u.length = k) :
    contLen lo hi (k + m) (u ++ v) =
      k + contLen (if k = 0 then lo else 0x80) (if k = 0 then hi else 0xBF) m v := by
  induction k generalizing lo hi u with
  | zero => simp_all
  | succ k ih =>
    cases u with
    | nil => simp at hk
    | cons b u =>
      simp only [contLen] at hu
      split at hu
      · next hb =>
        simp only [List.length_cons, Nat.add_right_cancel_iff] at hk
        rw [show k + 1 + m = k + m + 1 by omega, List.cons_append, contLen, if_pos hb,
          ih (by omega) hk]
        simp only [Nat.add_one_ne_zero, if_false]
        split <;> omega
      · omega

/-- Continuation bytes `0x80` fill any run. -/
lemma contLen_replicate (n : Nat) : contLen 0x80 0xBF n (List.replicate n 0x80) = n := by
  induction n with
  | zero => rfl
  | succ n ih => simp [List.replicate_succ, contLen, ih]

/-! ## The validator -/

/-- The empty text is well formed. -/
@[simp] lemma validString_nil : validString [] = true := by
  simp [validString]

/-- An ASCII byte is valid on its own. -/
@[simp] lemma validString_cons_of_lt {c : UInt8} (s : GoString) (hc : c < runeSelf) :
    validString (c :: s) = validString s := by
  rw [validString, if_pos hc]

/-- A leading byte followed by all its continuation bytes is valid, whatever follows. -/
lemma validString_seq_append {c lo hi : UInt8} {size : Nat} {s : GoString} (t : GoString)
    (hc : ¬c < runeSelf) (hf : first c = .seq size lo hi)
    (hs : contLen lo hi (size - 1) s = size - 1) :
    validString (c :: s.take (size - 1) ++ t) = validString t := by
  have hlen : (s.take (size - 1)).length = size - 1 := by
    have := (contLen_le lo hi (size - 1) s).2
    simp only [List.length_take]
    omega
  rw [List.cons_append, validString, if_neg hc, hf]
  simp [contLen_take_append t hs, List.drop_left' hlen]

/-- The replacement rune is a well-formed three-byte sequence. -/
@[simp] lemma validString_runeError_append (t : GoString) :
    validString (runeError ++ t) = validString t := by
  simpa [runeError] using
    @validString_seq_append 0xEF 0x80 0xBF 3 [0xBF, 0xBD] t (by decide) (by decide) (by decide)

/-- A well-formed text that starts with a leading byte has all its continuation bytes. -/
lemma contLen_of_validString_cons {c lo hi : UInt8} {size : Nat} {l : GoString}
    (hc : ¬c < runeSelf) (hf : first c = .seq size lo hi) (h : validString (c :: l) = true) :
    contLen lo hi (size - 1) l = size - 1 := by
  rw [validString, if_neg hc, hf] at h
  simp only [Bool.and_eq_true, beq_iff_eq] at h
  exact h.1

/-! ## The decoder -/

/-- Whatever the UTF-8 decoder reads, it writes well-formed UTF-8. -/
theorem validString_utf8DecoderTransform (s : GoString) :
    validString (utf8DecoderTransform s) = true := by
  induction s using utf8DecoderTransform.induct with
  | case1 => simp [utf8DecoderTransform]
  | case2 c s hc ih => simp [utf8DecoderTransform, hc, ih]
  | case3 c s hc size lo hi hf hs ih =>
    rw [utf8DecoderTransform, if_neg hc, hf]
    simp only [if_pos hs]
    rw [validString_seq_append _ hc hf hs, ih]
  | case4 c s hc size lo hi hf hs ih =>
    rw [utf8DecoderTransform, if_neg hc, hf]
    simp only [if_neg hs, validString_runeError_append, ih]
  | case5 c s hc hf ih =>
    rw [utf8DecoderTransform, if_neg hc]
    split
    · exact absurd ‹_› (hf _ _ _)
    · simp [ih]

/-- The UTF-8 decoder keeps well-formed text as it is. -/
theorem utf8DecoderTransform_of_validString {s : GoString} (h : validString s = true) :
    utf8DecoderTransform s = s := by
  induction s using utf8DecoderTransform.induct with
  | case1 => simp [utf8DecoderTransform]
  | case2 c s hc ih => simp_all [utf8DecoderTransform]
  | case3 c s hc size lo hi hf hs ih =>
    rw [validString, if_neg hc, hf] at h
    simp only [Bool.and_eq_true] at h
    rw [utf8DecoderTransform, if_neg hc, hf]
    simp [if_pos hs, ih h.2]
  | case4 c s hc size lo hi hf hs ih =>
    rw [validString, if_neg hc, hf] at h
    simp [hs] at h
  | case5 c s hc hf ih =>
    rw [validString, if_neg hc] at h
    split at h
    · exact absurd ‹_› (hf _ _ _)
    · simp at h

/-! ## What the decoder keeps and what it replaces -/

/-- `u` begins some well-formed text: it is a prefix of a text `utf8.ValidString` accepts. -/
def BeginsValid (u : GoString) : Prop := ∃ w, validString (u ++ w) = true

/-- `p`, in front of `s`, is a maximal subpart of an ill-formed subsequence (Unicode, D93b): no
well-formed text starts at `p`, and `p` is the longest part of `p ++ s` that begins some
well-formed text, or one byte when none does. -/
def MaximalSubpart (p s : GoString) : Prop :=
  p ≠ [] ∧ (∀ u, u <+: p ++ s → u ≠ [] → validString u = false) ∧
    (BeginsValid p ∨ p.length = 1) ∧ ∀ u, u <+: p ++ s → p.length < u.length → ¬BeginsValid u

/-- The continuation bytes a leading byte's accept ranges let through begin a well-formed
sequence: the rest of one can always be found. -/
lemma beginsValid_take_contLen {c lo hi : UInt8} {size : Nat} (hc : ¬c < runeSelf)
    (hf : first c = .seq size lo hi) (x : GoString) :
    BeginsValid (c :: x.take (contLen lo hi (size - 1) x)) := by
  obtain ⟨hsize, hlohi⟩ := first_seq hf
  have hk := contLen_le lo hi (size - 1) x
  set k := contLen lo hi (size - 1) x
  have hlen : (x.take k).length = k := by simp; omega
  have hrun : contLen lo hi k (x.take k) = k := by rw [contLen_take x hk.1]; simp
  -- the rest of the sequence, each byte in the range its position asks for
  let w := if k = 0 then lo :: List.replicate (size - 2) 0x80 else List.replicate (size - 1 - k) 0x80
  have hw : contLen (if k = 0 then lo else 0x80) (if k = 0 then hi else 0xBF) (size - 1 - k) w =
      size - 1 - k ∧ w.length = size - 1 - k := by
    by_cases hk0 : k = 0
    · simp only [hk0, if_true, w, Nat.sub_zero]
      rw [show size - 1 = size - 2 + 1 by omega, contLen, if_pos ⟨Nat.le_refl _, hlohi⟩,
        contLen_replicate]
      simp
    · simp [hk0, w, contLen_replicate]
  have hall : contLen lo hi (size - 1) (x.take k ++ w) = size - 1 := by
    have := contLen_append (m := size - 1 - k) w hrun hlen
    rw [show k + (size - 1 - k) = size - 1 by omega, hw.1] at this
    rw [this]
    omega
  refine ⟨w, ?_⟩
  have := validString_seq_append [] hc hf hall
  rw [List.take_of_length_le (by simp [hlen, hw.2]; omega), List.append_nil] at this
  simpa using this

/-- Past the continuation bytes a leading byte's ranges let through, no longer part begins
well-formed text. -/
lemma not_beginsValid_of_contLen_lt {c lo hi : UInt8} {size : Nat} (hc : ¬c < runeSelf)
    (hf : first c = .seq size lo hi) {y u : GoString} (hu : u <+: y)
    (hks : contLen lo hi (size - 1) y < size - 1) (hlen : contLen lo hi (size - 1) y < u.length) :
    ¬BeginsValid (c :: u) := by
  rintro ⟨w, hw⟩
  have hfull := contLen_of_validString_cons hc hf (by simpa using hw)
  have h₁ := @contLen_take lo hi (contLen lo hi (size - 1) y + 1) (size - 1) (u ++ w) (by omega)
  have h₂ := @contLen_take lo hi (contLen lo hi (size - 1) y + 1) (size - 1) y (by omega)
  obtain ⟨r, rfl⟩ := hu
  rw [List.take_append_of_le_length (by omega)] at h₁ h₂
  rw [h₁, hfull] at h₂
  omega

/-- A byte that starts no sequence begins no well-formed text. -/
lemma not_beginsValid_of_first {c : UInt8} (hc : ¬c < runeSelf)
    (hf : ∀ size lo hi, first c = .seq size lo hi → False) (u : GoString) :
    ¬BeginsValid (c :: u) := by
  rintro ⟨w, hw⟩
  rw [List.cons_append, validString, if_neg hc] at hw
  split at hw
  · exact hf _ _ _ ‹_›
  · cases hw

/-- A well-formed text that starts a text `c :: y`, `c` not ASCII, needs `c` to lead a sequence
whose continuation bytes `y` has in full. -/
lemma seq_of_validString_prefix {c : UInt8} {y u : GoString} (hc : ¬c < runeSelf)
    (hu : u <+: c :: y) (hne : u ≠ []) (hv : validString u = true) :
    ∃ size lo hi, first c = .seq size lo hi ∧ contLen lo hi (size - 1) y = size - 1 := by
  obtain ⟨r, hr⟩ := hu
  obtain ⟨c', u', rfl⟩ := List.exists_cons_of_ne_nil hne
  rw [List.cons_append, List.cons.injEq] at hr
  obtain ⟨rfl, rfl⟩ := hr
  cases hf : first c' with
  | seq size lo hi =>
    have hfull := contLen_of_validString_cons hc hf hv
    refine ⟨size, lo, hi, rfl, ?_⟩
    rw [contLen_append_of_le r (hfull ▸ (contLen_le lo hi (size - 1) u').2), hfull]
  | _ =>
    have hnot := not_beginsValid_of_first hc (fun _ _ _ h => by rw [hf] at h; cases h) u'
    exact absurd ⟨[], by simpa using hv⟩ hnot

/-- Every text that is not empty starts with well-formed text or with a maximal subpart of an
ill-formed subsequence: the two lemmas above say what the decoder writes for every text. -/
theorem validString_or_maximalSubpart {x : GoString} (hx : x ≠ []) :
    (∃ u s, x = u ++ s ∧ u ≠ [] ∧ validString u = true) ∨ ∃ p s, x = p ++ s ∧ MaximalSubpart p s := by
  obtain ⟨c, y, rfl⟩ := List.exists_cons_of_ne_nil hx
  by_cases hc : c < runeSelf
  · exact .inl ⟨[c], y, rfl, List.cons_ne_nil _ _, by simp [validString_cons_of_lt _ hc]⟩
  cases hf : first c with
  | seq size lo hi =>
    by_cases hks : contLen lo hi (size - 1) y = size - 1
    · refine .inl ⟨c :: y.take (size - 1), y.drop (size - 1), by simp, List.cons_ne_nil _ _, ?_⟩
      simpa using validString_seq_append [] hc hf hks
    · have hk := contLen_le lo hi (size - 1) y
      refine .inr ⟨c :: y.take (contLen lo hi (size - 1) y), y.drop (contLen lo hi (size - 1) y),
        by simp, List.cons_ne_nil _ _, fun u hu hne => ?_, .inl (beginsValid_take_contLen hc hf y),
        fun u hu hlen => ?_⟩
      · by_contra hv
        obtain ⟨_, _, _, hf', hks'⟩ :=
          seq_of_validString_prefix hc (by simpa using hu) hne (by simpa using hv)
        rw [hf] at hf'
        cases hf'
        exact hks hks'
      · simp only [List.cons_append, List.take_append_drop] at hu
        obtain ⟨c', u', rfl⟩ := List.exists_cons_of_ne_nil (show u ≠ [] from List.ne_nil_of_length_pos (by omega))
        obtain ⟨rfl, hu'⟩ := List.cons_prefix_cons.mp hu
        exact not_beginsValid_of_contLen_lt hc hf hu' (by omega)
          (by simp only [List.length_cons, List.length_take] at hlen; omega)
  | _ =>
    have hf' : ∀ size lo hi, first c = .seq size lo hi → False := fun _ _ _ h => by
      rw [hf] at h; cases h
    refine .inr ⟨[c], y, rfl, List.cons_ne_nil _ _, fun u hu hne => ?_, .inr rfl,
      fun u hu hlen => ?_⟩
    · by_contra hv
      obtain ⟨_, _, _, h, -⟩ := seq_of_validString_prefix hc hu hne (by simpa using hv)
      exact hf' _ _ _ h
    · obtain ⟨c', u', rfl⟩ := List.exists_cons_of_ne_nil (show u ≠ [] from List.ne_nil_of_length_pos (by omega))
      obtain ⟨rfl, -⟩ := List.cons_prefix_cons.mp hu
      exact not_beginsValid_of_first hc hf' u'

end OpenGaussExporter
