import Mathlib.Data.List.Infix
import OpenGaussExporter.Params

/-!
# Reading the server's version

`ParseVersionSem` finds the version of the server in the text `SELECT version()` returns, with
four regular expressions tried in turn: a GaussDB kernel release `V500R001C20` is rewritten as
`500.1.20`, and otherwise the text of the second group is the version, `3.0.1` after `openGauss`
or `Kernel`, `2.2` after `Vastbase G100 V`.

Go's `regexp` returns the leftmost match, and among the matches that start there the one a
backtracking search finds first.  `Regex.search` is that search, written in continuation-passing
style over the constructs the four patterns use; as every `+` in them follows a character class,
it is structural on the pattern.  `Regex.Matches` says which texts a pattern matches, and
`Regex.search_sound` that the search only returns matches, whose groups capture texts their
patterns match.

`parseVersion_shape` reads off the patterns what `parseVersion` can return: `""`, the text of
`\d+\.\d+.\d+` or that of `\d+\.\d+`.  The second pattern leaves its last dot unescaped, so the
second separator may be any character but a newline.  One theorem for each kind of server says
what it reads from a banner: `parseVersion_gaussDB` the three numerals of a kernel release,
`parseVersion_openGauss` the text after the name (`openGauss 3.0x1` gives `3.0x1`), and
`parseVersion_vastbase` the `\d+\.\d+` after `V`, each after any text within which no match of
the pattern starts, such as the PostgreSQL version a server is based on.  The first pattern that
matches decides: `parseVersion_gaussDB_eq_empty` gives no version for a kernel banner whose word
after `V` is no release, whatever follows it.
-/

namespace OpenGaussExporter

/-! ### Regular expressions -/

/-- A regular expression of Go's `regexp`, with the constructs the version patterns use; `+`
follows only a character class, as in them. -/
inductive Regex where
  /-- The empty pattern. -/
  | empty
  /-- One character of a class: `\s`, `\w`, `\d`, `.`, or a literal. -/
  | cls (p : Char → Bool)
  /-- `p+` for a class `p`: one character of it or more, as many as can be first. -/
  | plus (p : Char → Bool)
  | seq (r₁ r₂ : Regex)
  /-- `r₁|r₂`, which prefers `r₁`. -/
  | alt (r₁ r₂ : Regex)
  /-- `(r)`, the capture group `n`. -/
  | group (n : Nat) (r : Regex)

namespace Regex

/-- A literal character. -/
def char (c : Char) : Regex := .cls (· == c)

/-- A literal text. -/
def str (s : String) : Regex := s.data.foldr (fun c r => .seq (.char c) r) .empty

/-- Patterns one after the other. -/
def seqs (rs : List Regex) : Regex := rs.foldr .seq .empty

end Regex

/-- `\s`: `[\t\n\f\r ]`. -/
def isSpaceClass (c : Char) : Bool :=
  c == ' ' || c == '\t' || c == '\n' || c == '\x0C' || c == '\r'

/-- `\w`: `[0-9A-Za-z_]`. -/
def isWordChar (c : Char) : Bool := c.isAlphanum || c == '_'

/-- `.`: any character but a newline. -/
def notNewline (c : Char) : Bool := c != '\n'

/-- A run of the class `p`: one character of it or more, what `p+` matches. -/
abbrev IsRun (p : Char → Bool) (t : List Char) : Prop := t ≠ [] ∧ ∀ c ∈ t, p c = true

/-- The captures of a search: the text of each group that matched. -/
abbrev Caps := Nat → Option (List Char)

/-- The backtracking search of `r` at the start of `w` with the captures `caps`: the first result
the continuation `k` gives on what a match leaves of `w`, trying the choices in the order Go's
leftmost-first semantics prefers them. -/
def Regex.search {β : Type} : Regex → List Char → Caps → (List Char → Caps → Option β) →
    Option β
  | .empty, w, caps, k => k w caps
  | .cls _, [], _, _ => none
  | .cls p, c :: w, caps, k => if p c then k w caps else none
  | .plus p, w, caps, k =>
    (List.range (w.takeWhile p).length).reverse.findSome? fun i => k (w.drop (i + 1)) caps
  | .seq r₁ r₂, w, caps, k => r₁.search w caps fun w' caps' => r₂.search w' caps' k
  | .alt r₁ r₂, w, caps, k => (r₁.search w caps k).or (r₂.search w caps k)
  | .group n r, w, caps, k => r.search w caps fun w' caps' =>
    k w' (Function.update caps' n (some (w.take (w.length - w'.length))))

/-- `FindStringSubmatch`: the captures of the leftmost match of `r` in `w`, or `none` for Go's
`nil`.  The whole match, group `0`, is left out: `parseVersion` reads only whether there is
one. -/
def Regex.findStringSubmatch (r : Regex) : List Char → Option Caps
  | [] => r.search [] (fun _ => none) fun _ caps => some caps
  | c :: w => (r.search (c :: w) (fun _ => none) fun _ caps => some caps).or
      (r.findStringSubmatch w)

/-- `MatchString`. -/
def Regex.matchString (r : Regex) (w : List Char) : Bool := (r.findStringSubmatch w).isSome

namespace Regex

variable {β : Type}

/-- The empty pattern hands the whole text to the continuation. -/
@[simp] lemma search_empty (w : List Char) (caps : Caps) (k : List Char → Caps → Option β) :
    Regex.empty.search w caps k = k w caps := rfl

/-- A class fails at the end of the text. -/
@[simp] lemma search_cls_nil (p : Char → Bool) (caps : Caps) (k : List Char → Caps → Option β) :
    (cls p).search [] caps k = none := rfl

/-- A class takes the next character when it belongs to it. -/
@[simp] lemma search_cls_cons (p : Char → Bool) (c : Char) (w : List Char) (caps : Caps)
    (k : List Char → Caps → Option β) :
    (cls p).search (c :: w) caps k = if p c then k w caps else none := rfl

/-- A sequence searches its second pattern from each end of a match of its first. -/
@[simp] lemma search_seq (r₁ r₂ : Regex) (w : List Char) (caps : Caps)
    (k : List Char → Caps → Option β) :
    (seq r₁ r₂).search w caps k = r₁.search w caps fun w' caps' => r₂.search w' caps' k := rfl

/-- An alternation gives its left pattern's result when there is one. -/
@[simp] lemma search_alt (r₁ r₂ : Regex) (w : List Char) (caps : Caps)
    (k : List Char → Caps → Option β) :
    (alt r₁ r₂).search w caps k = (r₁.search w caps k).or (r₂.search w caps k) := rfl

/-- A group records, before going on, the text its pattern matched. -/
@[simp] lemma search_group (n : Nat) (r : Regex) (w : List Char) (caps : Caps)
    (k : List Char → Caps → Option β) :
    (group n r).search w caps k = r.search w caps fun w' caps' =>
      k w' (Function.update caps' n (some (w.take (w.length - w'.length)))) := rfl

/-- A literal character takes the next character when it is that character. -/
@[simp] lemma search_char_cons (d c : Char) (w : List Char) (caps : Caps)
    (k : List Char → Caps → Option β) :
    (char d).search (c :: w) caps k = if c = d then k w caps else none := by
  simp [char]

/-- No patterns: the empty pattern. -/
@[simp] lemma seqs_nil : seqs [] = .empty := rfl

/-- A pattern before others. -/
@[simp] lemma seqs_cons (r : Regex) (rs : List Regex) : seqs (r :: rs) = .seq r (seqs rs) := rfl

/-- The search of a literal text on a text that starts with it. -/
@[simp] lemma search_str_append (s : String) (w : List Char) (caps : Caps)
    (k : List Char → Caps → Option β) : (str s).search (s.data ++ w) caps k = k w caps := by
  unfold str
  induction s.data with
  | nil => rfl
  | cons c l ih => simp [ih]

/-- `+` takes the longest run of its class first: when the continuation accepts what follows
the whole run, the search gives its result. -/
lemma search_plus_append {p : Char → Bool} {u v : List Char} {caps : Caps}
    {k : List Char → Caps → Option β} {res : β} (hu : IsRun p u)
    (hv : ∀ c ∈ v.head?, p c = false) (hk : k v caps = some res) :
    (plus p).search (u ++ v) caps k = some res := by
  have htake : (u ++ v).takeWhile p = u := by
    rw [List.takeWhile_append_of_pos hu.2]
    cases v with
    | nil => simp
    | cons c v => simp [hv c rfl]
  obtain ⟨m, hm⟩ : ∃ m, u.length = m + 1 :=
    Nat.exists_eq_add_one_of_ne_zero (List.length_pos.mpr hu.1).ne'
  rw [search, htake, hm, List.range_succ, List.reverse_append, List.reverse_singleton,
    List.singleton_append, List.findSome?_cons, ← hm, List.drop_left, hk]

/-- What a group captures is what its pattern matched. -/
lemma take_length_sub (u v : List Char) : (u ++ v).take ((u ++ v).length - v.length) = u := by
  simp

end Regex

/-! ### What a pattern matches -/

/-- The texts a pattern matches. -/
inductive Regex.Matches : Regex → List Char → Prop
  | empty : Regex.Matches .empty []
  | cls {p : Char → Bool} {c : Char} : p c = true → Regex.Matches (.cls p) [c]
  | plus {p : Char → Bool} {u : List Char} : u ≠ [] → (∀ c ∈ u, p c = true) →
      Regex.Matches (.plus p) u
  | seq {r₁ r₂ : Regex} {u v : List Char} : Regex.Matches r₁ u → Regex.Matches r₂ v →
      Regex.Matches (.seq r₁ r₂) (u ++ v)
  | altLeft {r₁ r₂ : Regex} {u : List Char} : Regex.Matches r₁ u → Regex.Matches (.alt r₁ r₂) u
  | altRight {r₁ r₂ : Regex} {u : List Char} : Regex.Matches r₂ u → Regex.Matches (.alt r₁ r₂) u
  | group {n : Nat} {r : Regex} {u : List Char} : Regex.Matches r u →
      Regex.Matches (.group n r) u

/-- Whether `t` is a text that a group `n` of the pattern matches: what the group can capture. -/
def Regex.Captures : Regex → Nat → List Char → Prop
  | .seq r₁ r₂, n, t | .alt r₁ r₂, n, t => r₁.Captures n t ∨ r₂.Captures n t
  | .group m r, n, t => (m = n ∧ r.Matches t) ∨ r.Captures n t
  | _, _, _ => False

namespace Regex

variable {β : Type}

/-- The search is sound: what it gives comes from a match of a prefix of the text, after which
every capture is one it had, or a text its group matches. -/
theorem search_sound : ∀ (r : Regex) (w : List Char) (caps : Caps)
    (k : List Char → Caps → Option β) (res : β), r.search w caps k = some res →
      ∃ u v caps', w = u ++ v ∧ r.Matches u ∧ k v caps' = some res ∧
        ∀ n t, caps' n = some t → caps n = some t ∨ r.Captures n t
  | .empty, w, caps, _, _, h => ⟨[], w, caps, rfl, .empty, h, fun _ _ h => .inl h⟩
  | .cls _, [], _, _, _, h => by cases h
  | .cls p, c :: w, caps, k, res, h => by
    rw [search_cls_cons] at h
    split at h
    · exact ⟨[c], w, caps, rfl, .cls ‹_›, h, fun _ _ h => .inl h⟩
    · cases h
  | .plus p, w, caps, k, res, h => by
    obtain ⟨i, hi, hk⟩ := List.exists_of_findSome?_eq_some h
    have hi : i + 1 ≤ (w.takeWhile p).length := by simpa [Nat.succ_le] using hi
    have htake : w.take (i + 1) = (w.takeWhile p).take (i + 1) := by
      conv_lhs => rw [← List.takeWhile_append_dropWhile p w]
      exact List.take_append_of_le_length hi
    refine ⟨w.take (i + 1), w.drop (i + 1), caps, (List.take_append_drop _ _).symm,
      .plus ?_ fun c hc => ?_, hk, fun _ _ h => .inl h⟩
    · rw [htake, ← List.length_pos, List.length_take]
      omega
    · rw [htake] at hc
      exact List.mem_takeWhile_imp (List.mem_of_mem_take hc)
  | .seq r₁ r₂, w, caps, k, res, h => by
    obtain ⟨u₁, v₁, c₁, rfl, hm₁, h₁, hc₁⟩ := search_sound r₁ _ _ _ _ h
    obtain ⟨u₂, v₂, c₂, rfl, hm₂, h₂, hc₂⟩ := search_sound r₂ _ _ _ _ h₁
    refine ⟨u₁ ++ u₂, v₂, c₂, (List.append_assoc _ _ _).symm, .seq hm₁ hm₂, h₂, fun n t ht => ?_⟩
    rcases hc₂ n t ht with h | h
    · exact (hc₁ n t h).imp_right Or.inl
    · exact .inr (.inr h)
  | .alt r₁ r₂, w, caps, k, res, h => by
    rw [search_alt] at h
    cases h₁ : r₁.search w caps k with
    | some res₁ =>
      rw [h₁, Option.or_some] at h
      obtain ⟨u, v, c', hw, hm, hk, hc⟩ := search_sound r₁ w caps k res₁ h₁
      exact ⟨u, v, c', hw, .altLeft hm, h ▸ hk, fun n t ht => (hc n t ht).imp_right Or.inl⟩
    | none =>
      rw [h₁, Option.none_or] at h
      obtain ⟨u, v, c', hw, hm, hk, hc⟩ := search_sound r₂ w caps k res h
      exact ⟨u, v, c', hw, .altRight hm, hk, fun n t ht => (hc n t ht).imp_right Or.inr⟩
  | .group n r, w, caps, k, res, h => by
    obtain ⟨u, v, c', rfl, hm, hk, hc⟩ := search_sound r _ _ _ _ h
    rw [take_length_sub] at hk
    refine ⟨u, v, _, rfl, .group hm, hk, fun m t ht => ?_⟩
    by_cases hmn : m = n
    · subst hmn
      rw [Function.update_same, Option.some.injEq] at ht
      exact .inr (.inl ⟨rfl, ht ▸ hm⟩)
    · rw [Function.update_noteq hmn] at ht
      exact (hc m t ht).imp_right Or.inr

end Regex

namespace Regex

/-- The empty pattern matches the empty text only. -/
@[simp] lemma matches_empty_iff {u : List Char} : Regex.empty.Matches u ↔ u = [] :=
  ⟨fun h => by cases h; rfl, fun h => h ▸ .empty⟩

/-- A class matches its characters, one at a time. -/
@[simp] lemma matches_cls_iff {p : Char → Bool} {u : List Char} :
    (cls p).Matches u ↔ ∃ c, p c = true ∧ u = [c] :=
  ⟨fun h => by cases h; exact ⟨_, ‹_›, rfl⟩, fun ⟨_, hc, h⟩ => h ▸ .cls hc⟩

/-- `p+` matches exactly the runs of `p`. -/
@[simp] lemma matches_plus_iff {p : Char → Bool} {u : List Char} :
    (plus p).Matches u ↔ IsRun p u :=
  ⟨fun h => by cases h; exact ⟨‹_›, ‹_›⟩, fun ⟨hu, hp⟩ => .plus hu hp⟩

/-- A sequence matches the texts that split into a match of each part. -/
@[simp] lemma matches_seq_iff {r₁ r₂ : Regex} {w : List Char} :
    (seq r₁ r₂).Matches w ↔ ∃ u v, r₁.Matches u ∧ r₂.Matches v ∧ w = u ++ v :=
  ⟨fun h => by cases h; exact ⟨_, _, ‹_›, ‹_›, rfl⟩, fun ⟨_, _, h₁, h₂, h⟩ => h ▸ .seq h₁ h₂⟩

/-- An alternation matches what either side matches. -/
@[simp] lemma matches_alt_iff {r₁ r₂ : Regex} {u : List Char} :
    (alt r₁ r₂).Matches u ↔ r₁.Matches u ∨ r₂.Matches u :=
  ⟨fun h => by cases h <;> simp [*], fun h => h.elim .altLeft .altRight⟩

/-- A group matches what its pattern matches. -/
@[simp] lemma matches_group_iff {n : Nat} {r : Regex} {u : List Char} :
    (group n r).Matches u ↔ r.Matches u :=
  ⟨fun h => by cases h; assumption, .group⟩

/-- A literal character matches itself only. -/
@[simp] lemma matches_char_iff {d : Char} {u : List Char} : (char d).Matches u ↔ u = [d] := by
  simp [char]

/-- A literal text matches itself only. -/
@[simp] lemma matches_str_iff (s : String) {u : List Char} : (str s).Matches u ↔ u = s.data := by
  unfold str
  induction s.data generalizing u with
  | nil => simp
  | cons c l ih => simp [ih]

/-- A literal text has no groups. -/
@[simp] lemma captures_str (s : String) (n : Nat) (t : List Char) : ¬(str s).Captures n t := by
  unfold str
  induction s.data with
  | nil => simp [Captures]
  | cons c l ih => simpa [Captures] using ih

variable {β : Type}

/-- A search at the start of the text is the leftmost match when it succeeds. -/
lemma findStringSubmatch_of_search {r : Regex} {w : List Char} {caps : Caps}
    (h : r.search w (fun _ => none) (fun _ caps => some caps) = some caps) :
    r.findStringSubmatch w = some caps := by
  cases w with
  | nil => exact h
  | cons c w => rw [findStringSubmatch, h, Option.or_some]

/-- `FindStringSubmatch` is sound: its result comes from a match of a part of the text, and each
of its captures is a text that a group of the pattern matches. -/
theorem findStringSubmatch_sound (r : Regex) : ∀ {w : List Char} {caps : Caps},
    r.findStringSubmatch w = some caps →
      (∃ u, u <:+: w ∧ r.Matches u) ∧ ∀ n t, caps n = some t → r.Captures n t := by
  have hsearch : ∀ {w : List Char} {caps : Caps},
      r.search w (fun _ => none) (fun _ caps => some caps) = some caps →
        (∃ u, u <:+: w ∧ r.Matches u) ∧ ∀ n t, caps n = some t → r.Captures n t := by
    intro w caps h
    obtain ⟨u, v, c', rfl, hm, hk, hc⟩ := search_sound r _ _ _ _ h
    cases hk
    exact ⟨⟨u, List.infix_append [] u v, hm⟩, fun n t ht => (hc n t ht).resolve_left (by simp)⟩
  intro w
  induction w with
  | nil => exact hsearch
  | cons c w ih =>
    intro caps h
    rw [findStringSubmatch] at h
    cases h₀ : r.search (c :: w) (fun _ => none) (fun _ caps => some caps) with
    | some caps₀ =>
      rw [h₀, Option.or_some, Option.some.injEq] at h
      exact h ▸ hsearch h₀
    | none =>
      rw [h₀, Option.none_or] at h
      obtain ⟨⟨u, hu, hm⟩, hc⟩ := ih h
      exact ⟨⟨u, hu.trans (List.suffix_cons c w).isInfix, hm⟩, hc⟩

end Regex

/-! ### The version patterns -/

/-- `(first|MogDB|Uqbar)`, the group of the product's name, whose first alternative is `GaussDB`
in the kernel patterns and `openGauss` in `openGaussVerRep`. -/
def productGroup (first : String) : Regex :=
  .group 1 (.alt (.str first) (.alt (.str "MogDB") (.str "Uqbar")))

/-- `\d+\.\d+.\d+`, whose second dot is unescaped. -/
def threePart : Regex :=
  .seqs [.plus Char.isDigit, .char '.', .plus Char.isDigit, .cls notNewline, .plus Char.isDigit]

/-- `\d+\.\d+`. -/
def twoPart : Regex := .seqs [.plus Char.isDigit, .char '.', .plus Char.isDigit]

/-- `gaussDBVerRep`: `(GaussDB|MogDB|Uqbar)\s+Kernel\s+V(\w+)`. -/
def gaussDBVerRep : Regex :=
  .seqs [productGroup "GaussDB", .plus isSpaceClass, .str "Kernel", .plus isSpaceClass, .char 'V',
    .group 2 (.plus isWordChar)]

/-- `gaussDBVerRep2`: `(GaussDB|MogDB|Uqbar)\s+Kernel\s+(\d+\.\d+.\d+)`. -/
def gaussDBVerRep2 : Regex :=
  .seqs [productGroup "GaussDB", .plus isSpaceClass, .str "Kernel", .plus isSpaceClass,
    .group 2 threePart]

/-- `openGaussVerRep`: `(openGauss|MogDB|Uqbar)\s+(\d+\.\d+.\d+)`. -/
def openGaussVerRep : Regex :=
  .seqs [productGroup "openGauss", .plus isSpaceClass, .group 2 threePart]

/-- `vastbaseVerRep`: `(Vastbase\s+G100)\s+V(\d+\.\d+)`. -/
def vastbaseVerRep : Regex :=
  .seqs [.group 1 (.seqs [.str "Vastbase", .plus isSpaceClass, .str "G100"]), .plus isSpaceClass,
    .char 'V', .group 2 twoPart]

/-- `(\d+)R(\d+)C(\d+)`, the release of a GaussDB kernel. -/
def gaussDBRelease : Regex :=
  .seqs [.group 1 (.plus Char.isDigit), .char 'R', .group 2 (.plus Char.isDigit), .char 'C',
    .group 3 (.plus Char.isDigit)]

/-! ### `parseVersion` -/

/-- `strconv.Atoi` on the digits a `\d+` group captures: their value, or the largest `int` when
it is out of range, whose error `parseGaussDBVersion` drops. -/
def atoi (s : List Char) : Nat :=
  min (s.foldl (fun acc c => 10 * acc + (c.toNat - 48)) 0) (2 ^ 63 - 1)

/-- `%v` of a nonnegative `int`: its decimal digits. -/
def natChars (n : Nat) : List Char := (formatUint n).map fun b => Char.ofNat b.toNat

/-- `parseOpenGaussVersion`: the text of the second group, or `""` when there is no match (a
slice shorter than 3) or that text is empty. -/
def parseOpenGaussVersion (subMatches : Option Caps) : List Char :=
  match subMatches with
  | none => []
  | some caps => if (caps 2).getD [] = [] then [] else (caps 2).getD []

/-- `parseVastbaseVersion`, whose body is `parseOpenGaussVersion`'s. -/
def parseVastbaseVersion : Option Caps → List Char := parseOpenGaussVersion

/-- `parseGaussDBVersion`: the release `aRbCc` in the second group, written `a.b.c`. -/
def parseGaussDBVersion (subMatches : Option Caps) : List Char :=
  match subMatches with
  | none => []
  | some caps =>
    if (caps 2).getD [] = [] then []
    else
      match gaussDBRelease.findStringSubmatch ((caps 2).getD []) with
      | none => []
      | some r =>
        natChars (atoi ((r 1).getD [])) ++ '.' :: natChars (atoi ((r 2).getD [])) ++
          '.' :: natChars (atoi ((r 3).getD []))

/-- `parseVersion`: the version in the trimmed text, by the first of the four patterns that
matches, or `""`. -/
def parseVersion (versionString : String) : String :=
  let w := (trimSpace versionString).data
  if gaussDBVerRep.matchString w then ⟨parseGaussDBVersion (gaussDBVerRep.findStringSubmatch w)⟩
  else if gaussDBVerRep2.matchString w then
    ⟨parseOpenGaussVersion (gaussDBVerRep2.findStringSubmatch w)⟩
  else if openGaussVerRep.matchString w then
    ⟨parseOpenGaussVersion (openGaussVerRep.findStringSubmatch w)⟩
  else if vastbaseVerRep.matchString w then
    ⟨parseVastbaseVersion (vastbaseVerRep.findStringSubmatch w)⟩
  else ""

/-- `ParseVersionSem`, with `semver.ParseTolerant` as given: the version `parseVersion` finds,
parsed, or the error that there is none. -/
def parseVersionSem {Version : Type} (parseTolerant : String → Except String Version)
    (versionString : String) : Except String Version :=
  let version := parseVersion versionString
  if version ≠ "" then parseTolerant version
  else .error ("Could not find a openGauss version in string: " ++ versionString ++ "\n")

/-- `GetBaseInfo`, after `db.Ping` gives `ping` and the query of the version gives `row`, the
text of `version()` or `none` when `Scan` fails: the version, `0.0.0` when it cannot be read. -/
def getBaseInfo {Version : Type} (parseTolerant : String → Except String Version)
    (ping : Option String) (row : Option String) : Except String Version :=
  match ping with
  | some err => .error err
  | none =>
    match row with
    | none => parseTolerant "0.0.0"
    | some versionString =>
      match parseVersionSem parseTolerant versionString with
      | .ok semanticVersion => .ok semanticVersion
      | .error _ => parseTolerant "0.0.0"

/-! ### What the patterns match -/

/-- `\d+\.\d+.\d+` in plain words: three runs of digits, a dot after the first and any character
but a newline after the second. -/
def IsThreePart (v : List Char) : Prop :=
  ∃ a b x c, IsRun Char.isDigit a ∧ IsRun Char.isDigit b ∧ x ≠ '\n' ∧ IsRun Char.isDigit c ∧
    v = a ++ '.' :: b ++ x :: c

/-- `\d+\.\d+`: two runs of digits with a dot between them. -/
def IsTwoPart (v : List Char) : Prop :=
  ∃ a b, IsRun Char.isDigit a ∧ IsRun Char.isDigit b ∧ v = a ++ '.' :: b

namespace Regex

/-- `\d+\.\d+.\d+` matches what `IsThreePart` describes. -/
lemma matches_threePart {t : List Char} : threePart.Matches t ↔ IsThreePart t := by
  simp only [threePart, IsThreePart, seqs_cons, seqs_nil, matches_seq_iff, matches_plus_iff,
    matches_char_iff, matches_cls_iff, matches_empty_iff, notNewline, bne_iff_ne]
  constructor
  · rintro ⟨a, _, ha, ⟨_, _, rfl, ⟨b, _, hb, ⟨_, _, ⟨x, hx, rfl⟩, ⟨c, _, hc, rfl, rfl⟩, rfl⟩, rfl⟩,
      rfl⟩, rfl⟩
    exact ⟨a, b, x, c, ha, hb, hx, hc, by simp⟩
  · rintro ⟨a, b, x, c, ha, hb, hx, hc, rfl⟩
    exact ⟨a, _, ha, ⟨_, _, rfl, ⟨b, _, hb, ⟨_, _, ⟨x, hx, rfl⟩, ⟨c, _, hc, rfl, rfl⟩, rfl⟩, rfl⟩, rfl⟩,
      by simp⟩

/-- `\d+\.\d+` matches what `IsTwoPart` describes. -/
lemma matches_twoPart {t : List Char} : twoPart.Matches t ↔ IsTwoPart t := by
  simp only [twoPart, IsTwoPart, seqs_cons, seqs_nil, matches_seq_iff, matches_plus_iff,
    matches_char_iff, matches_empty_iff]
  constructor
  · rintro ⟨a, _, ha, ⟨_, _, rfl, ⟨b, _, hb, rfl, rfl⟩, rfl⟩, rfl⟩
    exact ⟨a, b, ha, hb, by simp⟩
  · rintro ⟨a, b, ha, hb, rfl⟩
    exact ⟨a, _, ha, ⟨_, _, rfl, ⟨b, _, hb, rfl, rfl⟩, rfl⟩, by simp⟩

/-- The kernel patterns match only texts that name the kernel. -/
lemma kernel_of_matches {rs : List Regex} {u : List Char}
    (h : (seqs (productGroup "GaussDB" :: plus isSpaceClass :: str "Kernel" :: rs)).Matches u) :
    "Kernel".data <:+: u := by
  simp only [seqs_cons, matches_seq_iff, matches_str_iff] at h
  obtain ⟨u₁, _, -, ⟨u₂, _, -, ⟨_, v, rfl, -, rfl⟩, rfl⟩, rfl⟩ := h
  exact ⟨u₁ ++ u₂, v, by simp⟩

/-- The patterns that begin with a product group match only texts that begin with the name of a
product. -/
lemma product_of_matches {first : String} {rs : List Regex} {u : List Char}
    (h : (seqs (productGroup first :: rs)).Matches u) :
    ∃ name ∈ [first, "MogDB", "Uqbar"], name.data <+: u := by
  simp only [seqs_cons, matches_seq_iff, productGroup, matches_group_iff, matches_alt_iff,
    matches_str_iff] at h
  obtain ⟨_, v, h, -, rfl⟩ := h
  rcases h with rfl | rfl | rfl
  · exact ⟨first, by simp, List.prefix_append _ v⟩
  · exact ⟨"MogDB", by simp, List.prefix_append _ v⟩
  · exact ⟨"Uqbar", by simp, List.prefix_append _ v⟩

/-- The Vastbase pattern matches only texts that begin with `Vastbase`. -/
lemma vastbase_of_matches {u : List Char} (h : vastbaseVerRep.Matches u) : "Vastbase".data <+: u := by
  simp only [vastbaseVerRep, seqs_cons, matches_seq_iff, matches_group_iff, matches_str_iff] at h
  obtain ⟨_, v, ⟨_, _, rfl, -, rfl⟩, -, rfl⟩ := h
  simp

/-- A pattern that matches no part of the text is not found in it. -/
lemma matchString_eq_false {r : Regex} {w : List Char} (h : ∀ u, u <:+: w → ¬r.Matches u) :
    r.matchString w = false := by
  cases hf : r.findStringSubmatch w with
  | none => simp [matchString, hf]
  | some caps =>
    obtain ⟨⟨u, hu, hm⟩, -⟩ := r.findStringSubmatch_sound hf
    exact absurd hm (h u hu)

/-- No match of `r` starts within `pre`, the text before `w`. -/
def NoMatchBefore (r : Regex) (pre w : List Char) : Prop :=
  ∀ i < pre.length, ∀ u, u <+: (pre ++ w).drop i → ¬r.Matches u

/-- The search fails at the start of a text none of whose prefixes the pattern matches. -/
lemma search_eq_none {r : Regex} {w : List Char} (h : ∀ u, u <+: w → ¬r.Matches u) :
    r.search w (fun _ => none) (fun _ caps => some caps) = none := by
  cases hs : r.search w (fun _ => none) (fun _ caps => some caps) with
  | none => rfl
  | some caps =>
    obtain ⟨u, v, _, rfl, hm, -⟩ := search_sound _ _ _ _ _ hs
    exact absurd hm (h u (List.prefix_append u v))

/-- Text within which no match starts does not change what `FindStringSubmatch` finds after it. -/
lemma findStringSubmatch_append {r : Regex} :
    ∀ {pre w : List Char}, r.NoMatchBefore pre w →
      r.findStringSubmatch (pre ++ w) = r.findStringSubmatch w
  | [], _, _ => rfl
  | c :: pre, w, h => by
    rw [List.cons_append, findStringSubmatch,
      search_eq_none (w := c :: (pre ++ w)) fun u hu => h 0 (Nat.succ_pos _) u hu, Option.none_or]
    exact findStringSubmatch_append fun i hi u hu => h (i + 1) (Nat.succ_lt_succ hi) u hu

/-- No match of a pattern that begins with a product group starts where no name of the group
does. -/
lemma noMatchBefore_of_product {first : String} {rs : List Regex} {pre w : List Char}
    (h : ∀ i < pre.length, ∀ name ∈ [first, "MogDB", "Uqbar"], ¬name.data <+: (pre ++ w).drop i) :
    (seqs (productGroup first :: rs)).NoMatchBefore pre w := fun i hi u hu hm => by
  obtain ⟨name, hname, hn⟩ := product_of_matches hm
  exact h i hi name hname (hn.trans hu)

/-- No match of the Vastbase pattern starts where `Vastbase` does not. -/
lemma noMatchBefore_of_vastbase {pre w : List Char}
    (h : ∀ i < pre.length, ¬"Vastbase".data <+: (pre ++ w).drop i) :
    vastbaseVerRep.NoMatchBefore pre w := fun i hi _ hu hm =>
  h i hi ((vastbase_of_matches hm).trans hu)

end Regex

open Regex

/-- What `parseOpenGaussVersion` returns from a search of `r`: `""`, or a text that the group `2`
of `r` captures. -/
lemma parseOpenGaussVersion_findStringSubmatch (r : Regex) (w : List Char) :
    parseOpenGaussVersion (r.findStringSubmatch w) = [] ∨
      r.Captures 2 (parseOpenGaussVersion (r.findStringSubmatch w)) := by
  cases h : r.findStringSubmatch w with
  | none => exact .inl rfl
  | some caps =>
    rw [parseOpenGaussVersion]
    cases hc : caps 2 with
    | none => exact .inl (by simp)
    | some t =>
      by_cases ht : t = []
      · exact .inl (by simp [ht])
      · simpa [ht] using (r.findStringSubmatch_sound h).2 2 t hc

/-! ### Numerals -/

/-- `\d` is the range of code points `48` to `57`. -/
lemma isDigit_iff_toNat (c : Char) : c.isDigit = true ↔ 48 ≤ c.toNat ∧ c.toNat ≤ 57 := by
  simp [Char.isDigit, Char.le_def, Char.toNat, UInt32.le_def, BitVec.le_def, UInt32.toNat]

/-- A byte read as a code point keeps its value. -/
lemma toNat_ofNat_of_lt {n : Nat} (h : n < 256) : (Char.ofNat n).toNat = n := by
  rw [Char.ofNat, dif_pos (Or.inl (by omega))]
  rfl

/-- `%v` prints a number as a run of digits. -/
lemma isRun_natChars (n : Nat) : IsRun Char.isDigit (natChars n) := by
  refine ⟨by simp [natChars, formatUint_ne_nil], fun c hc => ?_⟩
  obtain ⟨b, hb, rfl⟩ := List.mem_map.mp hc
  have hdigit := List.all_eq_true.mp (all_isDigit_formatUint n) b hb
  simp only [isDigit, Bool.and_eq_true, decide_eq_true_eq] at hdigit
  rw [isDigit_iff_toNat, toNat_ofNat_of_lt (by omega)]
  exact hdigit

/-! ### The shape of a version -/

/-- `parseGaussDBVersion` returns `""` or three numerals joined by dots. -/
lemma parseGaussDBVersion_shape (subMatches : Option Caps) :
    parseGaussDBVersion subMatches = [] ∨ IsThreePart (parseGaussDBVersion subMatches) := by
  unfold parseGaussDBVersion
  split
  · exact .inl rfl
  · split
    · exact .inl rfl
    · split
      · exact .inl rfl
      · exact .inr ⟨_, _, '.', _, isRun_natChars _, isRun_natChars _, by decide, isRun_natChars _, rfl⟩

/-- `parseVersion` returns `""`, or a text of the form of `\d+\.\d+.\d+` or of `\d+\.\d+`: what
`semver.ParseTolerant` is given. -/
theorem parseVersion_shape (versionString : String) :
    parseVersion versionString = "" ∨ IsThreePart (parseVersion versionString).data ∨
      IsTwoPart (parseVersion versionString).data := by
  have hnil : ∀ v : List Char, v = [] → (⟨v⟩ : String) = "" := fun v h => h ▸ rfl
  rw [parseVersion]
  split
  · exact (parseGaussDBVersion_shape _).imp (hnil _) .inl
  split
  · refine (parseOpenGaussVersion_findStringSubmatch _ _).imp (hnil _) fun h => .inl ?_
    simpa [gaussDBVerRep2, productGroup, Captures, char, matches_threePart] using h
  split
  · refine (parseOpenGaussVersion_findStringSubmatch _ _).imp (hnil _) fun h => .inl ?_
    simpa [openGaussVerRep, productGroup, Captures, char, matches_threePart] using h
  split
  · refine (parseOpenGaussVersion_findStringSubmatch vastbaseVerRep _).imp (hnil _) fun h => .inr ?_
    simpa [parseVastbaseVersion, vastbaseVerRep, Captures, char, matches_twoPart] using h
  · exact .inl rfl

/-! ### Searches that succeed -/

/-- A digit is no white space. -/
lemma isSpaceClass_eq_false {c : Char} (h : c.isDigit = true) : isSpaceClass c = false := by
  rw [isDigit_iff_toNat] at h
  simp only [isSpaceClass, Bool.or_eq_false_iff, beq_eq_false_iff_ne]
  refine ⟨⟨⟨⟨?_, ?_⟩, ?_⟩, ?_⟩, ?_⟩ <;> rintro rfl <;> simp at h

/-- A digit is a word character. -/
lemma isWordChar_of_isDigit {c : Char} (h : c.isDigit = true) : isWordChar c = true := by
  simp [isWordChar, Char.isAlphanum, h]

/-- A space before a run of digits ends where the digits begin. -/
lemma head?_append_isSpaceClass {a w : List Char} (ha : IsRun Char.isDigit a) :
    ∀ c ∈ (a ++ w).head?, isSpaceClass c = false := fun _ hc =>
  isSpaceClass_eq_false (ha.2 _ (List.mem_of_mem_head? (List.head?_append_of_ne_nil _ ha.1 ▸ hc)))

/-- A text that starts with another character does not start with the literal. -/
lemma not_prefix_of_head_ne {c d : Char} {l l' : List Char} (h : c ≠ d) : ¬(c :: l) <+: (d :: l') := by
  simp [List.cons_prefix_cons, h]

namespace Regex

variable {β : Type}

/-- A literal text the text does not start with is not found at its start. -/
lemma search_str_eq_none {s : String} {w : List Char} (h : ¬s.data <+: w) (caps : Caps)
    (k : List Char → Caps → Option β) : (str s).search w caps k = none := by
  cases hs : (str s).search w caps k with
  | none => rfl
  | some res =>
    obtain ⟨u, v, _, rfl, hm, -⟩ := search_sound _ _ _ _ _ hs
    rw [matches_str_iff] at hm
    exact absurd ⟨v, hm ▸ rfl⟩ h

/-- The product group takes the name the text starts with. -/
lemma search_productGroup {first name : String} {c : Char} {l : List Char}
    (hfirst : first.data = c :: l) (hM : c ≠ 'M') (hU : c ≠ 'U')
    (hname : name = first ∨ name = "MogDB" ∨ name = "Uqbar") {rest : List Char} {caps : Caps}
    {k : List Char → Caps → Option β} {res : β}
    (hk : k rest (Function.update caps 1 (some name.data)) = some res) :
    (productGroup first).search (name.data ++ rest) caps k = some res := by
  rw [productGroup, search_group, search_alt, search_alt]
  rcases hname with rfl | rfl | rfl
  · rw [search_str_append, take_length_sub, hk, Option.or_some]
  · rw [search_str_eq_none (w := "MogDB".data ++ rest) (hfirst ▸ not_prefix_of_head_ne hM),
      search_str_append, take_length_sub, hk, Option.none_or, Option.or_some]
  · rw [search_str_eq_none (w := "Uqbar".data ++ rest) (hfirst ▸ not_prefix_of_head_ne hU),
      search_str_eq_none (s := "MogDB") (w := "Uqbar".data ++ rest)
        (not_prefix_of_head_ne (by decide)),
      search_str_append, take_length_sub, hk, Option.none_or, Option.none_or]

/-- `\d+\.\d+.\d+` takes the whole of a version that the next character does not extend. -/
lemma search_threePart {a b c post : List Char} {x : Char} (ha : IsRun Char.isDigit a)
    (hb : IsRun Char.isDigit b) (hx : x ≠ '\n') (hxd : x.isDigit = false)
    (hc : IsRun Char.isDigit c) (hpost : ∀ ch ∈ post.head?, ch.isDigit = false) {caps : Caps}
    {k : List Char → Caps → Option β} {res : β} (hk : k post caps = some res) :
    threePart.search (a ++ '.' :: (b ++ x :: (c ++ post))) caps k = some res := by
  simp only [threePart, seqs_cons, seqs_nil, search_seq]
  refine search_plus_append ha (by simp) ?_
  rw [search_char_cons, if_pos rfl]
  refine search_plus_append hb (by simpa using hxd) ?_
  rw [search_cls_cons, if_pos (by simpa [notNewline] using hx)]
  exact search_plus_append hc hpost (by rwa [search_empty])

/-- `\d+\.\d+` takes the whole of a version that the next character does not extend. -/
lemma search_twoPart {a b post : List Char} (ha : IsRun Char.isDigit a)
    (hb : IsRun Char.isDigit b) (hpost : ∀ ch ∈ post.head?, ch.isDigit = false) {caps : Caps}
    {k : List Char → Caps → Option β} {res : β} (hk : k post caps = some res) :
    twoPart.search (a ++ '.' :: (b ++ post)) caps k = some res := by
  simp only [twoPart, seqs_cons, seqs_nil, search_seq]
  refine search_plus_append ha (by simp) ?_
  rw [search_char_cons, if_pos rfl]
  exact search_plus_append hb hpost (by rwa [search_empty])

/-- The release `aRbCc` of a kernel, read into its three numerals. -/
lemma search_gaussDBRelease {a b c : List Char} (ha : IsRun Char.isDigit a)
    (hb : IsRun Char.isDigit b) (hc : IsRun Char.isDigit c) (caps : Caps) :
    gaussDBRelease.search (a ++ 'R' :: b ++ 'C' :: c) caps (fun _ caps => some caps) =
      some (Function.update (Function.update (Function.update caps 1 (some a)) 2 (some b)) 3
        (some c)) := by
  simp only [gaussDBRelease, seqs_cons, seqs_nil, search_seq, search_group, List.append_assoc,
    List.cons_append]
  refine search_plus_append ha (by simp) ?_
  simp only [search_char_cons, if_pos, take_length_sub]
  refine search_plus_append hb (by simp) ?_
  simp only [search_char_cons, if_pos, take_length_sub]
  rw [← List.append_nil c]
  refine search_plus_append hc (by simp) ?_
  simp

/-- `gaussDBVerRep` on a kernel banner captures the product and the release. -/
lemma search_gaussDBVerRep {name : String} (hname : name = "GaussDB" ∨ name = "MogDB" ∨ name = "Uqbar")
    {sp₁ sp₂ rel post : List Char} (hsp₁ : IsRun isSpaceClass sp₁) (hsp₂ : IsRun isSpaceClass sp₂)
    (hrel : IsRun isWordChar rel) (hpost : ∀ c ∈ post.head?, isWordChar c = false) (caps : Caps) :
    gaussDBVerRep.search (name.data ++ (sp₁ ++ ("Kernel".data ++ (sp₂ ++ 'V' :: (rel ++ post)))))
        caps (fun _ caps => some caps) =
      some (Function.update (Function.update caps 1 (some name.data)) 2 (some rel)) := by
  simp only [gaussDBVerRep, seqs_cons, seqs_nil, search_seq]
  refine search_productGroup rfl (by decide) (by decide) hname ?_
  have hK : ("Kernel".data ++ (sp₂ ++ 'V' :: (rel ++ post))).head? = some 'K' := rfl
  refine search_plus_append hsp₁ (by rw [hK]; decide) ?_
  rw [search_str_append]
  refine search_plus_append hsp₂ (by simp [isSpaceClass]) ?_
  rw [search_char_cons, if_pos rfl, search_group]
  refine search_plus_append hrel hpost ?_
  simp [take_length_sub]

/-- `openGaussVerRep` on a banner captures the product and the version after it. -/
lemma search_openGaussVerRep {name : String}
    (hname : name = "openGauss" ∨ name = "MogDB" ∨ name = "Uqbar") {sp a b c post : List Char}
    {x : Char} (hsp : IsRun isSpaceClass sp) (ha : IsRun Char.isDigit a) (hb : IsRun Char.isDigit b)
    (hx : x ≠ '\n') (hxd : x.isDigit = false) (hc : IsRun Char.isDigit c)
    (hpost : ∀ ch ∈ post.head?, ch.isDigit = false) (caps : Caps) :
    openGaussVerRep.search (name.data ++ (sp ++ (a ++ '.' :: (b ++ x :: (c ++ post))))) caps
        (fun _ caps => some caps) =
      some (Function.update (Function.update caps 1 (some name.data)) 2
        (some (a ++ '.' :: b ++ x :: c))) := by
  simp only [openGaussVerRep, seqs_cons, seqs_nil, search_seq]
  refine search_productGroup rfl (by decide) (by decide) hname ?_
  refine search_plus_append hsp (head?_append_isSpaceClass ha) ?_
  rw [search_group]
  refine search_threePart ha hb hx hxd hc hpost ?_
  have hw : a ++ '.' :: (b ++ x :: (c ++ post)) = (a ++ '.' :: b ++ x :: c) ++ post := by simp
  rw [search_empty, hw, take_length_sub]

/-- `vastbaseVerRep` on a Vastbase banner captures the version after its `V`. -/
lemma search_vastbaseVerRep {sp₁ sp₂ a b post : List Char} (hsp₁ : IsRun isSpaceClass sp₁)
    (hsp₂ : IsRun isSpaceClass sp₂) (ha : IsRun Char.isDigit a) (hb : IsRun Char.isDigit b)
    (hpost : ∀ ch ∈ post.head?, ch.isDigit = false) (caps : Caps) :
    vastbaseVerRep.search
        ("Vastbase".data ++ (sp₁ ++ ("G100".data ++ (sp₂ ++ 'V' :: (a ++ '.' :: (b ++ post))))))
        caps (fun _ caps => some caps) =
      some (Function.update (Function.update caps 1 (some ("Vastbase".data ++ sp₁ ++ "G100".data))) 2
        (some (a ++ '.' :: b))) := by
  simp only [vastbaseVerRep, seqs_cons, seqs_nil, search_seq]
  rw [search_group, search_seq, search_str_append, search_seq]
  have hG : ("G100".data ++ (sp₂ ++ 'V' :: (a ++ '.' :: (b ++ post)))).head? = some 'G' := rfl
  refine search_plus_append hsp₁ (by rw [hG]; decide) ?_
  rw [search_seq, search_str_append, search_empty]
  refine search_plus_append hsp₂ (by simp [isSpaceClass]) ?_
  rw [search_char_cons, if_pos rfl, search_group]
  refine search_twoPart ha hb hpost ?_
  have hW : "Vastbase".data ++ (sp₁ ++ ("G100".data ++ (sp₂ ++ 'V' :: (a ++ '.' :: (b ++ post))))) =
      ("Vastbase".data ++ sp₁ ++ "G100".data) ++ (sp₂ ++ 'V' :: (a ++ '.' :: (b ++ post))) := by
    simp only [List.append_assoc]
  have hw : a ++ '.' :: (b ++ post) = (a ++ '.' :: b) ++ post := by simp
  rw [search_empty, hW, take_length_sub, hw, take_length_sub]

end Regex

/-! ### The version of each kind of server

The banner of a server may begin with other text, as `PostgreSQL 9.2.4 (openGauss 3.0.0 build
...)` does: each theorem holds after any text within which no match of the pattern starts. -/

/-- A GaussDB kernel release `V500R001C20` is read as `500.1.20`: the numerals of the release, each
as `%v` prints the number `strconv.Atoi` reads. -/
theorem parseVersion_gaussDB {versionString name : String} {pre sp₁ sp₂ a b c post : List Char}
    (hname : name = "GaussDB" ∨ name = "MogDB" ∨ name = "Uqbar") (hsp₁ : IsRun isSpaceClass sp₁)
    (hsp₂ : IsRun isSpaceClass sp₂) (ha : IsRun Char.isDigit a) (hb : IsRun Char.isDigit b)
    (hc : IsRun Char.isDigit c) (hpost : ∀ ch ∈ post.head?, isWordChar ch = false)
    (hpre : gaussDBVerRep.NoMatchBefore pre
      (name.data ++ sp₁ ++ "Kernel".data ++ sp₂ ++ 'V' :: (a ++ 'R' :: b ++ 'C' :: c) ++ post))
    (hs : (trimSpace versionString).data = pre ++
      (name.data ++ sp₁ ++ "Kernel".data ++ sp₂ ++ 'V' :: (a ++ 'R' :: b ++ 'C' :: c) ++ post)) :
    parseVersion versionString =
      ⟨natChars (atoi a) ++ '.' :: natChars (atoi b) ++ '.' :: natChars (atoi c)⟩ := by
  have hrel : IsRun isWordChar (a ++ 'R' :: b ++ 'C' :: c) := by
    refine ⟨by simp, fun ch h => ?_⟩
    simp only [List.mem_append, List.mem_cons] at h
    rcases h with (h | rfl | h) | rfl | h
    · exact isWordChar_of_isDigit (ha.2 ch h)
    · rfl
    · exact isWordChar_of_isDigit (hb.2 ch h)
    · rfl
    · exact isWordChar_of_isDigit (hc.2 ch h)
  have hfind : gaussDBVerRep.findStringSubmatch (trimSpace versionString).data =
      some (Function.update (Function.update (fun _ => none) 1 (some name.data)) 2
        (some (a ++ 'R' :: b ++ 'C' :: c))) := by
    rw [hs, findStringSubmatch_append hpre]
    refine findStringSubmatch_of_search ?_
    simpa only [List.append_assoc, List.cons_append] using
      search_gaussDBVerRep hname hsp₁ hsp₂ hrel hpost (fun _ => none)
  have hrelease := findStringSubmatch_of_search (search_gaussDBRelease ha hb hc (fun _ => none))
  rw [parseVersion]
  simp only [matchString, hfind, Option.isSome_some, if_true, parseGaussDBVersion,
    Function.update_same, Option.getD_some, if_neg hrel.1, hrelease]
  simp [Function.update_apply]

/-- The banner of a GaussDB kernel `V500R001C20` after the PostgreSQL version it is based on has
the version `500.1.20`. -/
theorem parseVersion_gaussDB_V500R001C20 :
    parseVersion "PostgreSQL 9.2.4 (GaussDB Kernel V500R001C20 build 2f7f4ab8)" = "500.1.20" :=
  (@parseVersion_gaussDB "PostgreSQL 9.2.4 (GaussDB Kernel V500R001C20 build 2f7f4ab8)" "GaussDB"
    "PostgreSQL 9.2.4 (".data [' '] [' '] ['5', '0', '0'] ['0', '0', '1'] ['2', '0']
    " build 2f7f4ab8)".data (.inl rfl) (by decide) (by decide) (by decide) (by decide)
    (by decide) (by decide) (noMatchBefore_of_product (by decide)) (by decide)).trans
    (by simp [natChars, atoi, formatUint, digitByte]; rfl)

/-- A text `(\d+)R(\d+)C(\d+)` matches holds an `R`. -/
lemma mem_of_matches_gaussDBRelease {u : List Char} (h : gaussDBRelease.Matches u) : 'R' ∈ u := by
  simp only [gaussDBRelease, seqs_cons, seqs_nil, matches_seq_iff, matches_group_iff,
    matches_char_iff] at h
  obtain ⟨a, _, -, ⟨_, _, rfl, -, rfl⟩, rfl⟩ := h
  simp

/-- The GaussDB branch commits to its pattern: a kernel banner whose word after `V` holds no `R`
gives no version, even when a version follows it, as in `GaussDB Kernel V505.1.0`. -/
theorem parseVersion_gaussDB_eq_empty {versionString name : String}
    {pre sp₁ sp₂ rel post : List Char}
    (hname : name = "GaussDB" ∨ name = "MogDB" ∨ name = "Uqbar") (hsp₁ : IsRun isSpaceClass sp₁)
    (hsp₂ : IsRun isSpaceClass sp₂) (hrel : IsRun isWordChar rel) (hR : 'R' ∉ rel)
    (hpost : ∀ ch ∈ post.head?, isWordChar ch = false)
    (hpre : gaussDBVerRep.NoMatchBefore pre
      (name.data ++ sp₁ ++ "Kernel".data ++ sp₂ ++ 'V' :: rel ++ post))
    (hs : (trimSpace versionString).data =
      pre ++ (name.data ++ sp₁ ++ "Kernel".data ++ sp₂ ++ 'V' :: rel ++ post)) :
    parseVersion versionString = "" := by
  have hfind : gaussDBVerRep.findStringSubmatch (trimSpace versionString).data =
      some (Function.update (Function.update (fun _ => none) 1 (some name.data)) 2 (some rel)) := by
    rw [hs, findStringSubmatch_append hpre]
    refine findStringSubmatch_of_search ?_
    simpa only [List.append_assoc, List.cons_append] using
      search_gaussDBVerRep hname hsp₁ hsp₂ hrel hpost (fun _ => none)
  have hrelease : gaussDBRelease.findStringSubmatch rel = none := by
    cases h : gaussDBRelease.findStringSubmatch rel with
    | none => rfl
    | some r =>
      obtain ⟨⟨u, hu, hm⟩, -⟩ := gaussDBRelease.findStringSubmatch_sound h
      exact absurd (hu.subset (mem_of_matches_gaussDBRelease hm)) hR
  rw [parseVersion]
  simp only [matchString, hfind, Option.isSome_some, if_true, parseGaussDBVersion,
    Function.update_same, Option.getD_some, if_neg hrel.1, hrelease]

/-- `GaussDB Kernel V505.1.0` has no version. -/
theorem parseVersion_gaussDB_eq_empty_V505 :
    parseVersion "PostgreSQL 9.2.4 (GaussDB Kernel V505.1.0 build 6e8bbf5e)" = "" :=
  @parseVersion_gaussDB_eq_empty "PostgreSQL 9.2.4 (GaussDB Kernel V505.1.0 build 6e8bbf5e)"
    "GaussDB" "PostgreSQL 9.2.4 (".data [' '] [' '] ['5', '0', '5'] ".1.0 build 6e8bbf5e)".data
    (.inl rfl) (by decide) (by decide) (by decide) (by decide) (by decide)
    (noMatchBefore_of_product (by decide)) (by decide)

/-- An openGauss, MogDB or Uqbar banner without a kernel gives the text after the name as the
version; the second separator being any character but a newline, `openGauss 3.0x1` gives
`3.0x1`. -/
theorem parseVersion_openGauss {versionString name : String} {pre sp a b c post : List Char}
    {x : Char} (hname : name = "openGauss" ∨ name = "MogDB" ∨ name = "Uqbar")
    (hkernel : ¬"Kernel".data <:+: (trimSpace versionString).data) (hsp : IsRun isSpaceClass sp)
    (ha : IsRun Char.isDigit a) (hb : IsRun Char.isDigit b) (hx : x ≠ '\n')
    (hxd : x.isDigit = false) (hc : IsRun Char.isDigit c)
    (hpost : ∀ ch ∈ post.head?, ch.isDigit = false)
    (hpre : openGaussVerRep.NoMatchBefore pre (name.data ++ sp ++ a ++ '.' :: b ++ x :: c ++ post))
    (hs : (trimSpace versionString).data =
      pre ++ (name.data ++ sp ++ a ++ '.' :: b ++ x :: c ++ post)) :
    parseVersion versionString = ⟨a ++ '.' :: b ++ x :: c⟩ := by
  have h₁ : gaussDBVerRep.matchString (trimSpace versionString).data = false :=
    matchString_eq_false fun _ hu hm => hkernel ((kernel_of_matches hm).trans hu)
  have h₂ : gaussDBVerRep2.matchString (trimSpace versionString).data = false :=
    matchString_eq_false fun _ hu hm => hkernel ((kernel_of_matches hm).trans hu)
  have hfind : openGaussVerRep.findStringSubmatch (trimSpace versionString).data =
      some (Function.update (Function.update (fun _ => none) 1 (some name.data)) 2
        (some (a ++ '.' :: b ++ x :: c))) := by
    rw [hs, findStringSubmatch_append hpre]
    refine findStringSubmatch_of_search ?_
    simpa only [List.append_assoc, List.cons_append] using
      search_openGaussVerRep hname hsp ha hb hx hxd hc hpost (fun _ => none)
  rw [parseVersion]
  simp only [h₁, h₂, Bool.false_eq_true, if_false]
  simp [matchString, hfind, parseOpenGaussVersion]

/-- The banner of openGauss `3.0.0` after the PostgreSQL version it is based on has the version
`3.0.0`. -/
theorem parseVersion_openGauss_300 :
    parseVersion "PostgreSQL 9.2.4 (openGauss 3.0.0 build 02c14696)" = "3.0.0" :=
  (@parseVersion_openGauss "PostgreSQL 9.2.4 (openGauss 3.0.0 build 02c14696)" "openGauss"
    "PostgreSQL 9.2.4 (".data [' '] ['3'] ['0'] ['0'] " build 02c14696)".data '.' (.inl rfl)
    (by decide) (by decide) (by decide) (by decide) (by decide) (by decide) (by decide)
    (by decide) (noMatchBefore_of_product (by decide)) (by decide)).trans (by decide)

/-- A Vastbase banner that names none of the other products gives the `\d+\.\d+` after its
`V` as the version. -/
theorem parseVersion_vastbase {versionString : String} {pre sp₁ sp₂ a b post : List Char}
    (hproduct : ∀ name ∈ ["GaussDB", "openGauss", "MogDB", "Uqbar"],
      ¬name.data <:+: (trimSpace versionString).data)
    (hsp₁ : IsRun isSpaceClass sp₁) (hsp₂ : IsRun isSpaceClass sp₂) (ha : IsRun Char.isDigit a)
    (hb : IsRun Char.isDigit b) (hpost : ∀ ch ∈ post.head?, ch.isDigit = false)
    (hpre : vastbaseVerRep.NoMatchBefore pre
      ("Vastbase".data ++ sp₁ ++ "G100".data ++ sp₂ ++ 'V' :: a ++ '.' :: b ++ post))
    (hs : (trimSpace versionString).data =
      pre ++ ("Vastbase".data ++ sp₁ ++ "G100".data ++ sp₂ ++ 'V' :: a ++ '.' :: b ++ post)) :
    parseVersion versionString = ⟨a ++ '.' :: b⟩ := by
  have hnone : ∀ {first : String} {rs : List Regex},
      first ∈ ["GaussDB", "openGauss", "MogDB", "Uqbar"] →
        (seqs (productGroup first :: rs)).matchString (trimSpace versionString).data = false :=
    fun hfirst => matchString_eq_false fun _ hu hm => by
      obtain ⟨name, hname, hn⟩ := product_of_matches hm
      have hsub : [_, "MogDB", "Uqbar"] ⊆ ["GaussDB", "openGauss", "MogDB", "Uqbar"] :=
        List.cons_subset.mpr ⟨hfirst, by decide⟩
      exact hproduct name (hsub hname) (hn.isInfix.trans hu)
  have hfind : vastbaseVerRep.findStringSubmatch (trimSpace versionString).data =
      some (Function.update (Function.update (fun _ => none) 1
        (some ("Vastbase".data ++ sp₁ ++ "G100".data))) 2 (some (a ++ '.' :: b))) := by
    rw [hs, findStringSubmatch_append hpre]
    refine findStringSubmatch_of_search ?_
    simpa only [List.append_assoc, List.cons_append] using
      search_vastbaseVerRep hsp₁ hsp₂ ha hb hpost (fun _ => none)
  rw [parseVersion]
  simp only [gaussDBVerRep, gaussDBVerRep2, openGaussVerRep,
    @hnone "GaussDB" _ (by decide), @hnone "openGauss" _ (by decide),
    Bool.false_eq_true, if_false]
  simp [matchString, hfind, parseVastbaseVersion, parseOpenGaussVersion]

/-- The banner of Vastbase `G100 V2.2` after the PostgreSQL version it is based on has the version
`2.2`. -/
theorem parseVersion_vastbase_G100 :
    parseVersion "PostgreSQL 12.3 (Vastbase G100 V2.2 (Build 15))" = "2.2" :=
  (@parseVersion_vastbase "PostgreSQL 12.3 (Vastbase G100 V2.2 (Build 15))" "PostgreSQL 12.3 (".data
    [' '] [' '] ['2'] ['2'] " (Build 15))".data (by decide) (by decide) (by decide) (by decide)
    (by decide) (by decide) (noMatchBefore_of_vastbase (by decide)) (by decide)).trans (by decide)

end OpenGaussExporter
