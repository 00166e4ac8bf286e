import Mathlib.Data.List.DropRight
import Mathlib.Data.List.Nodup
import OpenGaussExporter.Utils

/-!
# The parameter parsers of `collector/utils`

`parseCSV` reads a comma-separated list of tags, and `parseConstLabels` a comma-separated list
of `key=value` pairs into `prometheus.Labels`.  Both trim the whole text with
`strings.TrimSpace`, split it with `strings.Split`, trim every piece and skip what is empty;
`parseConstLabels` also skips a piece that is not exactly one `key=value`, and a later key
overrides an earlier one.  A string is modelled by its runes, which is what `TrimSpace` reads
of well-formed UTF-8.

`parseCSV_token` and `parseConstLabels_token` say that whatever the input, what the parsers
return is non-empty, trimmed and free of the separators, with distinct keys.
`parseCSV_intercalate` and `parseConstLabels_intercalate` say that they invert the comma join
of such tokens: the parsers read back every list they could have produced.
-/

namespace OpenGaussExporter

/-! ## The parsers -/

/-- `strings.Split(s, sep)` for a separator of one rune: the pieces between the separators, one
more than there are separators. -/
def split (s : String) (sep : Char) : List String :=
  (s.data.splitOn sep).map String.mk

/-- `labels[key] = value` on a `prometheus.Labels` map, kept as its entries in the order their
keys were first set. -/
def setLabel (labels : List (String × String)) (key value : String) : List (String × String) :=
  if key ∈ labels.map Prod.fst then labels.map fun kv => if kv.1 = key then (key, value) else kv
  else labels ++ [(key, value)]

/-- `parseCSV`: the non-empty trimmed pieces of a comma-separated list, in order.  (Go's `nil`
and the empty slice are both `[]`.) -/
def parseCSV (s : String) : List String :=
  let s := trimSpace s
  if s.length = 0 then []
  else (split s ',').filterMap fun p =>
    let tag := trimSpace p
    if 0 < tag.length then some tag else none

/-- One turn of the loop of `parseConstLabels`: the labels after the piece `p`. -/
def parseConstLabelsStep (labels : List (String × String)) (p : String) :
    List (String × String) :=
  match split (trimSpace p) '=' with
  | [k, v] =>
    let key := trimSpace k
    let value := trimSpace v
    if key = "" ∨ value = "" then labels else setLabel labels key value
  | _ => labels

/-- `parseConstLabels`: the labels of a comma-separated list of `key=value` pairs.  (Go's `nil`
and the empty map are both `[]`.) -/
def parseConstLabels (s : String) : List (String × String) :=
  let s := trimSpace s
  if s.length = 0 then [] else (split s ',').foldl parseConstLabelsStep []

/-- What the parsers return: non-empty, its own trim, and free of the separators `seps`. -/
def Token (seps : List Char) (t : String) : Prop :=
  t ≠ "" ∧ trimSpace t = t ∧ ∀ c ∈ seps, c ∉ t.data

/-- Whether a text is a token can be computed. -/
instance (seps : List Char) : DecidablePred (Token seps) := fun t =>
  inferInstanceAs (Decidable (t ≠ "" ∧ trimSpace t = t ∧ ∀ c ∈ seps, c ∉ t.data))

/-! ## Trimming -/

/-- The characters of a trimmed text: the white space dropped from both ends. -/
lemma data_trimSpace (s : String) :
    (trimSpace s).data = (s.data.dropWhile isSpace).rdropWhile isSpace := rfl

/-- A string is its own trim exactly when it neither starts nor ends with a space. -/
lemma trimSpace_eq_self_iff {s : String} :
    trimSpace s = s ↔
      s.data.dropWhile isSpace = s.data ∧ s.data.rdropWhile isSpace = s.data := by
  rw [String.ext_iff, data_trimSpace]
  constructor
  · intro h
    have hlen : (s.data.dropWhile isSpace).length = s.data.length := by
      refine le_antisymm (List.dropWhile_suffix _).length_le ?_
      calc s.data.length = ((s.data.dropWhile isSpace).rdropWhile isSpace).length := by rw [h]
        _ ≤ (s.data.dropWhile isSpace).length := (List.rdropWhile_prefix _ _).length_le
    have hdrop := (List.dropWhile_suffix isSpace).eq_of_length hlen
    exact ⟨hdrop, by rwa [hdrop] at h⟩
  · rintro ⟨hl, hr⟩
    rw [hl, hr]

/-- Trimming twice trims no more than once. -/
lemma trimSpace_trimSpace (s : String) : trimSpace (trimSpace s) = trimSpace s := by
  refine trimSpace_eq_self_iff.mpr ⟨?_, List.rdropWhile_idempotent _ _⟩
  rw [data_trimSpace]
  obtain ⟨u, hu⟩ := List.rdropWhile_prefix isSpace (s.data.dropWhile isSpace)
  generalize (s.data.dropWhile isSpace).rdropWhile isSpace = t at hu ⊢
  cases t with
  | nil => rfl
  | cons a t =>
    have hself := List.dropWhile_idempotent isSpace s.data
    rw [← hu, List.cons_append] at hself
    have ha : ¬isSpace a := by
      simpa using List.dropWhile_eq_self_iff.mp hself (by simp)
    exact List.dropWhile_cons_of_neg ha

/-- Trimming keeps only runes of the string. -/
lemma mem_of_mem_trimSpace {s : String} {c : Char} (h : c ∈ (trimSpace s).data) : c ∈ s.data :=
  (List.dropWhile_suffix _).subset ((List.rdropWhile_prefix _ _).subset h)

/-- Trimming the end of a text whose last part keeps something leaves the first part alone. -/
lemma rdropWhile_append_of_ne_nil {p : Char → Bool} (x : List Char) {y : List Char}
    (hy : y.rdropWhile p ≠ []) : (x ++ y).rdropWhile p = x ++ y.rdropWhile p := by
  simp only [List.rdropWhile, List.reverse_append] at hy ⊢
  rw [List.dropWhile_append, if_neg (by simpa using hy), List.reverse_append, List.reverse_reverse]

/-- Text that starts with one non-empty trimmed string and ends with another is trimmed. -/
lemma trimSpace_append_append {a b : String} (ha : a ≠ "") (hb : b ≠ "")
    (hta : trimSpace a = a) (htb : trimSpace b = b) (m : String) :
    trimSpace (a ++ m ++ b) = a ++ m ++ b := by
  have ha' := trimSpace_eq_self_iff.mp hta
  have hb' := trimSpace_eq_self_iff.mp htb
  have hne : ∀ {t : String}, t ≠ "" → t.data ≠ [] := fun h h' => h (String.ext h')
  refine trimSpace_eq_self_iff.mpr ⟨?_, ?_⟩
  · rw [String.data_append, String.data_append, List.append_assoc, List.dropWhile_append,
      ha'.1, if_neg (by simpa using hne ha)]
  · rw [String.data_append, rdropWhile_append_of_ne_nil _ (by rw [hb'.2]; exact hne hb), hb'.2]

/-! ## Splitting and joining -/

/-- A piece of a split holds no rune the predicate separates on, and only runes of the text. -/
lemma mem_splitOnP {p : Char → Bool} : ∀ {l w : List Char}, w ∈ l.splitOnP p →
    ∀ x ∈ w, p x = false ∧ x ∈ l
  | [], w, h, x, hx => by
    rw [List.splitOnP_nil, List.mem_singleton] at h
    simp [h] at hx
  | y :: l, w, h, x, hx => by
    rw [List.splitOnP_cons] at h
    split at h
    · rcases List.mem_cons.mp h with rfl | h
      · simp at hx
      · exact (mem_splitOnP h x hx).imp_right (List.mem_cons_of_mem _)
    · next hy =>
      obtain ⟨w₀, ws, hws⟩ := List.exists_cons_of_ne_nil (List.splitOnP_ne_nil p l)
      rw [hws, List.modifyHead_cons, List.mem_cons] at h
      rcases h with rfl | h
      · rcases List.mem_cons.mp hx with rfl | hx
        · exact ⟨by simpa using hy, List.mem_cons_self _ _⟩
        · exact (mem_splitOnP (hws ▸ List.mem_cons_self _ _) x hx).imp_right
            (List.mem_cons_of_mem _)
      · exact (mem_splitOnP (hws ▸ List.mem_cons_of_mem _ h) x hx).imp_right
          (List.mem_cons_of_mem _)

/-- A piece of `strings.Split` holds no separator, and only runes of the text. -/
lemma mem_split {s w : String} {c : Char} (h : w ∈ split s c) :
    c ∉ w.data ∧ ∀ x ∈ w.data, x ∈ s.data := by
  obtain ⟨w', hw', rfl⟩ := List.mem_map.mp h
  refine ⟨fun hc => ?_, fun x hx => (mem_splitOnP hw' x hx).2⟩
  simpa using (mem_splitOnP hw' c hc).1

/-- Splitting text joined with a separator that no piece holds gives the pieces back. -/
lemma splitOn_append_flatten (c : Char) : ∀ (a : List Char) (l : List (List Char)),
    c ∉ a → (∀ w ∈ l, c ∉ w) → (a ++ (l.map (c :: ·)).flatten).splitOn c = a :: l
  | a, [], ha, _ => by
    rw [List.map_nil, List.flatten_nil, List.append_nil]
    exact List.splitOnP_eq_single _ _ fun x hx hxc => ha (eq_of_beq hxc ▸ hx)
  | a, b :: l, ha, hl => by
    rw [List.map_cons, List.flatten_cons, List.cons_append]
    unfold List.splitOn
    rw [List.splitOnP_first (· == c) a (fun x hx hxc => ha (eq_of_beq hxc ▸ hx)) c
      (beq_self_eq_true c)]
    exact congrArg (a :: ·) (splitOn_append_flatten c b l (hl b (List.mem_cons_self _ _))
      fun w hw => hl w (List.mem_cons_of_mem _ hw))

/-- The characters of the loop of `String.intercalate`. -/
lemma data_intercalate_go (sep : String) : ∀ (acc : String) (l : List String),
    (String.intercalate.go acc sep l).data = acc.data ++ (l.map fun b => sep.data ++ b.data).flatten
  | acc, [] => by simp [String.intercalate.go]
  | acc, b :: l => by
    rw [String.intercalate.go, data_intercalate_go sep _ l]
    simp

/-- The runes of a join: the first piece, then the separator and the next piece, in turn. -/
lemma data_intercalate (sep a : String) (l : List String) :
    (String.intercalate sep (a :: l)).data = a.data ++ (l.map fun b => sep.data ++ b.data).flatten :=
  data_intercalate_go sep a l

/-- Splitting the join of pieces on a one-rune separator that none of them holds gives the
pieces back. -/
lemma split_intercalate {c : Char} {sep a : String} {l : List String} (hsep : sep.data = [c])
    (ha : c ∉ a.data) (hl : ∀ t ∈ l, c ∉ t.data) : split (String.intercalate sep (a :: l)) c = a :: l := by
  have hmap : (l.map fun b => sep.data ++ b.data) = (l.map String.data).map (c :: ·) := by
    simp [hsep]
  rw [split, data_intercalate, hmap,
    splitOn_append_flatten c _ _ ha (by simpa using hl), List.map_cons, List.map_map]
  exact congrArg (a :: ·) ((List.map_congr_left fun _ _ => rfl).trans (List.map_id l))

/-- The join of non-empty trimmed pieces is trimmed. -/
lemma trimSpace_intercalate {sep a : String} {l : List String} (ha : a ≠ "" ∧ trimSpace a = a)
    (hl : ∀ t ∈ l, t ≠ "" ∧ trimSpace t = t) :
    trimSpace (String.intercalate sep (a :: l)) = String.intercalate sep (a :: l) := by
  rcases List.eq_nil_or_concat l with rfl | ⟨l', b, rfl⟩
  · exact ha.2
  · have hb := hl b (by simp)
    have hjoin : String.intercalate sep (a :: l'.concat b) =
        a ++ ⟨(l'.map fun t => sep.data ++ t.data).flatten ++ sep.data⟩ ++ b :=
      String.ext (by simp [data_intercalate])
    rw [hjoin, trimSpace_append_append ha.1 hb.1 ha.2 hb.2]

/-! ## Tags -/

/-- A trimmed piece of a text split on `sep`, when it is not empty, is a token free of `sep` and
of every rune the text lacks. -/
lemma token_trimSpace_of_mem_split {s p : String} {sep : Char} {seps : List Char}
    (hp : p ∈ split s sep) (hs : ∀ c ∈ seps, c ∉ s.data) (hne : trimSpace p ≠ "") :
    Token (sep :: seps) (trimSpace p) := by
  refine ⟨hne, trimSpace_trimSpace p, ?_⟩
  rintro c (_ | ⟨_, hc⟩) hmem
  · exact (mem_split hp).1 (mem_of_mem_trimSpace hmem)
  · exact hs c hc ((mem_split hp).2 c (mem_of_mem_trimSpace hmem))

/-- Whatever the input, the tags `parseCSV` returns are non-empty, trimmed and free of commas. -/
theorem parseCSV_token (s : String) : ∀ t ∈ parseCSV s, Token [','] t := by
  intro t ht
  dsimp only [parseCSV] at ht
  split at ht
  · cases ht
  · obtain ⟨p, hp, hpt⟩ := List.mem_filterMap.mp ht
    split at hpt
    · next hlen =>
      obtain rfl := Option.some.inj hpt
      exact token_trimSpace_of_mem_split hp (by simp) fun h => by simp [h] at hlen
    · cases hpt

/-- Of ` a , ,b ` the tag `a` comes back without its spaces, and the empty piece is skipped. -/
theorem parseCSV_token_spaced :
    parseCSV " a , ,b " = ["a", "b"] ∧ Token [','] "a" :=
  ⟨by decide, parseCSV_token " a , ,b " "a" (by decide)⟩

/-- A token is not empty. -/
lemma length_pos_of_token {seps : List Char} {t : String} (h : Token seps t) : 0 < t.length :=
  List.length_pos.mpr fun h' => h.1 (String.ext h')

/-- A join is not empty when its first piece is not. -/
lemma length_intercalate_pos {sep a : String} {l : List String} (ha : 0 < a.length) :
    0 < (String.intercalate sep (a :: l)).length := by
  show 0 < (String.intercalate sep (a :: l)).data.length
  rw [data_intercalate, List.length_append]
  exact Nat.lt_of_lt_of_le ha (Nat.le_add_right _ _)

/-- `parseCSV` reads back the comma join of any list of tags it could return. -/
theorem parseCSV_intercalate (tags : List String) (h : ∀ t ∈ tags, Token [','] t) :
    parseCSV (String.intercalate "," tags) = tags := by
  cases tags with
  | nil => rfl
  | cons a l =>
    have ha := h a (List.mem_cons_self _ _)
    have hl : ∀ t ∈ l, Token [','] t := fun t ht => h t (List.mem_cons_of_mem _ ht)
    dsimp only [parseCSV]
    rw [trimSpace_intercalate ⟨ha.1, ha.2.1⟩ fun t ht => ⟨(hl t ht).1, (hl t ht).2.1⟩,
      if_neg (Nat.pos_iff_ne_zero.mp (length_intercalate_pos (length_pos_of_token ha))),
      split_intercalate rfl (by simpa using ha.2.2) fun t ht => by simpa using (hl t ht).2.2]
    refine (List.filterMap_congr fun t ht => ?_).trans (List.filterMap_some _)
    have htok := h t ht
    simp only [htok.2.1, if_pos (length_pos_of_token htok)]

/-- The tags `a`, `b` come back from `a,b`. -/
theorem parseCSV_intercalate_ab :
    (∀ t ∈ ["a", "b"], Token [','] t) ∧ parseCSV (String.intercalate "," ["a", "b"]) = ["a", "b"] :=
  ⟨by decide, parseCSV_intercalate ["a", "b"] (by decide)⟩

/-! ## Labels -/

/-- The labels `parseConstLabels` builds: distinct keys, and keys and values that are tokens
free of `=` and `,`. -/
def LabelsWF (labels : List (String × String)) : Prop :=
  (labels.map Prod.fst).Nodup ∧ ∀ kv ∈ labels, Token ['=', ','] kv.1 ∧ Token ['=', ','] kv.2

/-- Whether labels are well formed can be computed. -/
instance : DecidablePred LabelsWF := fun labels =>
  inferInstanceAs (Decidable ((labels.map Prod.fst).Nodup ∧
    ∀ kv ∈ labels, Token ['=', ','] kv.1 ∧ Token ['=', ','] kv.2))

/-- A new key is appended with its value. -/
lemma setLabel_of_not_mem {labels : List (String × String)} {key value : String}
    (h : key ∉ labels.map Prod.fst) : setLabel labels key value = labels ++ [(key, value)] :=
  if_neg h

/-- Setting a label to tokens keeps the labels well formed. -/
lemma labelsWF_setLabel {labels : List (String × String)} {key value : String}
    (h : LabelsWF labels) (hk : Token ['=', ','] key) (hv : Token ['=', ','] value) :
    LabelsWF (setLabel labels key value) := by
  unfold setLabel
  split
  · have hkeys : ((labels.map fun kv => if kv.1 = key then (key, value) else kv).map Prod.fst) =
        labels.map Prod.fst := by
      rw [List.map_map]
      exact List.map_congr_left fun kv _ => by by_cases hkv : kv.1 = key <;> simp [hkv]
    refine ⟨hkeys ▸ h.1, fun kv hkv => ?_⟩
    obtain ⟨kv', hkv', rfl⟩ := List.mem_map.mp hkv
    split
    · exact ⟨hk, hv⟩
    · exact h.2 kv' hkv'
  · next hmem =>
    refine ⟨?_, fun kv hkv => ?_⟩
    · rw [List.map_append, List.map_singleton, ← List.concat_eq_append]
      exact h.1.concat hmem
    · rcases List.mem_append.mp hkv with hkv | hkv
      · exact h.2 kv hkv
      · rw [List.mem_singleton.mp hkv]
        exact ⟨hk, hv⟩

/-- A turn of the loop over a piece free of commas keeps the labels well formed. -/
lemma labelsWF_parseConstLabelsStep {labels : List (String × String)} {p : String}
    (h : LabelsWF labels) (hp : ',' ∉ p.data) : LabelsWF (parseConstLabelsStep labels p) := by
  unfold parseConstLabelsStep
  split
  · next k v hkv =>
    dsimp only
    split_ifs with hne
    · exact h
    · have hs : ∀ c ∈ [','], c ∉ (trimSpace p).data := by
        simpa using fun hc => hp (mem_of_mem_trimSpace hc)
      exact labelsWF_setLabel h
        (token_trimSpace_of_mem_split (by simp [hkv]) hs fun hk => hne (.inl hk))
        (token_trimSpace_of_mem_split (by simp [hkv]) hs fun hv => hne (.inr hv))
  · exact h

/-- The label loop keeps the labels well formed. -/
lemma labelsWF_foldl : ∀ (ps : List String) {labels : List (String × String)}, LabelsWF labels →
    (∀ p ∈ ps, ',' ∉ p.data) → LabelsWF (ps.foldl parseConstLabelsStep labels)
  | [], _, h, _ => h
  | p :: ps, _, h, hps =>
    labelsWF_foldl ps (labelsWF_parseConstLabelsStep h (hps p (List.mem_cons_self _ _)))
      fun q hq => hps q (List.mem_cons_of_mem _ hq)

/-- Whatever the input, `parseConstLabels` returns distinct keys, and keys and values that are
non-empty, trimmed and free of `=` and `,`. -/
theorem parseConstLabels_token (s : String) : LabelsWF (parseConstLabels s) := by
  have hnil : LabelsWF [] := ⟨List.nodup_nil, by simp⟩
  dsimp only [parseConstLabels]
  split
  · exact hnil
  · exact labelsWF_foldl _ hnil fun p hp => (mem_split hp).1

/-- The text `key=value` of two tokens is a token free of commas. -/
lemma token_pair {k v : String} (hk : Token ['=', ','] k) (hv : Token ['=', ','] v) :
    Token [','] (k ++ "=" ++ v) := by
  have hlen : 0 < (k ++ "=" ++ v).length := by
    simp only [String.length_append]
    exact Nat.lt_of_lt_of_le (length_pos_of_token hk) (Nat.le_add_right _ _ |>.trans (Nat.le_add_right _ _))
  refine ⟨fun h => by simp [h] at hlen, trimSpace_append_append hk.1 hv.1 hk.2.1 hv.2.1 "=", ?_⟩
  simp only [List.mem_singleton, forall_eq, String.data_append, List.mem_append, not_or]
  exact ⟨⟨hk.2.2 ',' (by simp), by decide⟩, hv.2.2 ',' (by simp)⟩

/-- The loop reads the text `key=value` of two tokens as the label `key` set to `value`. -/
lemma parseConstLabelsStep_pair (labels : List (String × String)) {k v : String}
    (hk : Token ['=', ','] k) (hv : Token ['=', ','] v) :
    parseConstLabelsStep labels (k ++ "=" ++ v) = setLabel labels k v := by
  have hsplit : split (k ++ "=" ++ v) '=' = [k, v] :=
    @split_intercalate '=' "=" k [v] rfl (hk.2.2 '=' (by simp))
      (by simpa using hv.2.2 '=' (by simp))
  unfold parseConstLabelsStep
  rw [(token_pair hk hv).2.1, hsplit]
  simp only [hk.2.1, hv.2.1, hk.1, hv.1, or_self, if_false]

/-- The label loop over `k=v` pairs of tokens with new, distinct keys appends the pairs. -/
lemma foldl_parseConstLabelsStep_pairs : ∀ (l labels : List (String × String)),
    (∀ kv ∈ l, Token ['=', ','] kv.1 ∧ Token ['=', ','] kv.2) →
    ((labels ++ l).map Prod.fst).Nodup →
    (l.map fun kv => kv.1 ++ "=" ++ kv.2).foldl parseConstLabelsStep labels = labels ++ l
  | [], labels, _, _ => by simp
  | kv :: l, labels, htok, hnd => by
    have hkv := htok kv (List.mem_cons_self _ _)
    have hfresh : kv.1 ∉ labels.map Prod.fst := fun hmem => by
      rw [List.map_append, List.map_cons] at hnd
      exact (List.nodup_append.mp hnd).2.2 hmem (List.mem_cons_self _ _)
    rw [List.map_cons, List.foldl_cons, parseConstLabelsStep_pair labels hkv.1 hkv.2,
      setLabel_of_not_mem hfresh, foldl_parseConstLabelsStep_pairs l _
        (fun kv' h' => htok kv' (List.mem_cons_of_mem _ h')) (by simpa using hnd)]
    simp

/-- `parseConstLabels` reads back the comma join of the `key=value` texts of any labels it could
return. -/
theorem parseConstLabels_intercalate (l : List (String × String)) (h : LabelsWF l) :
    parseConstLabels (String.intercalate "," (l.map fun kv => kv.1 ++ "=" ++ kv.2)) = l := by
  cases l with
  | nil => rfl
  | cons kv l =>
    have hpiece : ∀ t ∈ (kv :: l).map fun kv => kv.1 ++ "=" ++ kv.2, Token [','] t := by
      intro t ht
      obtain ⟨kv', hkv', rfl⟩ := List.mem_map.mp ht
      exact token_pair (h.2 kv' hkv').1 (h.2 kv' hkv').2
    have ha := hpiece _ (List.mem_map_of_mem _ (List.mem_cons_self kv l))
    have hl : ∀ t ∈ l.map fun kv => kv.1 ++ "=" ++ kv.2, Token [','] t :=
      fun t ht => hpiece t (by simp only [List.map_cons, List.mem_cons]; exact .inr ht)
    rw [List.map_cons]
    dsimp only [parseConstLabels]
    rw [trimSpace_intercalate ⟨ha.1, ha.2.1⟩ fun t ht => ⟨(hl t ht).1, (hl t ht).2.1⟩,
      if_neg (Nat.pos_iff_ne_zero.mp (length_intercalate_pos (length_pos_of_token ha))),
      split_intercalate rfl (by simpa using ha.2.2) fun t ht => by simpa using (hl t ht).2.2]
    exact (foldl_parseConstLabelsStep_pairs (kv :: l) [] h.2 (by simpa using h.1)).trans
      (List.nil_append _)

/-- The labels `env=prod`, `dc=east` come back from `env=prod,dc=east`. -/
theorem parseConstLabels_intercalate_env_dc :
    LabelsWF [("env", "prod"), ("dc", "east")] ∧
      parseConstLabels (String.intercalate ","
        ([("env", "prod"), ("dc", "east")].map fun kv => kv.1 ++ "=" ++ kv.2)) =
        [("env", "prod"), ("dc", "east")] :=
  ⟨by decide, parseConstLabels_intercalate _ (by decide)⟩

end OpenGaussExporter
