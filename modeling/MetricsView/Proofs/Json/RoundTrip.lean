import MetricsView.Proofs.Json.Atom

/-! # Values survive their text

What is written for a value is read as that value, whatever blanks stand between its parts. The fuel
of the reader bounds the depth of its calls, which is at most the length of the text. -/
namespace MetricsView.Json

/-- All values, from those of their parts. -/
theorem induction {P : Json → Prop} (null : P .null) (bool : ∀ b, P (.bool b))
    (number : ∀ n, P (.number n)) (string : ∀ s, P (.string s))
    (array : ∀ items, (∀ v ∈ items, P v) → P (.array items))
    (object : ∀ members, (∀ m ∈ members, P m.2) → P (.object members)) : ∀ v, P v
  | .null => null
  | .bool b => bool b
  | .number n => number n
  | .string s => string s
  | .array items => array items fun v _ => induction null bool number string array object v
  | .object members =>
    object members fun m _ => induction null bool number string array object m.2
termination_by v => v
decreasing_by
  · next hv => exact Nat.lt_of_lt_of_le (List.sizeOf_lt_of_mem hv) (by simp)
  · next hm =>
    have hpart : sizeOf m.2 < sizeOf m := by
      obtain ⟨k, v⟩ := m
      simp only [Prod.mk.sizeOf_spec]
      omega
    have hmember := List.sizeOf_lt_of_mem hm
    simp only [Json.object.sizeOf_spec]
    omega

theorem skipSpace_cons {c : Char} (h : isSpace (some c) = false) (cs : Source) :
    skipSpace (some c :: cs) = some c :: cs := by
  rw [skipSpace, List.dropWhile_cons, h]
  rfl

/-- Nothing but blanks. -/
def Blank (b : List Char) : Prop := ∀ c ∈ b, isSpace (some c)

theorem Blank.skipSpace {b : List Char} (h : Blank b) (cs : Source) :
    skipSpace (source b ++ cs) = skipSpace cs := by
  induction b with
  | nil => rfl
  | cons c b ih =>
    obtain ⟨hc, hb⟩ := List.forall_mem_cons.1 h
    rw [source_cons, List.cons_append, Json.skipSpace, List.dropWhile_cons, if_pos hc]
    exact ih hb

private theorem Blank.readValue {b : List Char} (h : Blank b) (fuel : Nat) (cs : Source) :
    readValue fuel (source b ++ cs) = readValue fuel cs := by
  cases fuel with
  | zero => rw [Json.readValue, Json.readValue]
  | succ fuel => rw [Json.readValue, Json.readValue, h.skipSpace]

private theorem Blank.readItems {b : List Char} (h : Blank b) (fuel : Nat) (done : List Json)
    (cs : Source) : readItems fuel done (source b ++ cs) = readItems fuel done cs := by
  cases fuel with
  | zero => rw [Json.readItems, Json.readItems]
  | succ fuel => rw [Json.readItems, Json.readItems, h.readValue]

private theorem Blank.readMembers {b : List Char} (h : Blank b) (fuel : Nat)
    (done : List (Option String × Json)) (cs : Source) :
    readMembers fuel done (source b ++ cs) = readMembers fuel done cs := by
  cases fuel with
  | zero => rw [Json.readMembers, Json.readMembers]
  | succ fuel => rw [Json.readMembers, Json.readMembers, h.skipSpace]

/-- A blank is no part of a numeral. -/
private theorem Blank.endsNumber {b : List Char} (h : Blank b) {rest : Source}
    (hrest : EndsNumber rest) : EndsNumber (source b ++ rest) := by
  cases b with
  | nil => exact hrest
  | cons c b =>
    have hc : isSpace (some c) := h c List.mem_cons_self
    change Digit.ofChar? c = none ∧ c ≠ '.' ∧ c ≠ 'e' ∧ c ≠ 'E'
    simp only [isSpace, Option.some.injEq, Bool.or_eq_true, decide_eq_true_iff] at hc
    rcases hc with ((rfl | rfl) | rfl) | rfl <;> decide

structure Spacing.Blanks (g : Spacing) : Prop where
  line : ∀ depth, Blank (g.line depth)
  colon : Blank g.colon

theorem Spacing.blanks_none : Spacing.none.Blanks :=
  ⟨fun _ _ h => (nomatch h), fun _ h => (nomatch h)⟩

theorem Spacing.blanks_lines : Spacing.lines.Blanks := by
  have hspace : isSpace (some ' ') := by decide
  refine ⟨fun depth c hc => ?_, fun c hc => ?_⟩
  · rcases List.mem_cons.1 hc with rfl | hc
    · decide
    · rw [List.eq_of_mem_replicate hc]
      exact hspace
  · rw [List.mem_singleton.1 hc]
    exact hspace

/-- A character that may be the first of a value: no blank, and no bracket that closes. -/
def Opens (c : Char) : Prop := isSpace (some c) = false ∧ c ≠ ']' ∧ c ≠ '\x7d'

/-- The first character of a numeral. -/
def OpensNumber (c : Char) : Prop := c = '-' ∨ ∃ d : Digit, c = d.toChar

private theorem exists_text (n : Literal) :
    ∃ c cs, n.text .always = c :: cs ∧ OpensNumber c := by
  obtain ⟨d, ds, htext, -, -⟩ := Digit.exists_toDigits n.whole
  rw [text_eq, htext]
  cases n.negative with
  | true => exact ⟨'-', _, rfl, .inl rfl⟩
  | false => exact ⟨d.toChar, _, rfl, .inr ⟨d, rfl⟩⟩

theorem OpensNumber.opens {c : Char} (h : OpensNumber c) : Opens c := by
  have hdigits : ∀ d : Digit, Opens d.toChar := by
    unfold Opens
    decide
  rcases h with rfl | ⟨d, rfl⟩
  · unfold Opens
    decide
  · exact hdigits d

theorem exists_spell (g : Spacing) (depth : Nat) (v : Json) :
    ∃ c cs, v.spell g depth = c :: cs ∧ Opens c := by
  cases v with
  | null => exact ⟨'n', _, rfl, by unfold Opens; decide⟩
  | bool b =>
    cases b with
    | true => exact ⟨'t', _, rfl, by unfold Opens; decide⟩
    | false => exact ⟨'f', _, rfl, by unfold Opens; decide⟩
  | number n =>
    obtain ⟨c, cs, htext, hc⟩ := exists_text n
    exact ⟨c, cs, htext, hc.opens⟩
  | string s => exact ⟨'"', afterQuote s, quote_eq s, by unfold Opens; decide⟩
  | array items => cases items with
    | nil => exact ⟨'[', _, rfl, by unfold Opens; decide⟩
    | cons v vs => exact ⟨'[', _, rfl, by unfold Opens; decide⟩
  | object members => cases members with
    | nil => exact ⟨'\x7b', _, rfl, by unfold Opens; decide⟩
    | cons m ms => exact ⟨'\x7b', _, rfl, by unfold Opens; decide⟩

/-- The value is read from its text, whatever follows that could not be a part of a numeral. -/
def ReadsBack (g : Spacing) (v : Json) : Prop :=
  ∀ depth fuel rest, (v.spell g depth).length ≤ fuel → EndsNumber rest →
    readValue fuel (source (v.spell g depth) ++ rest) = some (v, rest)

variable {g : Spacing}

private theorem readValue_number {c : Char} (h : OpensNumber c) (fuel : Nat) (cs : Source) :
    readValue (fuel + 1) (some c :: cs) =
      (readNumber (some c :: cs)).map fun r => (.number r.1, r.2) := by
  have hdigits : ∀ d : Digit, d.toChar ∉ ['n', 't', 'f', '"', '[', '\x7b'] := by decide
  have hc : c ∉ ['n', 't', 'f', '"', '[', '\x7b'] := by
    rcases h with rfl | ⟨d, rfl⟩
    · decide
    · exact hdigits d
  simp only [List.mem_cons, List.not_mem_nil, or_false, not_or] at hc
  rw [readValue, skipSpace_cons h.opens.1]
  split
  · next heq => exact absurd (Option.some.inj (List.cons.inj heq).1) hc.1
  · next heq => exact absurd (Option.some.inj (List.cons.inj heq).1) hc.2.1
  · next heq => exact absurd (Option.some.inj (List.cons.inj heq).1) hc.2.2.1
  · next heq => exact absurd (Option.some.inj (List.cons.inj heq).1) hc.2.2.2.1
  · next heq => exact absurd (Option.some.inj (List.cons.inj heq).1) hc.2.2.2.2.1
  · next heq => exact absurd (Option.some.inj (List.cons.inj heq).1) hc.2.2.2.2.2
  · rfl

private theorem exists_fuel {v : Json} {depth fuel : Nat}
    (h : (v.spell g depth).length ≤ fuel) : ∃ f, fuel = f + 1 := by
  obtain ⟨c, cs, htext, -⟩ := exists_spell g depth v
  rw [htext, List.length_cons] at h
  exact Nat.exists_eq_add_of_le' (Nat.le_trans (Nat.le_add_left 1 _) h)

private theorem readsBack_null : ReadsBack g .null := by
  intro depth fuel rest hfuel _
  obtain ⟨fuel, rfl⟩ := exists_fuel hfuel
  change readValue (fuel + 1) (some 'n' :: (source "ull".toList ++ rest)) = _
  rw [readValue, skipSpace_cons (by decide)]
  rfl

private theorem readsBack_bool (b : Bool) : ReadsBack g (.bool b) := by
  intro depth fuel rest hfuel _
  obtain ⟨fuel, rfl⟩ := exists_fuel hfuel
  cases b with
  | true =>
    change readValue (fuel + 1) (some 't' :: (source "rue".toList ++ rest)) = _
    rw [readValue, skipSpace_cons (by decide)]
    rfl
  | false =>
    change readValue (fuel + 1) (some 'f' :: (source "alse".toList ++ rest)) = _
    rw [readValue, skipSpace_cons (by decide)]
    rfl

private theorem readsBack_number (n : Literal) : ReadsBack g (.number n) := by
  intro depth fuel rest hfuel hrest
  obtain ⟨fuel, rfl⟩ := exists_fuel hfuel
  obtain ⟨c, cs, htext, hc⟩ := exists_text n
  have hnumber := readNumber_text n hrest
  change readValue (fuel + 1) (source (n.text .always) ++ rest) = _
  rw [htext, source_cons, List.cons_append] at hnumber ⊢
  rw [readValue_number hc, hnumber]
  rfl

private theorem readsBack_string (s : Option String) : ReadsBack g (.string s) := by
  intro depth fuel rest hfuel _
  obtain ⟨fuel, rfl⟩ := exists_fuel hfuel
  change readValue (fuel + 1) (source (quote s) ++ rest) = _
  rw [quote_eq, source_cons, List.cons_append, readValue, skipSpace_cons (by decide)]
  simp only [readString_afterQuote, Option.map_some]

private theorem readItems_last {fuel : Nat} {cs rest : Source} {v : Json} {b : List Char}
    (hb : Blank b) (h : readValue fuel cs = some (v, source b ++ some ']' :: rest))
    (done : List Json) :
    readItems (fuel + 1) done cs = some (.array (v :: done).reverse, rest) := by
  rw [readItems, h]
  simp only [hb.skipSpace, skipSpace_cons (show isSpace (some ']') = false by decide)]

private theorem readItems_more {fuel : Nat} {cs rest : Source} {v : Json}
    (h : readValue fuel cs = some (v, some ',' :: rest)) (done : List Json) :
    readItems (fuel + 1) done cs = readItems fuel (v :: done) rest := by
  rw [readItems, h]
  simp only [skipSpace_cons (show isSpace (some ',') = false by decide)]

private theorem endsNumber_of_mem {c : Char} (h : c ∈ [',', ']', '\x7d']) (rest : Source) :
    EndsNumber (some c :: rest) := by
  have hc : c = ',' ∨ c = ']' ∨ c = '\x7d' := by simpa using h
  change Digit.ofChar? c = none ∧ c ≠ '.' ∧ c ≠ 'e' ∧ c ≠ 'E'
  rcases hc with rfl | rfl | rfl <;> decide

private theorem readItems_spell (hg : g.Blanks) {v : Json} {vs : List Json} (hv : ReadsBack g v)
    (hvs : ∀ w ∈ vs, ReadsBack g w) (done : List Json) {depth fuel : Nat} (rest : Source)
    (hfuel : (v.spell g (depth + 1)).length + (spellItems g depth vs).length ≤ fuel) :
    readItems fuel done
        (source (v.spell g (depth + 1)) ++ (source (spellItems g depth vs) ++ rest)) =
      some (.array (done.reverse ++ v :: vs), rest) := by
  obtain ⟨fuel, rfl⟩ := exists_fuel (Nat.le_trans (Nat.le_add_right _ _) hfuel)
  induction vs generalizing v done fuel with
  | nil =>
    have htext : spellItems g depth [] = g.line depth ++ [']'] := rfl
    have hend : EndsNumber (source (g.line depth) ++ some ']' :: rest) :=
      (hg.line depth).endsNumber (endsNumber_of_mem (by decide) rest)
    rw [htext, List.length_append, List.length_singleton] at hfuel
    have hvalue := hv (depth + 1) fuel _ (by omega) hend
    rw [htext, source_append, List.append_assoc]
    refine (readItems_last (hg.line depth) hvalue done).trans ?_
    rw [List.reverse_cons]
  | cons w ws ih =>
    obtain ⟨hw, hws⟩ := List.forall_mem_cons.1 hvs
    have htext : spellItems g depth (w :: ws) =
        ',' :: (g.line (depth + 1) ++ (w.spell g (depth + 1) ++ spellItems g depth ws)) := by
      simp [spellItems]
    rw [htext, List.length_cons, List.length_append, List.length_append] at hfuel
    rw [htext, source_cons, source_append, source_append, List.cons_append, List.append_assoc,
      List.append_assoc]
    have hvalue (more : Source) :=
      hv (depth + 1) fuel (some ',' :: more) (by omega) (endsNumber_of_mem (by decide) more)
    rw [readItems_more (hvalue _), (hg.line (depth + 1)).readItems]
    have hroom : (w.spell g (depth + 1)).length ≤ fuel := by omega
    obtain ⟨fuel, rfl⟩ := exists_fuel hroom
    rw [ih hw hws (v :: done) fuel (by omega), List.reverse_cons, List.append_assoc]
    rfl

private theorem readValue_bracket {c : Char} (h : Opens c) {b : List Char} (hb : Blank b)
    (fuel : Nat) (cs : Source) : readValue (fuel + 1) (some '[' :: (source b ++ some c :: cs)) =
      readItems fuel [] (some c :: cs) := by
  rw [readValue, skipSpace_cons (by decide)]
  simp only [hb.skipSpace, skipSpace_cons h.1]
  split
  · next heq => exact absurd (Option.some.inj (List.cons.inj heq).1) h.2.1
  · rfl

private theorem readsBack_array (hg : g.Blanks) {items : List Json}
    (h : ∀ v ∈ items, ReadsBack g v) : ReadsBack g (.array items) := by
  intro depth fuel rest hfuel _
  obtain ⟨fuel, rfl⟩ := exists_fuel hfuel
  cases items with
  | nil =>
    change readValue (fuel + 1) (some '[' :: some ']' :: rest) = _
    rw [readValue, skipSpace_cons (by decide)]
    simp only [skipSpace_cons (show isSpace (some ']') = false by decide)]
  | cons v vs =>
    obtain ⟨hv, hvs⟩ := List.forall_mem_cons.1 h
    obtain ⟨c, cs, hc, hopens⟩ := exists_spell g (depth + 1) v
    have htext : (Json.array (v :: vs)).spell g depth =
        '[' :: (g.line (depth + 1) ++ (v.spell g (depth + 1) ++ spellItems g depth vs)) := by
      simp [spell]
    rw [htext, List.length_cons, List.length_append, List.length_append] at hfuel
    have hitems : readItems fuel []
        (source (v.spell g (depth + 1)) ++ (source (spellItems g depth vs) ++ rest)) = _ :=
      readItems_spell hg hv hvs [] rest (by omega)
    rw [htext, source_cons, source_append, source_append, List.cons_append, List.append_assoc,
      List.append_assoc]
    rw [hc, source_cons, List.cons_append] at hitems ⊢
    rw [readValue_bracket hopens (hg.line (depth + 1)), hitems, List.reverse_nil, List.nil_append]

private theorem skipSpace_quote (k : Option String) (cs : Source) :
    skipSpace (source (quote k) ++ cs) = some '"' :: (source (afterQuote k) ++ cs) := by
  rw [quote_eq, source_cons, List.cons_append, skipSpace_cons (by decide)]

private theorem readValue_brace {b : List Char} (hb : Blank b) (fuel : Nat) (k : Option String)
    (cs : Source) : readValue (fuel + 1) (some '\x7b' :: (source b ++ (source (quote k) ++ cs))) =
      readMembers fuel [] (source (quote k) ++ cs) := by
  rw [readValue, skipSpace_cons (by decide)]
  simp only [hb.skipSpace, skipSpace_quote]
  rw [quote_eq, source_cons, List.cons_append]
  rfl

private theorem readMembers_last {fuel : Nat} {cs rest : Source} {v : Json} {b : List Char}
    (hb : Blank b) (h : readValue fuel cs = some (v, source b ++ some '\x7d' :: rest))
    (k : Option String) (done : List (Option String × Json)) :
    readMembers (fuel + 1) done (source (quote k) ++ some ':' :: cs) =
      some (.object ((k, v) :: done).reverse, rest) := by
  rw [readMembers, skipSpace_quote]
  simp only [readString_afterQuote, skipSpace_cons (show isSpace (some ':') = false by decide), h,
    hb.skipSpace, skipSpace_cons (show isSpace (some '\x7d') = false by decide)]

private theorem readMembers_more {fuel : Nat} {cs rest : Source} {v : Json}
    (h : readValue fuel cs = some (v, some ',' :: rest)) (k : Option String)
    (done : List (Option String × Json)) :
    readMembers (fuel + 1) done (source (quote k) ++ some ':' :: cs) =
      readMembers fuel ((k, v) :: done) rest := by
  rw [readMembers, skipSpace_quote]
  simp only [readString_afterQuote, skipSpace_cons (show isSpace (some ':') = false by decide), h,
    skipSpace_cons (show isSpace (some ',') = false by decide)]

private theorem readMembers_spell (hg : g.Blanks) {k : Option String} {v : Json}
    {ms : List (Option String × Json)} (hv : ReadsBack g v) (hms : ∀ m ∈ ms, ReadsBack g m.2)
    (done : List (Option String × Json)) {depth fuel : Nat} (rest : Source)
    (hfuel : (v.spell g (depth + 1)).length + (spellMembers g depth ms).length ≤ fuel) :
    readMembers fuel done (source (quote k) ++ some ':' :: (source g.colon ++
      (source (v.spell g (depth + 1)) ++ (source (spellMembers g depth ms) ++ rest)))) =
      some (.object (done.reverse ++ (k, v) :: ms), rest) := by
  obtain ⟨fuel, rfl⟩ := exists_fuel (Nat.le_trans (Nat.le_add_right _ _) hfuel)
  induction ms generalizing k v done fuel with
  | nil =>
    have htext : spellMembers g depth [] = g.line depth ++ ['\x7d'] := rfl
    have hend : EndsNumber (source (g.line depth) ++ some '\x7d' :: rest) :=
      (hg.line depth).endsNumber (endsNumber_of_mem (by decide) rest)
    rw [htext, List.length_append, List.length_singleton] at hfuel
    have hvalue := hv (depth + 1) fuel _ (by omega) hend
    rw [← hg.colon.readValue] at hvalue
    rw [htext, source_append, List.append_assoc]
    refine (readMembers_last (hg.line depth) hvalue k done).trans ?_
    rw [List.reverse_cons]
  | cons m ms ih =>
    obtain ⟨l, w⟩ := m
    obtain ⟨hw, hms⟩ : ReadsBack g w ∧ ∀ m ∈ ms, ReadsBack g m.2 := List.forall_mem_cons.1 hms
    have htext : spellMembers g depth ((l, w) :: ms) = ',' :: (g.line (depth + 1) ++
        (quote l ++ ':' :: (g.colon ++ (w.spell g (depth + 1) ++ spellMembers g depth ms)))) := by
      simp [spellMembers]
    have hlength : (spellMembers g depth ((l, w) :: ms)).length =
        1 + ((g.line (depth + 1)).length + ((quote l).length + (1 + (g.colon.length +
          ((w.spell g (depth + 1)).length + (spellMembers g depth ms).length))))) := by
      rw [htext]
      simp
      omega
    have hsource : source (spellMembers g depth ((l, w) :: ms)) ++ rest = some ',' ::
        (source (g.line (depth + 1)) ++ (source (quote l) ++ some ':' :: (source g.colon ++
          (source (w.spell g (depth + 1)) ++ (source (spellMembers g depth ms) ++ rest))))) := by
      simp [htext]
    have hvalue (more : Source) := (hg.colon.readValue fuel _).trans
      (hv (depth + 1) fuel (some ',' :: more) (by omega) (endsNumber_of_mem (by decide) more))
    rw [hsource, readMembers_more (hvalue _), (hg.line (depth + 1)).readMembers]
    have hroom : (w.spell g (depth + 1)).length ≤ fuel := by omega
    obtain ⟨fuel, rfl⟩ := exists_fuel hroom
    rw [ih hw hms ((k, v) :: done) fuel (by omega), List.reverse_cons, List.append_assoc]
    rfl

private theorem readsBack_object (hg : g.Blanks) {ms : List (Option String × Json)}
    (h : ∀ m ∈ ms, ReadsBack g m.2) : ReadsBack g (.object ms) := by
  intro depth fuel rest hfuel _
  obtain ⟨fuel, rfl⟩ := exists_fuel hfuel
  cases ms with
  | nil =>
    change readValue (fuel + 1) (some '\x7b' :: some '\x7d' :: rest) = _
    rw [readValue, skipSpace_cons (by decide)]
    simp only [skipSpace_cons (show isSpace (some '\x7d') = false by decide)]
  | cons m ms =>
    obtain ⟨k, v⟩ := m
    obtain ⟨hv, hms⟩ : ReadsBack g v ∧ ∀ m ∈ ms, ReadsBack g m.2 := List.forall_mem_cons.1 h
    have htext : (Json.object ((k, v) :: ms)).spell g depth = '\x7b' :: (g.line (depth + 1) ++
        (quote k ++ ':' :: (g.colon ++ (v.spell g (depth + 1) ++ spellMembers g depth ms)))) := by
      simp [spell]
    have hlength : ((Json.object ((k, v) :: ms)).spell g depth).length =
        1 + ((g.line (depth + 1)).length + ((quote k).length + (1 + (g.colon.length +
          ((v.spell g (depth + 1)).length + (spellMembers g depth ms).length))))) := by
      rw [htext]
      simp
      omega
    have hmembers : readMembers fuel [] (source (quote k) ++ some ':' :: (source g.colon ++
        (source (v.spell g (depth + 1)) ++ (source (spellMembers g depth ms) ++ rest)))) = _ :=
      readMembers_spell hg hv hms [] rest (by omega)
    have hsource : source ((Json.object ((k, v) :: ms)).spell g depth) ++ rest = some '\x7b' ::
        (source (g.line (depth + 1)) ++ (source (quote k) ++ some ':' :: (source g.colon ++
          (source (v.spell g (depth + 1)) ++ (source (spellMembers g depth ms) ++ rest))))) := by
      simp [htext]
    rw [hsource, readValue_brace (hg.line (depth + 1)), hmembers, List.reverse_nil,
      List.nil_append]

theorem readsBack (hg : g.Blanks) (v : Json) : ReadsBack g v := by
  induction v using induction with
  | null => exact readsBack_null
  | bool b => exact readsBack_bool b
  | number n => exact readsBack_number n
  | string s => exact readsBack_string s
  | array items ih => exact readsBack_array hg ih
  | object members ih => exact readsBack_object hg ih

/-- Every value is read from its text, with blanks behind it too. -/
theorem ofSource?_spell (hg : g.Blanks) (v : Json) {b : List Char} (hb : Blank b) :
    ofSource? (source (v.spell g 0 ++ b)) = some v := by
  have hend : EndsNumber (source b) := by
    have htrivial : EndsNumber (source b ++ []) := hb.endsNumber trivial
    rwa [List.append_nil] at htrivial
  have hvalue := readsBack hg v 0 (2 * (source (v.spell g 0 ++ b)).length + 2) (source b)
    (by rw [length_source, List.length_append]; omega) hend
  have hskip := hb.skipSpace []
  rw [List.append_nil] at hskip
  rw [ofSource?, source_append] at *
  simp only [hvalue, hskip]
  rfl

theorem ofSource?_compact (v : Json) : ofSource? (source v.compact) = some v := by
  have hread := ofSource?_spell Spacing.blanks_none v (b := []) fun _ h => nomatch h
  rwa [List.append_nil] at hread

theorem ofString?_spell (hg : g.Blanks) (v : Json) :
    ofString? (String.ofList (v.spell g 0)) = some v := by
  have hread := ofSource?_spell hg v (b := []) fun _ h => nomatch h
  rw [List.append_nil] at hread
  rwa [ofString?, Source.ofString, String.toList_ofList]

theorem ofString?_render (v : Json) : ofString? v.render = some v :=
  ofString?_spell Spacing.blanks_none v

theorem ofString?_renderLines (v : Json) : ofString? (v.renderLines ++ "\n") = some v := by
  rw [ofString?, renderLines, Source.ofString, String.toList_append, String.toList_ofList]
  exact ofSource?_spell Spacing.blanks_lines v (b := ['\n']) (List.forall_mem_singleton.mpr rfl)

end MetricsView.Json
