import Mathlib.Data.List.TakeWhile
import MetricsView.Proofs.Traversal
import MetricsView.Settings.Basic

/-! # A text falls into segments in one way

Each segment takes all that it can, so what follows it decides where it ends. Expansion goes through
the segments once, from left to right, and does not look into what it has put in. -/
namespace MetricsView

open Traversal

namespace Segment

/-- The segment may have this text after it. -/
inductive Stands : Segment → List Char → Prop where
  | plain {c rest} (h : c ≠ '$') : Stands (.plain c) rest
  | closed {name rest} (h : '\x7d' ∉ name) : Stands (.braced name true) rest
  | unclosed {name} (h : '\x7d' ∉ name) : Stands (.braced name false) []
  | bare {name rest} (hne : name ≠ []) (hname : ∀ c ∈ name, isNameChar c)
      (hrest : ∀ c ∈ rest.head?, ¬ isNameChar c) : Stands (.bare name) rest
  | lone {rest} (h : ∀ c ∈ rest.head?, c ≠ '\x7b' ∧ ¬ isNameChar c) : Stands .lone rest

/-- The segments make up the text, and each stands before the rest of it. -/
inductive Segmentation : List Segment → List Char → Prop where
  | nil : Segmentation [] []
  | cons {seg segs rest} (h : Stands seg rest) (hrest : Segmentation segs rest) :
      Segmentation (seg :: segs) (seg.spelling ++ rest)

private theorem not_isNameChar_brace : isNameChar '\x7b' = false := by decide +kernel

theorem not_isBraceEnd_iff {name : List Char} :
    (∀ c ∈ name, (!isBraceEnd c) = true) ↔ '\x7d' ∉ name := by
  simp only [isBraceEnd, Bool.not_eq_true', decide_eq_false_iff_not]
  exact ⟨fun h hmem => h _ hmem rfl, fun h c hc heq => h (heq ▸ hc)⟩

/-- What a run of some characters leaves starts with another character. -/
theorem head?_dropWhile {p : Char → Bool} {cs : List Char} :
    ∀ c ∈ (cs.dropWhile p).head?, ¬ p c := by
  intro c hc
  have hnot := List.head?_dropWhile_not p cs
  rw [Option.mem_def.1 hc] at hnot
  simpa using hnot

/-- The longest run before a text that does not go on with it. -/
theorem takeWhile_append {p : Char → Bool} {name : List Char} (hname : ∀ c ∈ name, p c)
    (rest : List Char) (hrest : ∀ c ∈ rest.head?, ¬ p c) :
    (name ++ rest).takeWhile p = name ∧ (name ++ rest).dropWhile p = rest := by
  rw [List.takeWhile_append_of_pos hname, List.dropWhile_append_of_pos hname]
  cases rest with
  | nil => simp
  | cons c rest => simp [hrest c rfl]

theorem ofChars_braced (cs : List Char) : ofChars ('$' :: '\x7b' :: cs) =
    .braced (cs.takeWhile fun c => !isBraceEnd c) (cs.any isBraceEnd)
      :: ofChars (cs.dropWhile fun c => !isBraceEnd c).tail := by
  rw [ofChars]

theorem ofChars_dollar {cs : List Char} (h : ∀ c ∈ cs.head?, c ≠ '\x7b') : ofChars ('$' :: cs) =
    if (cs.takeWhile isNameChar).isEmpty then .lone :: ofChars cs
    else .bare (cs.takeWhile isNameChar) :: ofChars (cs.dropWhile isNameChar) := by
  rw [ofChars]
  rintro ds rfl
  exact h _ rfl rfl

/-- A segment that stands before a text is read as the first one. -/
theorem Stands.ofChars_append {seg : Segment} {rest : List Char} (h : Stands seg rest) :
    ofChars (seg.spelling ++ rest) = seg :: ofChars rest := by
  cases h with
  | @plain c _ hc =>
    rw [spelling, List.singleton_append, ofChars]
    · rintro ds rfl _
      exact hc rfl
    · rintro rfl
      exact hc rfl
  | @closed name _ hname =>
    obtain ⟨htake, hdrop⟩ := takeWhile_append (not_isBraceEnd_iff.2 hname) ('\x7d' :: rest)
      (by simp [isBraceEnd])
    have htext : (braced name true).spelling ++ rest =
        '$' :: '\x7b' :: (name ++ '\x7d' :: rest) := by simp [spelling]
    rw [htext, ofChars_braced, htake, hdrop, List.tail_cons]
    simp [isBraceEnd]
  | @unclosed name hname =>
    obtain ⟨htake, hdrop⟩ := takeWhile_append (not_isBraceEnd_iff.2 hname) [] (by simp)
    rw [List.append_nil] at htake hdrop
    have hopen : name.any isBraceEnd = false := by
      rw [List.any_eq_false]
      exact fun c hc => by simpa using not_isBraceEnd_iff.2 hname c hc
    rw [spelling, List.append_nil, ofChars_braced, htake, hdrop, hopen, List.tail_nil]
  | @bare name _ hne hname hrest =>
    obtain ⟨htake, hdrop⟩ := takeWhile_append hname rest hrest
    have hhead : ∀ c ∈ (name ++ rest).head?, c ≠ '\x7b' := by
      obtain ⟨d, ds, rfl⟩ := List.exists_cons_of_ne_nil hne
      rintro c hc rfl
      obtain rfl := Option.some.inj (Option.mem_def.1 hc)
      have hbrace := hname '\x7b' (by simp)
      rw [not_isNameChar_brace] at hbrace
      cases hbrace
    rw [spelling, List.cons_append, ofChars_dollar hhead, htake, hdrop, if_neg (by simpa using hne)]
  | lone h =>
    have htake : rest.takeWhile isNameChar = [] := by
      cases rest with
      | nil => rfl
      | cons c cs => simp [(h c rfl).2]
    rw [spelling, List.singleton_append, ofChars_dollar fun c hc => (h c hc).1, htake]
    rfl

private theorem spelling_ne_nil (seg : Segment) : seg.spelling ≠ [] := by
  rcases seg with _ | ⟨name, _ | _⟩ | _ | _ <;> simp [spelling]

/-- Every text starts with a segment. -/
theorem exists_first (c : Char) (cs : List Char) :
    ∃ seg rest, Stands seg rest ∧ c :: cs = seg.spelling ++ rest := by
  by_cases hdollar : c = '$'
  · subst hdollar
    by_cases hbrace : ∃ ds, cs = '\x7b' :: ds
    · obtain ⟨ds, rfl⟩ := hbrace
      by_cases hend : '\x7d' ∈ ds
      · obtain ⟨name, rest, rfl, hname⟩ := List.eq_append_cons_of_mem hend
        exact ⟨.braced name true, rest, .closed hname, by simp [spelling]⟩
      · exact ⟨.braced ds false, [], .unclosed hend, by simp [spelling]⟩
    · have hsplit := List.takeWhile_append_dropWhile (p := isNameChar) (l := cs)
      by_cases hname : cs.takeWhile isNameChar = []
      · have hrest : ∀ c ∈ (cs.dropWhile isNameChar).head?, ¬ isNameChar c := head?_dropWhile
        rw [hname, List.nil_append] at hsplit
        rw [hsplit] at hrest
        refine ⟨.lone, cs, .lone fun c hc => ⟨?_, hrest c hc⟩, rfl⟩
        rintro rfl
        exact hbrace ⟨cs.tail, (List.cons_head?_tail hc).symm⟩
      · refine ⟨.bare (cs.takeWhile isNameChar), cs.dropWhile isNameChar,
          .bare hname (fun c hc => List.mem_takeWhile_imp hc) head?_dropWhile, ?_⟩
        rw [spelling, List.cons_append, hsplit]
  · exact ⟨.plain c, cs, .plain hdollar, rfl⟩

private theorem exists_segmentation (cs : List Char) : ∃ segs, Segmentation segs cs := by
  induction hn : cs.length using Nat.strong_induction_on generalizing cs with
  | _ n ih =>
    cases cs with
    | nil => exact ⟨[], .nil⟩
    | cons c cs =>
      obtain ⟨seg, rest, hstands, htext⟩ := exists_first c cs
      have hshorter : rest.length < n := by
        have hlength := congrArg List.length htext
        have hpos := List.length_pos_iff.2 seg.spelling_ne_nil
        rw [List.length_append] at hlength
        omega
      obtain ⟨segs, hsegs⟩ := ih _ hshorter rest rfl
      rw [htext]
      exact ⟨seg :: segs, .cons hstands hsegs⟩

/-- A text has one segmentation. -/
theorem segmentation_iff {segs : List Segment} {cs : List Char} :
    Segmentation segs cs ↔ segs = ofChars cs := by
  have hread {segs : List Segment} {cs : List Char} (h : Segmentation segs cs) :
      segs = ofChars cs := by
    induction h with
    | nil => rw [ofChars]
    | cons hstands _ ih => rw [hstands.ofChars_append, ← ih]
  refine ⟨hread, ?_⟩
  rintro rfl
  obtain ⟨segs, hsegs⟩ := exists_segmentation cs
  rwa [← hread hsegs]

/-- No text that comes after the last segment becomes a part of it. -/
def EndsClosed (segs : List Segment) : Prop :=
  ∀ seg ∈ segs.getLast?, (∃ c, seg = .plain c) ∨ ∃ name, seg = .braced name true

private theorem Segmentation.eq_nil {segs : List Segment} (h : Segmentation segs []) :
    segs = [] := by
  rw [segmentation_iff.1 h, ofChars]

/-- What is not the last segment of a text stands where it stood. -/
theorem Stands.append {seg : Segment} {rest : List Char} (h : Stands seg rest)
    (hrest : rest ≠ []) (more : List Char) : Stands seg (rest ++ more) := by
  obtain ⟨c, cs, rfl⟩ := List.exists_cons_of_ne_nil hrest
  cases h with
  | plain h => exact .plain h
  | closed h => exact .closed h
  | bare hne hname hrest => exact .bare hne hname hrest
  | lone h => exact .lone h

theorem Segmentation.append {segs more : List Segment} {cs ds : List Char}
    (h : Segmentation segs cs) (hclosed : EndsClosed segs) (hmore : Segmentation more ds) :
    Segmentation (segs ++ more) (cs ++ ds) := by
  induction h with
  | nil => exact hmore
  | @cons seg segs rest hstands hsegs ih =>
    rw [List.append_assoc]
    cases rest with
    | nil =>
      obtain rfl := hsegs.eq_nil
      refine .cons ?_ hmore
      rcases hclosed seg rfl with ⟨c, rfl⟩ | ⟨name, rfl⟩
      · cases hstands with
        | plain h => exact .plain h
      · cases hstands with
        | closed h => exact .closed h
    | cons c cs =>
      refine .cons (hstands.append (List.cons_ne_nil c cs) ds) (ih fun last hlast => ?_)
      cases segs with
      | nil => cases hlast
      | cons seg' segs => exact hclosed last (by rwa [List.getLast?_cons_cons])

theorem ofChars_append {cs : List Char} (h : EndsClosed (ofChars cs)) (ds : List Char) :
    ofChars (cs ++ ds) = ofChars cs ++ ofChars ds :=
  (segmentation_iff.1 ((segmentation_iff.2 rfl).append h (segmentation_iff.2 rfl))).symm

private theorem ofChars_eq_map_plain {cs : List Char} (h : '$' ∉ cs) :
    ofChars cs = cs.map .plain := by
  induction cs with
  | nil => rw [ofChars, List.map_nil]
  | cons c cs ih =>
    obtain ⟨hc, hcs⟩ := not_or.1 (mt List.mem_cons.2 h)
    have hstands : Stands (.plain c) cs := .plain (Ne.symm hc)
    rw [List.map_cons, ← ih hcs]
    exact hstands.ofChars_append

/-- The variable that the segment refers to is set, if it refers to one. -/
def IsDefined (env : Environment) (seg : Segment) : Prop :=
  ∀ name ∈ seg.name?, ∃ v, env name = some v

/-- What comes in place of the segment: itself, or the value of its variable as it is. -/
inductive Becomes (env : Environment) (seg : Segment) : List Char → Prop where
  | itself (h : seg.name? = none) : Becomes env seg seg.spelling
  | value {name v} (hname : seg.name? = some name) (hv : env name = some v) :
      Becomes env seg v.toList

variable {env : Environment} {seg : Segment}

theorem value_eq (env : Environment) (seg : Segment) : seg.value env =
    match seg.name? with
    | none => .ok seg.spelling
    | some name =>
      match env name with
      | some v => .ok v.toList
      | none => .error ⟨name⟩ := by
  cases seg <;> rfl

theorem value_eq_ok_iff {part : List Char} : seg.value env = .ok part ↔ Becomes env seg part := by
  rw [value_eq]
  constructor
  · intro h
    cases hname : seg.name? with
    | none =>
      simp only [hname] at h
      exact Except.ok.inj h ▸ .itself hname
    | some name =>
      cases hv : env name with
      | none => simp [hname, hv] at h
      | some v =>
        simp only [hname, hv] at h
        exact Except.ok.inj h ▸ .value hname hv
  · intro h
    cases h with
    | itself hname => simp only [hname]
    | value hname hv => simp only [hname, hv]

theorem value_eq_error_iff {name : String} : seg.value env = .error ⟨name⟩ ↔
    seg.name? = some name ∧ env name = none := by
  rw [value_eq]
  cases seg.name? with
  | none => simp
  | some n =>
    by_cases hn : n = name
    · subst hn
      cases hv : env n <;> simp [hv]
    · cases hv : env n <;> simp [hv, hn]

theorem exists_value_iff : (∃ part, seg.value env = .ok part) ↔ IsDefined env seg := by
  rw [value_eq, IsDefined]
  cases seg.name? with
  | none => simp
  | some n => cases hv : env n <;> simp [hv]

end Segment

open Segment

variable {env : Environment}

theorem expand_eq_ok_iff {s t : String} : expand env s = .ok t ↔
    ∃ parts, List.Forall₂ (Becomes env) (ofChars s.toList) parts ∧ t.toList = parts.flatten := by
  rw [expand, bind_eq_ok_iff]
  simp only [mapM_eq_ok_iff, value_eq_ok_iff, pure_eq_ok_iff, ← String.toList_inj,
    String.toList_ofList, eq_comm (b := t.toList)]

theorem exists_expand_iff {s : String} :
    (∃ t, expand env s = .ok t) ↔ ∀ seg ∈ ofChars s.toList, IsDefined env seg := by
  simp only [← exists_value_iff, ← exists_mapM_eq_ok_iff, expand, bind_eq_ok_iff, pure_eq_ok_iff]
  exact ⟨fun ⟨_, parts, h, _⟩ => ⟨parts, h⟩, fun ⟨parts, h⟩ => ⟨_, parts, h, rfl⟩⟩

theorem expand_eq_error_iff {s name : String} : expand env s = .error ⟨name⟩ ↔
    ∃ before seg after, ofChars s.toList = before ++ seg :: after ∧
      (∀ x ∈ before, IsDefined env x) ∧ seg.name? = some name ∧ env name = none := by
  rw [expand, bind_eq_error_iff, mapM_eq_error_iff, findSome?_fault?_eq_some_iff]
  simp only [exists_value_iff, value_eq_error_iff]
  constructor
  · rintro (h | ⟨parts, -, h⟩)
    · exact h
    · cases h
  · exact .inl

theorem expand_append {a : String} (h : EndsClosed (ofChars a.toList)) (b t : String) :
    expand env (a ++ b) = .ok t ↔
      ∃ u v, expand env a = .ok u ∧ expand env b = .ok v ∧ t = u ++ v := by
  simp only [expand_eq_ok_iff, String.toList_append]
  rw [ofChars_append h]
  constructor
  · rintro ⟨parts, hparts, ht⟩
    obtain ⟨us, vs, rfl, hus, hvs⟩ := exists_append_of_forall₂ hparts
    refine ⟨.ofList us.flatten, .ofList vs.flatten, ⟨us, hus, String.toList_ofList⟩,
      ⟨vs, hvs, String.toList_ofList⟩, ?_⟩
    rw [← String.toList_inj, ht, String.toList_append, String.toList_ofList, String.toList_ofList,
      List.flatten_append]
  · rintro ⟨u, v, ⟨us, hus, hu⟩, ⟨vs, hvs, hv⟩, rfl⟩
    refine ⟨us ++ vs, List.rel_append hus hvs, ?_⟩
    rw [String.toList_append, hu, hv, List.flatten_append]

theorem expand_eq_self {s : String} (h : '$' ∉ s.toList) : expand env s = .ok s := by
  rw [expand_eq_ok_iff, ofChars_eq_map_plain h]
  refine ⟨s.toList.map fun c => [c], ?_, ?_⟩
  · rw [List.forall₂_map_left_iff, List.forall₂_map_right_iff, List.forall₂_same]
    exact fun c _ => .itself rfl
  · rw [← List.flatMap_def, List.flatMap_singleton']

/-- The segments of a text, and how the text is expanded along them. -/
structure ExpandsOnce (env : Environment) (s : String) (segs : List Segment) : Prop where
  segmentation : Segmentation segs s.toList
  unique : ∀ others, Segmentation others s.toList → others = segs
  exists_iff : (∃ t, expand env s = .ok t) ↔ ∀ seg ∈ segs, IsDefined env seg
  ok_iff : ∀ t, expand env s = .ok t ↔
    ∃ parts, List.Forall₂ (Becomes env) segs parts ∧ t.toList = parts.flatten
  /-- The leftmost variable that is not set is missing. -/
  error_iff : ∀ name, expand env s = .error ⟨name⟩ ↔ ∃ before seg after,
    segs = before ++ seg :: after ∧ (∀ x ∈ before, IsDefined env x) ∧ seg.name? = some name ∧
      env name = none
  plain : '$' ∉ s.toList → expand env s = .ok s
  append : EndsClosed segs → ∀ b t, expand env (s ++ b) = .ok t ↔
    ∃ u v, expand env s = .ok u ∧ expand env b = .ok v ∧ t = u ++ v

/-- Every text is expanded along its only segmentation, each reference once. -/
theorem exists_expandsOnce (env : Environment) (s : String) : ∃ segs, ExpandsOnce env s segs :=
  ⟨ofChars s.toList,
    { segmentation := segmentation_iff.2 rfl
      unique := fun _ => segmentation_iff.1
      exists_iff := exists_expand_iff
      ok_iff := fun _ => expand_eq_ok_iff
      error_iff := fun _ => expand_eq_error_iff
      plain := expand_eq_self
      append := expand_append }⟩

/-- The dollar sign in the value of A refers to nothing. -/
example : expand (.ofList [("A", "$B"), ("B", "b")]) "$\x7bA\x7d$B$" = .ok "$Bb$" := by
  decide +kernel

end MetricsView
