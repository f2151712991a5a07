import MetricsView.Proofs.Query.Outcome

/-! # Fragments assembled step by step

However a fragment is assembled, with other fragments in it that are assembled in the same way, it
is what is written for its segments from left to right: texts as they are, and a placeholder for
each argument. -/
namespace MetricsView.Fragment

/-- One step of an assembly. What is appended or joined is assembled by steps of its own. -/
inductive Step where
  | push (text : String)
  | bind (a : Arg)
  | bindList (as : List Arg)
  | append (steps : List Step)
  | join (parts : List (List Step)) (separator : String)

namespace Step

mutual

/-- What the fragment is after the step. -/
def extend : Step → Fragment → Fragment
  | push s, f => f ++ text s
  | bind a, f => f ++ .bind a
  | bindList as, f => f ++ .bindList as
  | append steps, f => f ++ extendAll steps .empty
  | join parts separator, f => f ++ joinParenthesized separator (assembleEach parts)

/-- What the fragment is after all the steps. -/
def extendAll : List Step → Fragment → Fragment
  | [], f => f
  | s :: ss, f => extendAll ss (s.extend f)

def assembleEach : List (List Step) → List Fragment
  | [] => []
  | p :: ps => extendAll p .empty :: assembleEach ps

end

/-- The fragment that the steps assemble. -/
def assemble (steps : List Step) : Fragment := extendAll steps .empty

theorem extendAll_append (done rest : List Step) (f : Fragment) :
    extendAll (done ++ rest) f = extendAll rest (extendAll done f) := by
  induction done generalizing f with
  | nil => rfl
  | cons s ss ih => exact ih (s.extend f)

end Step

/-- A text, or an argument at the place where it is bound. -/
inductive Segment where
  | text (s : String)
  | argument (a : Arg)

namespace Segment

def sql : Segment → String
  | text s => s
  | argument _ => "?"

def argument? : Segment → Option Arg
  | text _ => none
  | argument a => some a

/-- What is written for the segments. -/
def render (ss : List Segment) : Fragment := ⟨String.join (ss.map sql), ss.filterMap argument?⟩

theorem render_nil : render [] = .empty := by
  rw [render, List.map_nil, String.join_nil]
  rfl

theorem render_append (ss ts : List Segment) : render (ss ++ ts) = render ss ++ render ts := by
  rw [render, List.map_append, String.join_append, List.filterMap_append]
  rfl

theorem render_text (s : String) : render [text s] = .text s := by
  rw [render, List.map_singleton, String.join_cons, String.join_nil, String.append_empty]
  rfl

theorem render_argument (a : Arg) : render [argument a] = .bind a := by
  rw [render, List.map_singleton, String.join_cons, String.join_nil, String.append_empty]
  rfl

theorem render_cons (s : Segment) (ss : List Segment) :
    render (s :: ss) = render [s] ++ render ss :=
  render_append [s] ss

theorem render_intercalate (separator : String) (parts : List (List Segment)) :
    render ([text separator].intercalate parts) =
      Fragment.intercalate separator (parts.map render) := by
  induction parts with
  | nil => exact render_nil
  | cons p ps ih =>
    cases ps with
    | nil => rw [List.intercalate_singleton]; rfl
    | cons q qs =>
      rw [List.intercalate_cons_cons, render_append, render_append, render_text, ih]
      rfl

/-- The texts have no placeholders of their own. -/
def Plain (ss : List Segment) : Prop := ∀ s, text s ∈ ss → '?' ∉ s.toList

theorem plain_nil : Plain [] := fun _ h => nomatch h

theorem plain_text {s : String} (h : '?' ∉ s.toList) : Plain [text s] := by
  intro t ht
  obtain rfl := Segment.text.inj (List.mem_singleton.1 ht)
  exact h

theorem plain_argument (a : Arg) : Plain [argument a] := by
  intro t ht
  cases List.mem_singleton.1 ht

theorem plain_append_iff {ss ts : List Segment} : Plain (ss ++ ts) ↔ Plain ss ∧ Plain ts := by
  simp only [Plain, List.mem_append, or_imp, forall_and]

theorem plain_intercalate {separator : String} (hs : '?' ∉ separator.toList)
    {parts : List (List Segment)} (h : ∀ p ∈ parts, Plain p) :
    Plain ([text separator].intercalate parts) := by
  induction parts with
  | nil => exact plain_nil
  | cons p ps ih =>
    obtain ⟨hp, hps⟩ := List.forall_mem_cons.1 h
    cases ps with
    | nil => rwa [List.intercalate_singleton]
    | cons q qs =>
      rw [List.intercalate_cons_cons, plain_append_iff, plain_append_iff]
      exact ⟨⟨hp, plain_text hs⟩, ih hps⟩

theorem Plain.balanced_render {ss : List Segment} (h : Plain ss) : Balanced (render ss) := by
  induction ss with
  | nil => exact render_nil ▸ balanced_empty
  | cons s ss ih =>
    rw [render_cons]
    obtain ⟨hs, hss⟩ := plain_append_iff.1 (show Plain ([s] ++ ss) from h)
    refine Balanced.append ?_ (ih hss)
    cases s with
    | text s =>
      rw [render_text]
      exact balanced_text (marks_eq_zero_iff.2 (hs s (List.mem_singleton_self _)))
    | argument a => exact render_argument a ▸ balanced_bind a

/-- A placeholder in the text is that of an argument, since the texts have none. -/
theorem Plain.exists_argument {ss : List Segment} (h : Plain ss) {before after : List Char}
    (heq : (render ss).sql.toList = before ++ '?' :: after) :
    ∃ earlier a later, ss = earlier ++ argument a :: later ∧
      (render earlier).sql.toList = before ∧ (render later).sql.toList = after := by
  induction ss generalizing before with
  | nil => simp [render_nil] at heq
  | cons s ss ih =>
    obtain ⟨hs, hss⟩ := plain_append_iff.1 (show Plain ([s] ++ ss) from h)
    rw [render_cons, sql_append, String.toList_append] at heq
    cases s with
    | text s =>
      have hmarks : '?' ∉ s.toList := hs s (List.mem_singleton_self _)
      rw [render_text, sql_text] at heq
      -- the placeholder is not in the text, so it comes after it
      obtain ⟨rest, rfl, hrest⟩ : ∃ rest, before = s.toList ++ rest ∧
          (render ss).sql.toList = rest ++ '?' :: after := by
        rcases List.append_eq_append_iff.1 heq with h | ⟨rest, htext, hrest⟩
        · exact h
        · rcases List.cons_eq_append_iff.1 hrest with ⟨rfl, h⟩ | ⟨rest, rfl, -⟩
          · exact ⟨[], by simpa using htext.symm, h⟩
          · exact absurd (htext ▸ List.mem_append_right _ List.mem_cons_self) hmarks
      obtain ⟨earlier, a, later, rfl, rfl, rfl⟩ := ih hss hrest
      refine ⟨text s :: earlier, a, later, rfl, ?_, rfl⟩
      rw [render_cons, render_text, sql_append, sql_text, String.toList_append]
    | argument b =>
      rw [render_argument, sql_bind] at heq
      cases before with
      | nil =>
        obtain ⟨-, rfl⟩ := List.cons.inj heq
        exact ⟨[], b, ss, rfl, by simp [render_nil], rfl⟩
      | cons c cs =>
        obtain ⟨rfl, hrest⟩ := List.cons.inj heq
        obtain ⟨earlier, a, later, rfl, rfl, rfl⟩ := ih hss hrest
        refine ⟨argument b :: earlier, a, later, rfl, ?_, rfl⟩
        rw [render_cons, render_argument, sql_append, sql_bind, String.toList_append]
        rfl

private theorem render_bindList (as : List Arg) :
    render ([text ","].intercalate (as.map fun a => [argument a])) = .bindList as := by
  rw [render_intercalate, List.map_map, bindList_eq_intercalate]
  exact congrArg _ (List.map_congr_left fun a _ => render_argument a)

end Segment

namespace Step

open Fragment.Segment (render)

mutual

/-- The segments of a step, from left to right. -/
def segments : Step → List Segment
  | push s => [.text s]
  | bind a => [.argument a]
  | bindList as => [.text ","].intercalate (as.map fun a => [.argument a])
  | append steps => allSegments steps
  | join parts separator =>
    [.text "("] ++ [.text separator].intercalate (segmentsOfEach parts) ++ [.text ")"]

def allSegments : List Step → List Segment
  | [] => []
  | s :: ss => s.segments ++ allSegments ss

def segmentsOfEach : List (List Step) → List (List Segment)
  | [] => []
  | p :: ps => allSegments p :: segmentsOfEach ps

end

mutual

/-- No placeholder is pushed as text, and none stands in a separator. -/
def Plain : Step → Prop
  | push s => '?' ∉ s.toList
  | bind _ | bindList _ => True
  | append steps => AllPlain steps
  | join parts separator => '?' ∉ separator.toList ∧ EachPlain parts

def AllPlain : List Step → Prop
  | [] => True
  | s :: ss => s.Plain ∧ AllPlain ss

def EachPlain : List (List Step) → Prop
  | [] => True
  | p :: ps => AllPlain p ∧ EachPlain ps

end

theorem allSegments_append (ss ts : List Step) :
    allSegments (ss ++ ts) = allSegments ss ++ allSegments ts := by
  induction ss with
  | nil => rfl
  | cons s ss ih => rw [List.cons_append, allSegments, allSegments, ih, List.append_assoc]

private theorem allPlain_append_iff {ss ts : List Step} :
    AllPlain (ss ++ ts) ↔ AllPlain ss ∧ AllPlain ts := by
  induction ss with
  | nil => simp [AllPlain]
  | cons s ss ih => rw [List.cons_append, AllPlain, AllPlain, ih, and_assoc]

mutual

/-- A step writes its segments after what there is, by induction on the steps in it. -/
theorem extend_eq : ∀ (s : Step) (f : Fragment), s.extend f = f ++ render s.segments
  | push s, f => by rw [extend, segments, Segment.render_text]
  | bind a, f => by rw [extend, segments, Segment.render_argument]
  | bindList as, f => by rw [extend, segments, Segment.render_bindList]
  | append steps, f => by rw [extend, segments, extendAll_eq steps, empty_append]
  | join parts separator, f => by
    rw [extend, segments, Segment.render_append, Segment.render_append,
      Segment.render_intercalate, Segment.render_text, Segment.render_text, assembleEach_eq parts,
      joinParenthesized]

theorem extendAll_eq : ∀ (ss : List Step) (f : Fragment),
    extendAll ss f = f ++ render (allSegments ss)
  | [], f => by rw [extendAll, allSegments, Segment.render_nil, append_empty]
  | s :: ss, f => by
    rw [extendAll, allSegments, extendAll_eq ss, extend_eq s, Segment.render_append, append_assoc]

theorem assembleEach_eq : ∀ ps : List (List Step),
    assembleEach ps = (segmentsOfEach ps).map render
  | [] => rfl
  | p :: ps => by
    rw [assembleEach, segmentsOfEach, List.map_cons, extendAll_eq p, assembleEach_eq ps,
      empty_append]

end

theorem assemble_eq (steps : List Step) : assemble steps = render (allSegments steps) := by
  rw [assemble, extendAll_eq, empty_append]

mutual

theorem Plain.segments : ∀ {s : Step}, s.Plain → Segment.Plain s.segments
  | push _, h => Segment.plain_text h
  | bind a, _ => Segment.plain_argument a
  | bindList as, _ => Segment.plain_intercalate (by decide) fun p hp => by
    obtain ⟨a, -, rfl⟩ := List.mem_map.1 hp
    exact Segment.plain_argument a
  | append _, h => AllPlain.segments h
  | join _ _, h => Segment.plain_append_iff.2 ⟨Segment.plain_append_iff.2
    ⟨Segment.plain_text (by decide), Segment.plain_intercalate h.1 (EachPlain.segments h.2)⟩,
      Segment.plain_text (by decide)⟩

theorem AllPlain.segments : ∀ {ss : List Step}, AllPlain ss → Segment.Plain (allSegments ss)
  | [], _ => Segment.plain_nil
  | _ :: _, h => Segment.plain_append_iff.2 ⟨Plain.segments h.1, AllPlain.segments h.2⟩

theorem EachPlain.segments : ∀ {ps : List (List Step)}, EachPlain ps →
    ∀ p ∈ segmentsOfEach ps, Segment.Plain p
  | [], _ => fun _ hp => nomatch hp
  | _ :: _, h => List.forall_mem_cons.2 ⟨AllPlain.segments h.1, EachPlain.segments h.2⟩

end

/-- A step that appends can be replaced by what it appends. -/
theorem assemble_unnest (before inner after : List Step) :
    assemble (before ++ (inner ++ after)) = assemble (before ++ .append inner :: after) := by
  rw [assemble_eq, assemble_eq]
  simp only [allSegments_append, allSegments, segments]

/-- The k-th argument is bound where the k-th placeholder stands. -/
theorem place_iff {ss : List Segment} (h : Segment.Plain ss) (before after : List Char) (a : Arg) :
    ((render ss).sql.toList = before ++ '?' :: after ∧
        (render ss).args[before.count '?']? = some a) ↔
      ∃ earlier later, ss = earlier ++ .argument a :: later ∧
        (render earlier).sql.toList = before ∧ (render later).sql.toList = after := by
  -- the argument between two lists of segments comes after those of the first
  have hplace (earlier later : List Segment) (b : Arg)
      (hss : ss = earlier ++ .argument b :: later) :
      (render ss).args[(render earlier).sql.toList.count '?']? = some b := by
    have hearlier : Segment.Plain earlier := (Segment.plain_append_iff.1 (hss ▸ h)).1
    have hcount : (render earlier).sql.toList.count '?' = (render earlier).args.length :=
      hearlier.balanced_render
    rw [hcount, hss, Segment.render_append, Segment.render_cons, Segment.render_argument]
    simp
  constructor
  · rintro ⟨hsql, harg⟩
    obtain ⟨earlier, b, later, hss, rfl, rfl⟩ := h.exists_argument hsql
    rw [hplace earlier later b hss, Option.some_inj] at harg
    exact ⟨earlier, later, harg ▸ hss, rfl, rfl⟩
  · rintro ⟨earlier, later, hss, rfl, rfl⟩
    refine ⟨?_, hplace earlier later a hss⟩
    rw [hss, Segment.render_append, Segment.render_cons, Segment.render_argument]
    simp

/-- Text and arguments of what the steps assemble agree, at each of its places and after each of
the steps. -/
structure Lockstep (steps : List Step) : Prop where
  renders : assemble steps = render (allSegments steps)
  /-- It matters which segments there are, not how they were appended. -/
  regroups : ∀ others, allSegments others = allSegments steps → assemble others = assemble steps
  unnests : ∀ before inner after, steps = before ++ .append inner :: after →
    assemble (before ++ (inner ++ after)) = assemble steps
  balanced : ∀ done rest, steps = done ++ rest →
    extendAll rest (assemble done) = assemble steps ∧ Balanced (assemble done)
  places : ∀ before after a,
    ((assemble steps).sql.toList = before ++ '?' :: after ∧
        (assemble steps).args[before.count '?']? = some a) ↔
      ∃ earlier later, allSegments steps = earlier ++ .argument a :: later ∧
        (render earlier).sql.toList = before ∧ (render later).sql.toList = after

theorem assemble_lockstep {steps : List Step} (h : AllPlain steps) : Lockstep steps where
  renders := assemble_eq steps
  regroups others heq := by rw [assemble_eq, assemble_eq, heq]
  unnests before inner after heq := heq ▸ assemble_unnest before inner after
  balanced done rest heq := by
    subst heq
    obtain ⟨hdone, -⟩ := allPlain_append_iff.1 h
    exact ⟨(extendAll_append done rest .empty).symm,
      assemble_eq done ▸ hdone.segments.balanced_render⟩
  places := assemble_eq steps ▸ place_iff h.segments

/-- A list in a nested fragment, and a join with an empty part. -/
def sampleSteps : List Step :=
  [.push "a = ", .bind (.int 1), .append [.push " AND b IN (", .bindList [.int 2, .int 3],
    .push ")"], .push " OR ", .join [[.push "c = ", .bind (.int 4)], [], [.bindList []]] " AND "]

theorem assemble_lockstep_sample : AllPlain sampleSteps ∧ Lockstep sampleSteps ∧
    assemble sampleSteps = ⟨"a = ? AND b IN (?,?) OR (c = ? AND  AND )",
      [.int 1, .int 2, .int 3, .int 4]⟩ := by
  have hplain : AllPlain sampleSteps := by
    simp only [sampleSteps, AllPlain, Plain, EachPlain, and_true, true_and]
    decide
  exact ⟨hplain, assemble_lockstep hplain, by rfl⟩

end Step
end MetricsView.Fragment
