import MetricsView.Proofs.Query.Outcome
import MetricsView.Proofs.Sql.Grammar

/-! # How fragments read

A fragment spells tokens when they are what it contributes to any text that it stands in, with its
own arguments in the places of its placeholders. Tokens are thus found piece by piece. Where things
are written one after the other, each must be told apart from what follows it. A way of writing
things is legible if that can be done: two things are written alike, each with a rest that may
follow, only if they are the same thing. -/
namespace MetricsView

open Sql

namespace Sql

theorem supply_cons {t : Token} (ht : t ≠ .placeholder) (ts : List Token) (as : List Arg) :
    supply (t :: ts) as = (supply ts as).map (t :: ·) := by
  cases t with
  | placeholder => exact absurd rfl ht
  | _ => cases as <;> rfl

private theorem supply_append {ts : List Token} (hts : .placeholder ∉ ts) (us : List Token)
    (as : List Arg) : supply (ts ++ us) as = (supply us as).map (ts ++ ·) := by
  induction ts with
  | nil => exact Option.map_id'.symm
  | cons t ts ih =>
    rw [List.mem_cons, not_or] at hts
    obtain ⟨ht, hts⟩ := hts
    rw [List.cons_append, supply_cons (Ne.symm ht), ih hts, Option.map_map]
    rfl

private theorem Token.ofWord_ne_placeholder (w : List Char) : Token.ofWord w ≠ .placeholder := by
  unfold Token.ofWord
  split
  · simp
  · split_ifs <;> simp

/-- The texts that begin, and not with a word. -/
def Breaks (cs : List Char) : Prop := cs.head?.any fun c => !isWordChar c

instance (cs : List Char) : Decidable (Breaks cs) := inferInstanceAs (Decidable (_ = true))

theorem Breaks.append {cs : List Char} (h : Breaks cs) (ds : List Char) : Breaks (cs ++ ds) := by
  cases cs with
  | nil => cases h
  | cons c cs => exact h

theorem Breaks.boundary_append {cs : List Char} (h : Breaks cs) (ds : List Char) :
    Boundary (cs ++ ds) := by
  cases cs with
  | nil => cases h
  | cons c cs => exact boundary_cons (by simpa [Breaks] using h) _

/-- A name is a word that is neither a number nor reserved. -/
def IsPlain (name : String) : Prop :=
  name.toList.all isWordChar ∧ name.toList.head?.any (fun c => !c.isDigit) ∧
    keyword? name.toList = none

instance (name : String) : Decidable (IsPlain name) := inferInstanceAs (Decidable (_ ∧ _))

theorem IsPlain.ofWord {name : String} (h : IsPlain name) :
    Token.ofWord name.toList = .name name := by
  obtain ⟨-, hstart, hkeyword⟩ := h
  unfold Token.ofWord
  cases hname : name.toList with
  | nil => simp [hname] at hstart
  | cons c cs =>
    have hc : c.isDigit = false := by simpa [hname] using hstart
    rw [← hname, hkeyword]
    simp [hname, hc, ← String.toList_inj]

end Sql

namespace Fragment

/-- Before anything that no word of it runs on into. -/
def Spells (f : Fragment) (ts : List Token) : Prop :=
  ∀ cs as, Boundary cs →
    boundTokens (f.sql.toList ++ cs) (f.args ++ as) = (boundTokens cs as).map (ts ++ ·)

/-- Before anything at all. -/
def Closed (f : Fragment) (ts : List Token) : Prop :=
  ∀ cs as, boundTokens (f.sql.toList ++ cs) (f.args ++ as) = (boundTokens cs as).map (ts ++ ·)

theorem text_append (s t : String) : text (s ++ t) = text s ++ text t := rfl

theorem boundary_text_append {s : String} (hb : Breaks s.toList) (f : Fragment) :
    Boundary (text s ++ f).sql.toList := by
  rw [sql_append, sql_text, String.toList_append]
  exact hb.boundary_append _

theorem Closed.spells {f : Fragment} {ts : List Token} (h : f.Closed ts) : f.Spells ts :=
  fun cs as _ => h cs as

variable {f g : Fragment} {ts us : List Token}

private theorem boundTokens_append (cs : List Char) (as : List Arg) :
    boundTokens ((f ++ g).sql.toList ++ cs) ((f ++ g).args ++ as) =
      boundTokens (f.sql.toList ++ (g.sql.toList ++ cs)) (f.args ++ (g.args ++ as)) := by
  rw [sql_append, args_append, String.toList_append, List.append_assoc, List.append_assoc]

private theorem map_append_append (o : Option (List Token)) :
    (o.map (us ++ ·)).map (ts ++ ·) = o.map (ts ++ us ++ ·) := by
  rw [Option.map_map]
  exact congrArg (Option.map · o) (funext fun _ => (List.append_assoc _ _ _).symm)

theorem Closed.append (hf : f.Closed ts) (hg : g.Closed us) : (f ++ g).Closed (ts ++ us) := by
  intro cs as
  rw [boundTokens_append, hf, hg, map_append_append]

theorem Closed.append_spells (hf : f.Closed ts) (hg : g.Spells us) :
    (f ++ g).Spells (ts ++ us) := by
  intro cs as hcs
  rw [boundTokens_append, hf, hg cs as hcs, map_append_append]

theorem Spells.append (hf : f.Spells ts) (hg : g.Spells us) (hb : Boundary g.sql.toList) :
    (f ++ g).Spells (ts ++ us) := by
  intro cs as hcs
  rw [boundTokens_append, hf _ _ (hb.append hcs), hg cs as hcs, map_append_append]

theorem Spells.append_closed (hf : f.Spells ts) (hg : g.Closed us) (hb : Breaks g.sql.toList) :
    (f ++ g).Closed (ts ++ us) := by
  intro cs as
  rw [boundTokens_append, hf _ _ (hb.boundary_append cs), hg cs as, map_append_append]

theorem closed_text {s : String} (h : ∀ cs, tokens (s.toList ++ cs) = ts ++ tokens cs)
    (hts : .placeholder ∉ ts) : (text s).Closed ts := by
  intro cs as
  rw [sql_text, args_text, List.nil_append, boundTokens, h, supply_append hts]
  rfl

theorem closed_empty : empty.Closed [] := fun _ _ => Option.map_id'.symm

theorem closed_bind (a : Arg) : (bind a).Closed [.argument a] := by
  intro cs as
  rw [sql_bind, args_bind]
  rfl

theorem spells_word {w : String} (hne : w.toList ≠ []) (hw : w.toList.all isWordChar) :
    (text w).Spells [.ofWord w.toList] := by
  intro cs as hcs
  rw [sql_text, args_text, List.nil_append, boundTokens,
    tokens_word_append hne (List.all_eq_true.1 hw) hcs, supply_cons (Token.ofWord_ne_placeholder _)]
  rfl

theorem spells_keyword {w : String} {k : Keyword} (hk : keyword? w.toList = some k)
    (hne : w.toList ≠ []) (hw : w.toList.all isWordChar) : (text w).Spells [.keyword k] := by
  have hword : Token.ofWord w.toList = .keyword k := by
    rw [Token.ofWord, hk]
  rw [← hword]
  exact spells_word hne hw

theorem spells_name {name : String} (h : IsPlain name) : (text name).Spells [.name name] := by
  have hne : name.toList ≠ [] := by
    intro hnil
    simp [IsPlain, hnil] at h
  rw [← h.ofWord]
  exact spells_word hne h.1

/-- A text after a name. -/
theorem spells_name_append {name : String} (h : IsPlain name) (hg : g.Spells us)
    (hb : Boundary g.sql.toList) : (text name ++ g).Spells (.name name :: us) :=
  (spells_name h).append hg hb

/-- The fragment reads as the expression, whatever follows. -/
def Denotes (l : Precedence) (f : Fragment) (e : Expr) : Prop :=
  ∃ ts, f.Spells ts ∧ ∀ us, Reads l (ts ++ us) e us

/-- The fragment goes on with these conjuncts, each after AND. -/
def Extends (f : Fragment) (es : List Expr) : Prop :=
  ∃ ts, f.Spells ts ∧ Boundary f.sql.toList ∧ ∀ us, ReadsConjuncts (ts ++ us) es us

theorem closed_and : (text " AND ").Closed [.keyword .and] := by
  refine closed_text (fun _ => ?_) (by simp)
  rfl

private theorem closed_or : (text " OR ").Closed [.keyword .or] := by
  refine closed_text (fun _ => ?_) (by simp)
  rfl

private theorem closed_leftParen : (text "(").Closed [.leftParen] := by
  refine closed_text (fun _ => ?_) (by simp)
  rfl

theorem closed_rightParen : (text ")").Closed [.rightParen] := by
  refine closed_text (fun _ => ?_) (by simp)
  rfl

theorem closed_comma : (text ",").Closed [.comma] := by
  refine closed_text (fun _ => ?_) (by simp)
  rfl

theorem closed_blank : (text " ").Closed [] := by
  refine closed_text (fun _ => ?_) (by simp)
  rfl

namespace Denotes

variable {a b e : Expr}

theorem conjunction (h : Denotes .factor f e) : Denotes .conjunction f e := by
  obtain ⟨ts, hs, hr⟩ := h
  exact ⟨ts, hs, fun us => .factor (hr us)⟩

theorem disjunction (h : Denotes .conjunction f e) : Denotes .disjunction f e := by
  obtain ⟨ts, hs, hr⟩ := h
  exact ⟨ts, hs, fun us => .conjunction (hr us)⟩

theorem and (hf : Denotes .factor f a) (hg : Denotes .conjunction g b) :
    Denotes .conjunction (f ++ text " AND " ++ g) (a.and b) := by
  obtain ⟨ts, hs, hr⟩ := hf
  obtain ⟨us, hs', hr'⟩ := hg
  refine ⟨_, (hs.append_closed closed_and (by decide)).append_spells hs', ?_⟩
  intro vs
  rw [List.append_assoc, List.append_assoc]
  exact .and (hr _) (hr' vs)

theorem or (hf : Denotes .conjunction f a) (hg : Denotes .disjunction g b) :
    Denotes .disjunction (f ++ text " OR " ++ g) (a.or b) := by
  obtain ⟨ts, hs, hr⟩ := hf
  obtain ⟨us, hs', hr'⟩ := hg
  refine ⟨_, (hs.append_closed closed_or (by decide)).append_spells hs', ?_⟩
  intro vs
  rw [List.append_assoc, List.append_assoc]
  exact .or (hr _) (hr' vs)

theorem group (h : Denotes .disjunction f e) : Denotes .factor (text "(" ++ f ++ text ")") e := by
  obtain ⟨ts, hs, hr⟩ := h
  have hclosed := (closed_leftParen.append_spells hs).append_closed closed_rightParen (by decide)
  refine ⟨_, hclosed.spells, fun us => ?_⟩
  rw [List.append_assoc, List.append_assoc]
  exact .group (hr _)

theorem conjoin {fs : List Fragment} {es : List Expr} (hf : Denotes .factor f e)
    (h : List.Forall₂ (Denotes .factor) fs es) :
    Denotes .conjunction (intercalate " AND " (f :: fs)) (.conjoin e es) := by
  induction h generalizing f e with
  | nil => exact hf.conjunction
  | cons hhead _ ih => exact hf.and (ih hhead)

theorem disjoin {fs : List Fragment} {es : List Expr} (hf : Denotes .factor f e)
    (h : List.Forall₂ (Denotes .factor) fs es) :
    Denotes .disjunction (intercalate " OR " (f :: fs)) (.disjoin e es) := by
  induction h generalizing f e with
  | nil => exact hf.conjunction.disjunction
  | cons hhead _ ih => exact hf.conjunction.or (ih hhead)

end Denotes

namespace Extends

variable {e : Expr} {es fs : List Expr}

theorem empty : Extends empty [] := ⟨[], closed_empty.spells, boundary_nil, fun _ => .nil⟩

theorem and (h : Denotes .factor f e) : Extends (text " AND " ++ f) [e] := by
  obtain ⟨ts, hs, hr⟩ := h
  exact ⟨_, closed_and.append_spells hs, boundary_text_append (by decide) _,
    fun us => .cons (hr us) .nil⟩

theorem append (hf : Extends f es) (hg : Extends g fs) : Extends (f ++ g) (es ++ fs) := by
  obtain ⟨ts, hs, hb, hr⟩ := hf
  obtain ⟨us, hs', hb', hr'⟩ := hg
  refine ⟨_, hs.append hs' hb', ?_, fun vs => ?_⟩
  · rw [sql_append, String.toList_append]
    exact hb.append hb'
  · rw [List.append_assoc]
    exact (hr _).append (hr' vs)

theorem blank (h : Extends f es) : Extends (text " " ++ f) es := by
  obtain ⟨ts, hs, -, hr⟩ := h
  exact ⟨ts, closed_blank.append_spells hs, boundary_text_append (by decide) _, hr⟩

/-- A condition and its further conjuncts. -/
theorem denotes (hg : Extends g es) (hf : Denotes .factor f e) :
    Denotes .conjunction (f ++ g) (.conjoin e es) := by
  obtain ⟨ts, hs, hr⟩ := hf
  obtain ⟨us, hs', hb, hr'⟩ := hg
  refine ⟨_, hs.append hs' hb, fun vs => ?_⟩
  rw [List.append_assoc]
  exact (hr _).conjoin (hr' vs)

end Extends
end Fragment

/-- Characters of words and nothing else. -/
def Sql.IsWord (name : String) : Prop := name ≠ "" ∧ name.toList.all isWordChar

instance (name : String) : Decidable (Sql.IsWord name) := inferInstanceAs (Decidable (_ ∧ _))

namespace Fragment

open Sql

variable {f g x y : Fragment} {s t : String}

theorem eq_iff : f = g ↔ f.sql = g.sql ∧ f.args = g.args := by
  cases f
  cases g
  exact Iff.of_eq (Fragment.mk.injEq ..)

theorem append_left_cancel (h : f ++ x = f ++ y) : x = y := by
  obtain ⟨hsql, hargs⟩ := eq_iff.1 h
  exact eq_iff.2 ⟨(String.append_right_inj _).1 hsql, List.append_cancel_left hargs⟩

theorem append_eq_empty_iff : f ++ g = empty ↔ f = empty ∧ g = empty := by
  simp only [eq_iff, sql_append, args_append, sql_empty, args_empty, String.append_eq_empty_iff,
    List.append_eq_nil_iff]
  exact and_and_and_comm

/-- The text begins like this. -/
def Opens (s : String) (f : Fragment) : Prop := s.toList <+: f.sql.toList

instance (s : String) (f : Fragment) : Decidable (Opens s f) :=
  inferInstanceAs (Decidable (_ <+: _))

theorem opens_text_append (s : String) (f : Fragment) : Opens s (text s ++ f) := by
  rw [Opens, sql_append, sql_text, String.toList_append]
  exact List.prefix_append _ _

/-- Of two beginnings of one text, one is the beginning of the other. -/
theorem Opens.comparable (hs : Opens s f) (ht : Opens t f) :
    s.toList <+: t.toList ∨ t.toList <+: s.toList := List.prefix_or_prefix_of_prefix hs ht

/-- No text begins in two ways that differ somewhere. -/
theorem Opens.not_opens (hs : Opens s f) (hst : ¬ (s.toList <+: t.toList ∨ t.toList <+: s.toList)) :
    ¬ Opens t f :=
  fun ht => hst (hs.comparable ht)

theorem comparable_of_text_append (h : text s ++ x = text t ++ y) :
    s.toList <+: t.toList ∨ t.toList <+: s.toList :=
  (opens_text_append s x).comparable (h ▸ opens_text_append t y)

theorem Opens.boundary (h : Opens s f) (hs : Breaks s.toList) : Boundary f.sql.toList := by
  obtain ⟨cs, hcs⟩ := h
  rw [← hcs]
  exact hs.boundary_append cs

variable {α : Type} {P : α → Prop} {write : α → Fragment} {Next : Fragment → Prop}

/-- Things for which the same is written, before what may follow them, are the same. -/
def Legible (P : α → Prop) (write : α → Fragment) (Next : Fragment → Prop) : Prop :=
  ∀ ⦃a b x y⦄, P a → P b → Next x → Next y → write a ++ x = write b ++ y → a = b

/-- Then the same follows, too. -/
theorem Legible.eq_and_eq (h : Legible P write Next) {a b : α} (ha : P a) (hb : P b) (hx : Next x)
    (hy : Next y) (heq : write a ++ x = write b ++ y) : a = b ∧ x = y := by
  obtain rfl := h ha hb hx hy heq
  exact ⟨rfl, append_left_cancel heq⟩

theorem legible_bind : Legible (fun _ => True) bind fun _ => True := by
  intro a b x y _ _ _ _ h
  obtain ⟨-, hargs⟩ := eq_iff.1 h
  exact (List.cons.inj hargs).1

private theorem takeWhile_word {v cs : List Char} (hv : ∀ c ∈ v, isWordChar c)
    (hcs : Boundary cs) : (v ++ cs).takeWhile isWordChar = v := by
  have hrest : cs.takeWhile isWordChar = [] := by
    cases cs with
    | nil => rfl
    | cons c cs => exact List.takeWhile_cons_of_neg (by simp [hcs c rfl])
  rw [List.takeWhile_append_of_pos hv, hrest, List.append_nil]

/-- A word goes as far as there are characters of words. -/
theorem legible_word : Legible IsWord text fun x => Boundary x.sql.toList := by
  intro n m x y hn hm hx hy h
  have hsql := congrArg (fun f => f.sql.toList.takeWhile isWordChar) h
  simp only [sql_append, sql_text, String.toList_append] at hsql
  rw [takeWhile_word (List.all_eq_true.1 hn.2) hx, takeWhile_word (List.all_eq_true.1 hm.2) hy]
    at hsql
  exact String.toList_inj.1 hsql

/-- Things with separators between them, up to an end that no separator begins. -/
theorem Legible.intercalate (h : Legible P write Next) {separator : String}
    (hseparator : ∀ f, Next (text separator ++ f)) {End : Fragment → Prop}
    (hend : ∀ x, End x → Next x ∧ ¬ Opens separator x) :
    Legible (fun as => as ≠ [] ∧ ∀ a ∈ as, P a) (fun as => intercalate separator (as.map write))
      End := by
  intro as bs x y ⟨has, hPas⟩ ⟨hbs, hPbs⟩ hx hy heq
  induction as generalizing bs with
  | nil => exact absurd rfl has
  | cons a as ih =>
    cases bs with
    | nil => exact absurd rfl hbs
    | cons b bs =>
      obtain ⟨ha, hPas⟩ := List.forall_mem_cons.1 hPas
      obtain ⟨hb, hPbs⟩ := List.forall_mem_cons.1 hPbs
      have hmore (c d : α) (cs : List α) (z : Fragment) :
          Fragment.intercalate separator ((c :: d :: cs).map write) ++ z =
            write c ++ (text separator ++
              (Fragment.intercalate separator ((d :: cs).map write) ++ z)) := by
        rw [List.map_cons, List.map_cons, intercalate_cons_cons, Fragment.append_assoc,
          Fragment.append_assoc]
      cases as with
      | nil =>
        cases bs with
        | nil => rw [h ha hb (hend x hx).1 (hend y hy).1 heq]
        | cons b' bs =>
          -- A separator would be the end of the first list.
          simp only [hmore] at heq
          obtain ⟨-, rfl⟩ := h.eq_and_eq ha hb (hend x hx).1 (hseparator _) heq
          exact absurd (opens_text_append _ _) (hend _ hx).2
      | cons a' as =>
        cases bs with
        | nil =>
          simp only [hmore] at heq
          obtain ⟨-, rfl⟩ := h.eq_and_eq ha hb (hseparator _) (hend y hy).1 heq
          exact absurd (opens_text_append _ _) (hend _ hy).2
        | cons b' bs =>
          simp only [hmore] at heq
          obtain ⟨hab, hrest⟩ := h.eq_and_eq ha hb (hseparator _) (hseparator _) heq
          have htail := ih (List.cons_ne_nil _ _) hPas (List.cons_ne_nil _ _) hPbs
            (append_left_cancel hrest)
          rw [hab, htail]

end Fragment
end MetricsView
