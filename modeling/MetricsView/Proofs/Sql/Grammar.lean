import MetricsView.Proofs.Sql.Expression

/-! # The grammar of conditions

Each relation says what stands at the beginning of the tokens and what follows it. Parentheses
group, negation binds tighter than AND, and AND tighter than OR. -/
namespace MetricsView.Sql

inductive ReadsOperand : List Token → Operand → List Token → Prop where
  | column {name us} : ReadsOperand (.name name :: us) (.column name) us
  | number {n us} : ReadsOperand (.number n :: us) (.number n) us
  | argument {a us} : ReadsOperand (.argument a :: us) (.argument a) us
  | call {name o ts us} (operand : ReadsOperand ts o (.rightParen :: us)) :
      ReadsOperand (.name name :: .leftParen :: ts) (.call name o) us

/-- One or more operands, separated by commas. -/
inductive ReadsOperands : List Token → List Operand → List Token → Prop where
  | single {o ts us} (operand : ReadsOperand ts o us) : ReadsOperands ts [o] us
  | cons {o os ts us vs} (operand : ReadsOperand ts o (.comma :: us))
      (operands : ReadsOperands us os vs) : ReadsOperands ts (o :: os) vs

/-- What is said of an operand, and whether it is negated. -/
inductive ReadsTest : List Token → Bool → Test → List Token → Prop where
  | compare {op o ts us} (right : ReadsOperand ts o us) :
      ReadsTest (.comparison op :: ts) false (.compare op o) us
  | oneOf {os ts us} (choices : ReadsOperands ts os (.rightParen :: us)) :
      ReadsTest (.keyword .«in» :: .leftParen :: ts) false (.oneOf os) us
  | notOneOf {os ts us} (choices : ReadsOperands ts os (.rightParen :: us)) :
      ReadsTest (.keyword .not :: .keyword .«in» :: .leftParen :: ts) true (.oneOf os) us
  | isNull {us} : ReadsTest (.keyword .is :: .keyword .null :: us) false .isNull us
  | isNotNull {us} :
      ReadsTest (.keyword .is :: .keyword .not :: .keyword .null :: us) true .isNull us
  | ilike {o ts us} (pattern : ReadsOperand ts o us) :
      ReadsTest (.keyword .ilike :: ts) false (.ilike o) us
  | notIlike {o ts us} (pattern : ReadsOperand ts o us) :
      ReadsTest (.keyword .not :: .keyword .ilike :: ts) true (.ilike o) us

/-- From what binds tightest to what binds loosest. -/
inductive Precedence where
  | factor | conjunction | disjunction

inductive Reads : Precedence → List Token → Expr → List Token → Prop where
  | test {o negated t ts us vs} (left : ReadsOperand ts o us) (test : ReadsTest us negated t vs) :
      Reads .factor ts (.test o negated t) vs
  | not {e ts us} (body : Reads .factor ts e us) : Reads .factor (.keyword .not :: ts) (.not e) us
  | group {e ts us} (body : Reads .disjunction ts e (.rightParen :: us)) :
      Reads .factor (.leftParen :: ts) e us
  | factor {e ts us} (body : Reads .factor ts e us) : Reads .conjunction ts e us
  | and {a b ts us vs} (left : Reads .factor ts a (.keyword .and :: us))
      (right : Reads .conjunction us b vs) : Reads .conjunction ts (.and a b) vs
  | conjunction {e ts us} (body : Reads .conjunction ts e us) : Reads .disjunction ts e us
  | or {a b ts us vs} (left : Reads .conjunction ts a (.keyword .or :: us))
      (right : Reads .disjunction us b vs) : Reads .disjunction ts (.or a b) vs

/-- The tokens do not go on with an operand, nor with the connectives of the level. -/
def Precedence.Ends : Precedence → List Token → Prop
  | factor, us => us.head? ≠ some .leftParen
  | conjunction, us => us.head? ≠ some .leftParen ∧ us.head? ≠ some (.keyword .and)
  | disjunction, us => us.head? ≠ some .leftParen ∧ us.head? ≠ some (.keyword .and) ∧
      us.head? ≠ some (.keyword .or)

theorem ReadsOperand.unique {ts us vs : List Token} {o p : Operand} (h : ReadsOperand ts o us)
    (k : ReadsOperand ts p vs) (hu : us.head? ≠ some .leftParen) (hv : vs.head? ≠ some .leftParen) :
    o = p ∧ us = vs := by
  induction h generalizing p vs with
  | column =>
    cases k with
    | column => exact ⟨rfl, rfl⟩
    | call => exact absurd rfl hu
  | number =>
    cases k
    exact ⟨rfl, rfl⟩
  | argument =>
    cases k
    exact ⟨rfl, rfl⟩
  | call _ ih =>
    cases k with
    | column => exact absurd rfl hv
    | call operand =>
      obtain ⟨rfl, h⟩ := ih operand (by simp) (by simp)
      obtain ⟨-, rfl⟩ := List.cons.inj h
      exact ⟨rfl, rfl⟩

theorem ReadsOperands.unique {ts us vs : List Token} {os ps : List Operand}
    (h : ReadsOperands ts os (.rightParen :: us)) (k : ReadsOperands ts ps (.rightParen :: vs)) :
    os = ps ∧ us = vs := by
  generalize hus : Token.rightParen :: us = us' at h
  induction h generalizing ps with
  | single operand =>
    subst hus
    cases k with
    | single operand' =>
      obtain ⟨rfl, h⟩ := operand.unique operand' (by simp) (by simp)
      obtain ⟨-, rfl⟩ := List.cons.inj h
      exact ⟨rfl, rfl⟩
    | cons operand' _ =>
      obtain ⟨-, h⟩ := operand.unique operand' (by simp) (by simp)
      cases h
  | cons operand operands ih =>
    cases k with
    | single operand' =>
      obtain ⟨-, h⟩ := operand.unique operand' (by simp) (by simp)
      cases h
    | cons operand' operands' =>
      obtain ⟨rfl, h⟩ := operand.unique operand' (by simp) (by simp)
      obtain ⟨-, rfl⟩ := List.cons.inj h
      obtain ⟨rfl, rfl⟩ := ih operands' hus
      exact ⟨rfl, rfl⟩

theorem ReadsTest.unique {ts us vs : List Token} {m n : Bool} {t u : Test} (h : ReadsTest ts m t us)
    (k : ReadsTest ts n u vs) (hu : us.head? ≠ some .leftParen) (hv : vs.head? ≠ some .leftParen) :
    m = n ∧ t = u ∧ us = vs := by
  cases h with
  | compare right =>
    cases k with
    | compare right' =>
      obtain ⟨rfl, rfl⟩ := right.unique right' hu hv
      exact ⟨rfl, rfl, rfl⟩
  | oneOf choices =>
    cases k with
    | oneOf choices' =>
      obtain ⟨rfl, rfl⟩ := choices.unique choices'
      exact ⟨rfl, rfl, rfl⟩
  | notOneOf choices =>
    cases k with
    | notOneOf choices' =>
      obtain ⟨rfl, rfl⟩ := choices.unique choices'
      exact ⟨rfl, rfl, rfl⟩
  | isNull =>
    cases k
    exact ⟨rfl, rfl, rfl⟩
  | isNotNull =>
    cases k
    exact ⟨rfl, rfl, rfl⟩
  | ilike pattern =>
    cases k with
    | ilike pattern' =>
      obtain ⟨rfl, rfl⟩ := pattern.unique pattern' hu hv
      exact ⟨rfl, rfl, rfl⟩
  | notIlike pattern =>
    cases k with
    | notIlike pattern' =>
      obtain ⟨rfl, rfl⟩ := pattern.unique pattern' hu hv
      exact ⟨rfl, rfl, rfl⟩

theorem ReadsTest.head?_ne {ts us : List Token} {n : Bool} {t : Test} (h : ReadsTest ts n t us) :
    ts.head? ≠ some .leftParen := by
  cases h <;> simp

theorem Precedence.Ends.factor {l : Precedence} {us : List Token} (h : l.Ends us) :
    Precedence.factor.Ends us := by
  cases l with
  | factor => exact h
  | conjunction | disjunction => exact h.1

theorem Precedence.Ends.conjunction {us : List Token} (h : Precedence.disjunction.Ends us) :
    Precedence.conjunction.Ends us := ⟨h.1, h.2.1⟩

theorem Precedence.ends_rightParen (l : Precedence) (us : List Token) :
    l.Ends (.rightParen :: us) := by
  cases l <;> simp [Precedence.Ends]

theorem Precedence.ends_nil (l : Precedence) : l.Ends [] := by
  cases l <;> simp [Precedence.Ends]

/-- What the tokens begin with is determined as soon as nothing can extend it. -/
theorem Reads.unique {l : Precedence} {ts us vs : List Token} {e f : Expr} (h : Reads l ts e us)
    (k : Reads l ts f vs) (hu : l.Ends us) (hv : l.Ends vs) : e = f ∧ us = vs := by
  induction h generalizing f vs with
  | test left test =>
    cases k with
    | test left' test' =>
      obtain ⟨rfl, rfl⟩ := left.unique left' test.head?_ne test'.head?_ne
      obtain ⟨rfl, rfl, rfl⟩ := test.unique test' hu hv
      exact ⟨rfl, rfl⟩
    | not => cases left
    | group => cases left
  | not _ ih =>
    cases k with
    | test left' => cases left'
    | not body =>
      obtain ⟨rfl, rfl⟩ := ih body hu hv
      exact ⟨rfl, rfl⟩
  | group _ ih =>
    cases k with
    | test left' => cases left'
    | group body =>
      obtain ⟨rfl, h⟩ := ih body (Precedence.ends_rightParen _ _) (Precedence.ends_rightParen _ _)
      obtain ⟨-, rfl⟩ := List.cons.inj h
      exact ⟨rfl, rfl⟩
  | factor _ ih =>
    cases k with
    | factor body => exact ih body hu.factor hv.factor
    | and left =>
      -- A lone factor stops before AND, where the other reading goes on.
      obtain ⟨-, rfl⟩ := ih left hu.factor (by simp [Precedence.Ends])
      exact absurd rfl hu.2
  | and _ _ ihl ihr =>
    cases k with
    | factor body =>
      obtain ⟨-, rfl⟩ := ihl body (by simp [Precedence.Ends]) hv.factor
      exact absurd rfl hv.2
    | and left right =>
      obtain ⟨rfl, h⟩ := ihl left (by simp [Precedence.Ends]) (by simp [Precedence.Ends])
      obtain ⟨-, rfl⟩ := List.cons.inj h
      obtain ⟨rfl, rfl⟩ := ihr right hu hv
      exact ⟨rfl, rfl⟩
  | conjunction _ ih =>
    cases k with
    | conjunction body => exact ih body hu.conjunction hv.conjunction
    | or left =>
      obtain ⟨-, rfl⟩ := ih left hu.conjunction (by simp [Precedence.Ends])
      exact absurd rfl hu.2.2
  | or _ _ ihl ihr =>
    cases k with
    | conjunction body =>
      obtain ⟨-, rfl⟩ := ihl body (by simp [Precedence.Ends]) hv.conjunction
      exact absurd rfl hv.2.2
    | or left right =>
      obtain ⟨rfl, h⟩ := ihl left (by simp [Precedence.Ends]) (by simp [Precedence.Ends])
      obtain ⟨-, rfl⟩ := List.cons.inj h
      obtain ⟨rfl, rfl⟩ := ihr right hu hv
      exact ⟨rfl, rfl⟩

/-- Factors, each after AND. -/
inductive ReadsConjuncts : List Token → List Expr → List Token → Prop where
  | nil {us} : ReadsConjuncts us [] us
  | cons {e es ts us vs} (head : Reads .factor ts e us) (tail : ReadsConjuncts us es vs) :
      ReadsConjuncts (.keyword .and :: ts) (e :: es) vs

theorem ReadsConjuncts.append {ts us vs : List Token} {es fs : List Expr}
    (h : ReadsConjuncts ts es us) (k : ReadsConjuncts us fs vs) :
    ReadsConjuncts ts (es ++ fs) vs := by
  induction h with
  | nil => exact k
  | cons head _ ih => exact .cons head (ih k)

theorem Reads.conjoin {ts us vs : List Token} {e : Expr} {es : List Expr}
    (h : Reads .factor ts e us) (k : ReadsConjuncts us es vs) :
    Reads .conjunction ts (.conjoin e es) vs := by
  induction k generalizing ts e with
  | nil => exact .factor h
  | cons head _ ih => exact .and h (ih head)

def Token.beginsCondition : Token → Bool
  | keyword k => k = .«where»
  | _ => false

/-- The words that begin what stands after a condition. -/
def Token.endsCondition : Token → Bool
  | keyword k => k = .group || k = .order || k = .limit
  | _ => false

/-- The second list is left when tokens of a condition are taken from the first. -/
def Consumes (ts us : List Token) : Prop := ∃ xs, ts = xs ++ us ∧ ∀ t ∈ xs, t.endsCondition = false

namespace Consumes

theorem refl (ts : List Token) : Consumes ts ts := ⟨[], rfl, by simp⟩

theorem cons {t : Token} {ts us : List Token} (ht : t.endsCondition = false) (h : Consumes ts us) :
    Consumes (t :: ts) us := by
  obtain ⟨xs, rfl, hxs⟩ := h
  exact ⟨t :: xs, rfl, List.forall_mem_cons.2 ⟨ht, hxs⟩⟩

theorem trans {ts us vs : List Token} (h : Consumes ts us) (k : Consumes us vs) :
    Consumes ts vs := by
  obtain ⟨xs, rfl, hxs⟩ := h
  obtain ⟨ys, rfl, hys⟩ := k
  refine ⟨xs ++ ys, (List.append_assoc _ _ _).symm, ?_⟩
  exact List.forall_mem_append.2 ⟨hxs, hys⟩

theorem of_cons {t : Token} {ts us : List Token} (ht : t.endsCondition = false)
    (h : Consumes ts (t :: us)) : Consumes ts us := h.trans (.cons ht (.refl us))

end Consumes

theorem ReadsOperand.consumes {ts us : List Token} {o : Operand} (h : ReadsOperand ts o us) :
    Consumes ts us := by
  induction h with
  | column | number | argument => exact .cons rfl (.refl _)
  | call _ ih => exact .cons rfl (.cons rfl (ih.of_cons rfl))

theorem ReadsOperands.consumes {ts us : List Token} {os : List Operand}
    (h : ReadsOperands ts os us) : Consumes ts us := by
  induction h with
  | single operand => exact operand.consumes
  | cons operand _ ih => exact (operand.consumes.of_cons rfl).trans ih

theorem ReadsTest.consumes {ts us : List Token} {n : Bool} {t : Test} (h : ReadsTest ts n t us) :
    Consumes ts us := by
  cases h with
  | compare right => exact .cons rfl right.consumes
  | oneOf choices => exact .cons rfl (.cons rfl (choices.consumes.of_cons rfl))
  | notOneOf choices => exact .cons rfl (.cons rfl (.cons rfl (choices.consumes.of_cons rfl)))
  | isNull => exact .cons rfl (.cons rfl (.refl _))
  | isNotNull => exact .cons rfl (.cons rfl (.cons rfl (.refl _)))
  | ilike pattern => exact .cons rfl pattern.consumes
  | notIlike pattern => exact .cons rfl (.cons rfl pattern.consumes)

theorem Reads.consumes {l : Precedence} {ts us : List Token} {e : Expr} (h : Reads l ts e us) :
    Consumes ts us := by
  induction h with
  | test left test => exact left.consumes.trans test.consumes
  | not _ ih => exact .cons rfl ih
  | group _ ih => exact .cons rfl (ih.of_cons rfl)
  | factor _ ih | conjunction _ ih => exact ih
  | and _ _ ihl ihr | or _ _ ihl ihr => exact (ihl.of_cons rfl).trans ihr

/-- What stands after WHERE, up to the next clause or the end. -/
def condition (ts : List Token) : List Token :=
  ((ts.dropWhile fun t => !t.beginsCondition).drop 1).takeWhile fun t => !t.endsCondition

theorem condition_eq {ps ts us : List Token} (hps : ∀ t ∈ ps, t.beginsCondition = false)
    (hts : Consumes ts []) (hus : ∀ t ∈ us.head?, t.endsCondition = true) :
    condition (ps ++ .keyword .«where» :: (ts ++ us)) = ts := by
  obtain ⟨xs, rfl, hxs⟩ := hts
  have hdrop : (ps ++ Token.keyword .«where» :: (xs ++ [] ++ us)).dropWhile (fun t => !t.beginsCondition)
      = .keyword .«where» :: (xs ++ [] ++ us) := by
    rw [List.dropWhile_append_of_pos (by simpa using hps)]
    rfl
  have htake : us.takeWhile (fun t => !t.endsCondition) = [] := by
    cases us with
    | nil => rfl
    | cons u us => simp [hus u rfl]
  rw [condition, hdrop, List.drop_one, List.tail_cons, List.append_nil,
    List.takeWhile_append_of_pos (by simpa using hxs), htake, List.append_nil]

end MetricsView.Sql
