import Mathlib.Data.List.Forall2
import Declgen.Proofs.Source.Balanced
import Declgen.Source.Parse.Body

/-!
# What parsers read

A parser reads a row of tokens if it takes them, and all of them, off the front. What follows the row counts: a
type ends where a comma, a semicolon, an equals sign or a closing bracket comes next.
-/

namespace Declgen.Source

/-! ## Names -/

namespace Token

/-- A word that is no keyword, or escaped. -/
def isName : Token → Bool
  | .word w raw => raw || !isReserved w
  | _ => false

/-- What a name is called. -/
def spelling : Token → String
  | .word w raw => spelled w raw
  | _ => ""

theorem isName_identifier {name : String} (h : isIdentifier name = true) : (identifier name).isName = true := by
  have hraw : canBeRaw name = true := (Bool.and_eq_true_iff.mp h).2
  unfold canBeRaw at hraw
  cases hkeyword : isKeyword name <;> simp_all [identifier, isName, isReserved]

end Token

namespace Parser

variable {α β : Type}

/-! ## Running a parser -/

@[simp] theorem bind_apply (p : Parser α) (f : α → Parser β) (ts : List Token) :
    (p >>= f) ts = (p ts).bind fun r => f r.1 r.2 := rfl

@[simp] theorem pure_apply (a : α) (ts : List Token) : (pure a : Parser α) ts = some (a, ts) := rfl

@[simp] theorem map_apply (f : α → β) (p : Parser α) (ts : List Token) :
    (f <$> p) ts = (p ts).map fun r => (f r.1, r.2) := by
  cases h : p ts <;> simp [Functor.map, StateT.map, h]

@[simp] theorem orElse_apply (p q : Parser α) (ts : List Token) : (p <|> q) ts = (p ts).or (q ts) := by
  cases h : p ts <;> simp [HOrElse.hOrElse, OrElse.orElse, Alternative.orElse, StateT.orElse, h]

@[simp] theorem seqRight_apply (p : Parser α) (q : Parser β) (ts : List Token) :
    (p *> q) ts = (p ts).bind fun r => q r.2 := rfl

@[simp] theorem accepts_apply (p : Parser α) (ts : List Token) :
    accepts p ts = some ((p ts).isSome, ((p ts).map (·.2)).getD ts) := by
  cases h : p ts <;> simp [accepts, optionally, h]

@[simp] theorem optionally_apply (p : Parser α) (ts : List Token) :
    optionally p ts = some ((p ts).map (·.1), ((p ts).map (·.2)).getD ts) := by
  cases h : p ts <;> simp [optionally, h]

@[simp] theorem ahead_apply (p : Parser α) (ts : List Token) : ahead p ts = some ((p ts).isSome, ts) := rfl

@[simp] theorem lacks_apply (p : Parser α) (ts : List Token) :
    lacks p ts = if (p ts).isSome then none else some ((), ts) := rfl

@[simp] theorem loop_apply (p : List Token → Parser α) (ts : List Token) : loop p ts = p ts ts := rfl

/-- The parser takes `row` off the front of what goes on with `rest`. -/
def Reads (p : Parser α) (row rest : List Token) : Prop := ∃ a, p (row ++ rest) = some (a, rest)

/-- What it reads is as `P` says. -/
def Yields (p : Parser α) (row rest : List Token) (P : α → Prop) : Prop := ∃ a, p (row ++ rest) = some (a, rest) ∧ P a

theorem Yields.reads {p : Parser α} {row rest : List Token} {P : α → Prop} (h : Yields p row rest P) :
    Reads p row rest := by
  obtain ⟨a, ha, -⟩ := h
  exact ⟨a, ha⟩

theorem Reads.yields {p : Parser α} {row rest : List Token} (h : Reads p row rest) :
    Yields p row rest fun _ => True := by
  obtain ⟨a, ha⟩ := h
  exact ⟨a, ha, trivial⟩

section Names

variable {t : Token} (ht : t.isName = true) (rest : List Token)
include ht

theorem keywordOf_of_isName {ws : List String} (hws : ∀ w ∈ ws, isReserved w = true) :
    keywordOf ws (t :: rest) = none := by
  cases t with
  | word w raw =>
    cases raw with
    | true => rfl
    | false =>
      have hw : w ∉ ws := by
        intro hmem
        simp [Token.isName, hws w hmem] at ht
      simp [keywordOf, hw]
  | _ => simp [Token.isName] at ht

theorem keyword_of_isName {w : String} (hw : isReserved w = true) : keyword w (t :: rest) = none := by
  cases t with
  | word name raw =>
    cases raw with
    | true => rfl
    | false =>
      have hne : name ≠ w := by
        rintro rfl
        simp [Token.isName, hw] at ht
      simp [keyword, hne]
  | _ => simp [Token.isName] at ht

theorem name_of_isName : name (t :: rest) = some (t.spelling, rest) := by
  cases t with
  | word w raw => simp_all [name, Token.isName, Token.spelling]
  | _ => simp [Token.isName] at ht

theorem literal_of_isName : literal (t :: rest) = none := by
  cases t with
  | word w raw =>
    cases raw with
    | true => rfl
    | false =>
      have htrue : w ≠ "true" := by
        rintro rfl
        exact absurd ht (by decide)
      have hfalse : w ≠ "false" := by
        rintro rfl
        exact absurd ht (by decide)
      simp [literal, unsigned, htrue, hfalse]
  | _ => simp [Token.isName] at ht

theorem exists_word_of_isName : ∃ w raw, t = .word w raw := by
  cases t with
  | word w raw => exact ⟨w, raw, rfl⟩
  | _ => simp [Token.isName] at ht

end Names

/-! ## Lists -/

theorem separated_yields {item : Parser α} {last : Parser Unit} {stop : Token} {rest : List Token}
    {R : List Token → α → Prop} (hstop : last (stop :: rest) = some ((), rest))
    (hcomma : ∀ more, last (.sign ',' :: more) = none)
    {rows : List (List Token)} (hstart : ∀ row ∈ rows, ∀ more, last (row ++ more) = none)
    (hitem : ∀ row ∈ rows, ∀ t ∈ [Token.sign ',', stop], ∀ more, Yields item row (t :: more) (R row))
    {budget : List Token} (hbudget : rows.length ≤ budget.length) :
    ∃ as trailing, separated item (mark ',') last budget (Token.commas rows ++ stop :: rest) =
      some ((as, trailing), rest) ∧ List.Forall₂ R rows as := by
  -- Each row uses up one token of the budget, and the comma behind it is why the next one is tried.
  induction rows using Token.commas.induct generalizing budget with
  | case1 => cases budget <;> simp [separated, Token.commas, hstop]
  | case2 row =>
    obtain ⟨b, budget, rfl⟩ := List.exists_cons_of_length_pos hbudget
    obtain ⟨a, ha, hR⟩ := hitem row List.mem_cons_self stop (by simp) rest
    have hbefore := hstart row List.mem_cons_self (stop :: rest)
    exact ⟨[a], false, by simp [separated, Token.commas, hbefore, ha, hstop], .cons hR .nil⟩
  | case3 row more hmore ih =>
    obtain ⟨b, budget, rfl⟩ := List.exists_cons_of_length_pos (Nat.lt_of_lt_of_le (Nat.succ_pos _) hbudget)
    have hrows : Token.commas (row :: more) ++ stop :: rest =
        row ++ .sign ',' :: (Token.commas more ++ stop :: rest) := by
      rw [Token.commas]
      · simp
      · exact hmore
    obtain ⟨a, ha, hR⟩ := hitem row List.mem_cons_self (.sign ',') (by simp) (Token.commas more ++ stop :: rest)
    have hbefore := hstart row List.mem_cons_self (.sign ',' :: (Token.commas more ++ stop :: rest))
    have hsign : mark ',' (.sign ',' :: (Token.commas more ++ stop :: rest)) =
        some ((), Token.commas more ++ stop :: rest) := rfl
    obtain ⟨as, trailing, has, hRs⟩ := ih (fun row' h => hstart row' (List.mem_cons_of_mem _ h))
      (fun row' h => hitem row' (List.mem_cons_of_mem _ h)) (Nat.le_of_succ_le_succ hbudget)
    rw [hrows]
    exact ⟨a :: as, as.isEmpty || trailing, by simp [separated, hbefore, ha, hcomma, hsign, has], .cons hR hRs⟩

/-- Each item but the last has a comma behind it, so there are no more items than tokens. -/
theorem length_le_length_commas (rows : List (List Token)) : rows.length ≤ (Token.commas rows).length + 1 := by
  induction rows using Token.commas.induct with
  | case1 => simp
  | case2 row => simp
  | case3 row more hmore ih =>
    rw [Token.commas]
    · simp only [List.length_cons, List.length_append]
      omega
    · exact hmore

theorem listed_yields {item : Parser α} {last : Parser Unit} {stop : Token} {rest : List Token}
    {R : List Token → α → Prop} (hstop : last (stop :: rest) = some ((), rest))
    (hcomma : ∀ more, last (.sign ',' :: more) = none)
    {rows : List (List Token)} (hstart : ∀ row ∈ rows, ∀ more, last (row ++ more) = none)
    (hitem : ∀ row ∈ rows, ∀ t ∈ [Token.sign ',', stop], ∀ more, Yields item row (t :: more) (R row)) :
    ∃ as trailing, listed item last (Token.commas rows ++ stop :: rest) = some ((as, trailing), rest) ∧
      List.Forall₂ R rows as := by
  have hlength := length_le_length_commas rows
  exact separated_yields hstop hcomma hstart hitem (by simp only [List.length_append, List.length_cons]; omega)

theorem listed_reads {item : Parser α} {last : Parser Unit} {stop : Token} {rest : List Token}
    (hstop : last (stop :: rest) = some ((), rest)) (hcomma : ∀ more, last (.sign ',' :: more) = none)
    {rows : List (List Token)} (hstart : ∀ row ∈ rows, ∀ more, last (row ++ more) = none)
    (hitem : ∀ row ∈ rows, ∀ t ∈ [Token.sign ',', stop], ∀ more, Reads item row (t :: more)) :
    ∃ r, listed item last (Token.commas rows ++ stop :: rest) = some (r, rest) := by
  obtain ⟨as, trailing, has, -⟩ := listed_yields hstop hcomma hstart fun row hrow t ht more =>
    (hitem row hrow t ht more).yields
  exact ⟨(as, trailing), has⟩

theorem repeated_yields {item : Parser α} {R : List Token → α → Prop} {rows : List (List Token)}
    (hitem : ∀ row ∈ rows, row ≠ [] ∧ ∀ more, Yields item row more (R row)) {budget : List Token}
    (hbudget : rows.length ≤ budget.length) :
    ∃ as, repeated item budget rows.flatten = some (as, []) ∧ List.Forall₂ R rows as := by
  induction rows generalizing budget with
  | nil => cases budget <;> exact ⟨[], rfl, .nil⟩
  | cons row rest ih =>
    obtain ⟨⟨hrow, hread⟩, hrest⟩ := List.forall_mem_cons.mp hitem
    obtain ⟨b, budget, rfl⟩ := List.exists_cons_of_length_pos (Nat.lt_of_lt_of_le (Nat.succ_pos _) hbudget)
    obtain ⟨a, ha, hR⟩ := hread rest.flatten
    obtain ⟨as, has, hRs⟩ := ih hrest (Nat.le_of_succ_le_succ hbudget)
    have hgoesOn : ended (row ++ rest.flatten) = none := by
      obtain ⟨t, ts, rfl⟩ := List.exists_cons_of_ne_nil hrow
      rfl
    exact ⟨a :: as, by simp [repeated, hgoesOn, ha, has], .cons hR hRs⟩

/-! ## Types -/

/-- Where a type ends. -/
inductive EndsType : List Token → Prop where
  | atMark {c : Char} (h : c ∈ [',', ';', '=', '>']) (joint : Bool) (rest : List Token) :
    EndsType (.mark c joint :: rest)
  | atClosing (b : Bracket) (rest : List Token) : EndsType (.closing b :: rest)

theorem EndsType.stops {rest : List Token} (h : EndsType rest) :
    colons rest = none ∧ angle rest = none ∧ opening .round rest = none ∧ bang rest = none ∧
      mark '+' rest = none := by
  cases h with
  | atMark hc joint rest =>
    simp only [List.mem_cons, List.not_mem_nil, or_false] at hc
    rcases hc with rfl | rfl | rfl | rfl <;> cases joint <;> exact ⟨rfl, rfl, rfl, rfl, rfl⟩
  | atClosing b rest => exact ⟨rfl, rfl, rfl, rfl, rfl⟩

section Paths

variable (n : Nested) {t : Token} (ht : t.isName = true) {rest : List Token}

include ht in
theorem segment_plain (hfish : turbofish rest = none) (hangle : angle rest = none) :
    segment n false (t :: rest) = some (.plain t.spelling, rest) := by
  have hkeyword : keywordOf ["self", "super", "crate", "try"] (t :: rest) = none :=
    keywordOf_of_isName ht rest (by decide)
  have hself : keywordOf ["Self"] (t :: rest) = none := keywordOf_of_isName ht rest (by decide)
  simp [segment, hkeyword, hself, name_of_isName ht, hfish, hangle]

include ht in
theorem segment_angled {more : List Token} {args : List Arg} {trailing : Bool}
    (hargs : listed (argument n) (mark '>') more = some ((args, trailing), rest)) :
    segment n false (t :: .sign '<' :: more) = some (.angled t.spelling false args trailing, rest) := by
  have hkeyword : keywordOf ["self", "super", "crate", "try"] (t :: .sign '<' :: more) = none :=
    keywordOf_of_isName ht _ (by decide)
  have hself : keywordOf ["Self"] (t :: .sign '<' :: more) = none := keywordOf_of_isName ht _ (by decide)
  have hfish : turbofish (.sign '<' :: more) = none := rfl
  have hcolons : colons (.sign '<' :: more) = none := rfl
  have hangle : angle (.sign '<' :: more) = some ((), more) := rfl
  have hmark : mark '<' (.sign '<' :: more) = some ((), more) := rfl
  simp [segment, hkeyword, hself, name_of_isName ht, hfish, hcolons, hangle, hmark, hargs]

theorem segments_last {ts budget : List Token} {s : Segment} (hbudget : budget ≠ [])
    (h : segment n false ts = some (s, rest)) (hcolons : colons rest = none) :
    segments n false budget ts = some ([s], rest) := by
  obtain ⟨b, budget, rfl⟩ := List.exists_cons_of_ne_nil hbudget
  simp [segments, h, hcolons]

theorem segments_next {ts mid more budget : List Token} {s : Segment} {ss : List Segment}
    (h : segment n false ts = some (s, mid)) (hcolons : colons mid = some ((), more))
    (hmore : segments n false budget more = some (ss, rest)) (b : Token) :
    segments n false (b :: budget) ts = some (s :: ss, rest) := by
  simp [segments, h, hcolons, hmore]

theorem withAllInputs_of_stop (budget : List Token) (ss : List Segment)
    (hround : opening .round rest = none) : withAllInputs n budget ss rest = some (ss, rest) := by
  cases budget with
  | nil => rfl
  | cons b budget =>
    have hinputs : inputsAhead ss rest = some (false, rest) := by
      unfold inputsAhead
      split <;> simp [hround]
    simp [withAllInputs, hinputs]

include ht in
theorem typeStep_of_isName (plus : Bool) : typeStep n plus (t :: rest) = named n plus none (t :: rest) := by
  unfold typeStep
  split
  all_goals try rfl
  -- Any other first token is none of a name.
  all_goals
    rename_i h
    obtain ⟨rfl, -⟩ := List.cons.inj h
    exact absurd ht Bool.false_ne_true

include ht in
theorem typeStep_of_segments {more : List Token} {ss : List Segment} (plus : Bool)
    (hsegments : segments n false (t :: more) (t :: more) = some (ss, rest)) (hends : EndsType rest) :
    typeStep n plus (t :: more) = some (.path false ss, rest) := by
  obtain ⟨-, -, hround, hbang, hplus⟩ := hends.stops
  have htry : keyword "try" (t :: more) = none := keyword_of_isName ht more (by decide)
  have hcolons : colons (t :: more) = none := by
    obtain ⟨w, raw, rfl⟩ := exists_word_of_isName ht
    rfl
  have hpath : path n false (t :: more) = some ((false, ss), rest) := by simp [path, hcolons, hsegments]
  have hinputs := withAllInputs_of_stop n rest ss hround
  rw [typeStep_of_isName n ht plus]
  simp [named, htry, hpath, hinputs, hbang, hplus]

include ht in
theorem typeStep_name (plus : Bool) (hends : EndsType rest) :
    typeStep n plus (t :: rest) = some (.path false [.plain t.spelling], rest) := by
  obtain ⟨hcolons, hangle, -⟩ := hends.stops
  have hfish : turbofish rest = none := by simp [turbofish, hcolons]
  have hsegment := segment_plain n ht hfish hangle
  exact typeStep_of_segments n ht plus (segments_last n (List.cons_ne_nil t rest) hsegment hcolons) hends

include ht in
theorem argument_reads {n : Nested} {more : List Token} (htype : Reads (n.type true) (t :: more) rest)
    (hequals : mark '=' rest = none) (hcolon : mark ':' rest = none) : Reads (argument n) (t :: more) rest := by
  obtain ⟨ty, hty⟩ := htype
  obtain ⟨w, raw, hword⟩ := exists_word_of_isName ht
  have hlifetime : lifetime (t :: (more ++ rest)) = none := by subst hword; rfl
  have hcurly : opening .curly (t :: (more ++ rest)) = none := by subst hword; rfl
  have hliteral := literal_of_isName ht (more ++ rest)
  have hafter (s : Segment) : afterName n s rest = some (.type (.path false [s]), rest) := by
    simp [afterName, hequals, hcolon]
  unfold Reads
  simp only [argument, constantAhead, bind_apply, ahead_apply, seqRight_apply, orElse_apply, List.cons_append,
    hlifetime, hcurly, hliteral, Option.bind_some, Option.bind_none, Option.isSome_none, Option.or_none,
    Bool.false_eq_true, if_false]
  rw [List.cons_append] at hty
  rw [hty]
  simp only [Option.bind_some]
  split
  · exact ⟨_, hafter _⟩
  · exact ⟨_, hafter _⟩
  · exact ⟨_, rfl⟩

end Paths

/-! ## Levels -/

/-- The parsers of nodes that lie at most `depth` deep. -/
def level (depth : Nat) : Nested :=
  ⟨typeAt depth, boundAt depth, exprAt depth, patternAt depth, readsAt depth⟩

end Parser

end Declgen.Source
