import Declgen.Source.Parse.Basic
import Declgen.Source.Written

/-!
# Brackets that match

A node is written with matching brackets, because the tokens that it keeps have them. So a bracket around what
is written is read back as it stands.
-/

namespace Declgen.Source

namespace Token

/-! ## Counting -/

theorem openAfter_append (depth : Nat) (xs ys : List Token) :
    openAfter depth (xs ++ ys) = (openAfter depth xs).bind fun d => openAfter d ys := by
  induction depth, xs using openAfter.induct with
  | case1 depth => rfl
  | case3 b rest => rfl
  | case2 depth b rest ih | case4 depth b rest ih => exact ih
  | case5 depth w raw rest ih | case6 depth c joint rest ih | case7 depth text rest ih =>
    simpa only [List.cons_append, openAfter] using ih

theorem openAfter_add {depth left : Nat} {ts : List Token} (h : openAfter depth ts = some left) (more : Nat) :
    openAfter (depth + more) ts = some (left + more) := by
  induction depth, ts using openAfter.induct with
  | case1 depth =>
    obtain rfl := Option.some.inj h
    rfl
  | case2 depth b rest ih =>
    rw [openAfter, Nat.add_right_comm]
    exact ih h
  | case3 b rest => simp [openAfter] at h
  | case4 depth b rest ih =>
    rw [Nat.succ_add, openAfter]
    exact ih h
  | case5 depth w raw rest ih | case6 depth c joint rest ih | case7 depth text rest ih =>
    rw [openAfter] at h ⊢
    exact ih h

/-! ## What is balanced -/

@[simp] theorem balanced_nil : Balanced [] := rfl

@[simp] theorem balanced_word (w : String) (raw : Bool) (ts : List Token) :
    Balanced (.word w raw :: ts) ↔ Balanced ts := Iff.rfl

@[simp] theorem balanced_mark (c : Char) (joint : Bool) (ts : List Token) :
    Balanced (.mark c joint :: ts) ↔ Balanced ts := Iff.rfl

@[simp] theorem balanced_literal (text : String) (ts : List Token) :
    Balanced (.literal text :: ts) ↔ Balanced ts := Iff.rfl

@[simp] theorem balanced_sign (c : Char) (ts : List Token) : Balanced (sign c :: ts) ↔ Balanced ts := Iff.rfl

@[simp] theorem balanced_plain (w : String) (ts : List Token) : Balanced (plain w :: ts) ↔ Balanced ts :=
  Iff.rfl

@[simp] theorem balanced_ofSpelling (s : String) (ts : List Token) :
    Balanced (ofSpelling s :: ts) ↔ Balanced ts := by
  unfold ofSpelling
  split <;> exact Iff.rfl

@[simp] theorem balanced_append {xs : List Token} (hx : Balanced xs) (ys : List Token) :
    Balanced (xs ++ ys) ↔ Balanced ys := by
  unfold Balanced at hx ⊢
  rw [openAfter_append, hx]
  exact Iff.rfl

theorem Balanced.append {xs ys : List Token} (hx : Balanced xs) (hy : Balanced ys) : Balanced (xs ++ ys) :=
  (balanced_append hx ys).mpr hy

@[simp] theorem Balanced.inBrackets {ts : List Token} (h : Balanced ts) (b : Bracket) :
    Balanced (inBrackets b ts) := by
  have hinside : openAfter 1 ts = some 1 := openAfter_add h 1
  change openAfter 1 (ts ++ [.closing b]) = some 0
  rw [openAfter_append, hinside]
  rfl

@[simp] theorem balanced_signs (cs : List Char) : Balanced (signs cs) := by
  induction cs using signs.induct with
  | case1 => rfl
  | case2 c => rfl
  | case3 c rest h ih =>
    rw [signs]
    · exact ih
    · exact h

@[simp] theorem balanced_colons : Balanced colons := rfl

@[simp] theorem balanced_words (ws : List String) : Balanced (ws.map plain) := by
  induction ws with
  | nil => rfl
  | cons w rest ih => exact ih

/-! ## Rows -/

/-- Each row for itself closes what it opens. -/
def BalancedRows (rows : List (List Token)) : Prop := ∀ row ∈ rows, Balanced row

@[simp] theorem balancedRows_nil : BalancedRows [] := by simp [BalancedRows]

@[simp] theorem balancedRows_cons {row : List Token} {rest : List (List Token)} :
    BalancedRows (row :: rest) ↔ Balanced row ∧ BalancedRows rest := List.forall_mem_cons

@[simp] theorem BalancedRows.append {xs ys : List (List Token)} (hx : BalancedRows xs) (hy : BalancedRows ys) :
    BalancedRows (xs ++ ys) := List.forall_mem_append.mpr ⟨hx, hy⟩

@[simp] theorem balancedRows_map {α : Type} {f : α → List Token} {items : List α} (h : ∀ a, Balanced (f a)) :
    BalancedRows (items.map f) := List.forall_mem_map.mpr fun a _ => h a

theorem BalancedRows.commas {rows : List (List Token)} (h : BalancedRows rows) : Balanced (commas rows) := by
  induction rows using commas.induct with
  | case1 => rfl
  | case2 row => exact (balancedRows_cons.mp h).1
  | case3 row rest hrest ih =>
    obtain ⟨hrow, hmore⟩ := balancedRows_cons.mp h
    rw [Token.commas]
    · exact hrow.append (ih hmore)
    · exact hrest

end Token

open Token (Balanced BalancedRows)

/-! ## What is read back -/

namespace Parser

theorem bracketed_append {depth : Nat} {inner : List Token} (h : Token.openAfter depth inner = some 0)
    (b : Bracket) (rest : List Token) : bracketed depth (inner ++ .closing b :: rest) = some (inner, rest) := by
  induction depth, inner using Token.openAfter.induct with
  | case1 depth =>
    obtain rfl := Option.some.inj h
    rfl
  | case3 k inner => simp [Token.openAfter] at h
  | case2 depth k inner ih | case4 depth k inner ih =>
    rw [List.cons_append, bracketed, ih h]
    rfl
  | case5 depth w raw inner ih | case6 depth c joint inner ih | case7 depth text inner ih =>
    rw [Token.openAfter] at h
    rw [List.cons_append, bracketed, ih h]
    · rfl
    all_goals simp

theorem group_inBrackets (b : Bracket) (ts : Enclosed) (rest : List Token) :
    group (Token.inBrackets b ts ++ rest) = some ((b, ts), rest) := by
  have hread : bracketed 0 (ts.tokens ++ .closing b :: rest) = some (ts.tokens, rest) :=
    bracketed_append ts.balanced b rest
  have henclosed : enclosed (ts.tokens ++ .closing b :: rest) = some (ts, rest) := by
    unfold enclosed
    split
    · rename_i inner left h
      obtain ⟨rfl, rfl⟩ := Prod.mk.inj (Option.some.inj (hread.symm.trans h))
      rfl
    · rename_i h
      simp [hread] at h
  simp [Token.inBrackets, group, henclosed]

end Parser

/-! ## What is written -/

namespace Written

variable {rows : List (List Token)}

@[simp] theorem listed_balanced (h : BalancedRows rows) (trailing : Bool) : Balanced (listed rows trailing) := by
  unfold listed
  cases trailing <;> exact h.commas.append rfl

@[simp] theorem added_balanced (h : BalancedRows rows) (trailing : Bool) : Balanced (added rows trailing) := by
  induction rows, trailing using added.induct with
  | case1 => rfl
  | case2 ts trailing =>
    cases trailing <;> exact (Token.balancedRows_cons.mp h).1.append rfl
  | case3 trailing ts rest hrest ih =>
    obtain ⟨hts, hmore⟩ := Token.balancedRows_cons.mp h
    rw [added]
    · exact hts.append (ih hmore)
    · exact hrest

@[simp] theorem joined_balanced (h : BalancedRows rows) (absolute : Bool) : Balanced (joined absolute rows) := by
  induction rows generalizing absolute with
  | nil => rfl
  | cons row rest ih =>
    obtain ⟨hrow, hmore⟩ := Token.balancedRows_cons.mp h
    have hcolons : Balanced (if absolute then Token.colons else []) := by cases absolute <;> rfl
    exact (hcolons.append hrow).append (ih hmore true)

@[simp] theorem barred_balanced (h : BalancedRows rows) : Balanced (barred rows) := by
  induction rows using barred.induct with
  | case1 => rfl
  | case2 ts => exact (Token.balancedRows_cons.mp h).1
  | case3 ts rest hrest ih =>
    obtain ⟨hts, hmore⟩ := Token.balancedRows_cons.mp h
    rw [barred]
    · exact hts.append (ih hmore)
    · exact hrest

@[simp] theorem markedFirst_balanced {marked : List (Bool × List Token)}
    (h : BalancedRows (marked.map (·.2))) : BalancedRows (markedFirst marked) := by
  intro row hrow
  obtain ⟨r, hr, rfl⟩ := List.mem_map.mp hrow
  refine h _ (List.mem_map_of_mem ?_)
  rcases List.mem_append.mp hr with hr | hr <;> exact (List.mem_filter.mp hr).1

/-! ## Small pieces -/

@[simp] theorem lifetime_balanced (name : String) : Balanced (lifetime name) := by simp [lifetime]

@[simp] theorem binder_balanced (b : Option Binder) : Balanced (binder b) := by
  cases b with
  | none => rfl
  | some b =>
    have hnames : Balanced (listed (b.lifetimes.map lifetime) b.trailing) := by simp
    simp [binder, hnames]

@[simp] theorem literal_balanced (text : String) : Balanced (literal text) := by
  unfold literal
  split
  · rfl
  · split <;> rfl

@[simp] theorem names_balanced (absolute : Bool) (path : List String) : Balanced (names absolute path) := by
  simp [names]

@[simp] theorem invocation_balanced (absolute : Bool) (path : List String) (b : Bracket) (ts : Enclosed) :
    Balanced (invocation absolute path b ts) := by
  simp [invocation, ts.balanced]

@[simp] theorem abi_balanced (a : Option (Option String)) : Balanced (abi a) := by
  rcases a with _ | _ | _ <;> rfl

@[simp] theorem label_balanced (l : Option String) : Balanced (label l) := by
  cases l <;> simp [label]

@[simp] theorem borrowing_balanced (raw mutable : Bool) : Balanced (borrowing raw mutable) := by
  cases raw <;> cases mutable <;> rfl

@[simp] theorem captive_balanced (name : String) : Balanced (captive name) := by
  unfold captive
  split <;> simp

@[simp] theorem attribute_balanced {ts : List Token} (h : Balanced ts) (inner : Bool) :
    Balanced (attribute_ inner ts) := by
  cases inner <;> simp [attribute_, h]

@[simp] theorem braces_balanced (ts : Enclosed) : Balanced (braces ts) := ts.balanced.inBrackets .curly

@[simp] theorem head_balanced {self : List Token} (hself : Balanced self) (absolute : Bool)
    (htrait : BalancedRows rows) : Balanced (head self absolute rows) := by
  have hstart : Balanced (Token.sign '<' :: self) := hself
  have hcast : Balanced (if rows.isEmpty then [] else Token.plain "as" :: joined absolute rows) := by
    split
    · rfl
    · exact joined_balanced htrait absolute
  exact (hstart.append hcast).append rfl

/-! ## Nodes -/

mutual
theorem type_balanced (t : Ty) : Balanced (type t) := by
  -- Words and marks open nothing, so the rules above leave the nodes inside. Lists in brackets are named first.
  cases t with
  | path absolute ss => exact joined_balanced (segments_balanced ss) absolute
  | projected self absolute trait rest =>
    have hhead := head_balanced (type_balanced self) absolute (segments_balanced trait)
    exact hhead.append (joined_balanced (segments_balanced rest) true)
  | reference l mutable inner => cases l <;> cases mutable <;> simp [type, type_balanced inner]
  | pointer mutable inner => simp [type, type_balanced inner]
  | tuple items trailing => exact (listed_balanced (types_balanced items) trailing).inBrackets .round
  | parenthesized inner => exact (type_balanced inner).inBrackets .round
  | slice inner => exact (type_balanced inner).inBrackets .square
  | array inner length => simp [type, type_balanced inner, expr_balanced length]
  | function b unchecked name inputs variadic trailing result =>
    have hrows : BalancedRows (params inputs ++ if variadic then [Token.signs ['.', '.', '.']] else []) := by
      cases variadic <;> simp [params_balanced inputs]
    have hinputs := (listed_balanced hrows trailing).inBrackets .round
    cases unchecked <;> cases result with
    | none => simp [type, hinputs]
    | some t => simp [type, hinputs, type_balanced t]
  | object marked bs trailing => cases marked <;> simp [type, bounds_balanced bs]
  | bounded bs trailing => simp [type, bounds_balanced bs]
  | invocation absolute path b ts => exact invocation_balanced absolute path b ts
  | never => rfl
  | inferred => rfl

theorem types_balanced (ts : List Ty) : BalancedRows (types ts) := by
  cases ts with
  | nil => simp [types]
  | cons t rest => simp [types, type_balanced t, types_balanced rest]

theorem params_balanced (ps : List (Option String × Ty)) : BalancedRows (params ps) := by
  cases ps with
  | nil => simp [params]
  | cons p rest =>
    obtain ⟨name, t⟩ := p
    cases name <;> simp [params, type_balanced t, params_balanced rest]

theorem segment_balanced (s : Segment) : Balanced (segment s) := by
  cases s with
  | plain name => simp [segment]
  | angled name turbofish as trailing =>
    have hargs := listed_balanced (markedFirst_balanced (args_balanced as)) (trailing || lastMoves (args as))
    cases turbofish <;> simp [segment, hargs]
  | rounded name inputs trailing result =>
    have hinputs := (listed_balanced (types_balanced inputs) trailing).inBrackets .round
    cases result with
    | none => simp [segment, hinputs]
    | some t => simp [segment, hinputs, type_balanced t]

theorem segments_balanced (ss : List Segment) : BalancedRows (segments ss) := by
  cases ss with
  | nil => simp [segments]
  | cons s rest => simp [segments, segment_balanced s, segments_balanced rest]

theorem args_balanced (as : List Arg) : BalancedRows ((args as).map (·.2)) := by
  cases as with
  | nil => simp [args]
  | cons a rest =>
    cases a with
    | lifetime l => simp [args, args_balanced rest]
    | type t => simp [args, type_balanced t, args_balanced rest]
    | value e => simp [args, expr_balanced e, args_balanced rest]
    | typeBinding s t => simp [args, segment_balanced s, type_balanced t, args_balanced rest]
    | valueBinding s e => simp [args, segment_balanced s, expr_balanced e, args_balanced rest]
    | constraint s bs trailing => simp [args, segment_balanced s, bounds_balanced bs, args_balanced rest]

theorem bounds_balanced (bs : List Bound) : BalancedRows (bounds bs) := by
  cases bs with
  | nil => simp [bounds]
  | cons b rest =>
    cases b with
    | lifetime l => simp [bounds, bounds_balanced rest]
    | trait wrapped b relaxed absolute ss =>
      cases wrapped <;> cases relaxed <;> simp [bounds, segments_balanced ss, bounds_balanced rest]
    | captured names trailing =>
      have hnames : Balanced (listed (names.map captive) trailing) := by simp
      simp [bounds, hnames, bounds_balanced rest]

theorem expr_balanced (e : Expr) : Balanced (expr e) := by
  cases e with
  | literal text => exact literal_balanced text
  | path absolute ss => exact joined_balanced (segments_balanced ss) absolute
  | projected self absolute trait rest =>
    have hhead := head_balanced (type_balanced self) absolute (segments_balanced trait)
    exact hhead.append (joined_balanced (segments_balanced rest) true)
  | invocation absolute path b ts => exact invocation_balanced absolute path b ts
  | inferred => rfl
  | unary c e => simp [expr, expr_balanced e]
  | borrow raw mutable e => simp [expr, expr_balanced e]
  | binary op left right => simp [expr, expr_balanced left, expr_balanced right]
  | cast e t => simp [expr, expr_balanced e, type_balanced t]
  | range first closed last =>
    cases first with
    | none =>
      cases last with
      | none => simp [expr]
      | some e => simp [expr, expr_balanced e]
    | some e =>
      cases last with
      | none => simp [expr, expr_balanced e]
      | some e' => simp [expr, expr_balanced e, expr_balanced e']
  | parenthesized e => exact (expr_balanced e).inBrackets .round
  | tuple items trailing => exact (listed_balanced (exprs_balanced items) trailing).inBrackets .round
  | list items trailing => exact (listed_balanced (exprs_balanced items) trailing).inBrackets .square
  | repeated e count => simp [expr, expr_balanced e, expr_balanced count]
  | construct p fields => exact (expr_balanced p).append (braces_balanced fields)
  | call f as trailing => simp [expr, expr_balanced f, exprs_balanced as]
  | method receiver s as trailing =>
    simp [expr, expr_balanced receiver, segment_balanced s, exprs_balanced as]
  | member e name =>
    -- What follows the dot is a name or a number, and no bracket in either case.
    unfold expr
    refine (expr_balanced e).append ?_
    split <;> simp
  | index e i => simp [expr, expr_balanced e, expr_balanced i]
  | attempt e => simp [expr, expr_balanced e]
  | jump w l value =>
    cases l <;> cases value with
    | none => simp [expr]
    | some e => simp [expr, expr_balanced e]
  | test p e => simp [expr, pattern_balanced p, expr_balanced e]
  | block l ws body => simp [expr]
  | loop l body => simp [expr]
  | whileLoop l condition body => simp [expr, expr_balanced condition]
  | forLoop l p e body => simp [expr, pattern_balanced p, expr_balanced e]
  | choice condition body otherwise =>
    cases otherwise with
    | none => simp [expr, expr_balanced condition]
    | some e => simp [expr, expr_balanced condition, expr_balanced e]
  | select e arms => simp [expr, expr_balanced e]
  | closure b ws inputs trailing result body =>
    have hinputs := listed_balanced (patterns_balanced inputs) trailing
    cases result with
    | none => simp [expr, hinputs, expr_balanced body]
    | some t => simp [expr, hinputs, type_balanced t, expr_balanced body]
  | attributed as e => exact (attributes_balanced as).append (expr_balanced e)

theorem exprs_balanced (es : List Expr) : BalancedRows (exprs es) := by
  cases es with
  | nil => simp [exprs]
  | cons e rest => simp [exprs, expr_balanced e, exprs_balanced rest]

theorem pattern_balanced (p : Pattern) : Balanced (pattern p) := by
  cases p with
  | wild => rfl
  | rest => rfl
  | value e => exact expr_balanced e
  | name byReference mutable n sub =>
    cases byReference <;> cases mutable <;> cases sub with
    | none => simp [pattern]
    | some p => simp [pattern, pattern_balanced p]
  | choice leading options => cases leading <;> simp [pattern, patterns_balanced options]
  | parenthesized p => exact (pattern_balanced p).inBrackets .round
  | reference mutable p => cases mutable <;> simp [pattern, pattern_balanced p]
  | slice items trailing => exact (listed_balanced (patterns_balanced items) trailing).inBrackets .square
  | tuple items trailing => exact (listed_balanced (patterns_balanced items) trailing).inBrackets .round
  | construct p fields => exact (expr_balanced p).append (braces_balanced fields)
  | variant p items trailing => simp [pattern, expr_balanced p, patterns_balanced items]
  | typed p t => simp [pattern, pattern_balanced p, type_balanced t]

theorem patterns_balanced (ps : List Pattern) : BalancedRows (patterns ps) := by
  cases ps with
  | nil => simp [patterns]
  | cons p rest => simp [patterns, pattern_balanced p, patterns_balanced rest]

theorem attributes_balanced (as : List Attribute) : Balanced (attributes as) := by
  cases as with
  | nil => rfl
  | cons a rest =>
    cases a with
    | plain inner absolute p => simp [attributes, attributes_balanced rest]
    | list inner absolute p b ts =>
      have htail := (names_balanced absolute p).append (ts.balanced.inBrackets b)
      exact (attribute_balanced htail inner).append (attributes_balanced rest)
    | value inner absolute p e =>
      have htail : Balanced (names absolute p ++ Token.sign '=' :: expr e) := by simp [expr_balanced e]
      exact (attribute_balanced htail inner).append (attributes_balanced rest)
end

theorem path_balanced (absolute : Bool) (ss : List Segment) : Balanced (path absolute ss) :=
  joined_balanced (segments_balanced ss) absolute

end Written

end Declgen.Source
