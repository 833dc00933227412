import Declgen.Proofs.Json.Reader
import Declgen.Proofs.Source.Reads
import Declgen.Render.TypeTokens

/-!
# Types are read back

The tokens of a type that mentions nothing from elsewhere are read as a type, however deep its arguments nest.
-/

namespace Declgen

/-- Nothing from elsewhere is mentioned. -/
def TypeExpr.isLocal : TypeExpr → Bool
  | .external _ _ => false
  | .vec inner | .option inner | .boxed inner => inner.isLocal
  | .map key value => key.isLocal && value.isLocal
  | .primitive _ | .struct _ | .typeAlias _ | .dateTime | .any => true

namespace Render

open Source
open Source.Parser (EndsType Reads typeAt level)

/-- The row starts with a name, and is read as a type by all levels but those that are too shallow. -/
structure IsType (row : List Token) : Prop where
  starts : ∃ t more, row = t :: more ∧ t.isName = true
  reads : ∀ depth, row.length ≤ depth → ∀ rest, EndsType rest → Reads (typeAt depth true) row rest

theorem isType_name {t : Token} (ht : t.isName = true) : IsType [t] where
  starts := ⟨t, [], rfl, ht⟩
  reads depth hdepth rest hends := by
    cases depth with
    | zero => simp at hdepth
    | succ depth => exact ⟨_, Parser.typeStep_name (level depth) ht true hends⟩

/-! ## Types with arguments -/

theorem length_le_length_commas_of_mem {rows : List (List Token)} {row : List Token} (h : row ∈ rows) :
    row.length ≤ (Token.commas rows).length := by
  induction rows using Token.commas.induct with
  | case1 => simp at h
  | case2 other =>
    obtain rfl := List.mem_singleton.mp h
    exact Nat.le_refl _
  | case3 other more hmore ih =>
    rw [Token.commas]
    · simp only [List.length_append, List.length_cons]
      rcases List.mem_cons.mp h with rfl | h
      · omega
      · have := ih h
        omega
    · exact hmore

theorem arguments_read {rows : List (List Token)} (hrows : ∀ row ∈ rows, IsType row) {depth : Nat}
    (hdepth : (Token.commas rows).length ≤ depth) (rest : List Token) :
    ∃ args, Parser.listed (Parser.argument (level depth)) (Parser.mark '>')
      (Token.commas rows ++ .sign '>' :: rest) = some (args, rest) := by
  refine Parser.listed_reads rfl (fun _ => rfl) ?_ ?_
  · intro row hrow more
    obtain ⟨t, ts, rfl, ht⟩ := (hrows row hrow).starts
    obtain ⟨w, raw, rfl⟩ := Parser.exists_word_of_isName ht
    rfl
  · intro row hrow stop hstop more
    have hlength := length_le_length_commas_of_mem hrow
    have hends : EndsType (stop :: more) ∧ Parser.mark '=' (stop :: more) = none ∧
        Parser.mark ':' (stop :: more) = none := by
      simp only [List.mem_cons, List.not_mem_nil, or_false] at hstop
      rcases hstop with rfl | rfl <;> exact ⟨.atMark (by decide) false more, rfl, rfl⟩
    have hread := (hrows row hrow).reads depth (by omega) (stop :: more) hends.1
    obtain ⟨t, ts, rfl, ht⟩ := (hrows row hrow).starts
    exact Parser.argument_reads ht hread hends.2.1 hends.2.2

theorem segments_generic {n : Parser.Nested} {path : List String} (hpath : path ≠ [])
    (hnames : ∀ w ∈ path, isReserved w = false) {more rest : List Token} {args : List Arg} {trailing : Bool}
    (hargs : Parser.listed (Parser.argument n) (Parser.mark '>') more = some ((args, trailing), rest))
    (hcolons : Parser.colons rest = none) {budget : List Token} (hbudget : path.length ≤ budget.length) :
    ∃ ss, Parser.segments n false budget (pathTokens path ++ .sign '<' :: more) = some (ss, rest) := by
  induction path using pathTokens.induct generalizing budget with
  | case1 => exact absurd rfl hpath
  | case2 w =>
    have ht : (Token.plain w).isName = true := by simp [Token.plain, Token.isName, hnames w]
    have hbudget : budget ≠ [] := List.ne_nil_of_length_pos hbudget
    exact ⟨_, Parser.segments_last n hbudget (Parser.segment_angled n ht hargs) hcolons⟩
  | case3 w others hothers ih =>
    obtain ⟨hw, hrest⟩ := List.forall_mem_cons.mp hnames
    have ht : (Token.plain w).isName = true := by simp [Token.plain, Token.isName, hw]
    obtain ⟨b, budget, rfl⟩ := List.exists_cons_of_length_pos (Nat.lt_of_lt_of_le (Nat.succ_pos _) hbudget)
    obtain ⟨ss, hss⟩ := ih hothers hrest (Nat.le_of_succ_le_succ hbudget)
    have hrow : pathTokens (w :: others) ++ .sign '<' :: more =
        .plain w :: (Token.colons ++ (pathTokens others ++ .sign '<' :: more)) := by
      rw [pathTokens]
      · simp
      · exact hothers
    rw [hrow]
    obtain ⟨next, others, rfl⟩ := List.exists_cons_of_ne_nil hothers
    have hfish : Parser.turbofish (Token.colons ++ (pathTokens (next :: others) ++ .sign '<' :: more)) = none := by
      cases others <;> rfl
    have hsegment := Parser.segment_plain n ht hfish rfl
    exact ⟨_, Parser.segments_next n hsegment rfl hss b⟩

theorem length_le_length_pathTokens (path : List String) : path.length ≤ (pathTokens path).length := by
  induction path using pathTokens.induct with
  | case1 => simp
  | case2 w => simp [pathTokens]
  | case3 w others hothers ih =>
    rw [pathTokens]
    · simp only [List.length_cons, List.length_append]
      omega
    · exact hothers

theorem isType_generic {path : List String} (hpath : path ≠ []) (hnames : ∀ w ∈ path, isReserved w = false)
    {rows : List (List Token)} (hrows : ∀ row ∈ rows, IsType row) : IsType (generic path rows) := by
  obtain ⟨w, others, rfl⟩ := List.exists_cons_of_ne_nil hpath
  have ht : (Token.plain w).isName = true := by simp [Token.plain, Token.isName, hnames w]
  have hstarts : ∃ more, generic (w :: others) rows = .plain w :: more := by
    cases others <;> exact ⟨_, rfl⟩
  refine ⟨?_, ?_⟩
  · obtain ⟨more, hmore⟩ := hstarts
    exact ⟨.plain w, more, hmore, ht⟩
  · intro depth hdepth rest hends
    have hpathLength := length_le_length_pathTokens (w :: others)
    have hlength : (generic (w :: others) rows).length =
        (pathTokens (w :: others)).length + (Token.commas rows).length + 2 := by
      simp only [generic, List.length_append, List.length_cons, List.length_nil]
      omega
    cases depth with
    | zero => omega
    | succ depth =>
      -- The type is read on one level and its arguments on the next, which the path in front of them pays for.
      have hcommas : (Token.commas rows).length ≤ depth := by omega
      obtain ⟨⟨args, trailing⟩, hargs⟩ := arguments_read hrows hcommas rest
      have hrow : generic (w :: others) rows ++ rest =
          pathTokens (w :: others) ++ .sign '<' :: (Token.commas rows ++ .sign '>' :: rest) := by
        simp [generic]
      have hbudget : (w :: others).length ≤ (generic (w :: others) rows ++ rest).length := by
        rw [List.length_append]
        omega
      obtain ⟨ss, hss⟩ := segments_generic hpath hnames hargs hends.stops.1 hbudget
      obtain ⟨more, hmore⟩ := hstarts
      rw [← hrow, hmore] at hss
      rw [hmore]
      exact ⟨_, Parser.typeStep_of_segments (level depth) ht true hss hends⟩

/-! ## All types -/

theorem isName_sourceName (p : Primitive) : (Token.plain p.sourceName).isName = true := by
  rcases p with _ | _ | r
  · rfl
  · rfl
  · cases r <;> rfl

theorem isType_any : IsType (pathTokens ["serde_json", "Value"]) where
  starts := ⟨_, _, rfl, rfl⟩
  reads depth hdepth rest hends := by
    cases depth with
    | zero => exact absurd hdepth (by decide)
    | succ depth =>
      obtain ⟨hcolons, hangle, -⟩ := hends.stops
      have hfish : Parser.turbofish rest = none := by simp [Parser.turbofish, hcolons]
      let value := .plain "Value" :: rest
      have hvalue : Parser.segment (level depth) false value = some (.plain "Value", rest) :=
        Parser.segment_plain (level depth) rfl hfish hangle
      have hlast : Parser.segments (level depth) false (Token.colons ++ value) value = some ([.plain "Value"], rest) :=
        Parser.segments_last (level depth) (List.cons_ne_nil _ _) hvalue hcolons
      have hcrate : Parser.segment (level depth) false (.plain "serde_json" :: (Token.colons ++ value)) =
          some (.plain "serde_json", Token.colons ++ value) := Parser.segment_plain (level depth) rfl rfl rfl
      have hsegments := Parser.segments_next (level depth) hcrate rfl hlast (.plain "serde_json")
      exact ⟨_, Parser.typeStep_of_segments (level depth) rfl true hsegments hends⟩

theorem identifier_eq_ok_iff {name : String} {role : Role} {t : Token} :
    identifier name role = .ok t ↔ isIdentifier name = true ∧ t = .identifier name := by
  unfold identifier
  split
  · rename_i h
    simp [h, eq_comm (a := t)]
  · rename_i h
    simp [h]

theorem isType_typeTokens {t : TypeExpr} (hlocal : t.isLocal = true) {ts : List Token}
    (h : typeTokens t = .ok ts) : IsType ts := by
  induction t generalizing ts with
  | primitive p =>
    obtain rfl := Except.ok.inj h
    exact isType_name (isName_sourceName p)
  | struct name | typeAlias name =>
    obtain ⟨t, hname, hout⟩ := bind_eq_ok_iff.mp h
    obtain rfl := Except.ok.inj hout
    obtain ⟨hidentifier, rfl⟩ := identifier_eq_ok_iff.mp hname
    exact isType_name (Token.isName_identifier hidentifier)
  | external importAlias name => simp [TypeExpr.isLocal] at hlocal
  | vec inner ih | option inner ih | boxed inner ih =>
    obtain ⟨row, hrow, hout⟩ := bind_eq_ok_iff.mp h
    obtain rfl := Except.ok.inj hout
    have hinner := ih hlocal hrow
    exact isType_generic (by simp) (by decide) (by simpa using hinner)
  | map key value ihk ihv =>
    obtain ⟨krow, hkrow, hvalue⟩ := bind_eq_ok_iff.mp h
    obtain ⟨vrow, hvrow, hout⟩ := bind_eq_ok_iff.mp hvalue
    obtain rfl := Except.ok.inj hout
    obtain ⟨hklocal, hvlocal⟩ := Bool.and_eq_true_iff.mp hlocal
    have hrows := And.intro (ihk hklocal hkrow) (ihv hvlocal hvrow)
    exact isType_generic (by simp [mapPath]) (by decide) (by simpa using hrows)
  | dateTime =>
    obtain rfl := Except.ok.inj h
    refine isType_generic (by simp) (by decide) ?_
    intro row hrow
    obtain rfl := List.mem_singleton.mp hrow
    exact isType_name rfl
  | any =>
    obtain rfl := Except.ok.inj h
    exact isType_any

end Render

end Declgen
