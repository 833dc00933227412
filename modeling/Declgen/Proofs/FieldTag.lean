import Declgen.FieldTag
import Mathlib.Data.List.TakeWhile

/-!
# The grammar of tags

A tag is looked up pair by pair, up to the first pair of the key. What is found is what the grammar of tags says,
whatever follows that pair. The lookup cuts the tag between characters only, and in no more rounds than there are
characters.
-/

namespace Declgen.FieldTag

/-! ## The grammar -/

/-- Characters that stand for themselves, and backslashes with the character that they hide. -/
inductive IsValue : List Char → Prop where
  | nil : IsValue []
  | plain {c : Char} {v : List Char} : c ≠ '\\' → c ≠ '"' → IsValue v → IsValue (c :: v)
  | hidden {c : Char} {v : List Char} : IsValue v → IsValue ('\\' :: c :: v)

/-- A name, and a value between quotes, with blanks before them. -/
structure Pair where
  blanks : Nat
  name : List Char
  value : List Char

namespace Pair

def text (p : Pair) : List Char :=
  List.replicate p.blanks ' ' ++ p.name ++ ':' :: '"' :: p.value ++ ['"']

structure WellFormed (p : Pair) : Prop where
  named : p.name ≠ []
  plain : ∀ c ∈ p.name, c ≠ ':' ∧ c ≠ ' ' ∧ c ≠ '"'
  value : IsValue p.value

end Pair

/-- The text starts with pairs, the last of them is the first one of the key, and it has the value `v`. -/
def Holds (cs key v : List Char) : Prop :=
  ∃ (before : List Pair) (p : Pair) (rest : List Char), cs = (before ++ [p]).flatMap Pair.text ++ rest ∧
    (∀ q ∈ before ++ [p], q.WellFormed) ∧ (∀ q ∈ before, q.name ≠ key) ∧ p.name = key ∧ p.value = v

/-! ## One value -/

theorem value?_append {v : List Char} (h : IsValue v) (rest : List Char) :
    value? (v ++ '"' :: rest) = some (v, rest) := by
  induction h with
  | nil => rfl
  | plain hslash hquote _ ih =>
    rw [List.cons_append, value?, ih]
    · rfl
    all_goals simp_all
  | hidden _ ih =>
    rw [List.cons_append, List.cons_append, value?, ih]
    rfl

theorem isValue_of_value? {cs v rest : List Char} (h : value? cs = some (v, rest)) :
    IsValue v ∧ cs = v ++ '"' :: rest := by
  induction cs using value?.induct generalizing v with
  | case1 => simp [value?] at h
  | case2 rest' =>
    obtain ⟨rfl, rfl⟩ := Prod.mk.inj (Option.some.inj h)
    exact ⟨.nil, rfl⟩
  | case3 => simp [value?] at h
  | case4 c rest' ih =>
    rw [value?] at h
    obtain ⟨⟨w, after⟩, hw, hout⟩ := Option.map_eq_some_iff.mp h
    obtain ⟨rfl, rfl⟩ := Prod.mk.inj hout
    obtain ⟨hvalue, hcs⟩ := ih hw
    exact ⟨.hidden hvalue, by rw [hcs]; rfl⟩
  | case5 c rest' hquote hlast hhidden ih =>
    have hslash : c ≠ '\\' := by
      rintro rfl
      cases rest' with
      | nil => exact hlast rfl rfl
      | cons d more => exact hhidden d more rfl rfl
    rw [value?.eq_5 c rest' hquote hlast hhidden] at h
    obtain ⟨⟨w, after⟩, hw, hout⟩ := Option.map_eq_some_iff.mp h
    obtain ⟨rfl, rfl⟩ := Prod.mk.inj hout
    obtain ⟨hvalue, hcs⟩ := ih hw
    exact ⟨.plain hslash hquote hvalue, by rw [hcs]; rfl⟩

/-! ## One pair -/

theorem endsName_eq_false_iff {c : Char} : endsName c = false ↔ c ≠ ':' ∧ c ≠ ' ' ∧ c ≠ '"' := by
  simp [endsName, and_assoc]

theorem Pair.WellFormed.pair? {p : Pair} (h : p.WellFormed) (rest : List Char) :
    pair? ((p.text ++ rest).dropWhile (· = ' ')) = some (p.name, p.value, rest) := by
  have hname : ∀ c ∈ p.name, (!endsName c) = true := by
    intro c hc
    rw [endsName_eq_false_iff.mpr (h.plain c hc)]
    rfl
  let after := ':' :: '"' :: (p.value ++ '"' :: rest)
  have htext : p.text ++ rest = List.replicate p.blanks ' ' ++ (p.name ++ after) := by
    simp [Pair.text, after]
  have hblanks : (p.text ++ rest).dropWhile (· = ' ') = p.name ++ after := by
    obtain ⟨c, cs, hcs⟩ := List.exists_cons_of_ne_nil h.named
    have hc : c ≠ ' ' := (h.plain c (hcs ▸ List.mem_cons_self)).2.1
    rw [htext, List.dropWhile_append_of_pos (by simp), hcs]
    simp [hc]
  have htake : (p.name ++ after).takeWhile (!endsName ·) = p.name := by
    rw [List.takeWhile_append_of_pos hname]
    simp [after, endsName]
  have hdrop : (p.name ++ after).dropWhile (!endsName ·) = after := by
    rw [List.dropWhile_append_of_pos hname]
    simp [after, endsName]
  rw [hblanks, FieldTag.pair?, htake, hdrop, if_neg (by simpa using h.named)]
  simp only [after, value?_append h.value, Option.map_some]

theorem exists_blanks_of_pair? {cs name v rest : List Char}
    (h : pair? (cs.dropWhile (· = ' ')) = some (name, v, rest)) :
    ∃ blanks, Pair.WellFormed ⟨blanks, name, v⟩ ∧ cs = Pair.text ⟨blanks, name, v⟩ ++ rest := by
  have hblanks : cs.takeWhile (· = ' ') = List.replicate (cs.takeWhile (· = ' ')).length ' ' :=
    List.eq_replicate_of_mem fun c hc => by simpa using List.mem_takeWhile_imp hc
  have hcs : cs = cs.takeWhile (· = ' ') ++ cs.dropWhile (· = ' ') := List.takeWhile_append_dropWhile.symm
  generalize cs.dropWhile (· = ' ') = start at h hcs
  have hstart : start = start.takeWhile (!endsName ·) ++ start.dropWhile (!endsName ·) :=
    List.takeWhile_append_dropWhile.symm
  have hplain : ∀ c ∈ start.takeWhile (!endsName ·), endsName c = false :=
    fun c hc => by simpa using List.mem_takeWhile_imp hc
  unfold pair? at h
  generalize start.takeWhile (!endsName ·) = word at h hstart hplain
  simp only at h
  by_cases hnamed : word.isEmpty = true
  · simp [hnamed] at h
  rw [if_neg hnamed] at h
  split at h
  · rename_i body hbody
    obtain ⟨⟨w, after⟩, hw, hout⟩ := Option.map_eq_some_iff.mp h
    obtain ⟨rfl, hmore⟩ := Prod.mk.inj hout
    obtain ⟨rfl, rfl⟩ := Prod.mk.inj hmore
    obtain ⟨hvalue, rfl⟩ := isValue_of_value? hw
    refine ⟨(cs.takeWhile (· = ' ')).length, ⟨?_, ?_, hvalue⟩, ?_⟩
    · simpa using hnamed
    · exact fun c hc => endsName_eq_false_iff.mp (hplain c hc)
    · rw [hstart, hbody, hblanks] at hcs
      simpa [Pair.text] using hcs
  · simp at h

theorem pair?_eq_some_iff {cs name v rest : List Char} :
    pair? (cs.dropWhile (· = ' ')) = some (name, v, rest) ↔
      ∃ blanks, Pair.WellFormed ⟨blanks, name, v⟩ ∧ cs = Pair.text ⟨blanks, name, v⟩ ++ rest := by
  constructor
  · exact exists_blanks_of_pair?
  · rintro ⟨blanks, hwell, rfl⟩
    exact hwell.pair? rest

theorem Pair.WellFormed.eq_of_text {p q : Pair} (hp : p.WellFormed) (hq : q.WellFormed) {rest more : List Char}
    (h : p.text ++ rest = q.text ++ more) : p.name = q.name ∧ p.value = q.value ∧ rest = more := by
  have hread := hp.pair? rest
  rw [h, hq.pair? more] at hread
  simpa [eq_comm] using hread

/-! ## Pair by pair -/

theorem Pair.length_text (p : Pair) : p.text.length = p.blanks + p.name.length + p.value.length + 3 := by
  simp [text]
  omega

theorem Holds.pair?_ne_none {cs key v : List Char} (h : Holds cs key v) : pair? (cs.dropWhile (· = ' ')) ≠ none := by
  obtain ⟨before, p, rest, rfl, hwell, -⟩ := h
  obtain ⟨q, more, hq, htext⟩ : ∃ q more, q ∈ before ++ [p] ∧
      (before ++ [p]).flatMap Pair.text ++ rest = q.text ++ more := by
    cases before with
    | nil => exact ⟨p, rest, by simp, by simp⟩
    | cons q before => exact ⟨q, (before ++ [p]).flatMap Pair.text ++ rest, by simp, by simp⟩
  rw [htext, (hwell q hq).pair? more]
  exact Option.some_ne_none _

theorem holds_text_iff {p : Pair} (hp : p.WellFormed) {rest key v : List Char} :
    Holds (p.text ++ rest) key v ↔ if p.name = key then p.value = v else Holds rest key v := by
  split
  · rename_i hname
    constructor
    · rintro ⟨before, q, more, htext, hwell, hnames, hkey, rfl⟩
      cases before with
      | nil => exact (hp.eq_of_text (hwell q (by simp)) (by simpa using htext)).2.1
      | cons first before =>
        have hfirst := hp.eq_of_text (hwell first (by simp)) (by simpa using htext)
        exact absurd (hfirst.1.symm.trans hname) (hnames first (by simp))
    · rintro rfl
      exact ⟨[], p, rest, by simp, by simpa using hp, by simp, hname, rfl⟩
  · rename_i hname
    constructor
    · rintro ⟨before, q, more, htext, hwell, hnames, rfl, rfl⟩
      cases before with
      | nil => exact absurd (hp.eq_of_text (hwell q (by simp)) (by simpa using htext)).1 hname
      | cons first before =>
        obtain ⟨hfirst, hwell⟩ := List.forall_mem_cons.mp hwell
        have hrest := (hp.eq_of_text hfirst (by simpa using htext)).2.2
        exact ⟨before, q, more, by simpa using hrest, hwell, (List.forall_mem_cons.mp hnames).2, rfl, rfl⟩
    · rintro ⟨before, q, more, rfl, hwell, hnames, rfl, rfl⟩
      exact ⟨p :: before, q, more, by simp, List.forall_mem_cons.mpr ⟨hp, hwell⟩,
        List.forall_mem_cons.mpr ⟨hname, hnames⟩, rfl, rfl⟩

theorem find?_eq_some_iff {key budget cs v : List Char} (hbudget : cs.length ≤ budget.length) :
    find? key budget cs = some v ↔ Holds cs key v := by
  induction budget generalizing cs with
  | nil =>
    obtain rfl := List.eq_nil_of_length_eq_zero (Nat.le_zero.mp hbudget)
    exact ⟨nofun, fun h => absurd rfl h.pair?_ne_none⟩
  | cons b budget ih =>
    rw [find?]
    cases hpair : pair? (cs.dropWhile (· = ' ')) with
    | none => exact ⟨nofun, fun h => absurd hpair h.pair?_ne_none⟩
    | some round =>
      obtain ⟨name, w, rest⟩ := round
      obtain ⟨blanks, hwell, rfl⟩ := pair?_eq_some_iff.mp hpair
      rw [holds_text_iff hwell]
      simp only
      split
      · exact Option.some_inj
      · apply ih
        simp only [List.length_append, Pair.length_text, List.length_cons] at hbudget
        omega

theorem lookup?_eq_some_iff {tag key v : String} :
    lookup? tag key = some v ↔ Holds tag.toList key.toList v.toList := by
  rw [lookup?, ← find?_eq_some_iff (Nat.le_refl _), Option.map_eq_some_iff]
  constructor
  · rintro ⟨cs, hcs, rfl⟩
    rwa [String.toList_ofList]
  · intro h
    exact ⟨v.toList, h, String.ofList_toList⟩

/-! ## Rounds -/

/-- The number of bytes that characters take. -/
def width (cs : List Char) : Nat := (String.ofList cs).utf8ByteSize

theorem width_append (cs ds : List Char) : width (cs ++ ds) = width cs + width ds := by
  unfold width
  rw [String.ofList_append, String.utf8ByteSize_append]

/-- The lookup comes to the text `cs` after some rounds, `offset` bytes into the tag. -/
inductive Comes (key tag : List Char) : Nat → Nat → List Char → Prop where
  | start : Comes key tag 0 0 tag
  | next {rounds offset : Nat} {cs name v rest : List Char} :
      Comes key tag rounds offset cs → pair? (cs.dropWhile (· = ' ')) = some (name, v, rest) → name ≠ key →
      Comes key tag (rounds + 1) (offset + (width cs - width rest)) rest

/-- The offsets at which a round cuts that starts with `cs`: behind the blanks, before and behind the colon, behind
the first quote, and before and behind the second one, as far as the round comes. -/
def cuts (offset : Nat) (cs : List Char) : List Nat :=
  let start := cs.dropWhile (· = ' ')
  let first := offset + width (cs.takeWhile (· = ' '))
  let colon := first + width (start.takeWhile (!endsName ·))
  [first, colon] ++
    match start.dropWhile (!endsName ·) with
    | ':' :: '"' :: body => [colon + 1, colon + 2] ++
        match value? body with
        | some (v, _) => [colon + 2 + width v, colon + 2 + width v + 1]
        | none => []
    | ':' :: _ => [colon + 1]
    | _ => []

/-- The tag is cut before `cs`, between two characters. -/
def Splits (tag : String) (offset : Nat) (cs : List Char) : Prop :=
  ∃ before, tag.toList = before ++ cs ∧ width before = offset

section Splits

variable {tag : String} {offset : Nat} {cs : List Char}

theorem Splits.isValid (h : Splits tag offset cs) : String.Pos.Raw.IsValid tag ⟨offset⟩ := by
  obtain ⟨before, htag, rfl⟩ := h
  rw [String.Pos.Raw.isValid_iff_exists_append]
  refine ⟨String.ofList before, String.ofList cs, ?_, rfl⟩
  rw [← String.ofList_append, ← htag, String.ofList_toList]

theorem Splits.append {word : List Char} (h : Splits tag offset (word ++ cs)) :
    Splits tag (offset + width word) cs := by
  obtain ⟨before, htag, rfl⟩ := h
  exact ⟨before ++ word, by simpa using htag, width_append before word⟩

theorem Splits.behind {c : Char} (hc : width [c] = 1) (h : Splits tag offset (c :: cs)) :
    Splits tag (offset + 1) cs := by
  have hword : Splits tag offset ([c] ++ cs) := h
  rw [← hc]
  exact hword.append

theorem Splits.dropWhile (h : Splits tag offset cs) (p : Char → Bool) :
    Splits tag (offset + width (cs.takeWhile p)) (cs.dropWhile p) := by
  apply append
  rwa [List.takeWhile_append_dropWhile]

theorem Splits.cuts (h : Splits tag offset cs) : ∀ cut ∈ cuts offset cs, String.Pos.Raw.IsValid tag ⟨cut⟩ := by
  have hfirst := h.dropWhile (· = ' ')
  have hcolon := hfirst.dropWhile (!endsName ·)
  unfold FieldTag.cuts
  simp only [List.forall_mem_append, List.forall_mem_cons]
  refine ⟨⟨hfirst.isValid, hcolon.isValid, by simp⟩, ?_⟩
  split
  · rename_i body hbody
    rw [hbody] at hcolon
    have hmark := hcolon.behind (by decide)
    have hquote := hmark.behind (by decide)
    simp only [List.forall_mem_append, List.forall_mem_cons]
    refine ⟨⟨hmark.isValid, hquote.isValid, by simp⟩, ?_⟩
    split
    · rename_i v rest hvalue
      obtain ⟨-, rfl⟩ := isValue_of_value? hvalue
      have hclose := hquote.append
      simp only [List.forall_mem_cons]
      exact ⟨hclose.isValid, (hclose.behind (by decide)).isValid, by simp⟩
    · simp
  · rename_i hbody
    rw [hbody] at hcolon
    simpa using (hcolon.behind (by decide)).isValid
  · simp

theorem Comes.splits {key : List Char} {rounds : Nat} (h : Comes key tag.toList rounds offset cs) :
    Splits tag offset cs ∧ rounds + cs.length ≤ tag.length ∧ ∀ v, Holds tag.toList key v ↔ Holds cs key v := by
  induction h with
  | start => exact ⟨⟨[], rfl, by decide⟩, by simp [String.length_toList], fun v => Iff.rfl⟩
  | next _ hpair hname ih =>
    obtain ⟨hsplits, hrounds, hholds⟩ := ih
    obtain ⟨blanks, hwell, rfl⟩ := pair?_eq_some_iff.mp hpair
    refine ⟨?_, ?_, ?_⟩
    · rw [width_append, Nat.add_sub_cancel]
      exact hsplits.append
    · simp only [List.length_append, Pair.length_text] at hrounds
      omega
    · intro v
      rw [hholds, holds_text_iff hwell, if_neg hname]

end Splits

/-- What a lookup finds is what the grammar of tags says. It is found in as many rounds as the tag has characters at
most, and each of them cuts the tag between two characters, and leaves the answer to the rest. -/
theorem lookup?_grammar (tag key : String) :
    (∀ v : String, lookup? tag key = some v ↔ Holds tag.toList key.toList v.toList) ∧
    ∀ rounds offset cs, Comes key.toList tag.toList rounds offset cs → rounds ≤ tag.length ∧
      lookup? tag key = lookup? (String.ofList cs) key ∧
      ∀ cut ∈ cuts offset cs, String.Pos.Raw.IsValid tag ⟨cut⟩ := by
  refine ⟨fun v => lookup?_eq_some_iff, fun rounds offset cs hcomes => ?_⟩
  obtain ⟨hsplits, hrounds, hholds⟩ := hcomes.splits
  refine ⟨by omega, Option.ext fun v => ?_, hsplits.cuts⟩
  rw [lookup?_eq_some_iff, lookup?_eq_some_iff, hholds, String.toList_ofList]

/-- A quote may be hidden in a value, and neither blanks between pairs nor what follows the key matter. -/
example : lookup? "doc:\"say \\\"hi\\\"\"json:\"id,omitempty\" rest" "json" = some "id,omitempty" := by decide +kernel

end Declgen.FieldTag
