import Declgen.Proofs.Render.WireNames
import Mathlib.Data.List.Nodup
import Mathlib.Data.List.Perm.Subperm

/-!
# Identifiers of fields

Two names in the model can come to the same identifier, and a counted identifier can be what a later name comes to.
So each search goes by all that was given out before it.
-/

namespace Declgen.Render

open Source (Token Parser)

variable {used earlier : List String} {base name : String} {m n : Nat}

/-! ## Candidates -/

theorem toString_injective (h : toString m = toString n) : m = n := by
  have hdigits : Nat.toDigits 10 m = Nat.toDigits 10 n := by simpa using congrArg String.toList h
  have hvalue := congrArg (Nat.ofDigitChars 10 · 0) hdigits
  simpa [Nat.ofDigitChars_toDigits] using hvalue

theorem fieldCandidate_counted (h : n ≠ 1) : fieldCandidate base n = base ++ ("_" ++ toString n) := by
  rw [fieldCandidate, if_neg h, String.append_assoc]

theorem base_ne_counted : base ≠ base ++ ("_" ++ toString n) := by
  intro h
  have hlength := congrArg String.length h
  simp at hlength

theorem fieldCandidate_injective (h : fieldCandidate base m = fieldCandidate base n) : m = n := by
  by_cases hm : m = 1 <;> by_cases hn : n = 1
  · rw [hm, hn]
  · subst hm
    rw [fieldCandidate_counted hn] at h
    exact absurd h base_ne_counted
  · subst hn
    rw [fieldCandidate_counted hm] at h
    exact absurd h.symm base_ne_counted
  · rw [fieldCandidate_counted hm, fieldCandidate_counted hn, String.append_right_inj, String.append_right_inj] at h
    exact toString_injective h

/-! ## Searches -/

/-- The search as a loop with no bound: it counts up from `n` and gives `name`. -/
inductive Search (used : List String) (base : String) : Nat → String → Prop where
  | free {n : Nat} : fieldCandidate base n ∉ used → Search used base n (fieldCandidate base n)
  | taken {n : Nat} {name : String} : fieldCandidate base n ∈ used → Search used base (n + 1) name →
    Search used base n name

theorem Search.unique {other : String} (h : Search used base n name) (hother : Search used base n other) :
    name = other := by
  induction h with
  | free hfree =>
    cases hother with
    | free => rfl
    | taken htaken => exact absurd htaken hfree
  | taken htaken _ ih =>
    cases hother with
    | free hfree => exact absurd htaken hfree
    | taken _ hrest => exact ih hrest

theorem exists_free (used : List String) (base : String) (n : Nat) :
    ∃ k ≤ used.length, fieldCandidate base (n + k) ∉ used := by
  -- One more candidate than there are used names, no two alike: they cannot all be used.
  by_contra! h
  let tried := (List.range (used.length + 1)).map fun k => fieldCandidate base (n + k)
  have hdistinct : tried.Nodup := by
    refine List.Nodup.map_on (fun j _ k _ heq => ?_) List.nodup_range
    have := fieldCandidate_injective heq
    omega
  have hsubset : tried ⊆ used := by
    intro name hname
    obtain ⟨k, hk, rfl⟩ := List.mem_map.mp hname
    exact h k (Nat.le_of_lt_succ (List.mem_range.mp hk))
  have hle := (hdistinct.subperm hsubset).length_le
  rw [List.length_map, List.length_range] at hle
  omega

theorem search_firstUnused {budget : List String} {k : Nat} (hk : k ≤ budget.length)
    (hfree : fieldCandidate base (n + k) ∉ used) : Search used base n (firstUnused used base budget n) := by
  induction budget generalizing n k with
  | nil =>
    obtain rfl : k = 0 := Nat.le_zero.mp hk
    exact .free hfree
  | cons b budget ih =>
    rw [firstUnused]
    split
    · rename_i htaken
      have htaken : fieldCandidate base n ∈ used := List.contains_iff_mem.mp htaken
      cases k with
      | zero => exact absurd htaken hfree
      | succ k =>
        rw [← Nat.add_assoc, Nat.add_right_comm] at hfree
        exact .taken htaken (ih (Nat.le_of_succ_le_succ hk) hfree)
    · rename_i hunused
      exact .free (mt List.contains_iff_mem.mpr hunused)

theorem search_iff : Search used base 1 name ↔ name = firstUnused used base used 1 := by
  obtain ⟨k, hk, hfree⟩ := exists_free used base 1
  have hends := search_firstUnused hk hfree
  constructor
  · intro h
    exact h.unique hends
  · rintro rfl
    exact hends

/-- The first candidate for the base that is not among the earlier names is the `n`-th, and this is `name`. -/
structure IsFirst (earlier : List String) (base name : String) (n : Nat) : Prop where
  counted : 0 < n
  candidate : name = fieldCandidate base n
  free : name ∉ earlier
  tried : ∀ k, 0 < k → k < n → fieldCandidate base k ∈ earlier

theorem Search.exists_isFirst (h : Search used base m name) (hm : 0 < m)
    (htried : ∀ k, 0 < k → k < m → fieldCandidate base k ∈ used) : ∃ n, IsFirst used base name n := by
  induction h with
  | @free m hfree => exact ⟨m, hm, rfl, hfree, htried⟩
  | @taken m name htaken _ ih =>
    refine ih (Nat.succ_pos m) fun k hpos hlt => ?_
    rcases Nat.lt_succ_iff_lt_or_eq.mp hlt with hless | rfl
    · exact htried k hpos hless
    · exact htaken

theorem exists_isFirst_firstUnused (used : List String) (base : String) :
    ∃ n, IsFirst used base (firstUnused used base used 1) n :=
  (search_iff.mpr rfl).exists_isFirst Nat.one_pos (by omega)

theorem IsFirst.congr (h : IsFirst used base name n) (hsame : ∀ s, s ∈ used ↔ s ∈ earlier) :
    IsFirst earlier base name n :=
  ⟨h.counted, h.candidate, mt (hsame name).mpr h.free, fun k hpos hlt => (hsame _).mp (h.tried k hpos hlt)⟩

/-! ## One after the other -/

/-- One name for each base, no two alike. Each is the first candidate that is not among the names before it. -/
structure Identify (bases names : List String) : Prop where
  oneEach : names.length = bases.length
  distinct : names.Nodup
  first : ∀ i base name, bases[i]? = some base → names[i]? = some name → ∃ n, IsFirst (names.take i) base name n

theorem not_mem_of_mem_uniqueNames {bases : List String} (h : name ∈ uniqueNames used bases) : name ∉ used := by
  induction bases generalizing used with
  | nil => simp [uniqueNames] at h
  | cons base rest ih =>
    rw [uniqueNames] at h
    rcases List.mem_cons.mp h with rfl | hrest
    · obtain ⟨n, hn⟩ := exists_isFirst_firstUnused used base
      exact hn.free
    · exact fun hused => ih hrest (List.mem_cons_of_mem _ hused)

theorem nodup_uniqueNames (used bases : List String) : (uniqueNames used bases).Nodup := by
  induction bases generalizing used with
  | nil => exact List.nodup_nil
  | cons base rest ih =>
    rw [uniqueNames]
    refine List.nodup_cons.mpr ⟨fun hmem => ?_, ih _⟩
    exact not_mem_of_mem_uniqueNames hmem (List.mem_cons_self ..)

theorem exists_isFirst_uniqueNames {bases : List String} {i : Nat} (hbase : bases[i]? = some base)
    (hname : (uniqueNames used bases)[i]? = some name) :
    ∃ n, IsFirst ((uniqueNames used bases).take i ++ used) base name n := by
  induction bases generalizing used i with
  | nil => simp at hbase
  | cons first rest ih =>
    rw [uniqueNames] at hname ⊢
    cases i with
    | zero =>
      obtain rfl := Option.some.inj hbase
      obtain rfl := Option.some.inj hname
      exact exists_isFirst_firstUnused used first
    | succ i =>
      obtain ⟨n, hn⟩ := ih hbase hname
      refine ⟨n, hn.congr fun s => ?_⟩
      simp [or_left_comm]

theorem identify_uniqueNames (bases : List String) : Identify bases (uniqueNames [] bases) where
  oneEach := length_uniqueNames [] bases
  distinct := nodup_uniqueNames [] bases
  first i base name hbase hname := by simpa using exists_isFirst_uniqueNames hbase hname

/-! ## Structs -/

theorem hash_not_mem_of_isIdentifier (h : Source.isIdentifier name = true) : '#' ∉ name.toList := by
  intro hmem
  have hword : Source.isAsciiWord name = true := (Bool.and_eq_true_iff.mp h).1
  unfold Source.isAsciiWord at hword
  split at hword
  · simp_all
  · rename_i c rest hcs
    rw [hcs] at hmem
    obtain ⟨hstart, hrest⟩ := Bool.and_eq_true_iff.mp hword
    rcases List.mem_cons.mp hmem with rfl | htail
    · simp [Source.isAsciiWordStart] at hstart
    · have hhash := List.all_eq_true.mp hrest _ htail
      simp [Source.isAsciiWordChar] at hhash

theorem spelling_injective {other : String} (h : Source.isIdentifier name = true)
    (hother : Source.isIdentifier other = true)
    (heq : (Token.identifier name).spelling = (Token.identifier other).spelling) : name = other := by
  unfold Token.identifier at heq
  -- Of an escaped name and one that is not, only the spelling of the first has a mark in it.
  cases hkeyword : Source.isKeyword name <;> cases hkeyword' : Source.isKeyword other <;>
    rw [hkeyword, hkeyword'] at heq
  · exact heq
  · exact absurd (by simp [show name = "r#" ++ other from heq]) (hash_not_mem_of_isIdentifier h)
  · exact absurd (by simp [← show "r#" ++ name = other from heq]) (hash_not_mem_of_isIdentifier hother)
  · exact (String.append_right_inj "r#").mp heq

/-- Reads a field up to its type, and gives its name. -/
def fieldToken? (n : Parser.Nested) (row : List Token) : Option Token := do
  let (_, row) ← Parser.loop (Parser.attributes n) row
  let (_, row) ← Parser.visibility row
  match row with
  | t :: .mark ':' false :: _ => some t
  | _ => none

/-- A struct of the object with one field for each of the names, which are identifiers and not written alike. -/
def Carries (derives : List Token) (o : ObjectArtifact) (names : List String) (struct : List Token) : Prop :=
  ∃ rows, struct = derives ++ [.plain "pub", .plain "struct", .identifier o.name] ++
      Token.inBrackets .curly (Token.commas rows) ∧
    List.Forall₂ (fun name row => ∀ n, fieldToken? n row = some (.identifier name)) names rows ∧
    (∀ name ∈ names, Source.isIdentifier name = true) ∧
    (names.map fun name => (Token.identifier name).spelling).Nodup

theorem fieldToken?_fieldTokens {config : Config} {object : String} {f : FieldArtifact × String} {row : List Token}
    (h : fieldTokens config object f = .ok row) :
    Source.isIdentifier f.2 = true ∧ ∀ n, fieldToken? n row = some (.identifier f.2) := by
  obtain ⟨hidentifier, type, -, rfl⟩ := exists_of_fieldTokens h
  refine ⟨hidentifier, fun n => ?_⟩
  have hhash : Parser.mark '#' (.plain "pub" :: .identifier f.2 :: .sign ':' :: type) = none := rfl
  obtain ⟨as, hread⟩ := attributes_read n (isAttribute_field config f.1 f.2) hhash
  have hpub : Parser.visibility (.plain "pub" :: .identifier f.2 :: .sign ':' :: type) =
      some (.everywhere, .identifier f.2 :: .sign ':' :: type) := visibility_pub rfl
  simp only [fieldToken?, hread, hpub, Option.bind_eq_bind, Option.bind_some]
  rfl

theorem carries_objectTokens {config : Config} {derives : List Token} {o : ObjectArtifact} {struct : List Token}
    (h : objectTokens config derives o = .ok struct) :
    Carries derives o (fieldNames (o.fields.map (·.name))) struct := by
  obtain ⟨-, rows, hrows, rfl⟩ := exists_of_objectTokens h
  have hread : List.Forall₂ (fun name row => Source.isIdentifier name = true ∧
      ∀ n, fieldToken? n row = some (.identifier name)) (fieldNames (o.fields.map (·.name))) rows := by
    rw [← map_snd_zip_fieldNames o, List.forall₂_map_left_iff]
    exact hrows.imp fun f row => fieldToken?_fieldTokens
  have hidentifiers : ∀ name ∈ fieldNames (o.fields.map (·.name)), Source.isIdentifier name = true := by
    intro name hname
    obtain ⟨row, -, hrow⟩ := exists_mem_of_forall₂ hread hname
    exact hrow.1
  refine ⟨rows, rfl, hread.imp fun _ _ => And.right, hidentifiers, ?_⟩
  refine List.Nodup.map_on (fun name hname other hother => ?_) (nodup_uniqueNames [] _)
  exact spelling_injective (hidentifiers name hname) (hidentifiers other hother)

/-- What an identifier is made from, when the name comes out of snake case as `converted`. -/
def baseOf (raw converted : String) : String := if converted.isEmpty then raw else converted

/-- The fields of a struct get different identifiers, each the first that is free, whatever their names come to in
snake case. The search for each of them ends. A struct that is written carries these identifiers, and its text tells
them apart. -/
theorem fieldNames_identify :
    (∀ used base name, Search used base 1 name ↔ name = firstUnused used base used 1) ∧
    (∀ fields : List (String × String), Identify (fields.map fun f => baseOf f.1 f.2)
      (uniqueNames [] (fields.map fun f => baseOf f.1 f.2))) ∧
    (∀ raws, fieldNames raws = uniqueNames [] (raws.map fun raw => baseOf raw (Text.snakeCase raw))) ∧
    ∀ {config : Config} {derives : List Token} {o : ObjectArtifact} {struct : List Token},
      objectTokens config derives o = .ok struct → Carries derives o (fieldNames (o.fields.map (·.name))) struct :=
  ⟨fun _ _ _ => search_iff, fun _ => identify_uniqueNames _, fun _ => rfl, carries_objectTokens⟩

/-- Three names with one identifier, the name that the second of them is counted to, and a keyword. -/
def crowdedObject : ObjectArtifact :=
  ⟨"Row", [⟨"Map", .any, ""⟩, ⟨"map", .any, ""⟩, ⟨"MAP", .any, ""⟩, ⟨"map_2", .any, ""⟩, ⟨"Type", .any, ""⟩]⟩

theorem fieldNames_identify_crowded :
    fieldNames (crowdedObject.fields.map (·.name)) = ["map", "map_2", "map_3", "map_2_2", "type"] ∧
    ∃ struct, objectTokens .default [] crowdedObject = .ok struct ∧
      Carries [] crowdedObject ["map", "map_2", "map_3", "map_2_2", "type"] struct := by
  have hnames : fieldNames (crowdedObject.fields.map (·.name)) = ["map", "map_2", "map_3", "map_2_2", "type"] := by
    decide +kernel
  have h : (objectTokens .default [] crowdedObject).toOption.isSome = true := by decide +kernel
  obtain ⟨struct, hstruct⟩ := exists_eq_ok_of_toOption h
  exact ⟨hnames, struct, hstruct, hnames ▸ fieldNames_identify.2.2.2 hstruct⟩

end Declgen.Render
