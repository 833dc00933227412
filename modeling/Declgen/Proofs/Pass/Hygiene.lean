import Declgen.Generate
import Declgen.Proofs.Pass.Calls
import Declgen.Proofs.Pass.Meaning
import Declgen.Proofs.Pass.References

/-!
# Hygiene

A generated type takes the place of what a file means by the same name without generating it. No name that is made up
does so to what the generator writes by itself. The identifier of a qualified name of the model may, as nothing keeps it
from being one of these names.
-/

namespace Declgen

/-! ## Where generated names come from -/

theorem origin_of_run {m : Model} {hook : Hook} {prereserved : List String} {tries : Nat} {p : Pass}
    (h : Pass.run m hook prereserved tries = some p) {name : String} (hname : name ∈ p.found.names) :
    (Allocator.new prereserved tries).Origin m.sources name := by
  obtain ⟨log, horderly⟩ := run_orderly h
  have hreserved := (run_underWay h).complete.handedOut.subset hname
  exact horderly.history.origin horderly.sources name hreserved

/-! ## What is written is not made up -/

/-- The names that the generator writes beside import aliases. -/
def builtIns : List String :=
  ["String", "str", "bool", "i8", "i16", "i32", "i64", "u8", "u16", "u32", "u64", "usize", "f32", "f64", "Vec",
    "Option", "Box", "DateTime", "Utc", "std", "serde_json", "chrono"]

theorem Primitive.sourceName_mem (p : Primitive) : p.sourceName ∈ builtIns := by
  cases p with
  | number r => cases r <;> decide
  | _ => decide

theorem looksMadeUp_of_mem_builtIns : ∀ name ∈ builtIns, looksMadeUp name = false := by decide +kernel

theorem toList_importAlias (path : String) :
    (importAlias path).toList = "external_".toList ++ (Digest.short path 7).toList := by
  simp [importAlias]

theorem looksMadeUp_importAlias (path : String) : looksMadeUp (importAlias path) = false := by
  have hlength : (Digest.short path 7).toList.length = 7 := Digest.length_short path (by decide)
  have hhex : ∀ c ∈ (Digest.short path 7).toList, Digest.isHex c = true := fun c hc =>
    Digest.isHex_of_mem_short hc
  unfold looksMadeUp
  rw [toList_importAlias]
  generalize (Digest.short path 7).toList = digits at hlength hhex ⊢
  have hletter : ∀ c, Digest.isHex c = false → c ∉ "external_".toList →
      ("external_".toList ++ digits).contains c = false := by
    intro c hc hfixed
    have hdigits : c ∉ digits := fun hmem => by simp [hhex c hmem] at hc
    rw [List.contains_eq_mem, decide_eq_false_iff_not, List.mem_append, not_or]
    exact ⟨hfixed, hdigits⟩
  rw [hletter 'I' (by decide) (by decide), hletter 'K' (by decide) (by decide)]
  obtain ⟨a, b, c, d, e, f, g, rfl⟩ : ∃ a b c d e f g, digits = [a, b, c, d, e, f, g] := by
    rcases digits with _ | ⟨a, _ | ⟨b, _ | ⟨c, _ | ⟨d, _ | ⟨e, _ | ⟨f, _ | ⟨g, _ | ⟨h, rest⟩⟩⟩⟩⟩⟩⟩⟩
    case cons.cons.cons.cons.cons.cons.cons.nil => exact ⟨a, b, c, d, e, f, g, rfl⟩
    all_goals simp at hlength
  -- The fifth character from the end is a digit too, so no underscore.
  have hc : c ≠ '_' := by
    rintro rfl
    exact absurd (hhex '_' (by simp)) (by decide)
  simp [hc]

theorem mem_builtIns_of_mem_written {c : ConstantArtifact} {name : String} (h : name ∈ c.written) :
    name ∈ builtIns := by
  rcases List.mem_cons.mp h with rfl | h
  · exact c.base.sourceName_mem
  · split at h
    · obtain rfl := List.mem_singleton.mp h
      decide
    · simp at h

namespace Pass

variable {p : Pass} {t : TypeExpr}

theorem Backs.looksMadeUp_written (ht : p.Backs t)
    (haliased : ∀ i ∈ p.found.imports, i.importAlias = importAlias i.path) :
    ∀ name ∈ t.written, looksMadeUp name = false := by
  induction t with
  | primitive q =>
    intro name hname
    obtain rfl := List.mem_singleton.mp hname
    exact looksMadeUp_of_mem_builtIns _ q.sourceName_mem
  | struct name | typeAlias name => simp [TypeExpr.written]
  | external alias_ name =>
    cases alias_ with
    | none => simp [TypeExpr.written]
    | some alias_ =>
      intro name hname
      obtain rfl := List.mem_singleton.mp hname
      obtain ⟨i, hi, hname⟩ := List.mem_map.mp ht
      rw [← hname, haliased i hi]
      exact looksMadeUp_importAlias i.path
  | vec inner ih | option inner ih | boxed inner ih =>
    exact List.forall_mem_cons.mpr ⟨looksMadeUp_of_mem_builtIns _ (by decide), ih ht⟩
  | map key value ihk ihv =>
    refine List.forall_mem_cons.mpr ⟨looksMadeUp_of_mem_builtIns _ (by decide), fun name hname => ?_⟩
    rcases List.mem_append.mp hname with hkey | hvalue
    · exact ihk ht.1 name hkey
    · exact ihv ht.2 name hvalue
  | dateTime | any => exact fun name hname => looksMadeUp_of_mem_builtIns name (by revert name; decide)

theorem UnderWay.looksMadeUp_written (h : p.UnderWay []) :
    ∀ name ∈ p.found.sorted.written, looksMadeUp name = false := by
  intro name hname
  simp only [Artifacts.written, List.mem_append, or_assoc] at hname
  rcases hname with hfield | hconstant | himport | hdate
  · obtain ⟨t, ht, hname⟩ := List.mem_flatMap.mp hfield
    exact (h.backed t (Artifacts.mem_fieldTypes_sorted.mp ht)).looksMadeUp_written h.aliased name hname
  · obtain ⟨c, -, hname⟩ := List.mem_flatMap.mp hconstant
    exact looksMadeUp_of_mem_builtIns name (mem_builtIns_of_mem_written hname)
  · obtain ⟨i, hi, rfl⟩ := List.mem_map.mp himport
    rw [h.aliased i (mem_sortBy.mp hi)]
    exact looksMadeUp_importAlias i.path
  · refine looksMadeUp_of_mem_builtIns name ?_
    split at hdate
    · revert name
      decide
    · simp at hdate

end Pass

/-! ## What names stand for -/

namespace Artifacts

variable {a : Artifacts} {name : String}

theorem meaning_of_not_mem (h : name ∉ a.names) :
    a.meaning name =
      match a.imports.find? (·.importAlias == name) with
      | some i => .imported i.path
      | none => if a.usesDateTime ∧ (name = "DateTime" ∨ name = "Utc") then .date else .builtIn := by
  rw [names, List.mem_append, not_or] at h
  exact (if_neg h.1).trans (if_neg h.2)

theorem meaning_struct (h : a.Provides (.struct name)) : a.meaning name = .struct :=
  if_pos (List.mem_map.mpr h)

theorem meaning_typeAlias (hdistinct : a.names.Nodup) (h : a.Provides (.typeAlias name)) :
    a.meaning name = .typeAlias := by
  have hmem : name ∈ a.constants.map (·.name) := List.mem_map.mpr h
  have hobject : name ∉ a.objects.map (·.name) := fun hobject => List.disjoint_of_nodup_append hdistinct hobject hmem
  rw [meaning, if_neg hobject, if_pos hmem]

end Artifacts

theorem builtIn_ne_importAlias {name : String} (h : name ∈ builtIns) (path : String) :
    name ≠ importAlias path := by
  have hshort : ∀ name ∈ builtIns, name.toList.length ≤ 10 := by decide +kernel
  have hlong : (importAlias path).toList.length = 16 := by
    rw [toList_importAlias, List.length_append, Digest.length_short path (by decide)]
    decide
  rintro rfl
  have := hshort _ h
  omega

section Meanings

variable {p : Pass} (h : p.UnderWay [])
include h

theorem find?_importAlias_of_builtIn {name : String} (hbuiltIn : name ∈ builtIns) :
    p.found.sorted.imports.find? (·.importAlias == name) = none := by
  refine List.find?_eq_none.mpr fun i hi heq => ?_
  have halias := h.aliased i (mem_sortBy.mp hi)
  exact builtIn_ne_importAlias hbuiltIn i.path (by rw [← halias]; exact (eq_of_beq heq).symm)

theorem meaning_of_builtIn {name : String} (hbuiltIn : name ∈ builtIns)
    (hdate : name ≠ "DateTime" ∧ name ≠ "Utc") (hfree : name ∉ p.found.sorted.names) :
    p.found.sorted.meaning name = .builtIn := by
  rw [Artifacts.meaning_of_not_mem hfree, find?_importAlias_of_builtIn h hbuiltIn]
  simp [hdate]

theorem meaning_of_date {name : String} (hdate : name = "DateTime" ∨ name = "Utc")
    (huses : p.found.usesDateTime = true) (hfree : name ∉ p.found.sorted.names) :
    p.found.sorted.meaning name = .date := by
  have hbuiltIn : name ∈ builtIns := by rcases hdate with rfl | rfl <;> decide
  rw [Artifacts.meaning_of_not_mem hfree, find?_importAlias_of_builtIn h hbuiltIn]
  exact if_pos ⟨huses, hdate⟩

theorem exists_import_of_backs {alias_ text : String} (ht : p.Backs (.external (some alias_) text))
    (hfree : alias_ ∉ p.found.sorted.names) :
    ∃ i ∈ p.found.sorted.imports, alias_ = importAlias i.path ∧ p.found.sorted.meaning alias_ = .imported i.path := by
  obtain ⟨j, hj, hjname⟩ := List.mem_map.mp ht
  cases hfind : p.found.sorted.imports.find? (·.importAlias == alias_) with
  | none => exact absurd hjname (by simpa using List.find?_eq_none.mp hfind j (mem_sortBy.mpr hj))
  | some i =>
    have hi := List.mem_of_find?_eq_some hfind
    have hname : i.importAlias = alias_ := by simpa using List.find?_some hfind
    refine ⟨i, hi, hname ▸ h.aliased i (mem_sortBy.mp hi), ?_⟩
    rw [Artifacts.meaning_of_not_mem hfree, hfind]

theorem means_of_provides {t : TypeExpr} (ht : p.Backs t)
    (hpaths : ∀ i ∈ p.found.sorted.imports, ∀ name ∈ Source.headsIn false i.path, name ∉ p.found.sorted.names)
    (hwritten : ∀ name ∈ t.written, name ∉ p.found.sorted.names)
    (hgiven : ∀ name ∈ t.given, name ∉ p.found.sorted.names)
    (hprovides : ∀ s ∈ t.parts, p.found.sorted.Provides s) : p.found.sorted.Means t := by
  induction t with
  | primitive q =>
    have hdate : q.sourceName ≠ "DateTime" ∧ q.sourceName ≠ "Utc" := by
      cases q with
      | number r => cases r <;> decide
      | _ => decide
    exact meaning_of_builtIn h q.sourceName_mem hdate (hwritten _ List.mem_cons_self)
  | struct name => exact Artifacts.meaning_struct (hprovides _ (List.mem_singleton_self _))
  | typeAlias name =>
    have hdistinct := p.found.names_sorted_perm.nodup_iff.mpr h.complete.distinct
    exact Artifacts.meaning_typeAlias hdistinct (hprovides _ (List.mem_singleton_self _))
  | external alias_ text =>
    cases alias_ with
    | none => exact hgiven
    | some alias_ =>
      obtain ⟨i, hi, halias, hmeaning⟩ := exists_import_of_backs h ht (hwritten alias_ List.mem_cons_self)
      exact ⟨⟨i.path, halias, hmeaning, hpaths i hi⟩, hgiven⟩
  | vec inner ih | option inner ih | boxed inner ih =>
    obtain ⟨hhead, hinner⟩ := List.forall_mem_cons.mp hwritten
    exact ⟨meaning_of_builtIn h (by decide) (by decide) hhead,
      ih ht hinner hgiven (List.forall_mem_cons.mp hprovides).2⟩
  | map key value ihk ihv =>
    obtain ⟨hhead, hrest⟩ := List.forall_mem_cons.mp hwritten
    obtain ⟨hkey, hvalue⟩ := List.forall_mem_append.mp hrest
    obtain ⟨hkeyGiven, hvalueGiven⟩ := List.forall_mem_append.mp hgiven
    obtain ⟨hkeyParts, hvalueParts⟩ := List.forall_mem_append.mp (List.forall_mem_cons.mp hprovides).2
    exact ⟨meaning_of_builtIn h (by decide) (by decide) hhead, ihk ht.1 hkey hkeyGiven hkeyParts,
      ihv ht.2 hvalue hvalueGiven hvalueParts⟩
  | dateTime =>
    exact ⟨meaning_of_date h (.inl rfl) ht (hwritten _ (by decide)),
      meaning_of_date h (.inr rfl) ht (hwritten _ (by decide))⟩
  | any => exact meaning_of_builtIn h (by decide) (by decide) (hwritten _ (by decide))

end Meanings

theorem Artifacts.mem_reliedOn_of_field {a : Artifacts} {config : Config} {t : TypeExpr} (ht : t ∈ a.fieldTypes)
    {name : String} (h : name ∈ t.written ∨ name ∈ t.given) : name ∈ a.reliedOn config := by
  simp only [reliedOn, written, given, List.mem_append, List.mem_flatMap]
  rcases h with h | h
  · exact .inl (.inl (.inl (.inl ⟨t, ht, h⟩)))
  · exact .inr (.inl (.inl ⟨t, ht, h⟩))

theorem Artifacts.mem_reliedOn_of_path {a : Artifacts} {config : Config} {i : ImportRecord} (hi : i ∈ a.imports)
    {name : String} (h : name ∈ Source.headsIn false i.path) : name ∈ a.reliedOn config := by
  simp only [reliedOn, given, List.mem_append, List.mem_flatMap]
  exact .inr (.inl (.inr ⟨i, hi, h⟩))

theorem Pass.UnderWay.heads_subset {p : Pass} {config : Config} (h : p.UnderWay []) :
    ∀ t ∈ p.found.sorted.fieldTypes, ∀ ts, Render.typeTokens t = .ok ts → ∀ name ∈ Source.heads false ts,
      name ∈ p.found.sorted.names ∨ name ∈ p.found.sorted.reliedOn config := by
  intro t ht ts hts name hname
  rcases (mem_heads_typeTokens hts).mp hname with hwritten | hgiven | hmention
  · exact .inr (Artifacts.mem_reliedOn_of_field ht (.inl hwritten))
  · exact .inr (Artifacts.mem_reliedOn_of_field ht (.inr hgiven))
  · have hfound := h.complete.mentioned t (Artifacts.mem_fieldTypes_sorted.mp ht) name hmention
    exact .inl (Artifacts.mem_names_sorted.mpr hfound)

theorem Pass.UnderWay.hygienic {p : Pass} {config : Config} (h : p.UnderWay [])
    (hapart : ∀ name ∈ p.found.sorted.names, name ∉ p.found.sorted.reliedOn config)
    (hagree : p.found.sorted.Agree) : p.found.sorted.Hygienic config := by
  refine ⟨hapart, fun t ht => ?_⟩
  have hfree {name : String} (hname : name ∈ t.written ∨ name ∈ t.given) : name ∉ p.found.sorted.names :=
    fun hmem => hapart name hmem (Artifacts.mem_reliedOn_of_field ht hname)
  have hpaths : ∀ i ∈ p.found.sorted.imports, ∀ name ∈ Source.headsIn false i.path, name ∉ p.found.sorted.names :=
    fun i hi name hname hmem => hapart name hmem (Artifacts.mem_reliedOn_of_path hi hname)
  exact means_of_provides h (h.backed t (Artifacts.mem_fieldTypes_sorted.mp ht)) hpaths
    (fun name hname => hfree (.inl hname)) (fun name hname => hfree (.inr hname)) (hagree t ht)

/-! ## Hygiene -/

theorem exists_fileTokens_of_generate {r : Request} {g : Generated} (h : r.generate = .ok g) :
    ∃ p ts, Pass.run r.model r.hook r.reserve Allocator.defaultTries = some p ∧ g.artifacts = p.found.sorted ∧
      Render.fileTokens r.config p.found.sorted = .ok ts := by
  unfold Request.generate at h
  split at h
  · simp at h
  · rename_i p hp
    obtain ⟨source, hsource, hout⟩ := bind_eq_ok_iff.mp h
    obtain rfl := Except.ok.inj hout
    unfold Render.file at hsource
    split at hsource
    · simp at hsource
    · exact ⟨p, _, hp, rfl, ‹_›⟩

theorem exists_run_of_generate {r : Request} {g : Generated} (h : r.generate = .ok g) :
    ∃ p, Pass.run r.model r.hook r.reserve Allocator.defaultTries = some p ∧ g.artifacts = p.found.sorted := by
  obtain ⟨p, -, hrun, hartifacts, -⟩ := exists_fileTokens_of_generate h
  exact ⟨p, hrun, hartifacts⟩

theorem exists_generate_of_map {α : Type} {r : Request} {f : Generated → α} {x : α}
    (h : r.generate.toOption.map f = some x) : ∃ g, r.generate = .ok g ∧ f g = x := by
  obtain ⟨g, hg, hx⟩ := Option.map_eq_some_iff.mp h
  exact ⟨g, toOption_eq_some_iff.mp hg, hx⟩

/-- The types of fields name nothing but what is generated and what the file relies on, and no name that the generator
writes is made up. So a generated type has a name that its file relies on only if that is the identifier of a qualified
name of the model, bound to no other name elsewhere, or if a text that is given makes use of a name that is made up.
Where both are bound elsewhere nothing generated is in the way, and every type in a field is what it says if no object
mentions a name in another way than it was first declared. -/
theorem generate_hygienic (r : Request) (g : Generated) (h : r.generate = .ok g) :
    (∀ t ∈ g.artifacts.fieldTypes, ∀ ts, Render.typeTokens t = .ok ts → ∀ name ∈ Source.heads false ts,
      name ∈ g.artifacts.names ∨ name ∈ g.artifacts.reliedOn r.config) ∧
    (∀ name ∈ g.artifacts.written, ¬Allocator.MadeUp name) ∧
    (∀ name ∈ g.artifacts.names, name ∈ g.artifacts.reliedOn r.config →
      (∃ q ∈ r.model.sources, name = QualifiedName.bare q ∧
        ∀ owner, (Allocator.new r.reserve Allocator.defaultTries).owner? name = some owner → owner = q) ∨
      (name ∈ g.artifacts.given r.config ∧ Allocator.MadeUp name ∧
        (Allocator.new r.reserve Allocator.defaultTries).owner? name = none)) ∧
    ((∀ q ∈ r.model.sources, QualifiedName.bare q ∈ g.artifacts.reliedOn r.config →
        ∃ owner, (Allocator.new r.reserve Allocator.defaultTries).owner? (QualifiedName.bare q) = some owner ∧
          owner ≠ q) →
      (∀ name ∈ g.artifacts.given r.config, Allocator.MadeUp name →
        ((Allocator.new r.reserve Allocator.defaultTries).owner? name).isSome) →
      (∀ name ∈ g.artifacts.names, name ∉ g.artifacts.reliedOn r.config) ∧
        (r.model.OneKind r.hook → g.artifacts.Hygienic r.config)) := by
  obtain ⟨p, hrun, hartifacts⟩ := exists_run_of_generate h
  have hdone := run_underWay hrun
  rw [hartifacts]
  have hwritten : ∀ name ∈ p.found.sorted.written, ¬Allocator.MadeUp name := by
    intro name hname hmade
    exact absurd hmade.looksMadeUp (by simp [hdone.looksMadeUp_written name hname])
  have horigin : ∀ name ∈ p.found.sorted.names, name ∈ p.found.sorted.reliedOn r.config →
      (∃ q ∈ r.model.sources, name = QualifiedName.bare q ∧
        ∀ owner, (Allocator.new r.reserve Allocator.defaultTries).owner? name = some owner → owner = q) ∨
      (name ∈ p.found.sorted.given r.config ∧ Allocator.MadeUp name ∧
        (Allocator.new r.reserve Allocator.defaultTries).owner? name = none) := by
    intro name hname hrelied
    cases origin_of_run hrun (Artifacts.mem_names_sorted.mp hname) with
    | own hq hbare howner => exact .inl ⟨_, hq, hbare, howner⟩
    | madeUp hmade hfree =>
      rcases List.mem_append.mp hrelied with hown | hgiven
      · exact absurd hmade (hwritten name hown)
      · exact .inr ⟨hgiven, hmade, hfree⟩
  refine ⟨hdone.heads_subset, hwritten, horigin, fun hbound hmadeUp => ?_⟩
  have hapart : ∀ name ∈ p.found.sorted.names, name ∉ p.found.sorted.reliedOn r.config := by
    intro name hname hrelied
    rcases horigin name hname hrelied with ⟨q, hq, rfl, howner⟩ | ⟨hgiven, hmade, hfree⟩
    · obtain ⟨owner, hsome, hne⟩ := hbound q hq hrelied
      exact hne (howner owner hsome)
    · exact absurd (hmadeUp name hgiven hmade) (by simp [hfree])
  exact ⟨hapart, fun hone => hdone.hygienic hapart (agree_of_oneKind hrun hone)⟩

def parcelHook : Hook
  | .boolean => some ⟨"", "Flag"⟩
  | .any => some ⟨"money::exact", "Money<'static>"⟩
  | _ => none

/-- Types named like one of the prelude and like a crate, where these names are bound elsewhere. -/
def parcelRequest : Request where
  model := [
    ("pkg.Option", .object "pkg.Option" [
      ⟨"next", .nullable (.object "pkg.Option" []), ""⟩,
      ⟨"mode", .string "pkg.Mode" [⟨"ModeFast", "fast"⟩], ""⟩,
      ⟨"sent", .date, ""⟩,
      ⟨"paid", .boolean, ""⟩,
      ⟨"costs", .map (.string "" []) (.array .any), ""⟩]),
    ("pkg.serde", .object "pkg.serde" [])]
  hook := parcelHook
  reserve := ["core.Option", "crates.serde"]
  config := .default

def parcelArtifacts : Artifacts where
  objects := [
    ⟨"Option_ba08", [
      ⟨"costs", .map (.primitive .string) (.vec (.external (some "external_1e8f3be") "Money<'static>")), ""⟩,
      ⟨"mode", .typeAlias "Mode", ""⟩,
      ⟨"next", .option (.boxed (.struct "Option_ba08")), ""⟩,
      ⟨"paid", .external none "Flag", ""⟩,
      ⟨"sent", .dateTime, ""⟩]⟩,
    ⟨"serde_9281", []⟩]
  constants := [⟨"Mode", .string, [⟨"ModeFast", .str "fast"⟩]⟩]
  imports := [⟨"external_1e8f3be", "money::exact"⟩]
  usesDateTime := true

theorem generate_hygienic_parcel :
    ∃ g, parcelRequest.generate = .ok g ∧ g.artifacts.Hygienic parcelRequest.config := by
  have h : parcelRequest.generate.toOption.map (·.artifacts) = some parcelArtifacts := by decide +kernel
  obtain ⟨g, hg, hartifacts⟩ := exists_generate_of_map h
  refine ⟨g, hg, ?_⟩
  obtain ⟨-, -, -, hhygienic⟩ := generate_hygienic parcelRequest g hg
  rw [hartifacts] at hhygienic ⊢
  have hbound : ∀ q ∈ parcelRequest.model.sources, QualifiedName.bare q ∈ parcelArtifacts.reliedOn .default →
      ((Allocator.new parcelRequest.reserve Allocator.defaultTries).owner? (QualifiedName.bare q)).any (· ≠ q) := by
    decide +kernel
  have hgiven : ∀ name ∈ parcelArtifacts.given .default, looksMadeUp name = false := by decide +kernel
  refine (hhygienic (fun q hq hrelied => ?_) fun name hname hmade => ?_).2 ?_
  · simpa [Option.any_eq_true] using hbound q hq hrelied
  · exact absurd hmade.looksMadeUp (by simp [hgiven name hname])
  · obtain ⟨p, hrun, hsorted⟩ := exists_run_of_generate hg
    refine oneKind_of_agree hrun ?_
    rw [← hsorted, hartifacts]
    decide

/-- A field that holds a list, and a type of the name that lists go by. -/
def captureRequest : Request where
  model := [("p.A", .object "p.A" [⟨"x", .array .boolean, ""⟩]), ("p.Vec", .object "p.Vec" [])]
  hook := .none
  reserve := []
  config := .default

/-- The list in the field is the generated type, which takes no arguments. -/
theorem generate_captures :
    captureRequest.model.Loadable ∧
      ∃ g, captureRequest.generate = .ok g ∧ "Vec" ∈ g.artifacts.names ∧
        "Vec" ∈ g.artifacts.reliedOn captureRequest.config ∧
        .vec (.primitive .bool) ∈ g.artifacts.fieldTypes ∧ ¬g.artifacts.Means (.vec (.primitive .bool)) := by
  refine ⟨⟨by unfold Model.Distinct; decide, by decide +kernel⟩, ?_⟩
  have h : captureRequest.generate.toOption.map (·.artifacts) = some
      ⟨[⟨"A", [⟨"x", .vec (.primitive .bool), ""⟩]⟩, ⟨"Vec", []⟩], [], [], false⟩ := by decide +kernel
  obtain ⟨g, hg, hartifacts⟩ := exists_generate_of_map h
  refine ⟨g, hg, ?_⟩
  rw [hartifacts]
  refine ⟨by decide, List.mem_append_left _ (by decide), by decide, fun hmeans => ?_⟩
  exact absurd hmeans.1 (by decide)

end Declgen
