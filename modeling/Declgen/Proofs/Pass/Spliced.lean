import Declgen.Proofs.Pass.Hygiene
import Declgen.Proofs.Render.File

/-!
# What is read where a type is written

The text for an overridden node stands where a type is expected, but it is read with all that is around it. Text
that goes on with fields behind a type is not found out: the struct has these fields, too.
-/

namespace Declgen

/-- The text is that of items, the last of which are structs for the objects in order, with as many fields as `count`
says. -/
def Generated.Holds (g : Generated) (config : Config) (count : ObjectArtifact → Nat) : Prop :=
  ∃ front structs,
    g.source = (if config.header then Render.header else "") ++ Source.layout (front ++ structs) ∧
    List.Forall₂ (fun o i => Render.fieldCount? i.declaration = some (count o)) g.artifacts.objects structs

section Pass

variable {r : Request} {p : Pass} {extra : TypeExpr → Nat}

/-- What is asked of the artifacts of a pass: imports are written as items, and types with fields behind them. -/
structure Pass.Reads (p : Pass) (extra : TypeExpr → Nat) : Prop where
  imports : ∀ i ∈ p.found.imports, ∀ row, Render.importTokens i = .ok row → Render.IsItem row
  types : ∀ t ∈ p.found.fieldTypes, ∀ row, Render.typeTokens t = .ok row → Render.IsSpliced (extra t) row

theorem Pass.Reads.generate (h : p.Reads extra)
    (hrun : Pass.run r.model r.hook r.reserve Allocator.defaultTries = some p) {ts : List Source.Token}
    (hwritten : Render.fileTokens r.config p.found.sorted = .ok ts) :
    ∃ source, r.generate = .ok ⟨source, p.found.sorted⟩ ∧
      Generated.Holds ⟨source, p.found.sorted⟩ r.config fun o => (o.fields.map fun f => extra f.type + 1).sum := by
  have himports : ∀ i ∈ p.found.sorted.imports, ∀ row, Render.importTokens i = .ok row → Render.IsItem row :=
    fun i hi => h.imports i (mem_sortBy.mp hi)
  have htypes : ∀ t ∈ p.found.sorted.fieldTypes, ∀ row,
      Render.typeTokens t = .ok row → Render.IsSpliced (extra t) row :=
    fun t ht => h.types t (Artifacts.mem_fieldTypes_sorted.mp ht)
  obtain ⟨front, structs, his, hstructs⟩ := Render.items?_of_fileTokens himports htypes hwritten
  refine ⟨_, ?_, front, structs, rfl, hstructs⟩
  simp only [Request.generate, hrun, Render.file, hwritten, his]
  rfl

end Pass

theorem Generated.Holds.of_types {r : Request} {g : Generated} (h : r.generate = .ok g)
    (himports : ∀ i ∈ g.artifacts.imports, ∀ row, Render.importTokens i = .ok row → Render.IsItem row)
    (htypes : ∀ t ∈ g.artifacts.fieldTypes, ∀ row, Render.typeTokens t = .ok row → Render.IsType row) :
    g.Holds r.config (·.fields.length) := by
  obtain ⟨p, ts, hrun, hartifacts, hwritten⟩ := exists_fileTokens_of_generate h
  rw [hartifacts] at himports htypes
  have hreads : p.Reads fun _ => 0 := by
    refine ⟨fun i hi => himports i (mem_sortBy.mpr hi), fun t ht row hrow => ?_⟩
    exact (htypes t (Artifacts.mem_fieldTypes_sorted.mpr ht) row hrow).isSpliced
  obtain ⟨source, hgenerate, hholds⟩ := hreads.generate hrun hwritten
  obtain rfl := Except.ok.inj (h.symm.trans hgenerate)
  simpa using hholds

/-- Where each type is written as one type, each struct has as many fields as its object. Where a type is written as
a type with fields behind it, the file is made all the same, and the struct has these fields beside those of its
object. -/
theorem generate_splices (r : Request) :
    (∀ g, r.generate = .ok g →
      (∀ i ∈ g.artifacts.imports, ∀ row, Render.importTokens i = .ok row → Render.IsItem row) →
      (∀ t ∈ g.artifacts.fieldTypes, ∀ row, Render.typeTokens t = .ok row → Render.IsType row) →
      g.Holds r.config (·.fields.length)) ∧
    ∀ (p : Pass) (extra : TypeExpr → Nat) (ts : List Source.Token),
      Pass.run r.model r.hook r.reserve Allocator.defaultTries = some p → p.Reads extra →
      Render.fileTokens r.config p.found.sorted = .ok ts →
      ∃ g, r.generate = .ok g ∧ g.artifacts = p.found.sorted ∧
        g.Holds r.config fun o => o.fields.length + (o.fields.map fun f => extra f.type).sum := by
  refine ⟨fun g => Generated.Holds.of_types, fun p extra ts hrun hreads hwritten => ?_⟩
  obtain ⟨source, hgenerate, hholds⟩ := hreads.generate hrun hwritten
  refine ⟨_, hgenerate, rfl, ?_⟩
  have hcount : ∀ o : ObjectArtifact, (o.fields.map fun f => extra f.type + 1).sum =
      o.fields.length + (o.fields.map fun f => extra f.type).sum := by
    intro o
    induction o.fields with
    | nil => rfl
    | cons f rest ih =>
      simp only [List.map_cons, List.sum_cons, List.length_cons, ih]
      omega
  simpa only [hcount] using hholds

/-- Dates are overridden with a type and a field behind it. -/
def extraRequest : Request where
  model := [("p.A", .object "p.A" [⟨"x", .date, ""⟩])]
  hook := Rules.resolve ⟨[], [("date", ⟨"", "String, pub extra: i32"⟩)]⟩
  reserve := []
  config := Config.default.withHeader false

/-- Dates are overridden with a type and nothing behind it. -/
def evenRequest : Request where
  model := extraRequest.model
  hook := Rules.resolve ⟨[], [("date", ⟨"", "String"⟩)]⟩
  reserve := []
  config := .default

theorem generate_splices_extra :
    (∃ g, evenRequest.generate = .ok g ∧ g.Holds evenRequest.config (·.fields.length)) ∧
    ∃ g, extraRequest.generate = .ok g ∧
      g.Holds extraRequest.config fun o => o.fields.length + (o.fields.map fun _ => 1).sum := by
  constructor
  · have h : evenRequest.generate.toOption.map (·.artifacts) =
        some ⟨[⟨"A", [⟨"x", .external none "String", ""⟩]⟩], [], [], false⟩ := by decide +kernel
    obtain ⟨g, hg, hartifacts⟩ := exists_generate_of_map h
    refine ⟨g, hg, (generate_splices evenRequest).1 g hg (by simp [hartifacts]) ?_⟩
    intro t ht row hrow
    obtain rfl : t = .external none "String" := by simpa [hartifacts, Artifacts.fieldTypes] using ht
    have htokens : Source.tokens? "String" = some [.plain "String"] := by decide +kernel
    simp only [Render.typeTokens, Render.externalTokens, Render.outside, htokens] at hrow
    obtain rfl := Except.ok.inj hrow
    exact Render.isType_name (t := .plain "String") rfl
  · let type : TypeExpr := .external none "String, pub extra: i32"
    have h : (Pass.run extraRequest.model extraRequest.hook extraRequest.reserve Allocator.defaultTries).map (fun p =>
        (p.found, (Render.fileTokens extraRequest.config p.found.sorted).toOption.isSome)) =
        some (⟨[⟨"A", [⟨"x", type, ""⟩]⟩], [], [], false⟩, true) := by decide +kernel
    obtain ⟨p, hrun, hpair⟩ := Option.map_eq_some_iff.mp h
    obtain ⟨hfound, hwritten⟩ := Prod.mk.inj hpair
    have htokens : Source.tokens? "String, pub extra: i32" =
        some [.plain "String", .sign ',', .plain "pub", .plain "extra", .sign ':', .plain "i32"] := by decide +kernel
    have hspliced : ∀ row, Render.typeTokens type = .ok row → Render.IsSpliced 1 row := by
      intro row hrow
      simp only [type, Render.typeTokens, Render.externalTokens, Render.outside, htokens] at hrow
      obtain rfl := Except.ok.inj hrow
      have hfield : Render.IsField [.plain "pub", .plain "extra", .sign ':', .plain "i32"] :=
        ⟨[], .plain "extra", [.plain "i32"], .inl rfl, rfl, Render.isType_name rfl, rfl⟩
      exact ⟨_, [_], Render.isType_name (t := .plain "String") rfl, by simpa using hfield, rfl, rfl⟩
    have hreads : p.Reads fun _ => 1 := by
      constructor
      · simp [hfound]
      · simpa [hfound, Artifacts.fieldTypes] using hspliced
    obtain ⟨ts, hts⟩ := exists_eq_ok_of_toOption hwritten
    obtain ⟨g, hg, -, hholds⟩ := (generate_splices extraRequest).2 p (fun _ => 1) ts hrun hreads hts
    exact ⟨g, hg, hholds⟩

def extraSource : String :=
  "#[derive(Debug, Clone, Default, PartialEq, serde::Serialize, serde::Deserialize)]\n" ++
    "pub struct A \x7b\n    pub x: String,\n    pub extra: i32,\n\x7d\n"

/-- The text is no type, but the file is made, and there is a field in it that no object has. -/
theorem generate_accepts_field :
    (∃ ts, Source.tokens? "String, pub extra: i32" = some ts ∧
      Source.Parser.takesAll ((Source.Parser.any ts).type true) ts = false) ∧
    ∃ g, extraRequest.generate = .ok g ∧
      g.artifacts.objects = [⟨"A", [⟨"x", .external none "String, pub extra: i32", ""⟩]⟩] ∧
      g.source = extraSource := by
  have htext : (Source.tokens? "String, pub extra: i32").map
      (fun ts => Source.Parser.takesAll ((Source.Parser.any ts).type true) ts) = some false := by decide +kernel
  have h : extraRequest.generate.toOption.map (fun g => (g.artifacts.objects, g.source)) =
      some ([⟨"A", [⟨"x", .external none "String, pub extra: i32", ""⟩]⟩], extraSource) := by decide +kernel
  obtain ⟨g, hg, hpair⟩ := exists_generate_of_map h
  obtain ⟨hobjects, hsource⟩ := Prod.mk.inj hpair
  obtain ⟨ts, hts, htakes⟩ := Option.map_eq_some_iff.mp htext
  exact ⟨⟨ts, hts, htakes⟩, g, hg, hobjects, hsource⟩

end Declgen
