import Declgen.Artifact

/-!
# Artifacts, one by one

What collecting an artifact does to the list of all artifacts, to their names and to the imports.
-/

namespace Declgen

/-- A struct or a constant block. -/
inductive Artifact where
  | struct (o : ObjectArtifact)
  | block (c : ConstantArtifact)

def Artifact.name : Artifact → String
  | .struct o => o.name
  | .block c => c.name

namespace Artifacts

variable (a : Artifacts)

/-! ## Structs and constant blocks -/

/-- All structs, then all constant blocks. -/
def all : List Artifact := a.objects.map .struct ++ a.constants.map .block

def names : List String := a.objects.map (·.name) ++ a.constants.map (·.name)

def fieldTypes : List TypeExpr := a.objects.flatMap fun o => o.fields.map (·.type)

theorem names_eq : a.names = a.all.map Artifact.name := by
  simp only [names, all, List.map_append, List.map_map]
  rfl

theorem all_addObject_perm (o : ObjectArtifact) : (a.addObject o).all.Perm (.struct o :: a.all) := by
  simp only [all, addObject, List.map_append, List.map_cons, List.map_nil, List.append_assoc,
    List.cons_append, List.nil_append]
  exact List.perm_middle

theorem all_addConstant_perm (c : ConstantArtifact) : (a.addConstant c).all.Perm (.block c :: a.all) := by
  simp only [all, addConstant, List.map_append, List.map_cons, List.map_nil, ← List.append_assoc]
  exact List.perm_append_singleton _ _

theorem all_sorted_perm : a.sorted.all.Perm a.all :=
  ((sortBy_perm _ _).map _).append ((sortBy_perm _ _).map _)

theorem names_addObject_perm (o : ObjectArtifact) : (a.addObject o).names.Perm (o.name :: a.names) := by
  rw [names_eq, names_eq]
  exact (a.all_addObject_perm o).map Artifact.name

theorem names_addConstant_perm (c : ConstantArtifact) : (a.addConstant c).names.Perm (c.name :: a.names) := by
  rw [names_eq, names_eq]
  exact (a.all_addConstant_perm c).map Artifact.name

theorem names_sorted_perm : a.sorted.names.Perm a.names := by
  rw [names_eq, names_eq]
  exact a.all_sorted_perm.map Artifact.name

variable {a}

theorem mem_names_sorted {name : String} : name ∈ a.sorted.names ↔ name ∈ a.names := a.names_sorted_perm.mem_iff

theorem mem_fieldTypes_sorted {t : TypeExpr} : t ∈ a.sorted.fieldTypes ↔ t ∈ a.fieldTypes := by
  simp only [fieldTypes, sorted, List.mem_flatMap, mem_sortBy]

theorem mem_fieldTypes_addObject {o : ObjectArtifact} {t : TypeExpr} :
    t ∈ (a.addObject o).fieldTypes ↔ t ∈ a.fieldTypes ∨ t ∈ o.fields.map (·.type) := by
  simp [fieldTypes, addObject]

/-! ## Imports -/

@[simp] theorem objects_addImport (importAlias path : String) :
    (a.addImport importAlias path).objects = a.objects := by
  unfold addImport
  split <;> rfl

@[simp] theorem constants_addImport (importAlias path : String) :
    (a.addImport importAlias path).constants = a.constants := by
  unfold addImport
  split <;> rfl

theorem mem_imports_of_addImport {importAlias path : String} {i : ImportRecord}
    (h : i ∈ (a.addImport importAlias path).imports) : i ∈ a.imports ∨ i = ⟨importAlias, path⟩ := by
  unfold addImport at h
  split at h
  · exact .inl h
  · simpa using h

theorem mem_aliases_addImport (importAlias path : String) :
    importAlias ∈ (a.addImport importAlias path).imports.map (·.importAlias) := by
  unfold addImport
  split
  · rename_i hany
    simpa using hany
  · simp

theorem nodup_addImport (h : (a.imports.map (·.importAlias)).Nodup) (importAlias path : String) :
    ((a.addImport importAlias path).imports.map (·.importAlias)).Nodup := by
  unfold addImport
  split
  · exact h
  · rename_i hany
    have hnew : importAlias ∉ a.imports.map (·.importAlias) := by simpa using hany
    simp only [List.map_append, List.map_cons, List.map_nil]
    refine List.nodup_append.mpr ⟨h, by simp, ?_⟩
    intro x hx y hy hxy
    obtain rfl := List.mem_singleton.mp hy
    exact hnew (hxy ▸ hx)

/-! ## What stays -/

/-- All structs and constant blocks of `a` are in `b`, its imports are imports of `b`, by their aliases, and a date
stays in use. -/
structure Extends (a b : Artifacts) : Prop where
  all : a.all ⊆ b.all
  imports : a.imports.map (·.importAlias) ⊆ b.imports.map (·.importAlias)
  dates : a.usesDateTime = true → b.usesDateTime = true

variable (a)

theorem Extends.refl : a.Extends a := ⟨List.Subset.refl _, List.Subset.refl _, id⟩

theorem extends_addImport (importAlias path : String) : a.Extends (a.addImport importAlias path) := by
  unfold addImport
  split
  · exact .refl a
  · exact ⟨by simp [all], by simp, id⟩

theorem extends_addObject (o : ObjectArtifact) : a.Extends (a.addObject o) :=
  ⟨fun _ hx => (a.all_addObject_perm o).symm.subset (List.mem_cons_of_mem _ hx), List.Subset.refl _, id⟩

theorem extends_addConstant (c : ConstantArtifact) : a.Extends (a.addConstant c) :=
  ⟨fun _ hx => (a.all_addConstant_perm c).symm.subset (List.mem_cons_of_mem _ hx), List.Subset.refl _, id⟩

theorem extends_requireDateTime : a.Extends a.requireDateTime :=
  ⟨List.Subset.refl _, List.Subset.refl _, fun _ => rfl⟩

end Artifacts

end Declgen
