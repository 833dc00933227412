import Mathlib.Data.List.Induction
import Mathlib.Data.List.Nodup
import Declgen.Proofs.Artifact
import Declgen.Proofs.Ordered

/-!
# Artifacts in any order

Artifacts are collected as they come, and the imports come out of a map in no particular order. In the sorted view,
structs and constant blocks stand by the names that tell them apart, but imports stand by their paths. So the view is
settled as long as no path is imported under two aliases: nothing says which of these comes first.
-/

namespace Declgen

/-! ## Pieces -/

/-- What is collected at a time. -/
inductive Piece where
  | struct (o : ObjectArtifact)
  | block (c : ConstantArtifact)
  | imported (i : ImportRecord)
  | dates
deriving DecidableEq

namespace Piece

def struct? : Piece → Option ObjectArtifact
  | struct o => some o
  | _ => none

def block? : Piece → Option ConstantArtifact
  | block c => some c
  | _ => none

def import? : Piece → Option ImportRecord
  | imported i => some i
  | _ => none

/-- No two structs and no two constant blocks have one name, and no alias stands for two paths. -/
structure Apart (pieces : List Piece) : Prop where
  structs : ((pieces.filterMap struct?).map (·.name)).Nodup
  blocks : ((pieces.filterMap block?).map (·.name)).Nodup
  aliases : ∀ i ∈ pieces.filterMap import?, ∀ j ∈ pieces.filterMap import?, i.importAlias = j.importAlias → i = j

theorem Apart.of_perm {pieces others : List Piece} (h : Apart pieces) (hperm : pieces.Perm others) : Apart others where
  structs := ((hperm.filterMap _).map _).nodup_iff.mp h.structs
  blocks := ((hperm.filterMap _).map _).nodup_iff.mp h.blocks
  aliases i hi j hj := h.aliases i ((hperm.filterMap _).mem_iff.mpr hi) j ((hperm.filterMap _).mem_iff.mpr hj)

end Piece

namespace Artifacts

def add (a : Artifacts) : Piece → Artifacts
  | .struct o => a.addObject o
  | .block c => a.addConstant c
  | .imported i => a.addImport i.importAlias i.path
  | .dates => a.requireDateTime

def collect (pieces : List Piece) : Artifacts := pieces.foldl add empty

variable {a : Artifacts} {pieces others : List Piece}

theorem objects_add (a : Artifacts) (piece : Piece) : (a.add piece).objects = a.objects ++ piece.struct?.toList := by
  cases piece <;> simp [add, addObject, addConstant, requireDateTime, Piece.struct?]

theorem constants_add (a : Artifacts) (piece : Piece) :
    (a.add piece).constants = a.constants ++ piece.block?.toList := by
  cases piece <;> simp [add, addObject, addConstant, requireDateTime, Piece.block?]

theorem usesDateTime_add (a : Artifacts) (piece : Piece) :
    (a.add piece).usesDateTime = true ↔ a.usesDateTime = true ∨ piece = .dates := by
  cases piece with
  | imported i =>
    rw [add, addImport]
    split <;> simp
  | _ => simp [add, addObject, addConstant, requireDateTime]

theorem collect_concat (pieces : List Piece) (piece : Piece) :
    collect (pieces ++ [piece]) = (collect pieces).add piece :=
  List.foldl_concat ..

theorem collect_eq_filterMap {β : Type} {part : Artifacts → List β} {of? : Piece → Option β} (hempty : part empty = [])
    (hadd : ∀ a piece, part (a.add piece) = part a ++ (of? piece).toList) (pieces : List Piece) :
    part (collect pieces) = pieces.filterMap of? := by
  induction pieces using List.reverseRecOn with
  | nil => exact hempty
  | append_singleton pieces piece ih =>
    rw [collect_concat, hadd, ih, List.filterMap_append]
    cases hof : of? piece <;> simp [hof]

theorem objects_collect (pieces : List Piece) : (collect pieces).objects = pieces.filterMap Piece.struct? :=
  collect_eq_filterMap rfl objects_add pieces

theorem constants_collect (pieces : List Piece) : (collect pieces).constants = pieces.filterMap Piece.block? :=
  collect_eq_filterMap rfl constants_add pieces

theorem usesDateTime_collect (pieces : List Piece) : (collect pieces).usesDateTime = true ↔ .dates ∈ pieces := by
  induction pieces using List.reverseRecOn with
  | nil => simp [collect, empty]
  | append_singleton pieces piece ih =>
    rw [collect_concat, usesDateTime_add, ih, List.mem_append, List.mem_singleton, eq_comm]

/-! ## Imports -/

/-- Under each alias that is recorded there is one import, and it is one of the records. -/
structure Imports (records imports : List ImportRecord) : Prop where
  subset : imports ⊆ records
  aliases : records.map (·.importAlias) ⊆ imports.map (·.importAlias)
  nodup : (imports.map (·.importAlias)).Nodup

theorem Imports.addImport {records : List ImportRecord} (h : Imports records a.imports) (i : ImportRecord) :
    Imports (records ++ [i]) (a.addImport i.importAlias i.path).imports where
  subset j hj := by
    rcases mem_imports_of_addImport hj with hold | rfl
    · exact List.mem_append_left _ (h.subset hold)
    · exact List.mem_append_right _ List.mem_cons_self
  aliases := by
    rw [List.map_append]
    refine List.append_subset.mpr ⟨List.Subset.trans h.aliases (a.extends_addImport _ _).imports, ?_⟩
    exact List.cons_subset.mpr ⟨mem_aliases_addImport _ _, List.nil_subset _⟩
  nodup := nodup_addImport h.nodup _ _

theorem imports_collect (pieces : List Piece) : Imports (pieces.filterMap Piece.import?) (collect pieces).imports := by
  induction pieces using List.reverseRecOn with
  | nil => exact ⟨List.Subset.refl _, List.Subset.refl _, List.nodup_nil⟩
  | append_singleton pieces piece ih =>
    rw [collect_concat, List.filterMap_append]
    cases piece with
    | imported i => exact ih.addImport i
    | struct | block | dates =>
      rw [List.filterMap_cons_none rfl, List.filterMap_nil, List.append_nil]
      exact ih

theorem mem_imports_collect (h : Piece.Apart pieces) {i : ImportRecord} :
    i ∈ (collect pieces).imports ↔ i ∈ pieces.filterMap Piece.import? := by
  have himports := imports_collect pieces
  refine ⟨fun hi => himports.subset hi, fun hi => ?_⟩
  -- There is an import under the alias, and no other record has this alias.
  obtain ⟨j, hj, hsame⟩ := List.mem_map.mp (himports.aliases (List.mem_map_of_mem hi))
  rwa [← h.aliases j (himports.subset hj) i hi hsame]

/-! ## Views -/

/-- A sorted view. The imports come out of their map in some order. -/
inductive View (a : Artifacts) : Artifacts → Prop where
  | sorted {imports : List ImportRecord} : imports.Perm a.imports → View a { a with imports }.sorted

/-- All that was collected is in the view, with each import once: structs and blocks by name, imports by path. -/
structure Shows (pieces : List Piece) (v : Artifacts) : Prop where
  structs : v.objects.Perm (pieces.filterMap Piece.struct?)
  structsByName : v.objects.Pairwise fun o p => o.name ≤ p.name
  blocks : v.constants.Perm (pieces.filterMap Piece.block?)
  blocksByName : v.constants.Pairwise fun c d => c.name ≤ d.name
  imports : ∀ i, i ∈ v.imports ↔ i ∈ pieces.filterMap Piece.import?
  importsOnce : v.imports.Nodup
  importsByPath : v.imports.Pairwise fun i j => i.path ≤ j.path
  dates : v.usesDateTime = true ↔ .dates ∈ pieces

theorem Shows.of_perm {v : Artifacts} (hperm : others.Perm pieces) (h : Shows others v) : Shows pieces v where
  structs := h.structs.trans (hperm.filterMap _)
  structsByName := h.structsByName
  blocks := h.blocks.trans (hperm.filterMap _)
  blocksByName := h.blocksByName
  imports i := (h.imports i).trans (hperm.filterMap _).mem_iff
  importsOnce := h.importsOnce
  importsByPath := h.importsByPath
  dates := h.dates.trans hperm.mem_iff

theorem View.shows {v : Artifacts} (h : Piece.Apart pieces) (hv : (collect pieces).View v) : Shows pieces v := by
  obtain ⟨hperm⟩ := hv
  refine ⟨?_, pairwise_sortBy _ _, ?_, pairwise_sortBy _ _, fun i => ?_, ?_, pairwise_sortBy _ _, ?_⟩
  · exact objects_collect pieces ▸ sortBy_perm _ _
  · exact constants_collect pieces ▸ sortBy_perm _ _
  · exact mem_sortBy.trans (hperm.mem_iff.trans (mem_imports_collect h))
  · exact ((sortBy_perm _ _).trans hperm).nodup_iff.mpr (imports_collect pieces).nodup.of_map
  · exact usesDateTime_collect pieces

theorem Shows.view {v : Artifacts} (h : Piece.Apart pieces) (hv : Shows pieces v) : (collect pieces).View v := by
  have hperm : v.imports.Perm (collect pieces).imports := by
    refine (List.perm_ext_iff_of_nodup hv.importsOnce (imports_collect pieces).nodup.of_map).mpr fun i => ?_
    rw [hv.imports, mem_imports_collect h]
  have hview := View.sorted hperm
  have hsame : { collect pieces with imports := v.imports }.sorted = v := by
    have hobjects : v.objects = sortBy (·.name) (collect pieces).objects := by
      rw [objects_collect]
      exact (eq_sortBy_iff h.structs).mpr ⟨hv.structs, hv.structsByName⟩
    have hconstants : v.constants = sortBy (·.name) (collect pieces).constants := by
      rw [constants_collect]
      exact (eq_sortBy_iff h.blocks).mpr ⟨hv.blocks, hv.blocksByName⟩
    have hdates : v.usesDateTime = (collect pieces).usesDateTime :=
      Bool.eq_iff_iff.mpr (hv.dates.trans (usesDateTime_collect pieces).symm)
    rw [sorted, sortBy_eq_self hv.importsByPath, ← hobjects, ← hconstants, ← hdates]
  rwa [hsame] at hview

theorem Shows.unique {v w : Artifacts} (h : Piece.Apart pieces)
    (hpaths : ∀ i ∈ pieces.filterMap Piece.import?, ∀ j ∈ pieces.filterMap Piece.import?, i.path = j.path → i = j)
    (hv : Shows pieces v) (hw : Shows pieces w) : v = w := by
  have hobjects : v.objects = w.objects :=
    eq_of_sorted (hv.structs.trans hw.structs.symm) ((hw.structs.map _).nodup_iff.mpr h.structs) hv.structsByName
      hw.structsByName
  have hconstants : v.constants = w.constants :=
    eq_of_sorted (hv.blocks.trans hw.blocks.symm) ((hw.blocks.map _).nodup_iff.mpr h.blocks) hv.blocksByName
      hw.blocksByName
  have himports : v.imports = w.imports := by
    have hperm : v.imports.Perm w.imports := by
      refine (List.perm_ext_iff_of_nodup hv.importsOnce hw.importsOnce).mpr fun i => ?_
      rw [hv.imports, hw.imports]
    have hkeys : (w.imports.map (·.path)).Nodup := by
      refine List.Nodup.map_on (fun i hi j hj hpath => ?_) hw.importsOnce
      exact hpaths i ((hw.imports i).mp hi) j ((hw.imports j).mp hj) hpath
    exact eq_of_sorted hperm hkeys hv.importsByPath hw.importsByPath
  have hdates : v.usesDateTime = w.usesDateTime := Bool.eq_iff_iff.mpr (hv.dates.trans hw.dates.symm)
  cases v
  cases w
  exact Artifacts.mk.injEq .. ▸ ⟨hobjects, hconstants, himports, hdates⟩

/-- There is one view of the pieces, in whatever order they are collected and the imports come out of their map. -/
def Settled (pieces : List Piece) : Prop :=
  ∀ others, others.Perm pieces → ∀ v w, (collect pieces).View v → (collect others).View w → v = w

theorem Settled.eq_of_path_eq (hsettled : Settled pieces) (h : Piece.Apart pieces) {i j : ImportRecord}
    (hi : i ∈ pieces.filterMap Piece.import?) (hj : j ∈ pieces.filterMap Piece.import?) (hpath : i.path = j.path) :
    i = j := by
  by_contra hne
  let rest := ((collect pieces).imports.erase i).erase j
  have hfirst : (i :: j :: rest).Perm (collect pieces).imports := by
    have hi : i ∈ (collect pieces).imports := (mem_imports_collect h).mpr hi
    have hj : j ∈ (collect pieces).imports.erase i :=
      (List.mem_erase_of_ne (Ne.symm hne)).mpr ((mem_imports_collect h).mpr hj)
    exact ((List.perm_cons_erase hi).trans ((List.perm_cons_erase hj).cons i)).symm
  have hsecond : (j :: i :: rest).Perm (collect pieces).imports := (List.Perm.swap i j rest).trans hfirst
  have hsame := hsettled pieces (List.Perm.refl _) _ _ (.sorted hfirst) (.sorted hsecond)
  -- Sorting by paths keeps the order of these two, so the two views differ in it.
  have hfilter : (i :: j :: rest).filter (·.path == i.path) = (j :: i :: rest).filter (·.path == i.path) := by
    simpa only [sorted, filter_sortBy] using congrArg (fun v => v.imports.filter (·.path == i.path)) hsame
  have hi' : (i.path == i.path) = true := beq_self_eq_true _
  have hj' : (j.path == i.path) = true := beq_iff_eq.mpr hpath.symm
  simp only [List.filter_cons, hi', hj', if_true, List.cons.injEq] at hfilter
  exact hne hfilter.1

/-- In whatever order pieces are collected, their views are those that show each of them once, sorted. There is one such
view just when no path is imported under two aliases. -/
theorem collect_settled_iff (pieces : List Piece) (h : Piece.Apart pieces) :
    (∀ others, others.Perm pieces → ∀ v, (collect others).View v ↔ Shows pieces v) ∧
    (Settled pieces ↔
      ∀ i ∈ pieces.filterMap Piece.import?, ∀ j ∈ pieces.filterMap Piece.import?, i.path = j.path → i = j) := by
  have hviews (others : List Piece) (hperm : others.Perm pieces) (v : Artifacts) :
      (collect others).View v ↔ Shows pieces v := by
    have hothers : Piece.Apart others := h.of_perm hperm.symm
    exact ⟨fun hv => (hv.shows hothers).of_perm hperm, fun hv => (hv.of_perm hperm.symm).view hothers⟩
  refine ⟨hviews, fun hsettled i hi j hj => hsettled.eq_of_path_eq h hi hj, fun hpaths others hperm v w hv hw => ?_⟩
  exact Shows.unique h hpaths (hv.shows h) ((hviews others hperm w).mp hw)

def depot : List Piece := [
  .imported ⟨"external_b", "crate::zz"⟩, .struct ⟨"Zeta", []⟩, .block ⟨"Mode", .string, []⟩,
  .imported ⟨"external_a", "crate::aa"⟩, .struct ⟨"Alpha", [⟨"at", .dateTime, ""⟩]⟩, .dates,
  .imported ⟨"external_b", "crate::zz"⟩]

theorem collect_settled_depot : Settled depot ∧ Shows depot (collect depot.reverse).sorted := by
  have hapart : Piece.Apart depot := ⟨by decide, by decide, by decide⟩
  obtain ⟨hviews, hsettled⟩ := collect_settled_iff depot hapart
  exact ⟨hsettled.mpr (by decide), (hviews _ depot.reverse_perm _).mp (.sorted (List.Perm.refl _))⟩

/-- Two aliases of one path come out as they were collected. -/
theorem collect_wavers : ¬∀ pieces : List Piece, Piece.Apart pieces → Settled pieces := by
  intro h
  let left : Piece := .imported ⟨"external_a", "crate::aa"⟩
  let right : Piece := .imported ⟨"external_b", "crate::aa"⟩
  have hapart : Piece.Apart [right, left] := ⟨by decide, by decide, by decide⟩
  have hsame : (collect [right, left]).sorted = (collect [left, right]).sorted :=
    h [right, left] hapart [left, right] (.swap right left []) _ _ (.sorted (.refl _)) (.sorted (.refl _))
  exact absurd hsame (by decide)

end Artifacts

end Declgen
