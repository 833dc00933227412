import Declgen.Model.Load
import Declgen.Proofs.Json.Reader

/-!
# Models that load

A node is free of flaws if no object in it, at any depth, declares a field twice. `flaw?` finds a flaw exactly
where there is one, whatever the path it starts with. What `load` gives is free of flaws, and has distinct
root names.
-/

namespace Declgen

namespace Node

@[elab_as_elim]
theorem induction {P : Node → Prop}
    (array : ∀ inner, P inner → P (.array inner))
    (map : ∀ key value, P key → P value → P (.map key value))
    (object : ∀ name entries, (∀ e ∈ entries, P e.type) → P (.object name entries))
    (string : ∀ name members, P (.string name members))
    (number : ∀ name repr members, P (.number name repr members))
    (boolean : P .boolean) (date : P .date) (any : P .any)
    (nullable : ∀ inner, P inner → P (.nullable inner)) (node : Node) : P node :=
  @Node.rec P (fun entries => ∀ e ∈ entries, P e.type) (fun e => P e.type)
    array map object string number boolean date any nullable (by simp)
    (fun _ _ he hrest => List.forall_mem_cons.mpr ⟨he, hrest⟩) (fun _ _ _ h => h) node

/-! ## Fields declared once -/

mutual
/-- No object in the node declares a field twice. -/
def Distinct : Node → Prop
  | .array inner | .nullable inner => Distinct inner
  | .map key value => Distinct key ∧ Distinct value
  | .object _ entries => (entries.map (·.name)).Nodup ∧ AllDistinct entries
  | .string _ _ | .number _ _ _ | .boolean | .date | .any => True

/-- The nodes of all these fields are distinct in this sense. -/
def AllDistinct : List (Entry Node) → Prop
  | [] => True
  | e :: rest => Distinct e.type ∧ AllDistinct rest
end

theorem allDistinct_iff {entries : List (Entry Node)} :
    AllDistinct entries ↔ ∀ e ∈ entries, e.type.Distinct := by
  induction entries with
  | nil => simp [AllDistinct]
  | cons e rest ih => simp [AllDistinct, ih]

theorem flawOfEntries_eq_none_iff {owner : String} {seen : List String} {entries : List (Entry Node)} :
    flawOfEntries owner seen entries = none ↔
      (∀ e ∈ entries, e.name ∉ seen) ∧ (entries.map (·.name)).Nodup ∧
        ∀ e ∈ entries, e.type.flaw? owner = none := by
  induction entries generalizing seen with
  | nil => simp [flawOfEntries]
  | cons e rest ih =>
    simp only [flawOfEntries]
    split
    · rename_i hseen
      have hmem : e.name ∈ seen := by simpa using hseen
      simp [hmem]
    · rename_i hnew
      have hmem : e.name ∉ seen := by simpa using hnew
      rw [Option.or_eq_none_iff, ih, List.forall_mem_cons, List.forall_mem_cons, List.map_cons,
        List.nodup_cons]
      constructor
      · rintro ⟨he, hrest, hnodup, htypes⟩
        refine ⟨⟨hmem, fun f hf => List.not_mem_of_not_mem_cons (hrest f hf)⟩, ⟨?_, hnodup⟩, he, htypes⟩
        intro hname
        obtain ⟨f, hf, hfname⟩ := List.mem_map.mp hname
        exact hrest f hf (hfname ▸ List.mem_cons_self)
      · rintro ⟨⟨-, hrest⟩, ⟨hother, hnodup⟩, he, htypes⟩
        refine ⟨he, fun f hf hseen => ?_, hnodup, htypes⟩
        rcases List.mem_cons.mp hseen with hname | hseen
        · exact hother (hname ▸ List.mem_map_of_mem hf)
        · exact hrest f hf hseen

theorem flaw?_eq_none_iff {path : String} {node : Node} : node.flaw? path = none ↔ node.Distinct := by
  induction node using Node.induction generalizing path with
  | array inner ih | nullable inner ih => simpa only [flaw?, Distinct] using ih
  | map key value ihk ihv => simp only [flaw?, Distinct, Option.or_eq_none_iff, ihk, ihv]
  | object name entries ih =>
    simp only [flaw?, Distinct, flawOfEntries_eq_none_iff, allDistinct_iff]
    constructor
    · rintro ⟨-, hnodup, htypes⟩
      exact ⟨hnodup, fun e he => (ih e he).mp (htypes e he)⟩
    · rintro ⟨hnodup, htypes⟩
      exact ⟨by simp, hnodup, fun e he => (ih e he).mpr (htypes e he)⟩
  | string _ _ | number _ _ _ | boolean | date | any => simp [flaw?, Distinct]

end Node

namespace Model

/-- What the loader lets through: distinct root names and no flaw. -/
structure Loadable (m : Model) : Prop where
  distinct : m.Distinct
  sound : m.flaw? = none

theorem rootFlaw?_eq_none_iff {root : String × Node} :
    rootFlaw? root = none ↔ QualifiedName.bare root.1 ≠ "" ∧ root.2.Distinct := by
  simp only [rootFlaw?]
  split
  · rename_i hempty
    have : QualifiedName.bare root.1 = "" := by simpa using hempty
    simp [this]
  · rename_i hnamed
    have : QualifiedName.bare root.1 ≠ "" := by simpa using hnamed
    simp [this, Node.flaw?_eq_none_iff]

theorem flaw?_eq_none_iff {m : Model} :
    m.flaw? = none ↔ ∀ root ∈ m, QualifiedName.bare root.1 ≠ "" ∧ root.2.Distinct := by
  simp only [flaw?, List.findSome?_eq_none_iff, rootFlaw?_eq_none_iff]

theorem Loadable.node {m : Model} (h : m.Loadable) {root : String × Node} (hroot : root ∈ m) :
    root.2.Distinct := (flaw?_eq_none_iff.mp h.sound root hroot).2

/-! ## Reading -/

theorem mem_keys_insert {m : Model} {key k : String} {node : Node} :
    k ∈ (m.insert key node).map (·.1) ↔ k = key ∨ k ∈ m.map (·.1) := by
  induction m with
  | nil => simp [insert]
  | cons root rest ih =>
    simp only [insert]
    split
    · rename_i hkey
      simp [eq_of_beq hkey]
    · rw [List.map_cons, List.mem_cons, ih, List.map_cons, List.mem_cons]
      exact or_left_comm

theorem Distinct.insert {m : Model} (h : m.Distinct) (key : String) (node : Node) :
    (m.insert key node).Distinct := by
  unfold Distinct at h ⊢
  induction m with
  | nil => simp [Model.insert]
  | cons root rest ih =>
    obtain ⟨hroot, hrest⟩ := List.nodup_cons.mp h
    simp only [Model.insert]
    split
    · rename_i hkey
      have hnew : key ∉ rest.map (·.1) := eq_of_beq hkey ▸ hroot
      exact List.nodup_cons.mpr ⟨hnew, hrest⟩
    · rename_i hkey
      refine List.nodup_cons.mpr ⟨fun hmem => ?_, ih hrest⟩
      rcases mem_keys_insert.mp hmem with hroot' | hmem
      · simp [hroot'] at hkey
      · exact hroot hmem

theorem distinct_of_read {nesting : Nat} {cs rest : List Char} {m : Model}
    (h : read nesting cs = .ok (m, rest)) : m.Distinct := by
  unfold read at h
  split at h
  · cases nesting with
    | zero => simp at h
    | succ n =>
      have hnone : Model.Distinct [] := List.nodup_nil
      refine Json.members_keeps (P := Model.Distinct) ?_ hnone h
      intro m key cs t rest hm hmember
      obtain ⟨⟨node, after⟩, -, hout⟩ := bind_eq_ok_iff.mp hmember
      obtain ⟨rfl, -⟩ := Prod.mk.inj (Except.ok.inj hout)
      exact hm.insert key node
  · exact (Json.mismatch_ne_ok _ _ _ h).elim

end Model

end Declgen
