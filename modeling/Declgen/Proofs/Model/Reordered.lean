import Declgen.Override
import Declgen.Proofs.Model.Loadable
import Declgen.Proofs.Ordered

/-!
# Models in another order

A model is a map of roots, an object has its entries in no particular order, and rules are maps. `Reordered`
relates what differs in the order of these and in nothing else.
-/

namespace Declgen

namespace Node

/-! ## Nodes -/

/-- The same node, with the entries of objects in another order, at any depth. -/
inductive Reordered : Node → Node → Prop where
  | refl (a : Node) : Reordered a a
  | trans {a b c : Node} : Reordered a b → Reordered b c → Reordered a c
  | array {a b : Node} : Reordered a b → Reordered (.array a) (.array b)
  | map {k l v w : Node} : Reordered k l → Reordered v w → Reordered (.map k v) (.map l w)
  | nullable {a b : Node} : Reordered a b → Reordered (.nullable a) (.nullable b)
  | entries (name : String) {es fs : List (Entry Node)} :
      es.Perm fs → Reordered (.object name es) (.object name fs)
  | field (name : String) (before : List (Entry Node)) (e : Entry Node) (after : List (Entry Node))
      {b : Node} : Reordered e.type b →
      Reordered (.object name (before ++ e :: after)) (.object name (before ++ { e with type := b } :: after))

namespace Reordered

variable {a b : Node}

theorem isContainer_eq (h : a.Reordered b) : a.isContainer = b.isContainer := by
  induction h with
  | trans _ _ ihab ihbc => exact ihab.trans ihbc
  | _ => rfl

theorem distinct (h : a.Reordered b) (ha : a.Distinct) : b.Distinct := by
  induction h with
  | refl => exact ha
  | trans _ _ ihab ihbc => exact ihbc (ihab ha)
  | array _ ih | nullable _ ih => exact ih ha
  | map _ _ ihk ihv => exact ⟨ihk ha.1, ihv ha.2⟩
  | entries name hperm =>
    obtain ⟨hnodup, htypes⟩ := ha
    refine ⟨(hperm.map (·.name)).nodup hnodup, allDistinct_iff.mpr fun e he => ?_⟩
    exact allDistinct_iff.mp htypes e (hperm.mem_iff.mpr he)
  | field name before e after _ ih =>
    obtain ⟨hnodup, htypes⟩ := ha
    rw [allDistinct_iff, List.forall_mem_append, List.forall_mem_cons] at htypes
    obtain ⟨hbefore, he, hafter⟩ := htypes
    refine ⟨by simpa using hnodup, ?_⟩
    rw [allDistinct_iff, List.forall_mem_append, List.forall_mem_cons]
    exact ⟨hbefore, ih he, hafter⟩

end Reordered

end Node

/-! ## Models -/

/-- The same model, with its roots in another order and its nodes reordered. -/
inductive Model.Reordered : Model → Model → Prop where
  | roots {m n : Model} : m.Perm n → Reordered m n
  | node (before : Model) (key : String) (after : Model) {a b : Node} : a.Reordered b →
      Reordered (before ++ (key, a) :: after) (before ++ (key, b) :: after)
  | trans {m n o : Model} : Reordered m n → Reordered n o → Reordered m o

theorem Model.Reordered.node_distinct {m n : Model} (h : m.Reordered n) (hm : ∀ root ∈ m, root.2.Distinct) :
    ∀ root ∈ n, root.2.Distinct := by
  induction h with
  | roots hperm => exact fun root hroot => hm root (hperm.mem_iff.mpr hroot)
  | node before key after hab =>
    rw [List.forall_mem_append, List.forall_mem_cons] at hm ⊢
    exact ⟨hm.1, hab.distinct hm.2.1, hm.2.2⟩
  | trans _ _ ihmn ihno => exact ihno (ihmn hm)

/-! ## Hooks -/

namespace Hook

/-- The answer depends on nothing but the kind and the qualified name of a node. -/
def ByName (hook : Hook) : Prop :=
  ∀ a b : Node, a.kind = b.kind → a.qualifiedName? = b.qualifiedName? → hook a = hook b

/-- The same hook, or rules with the same entries in another order. -/
inductive Reordered : Hook → Hook → Prop where
  | same {hook : Hook} : hook.ByName → Reordered hook hook
  | rules {r s : Rules} : (r.types.map (·.1)).Nodup → (r.kinds.map (·.1)).Nodup →
      r.types.Perm s.types → r.kinds.Perm s.kinds → Reordered r.resolve s.resolve

theorem byName_resolve (r : Rules) : ByName r.resolve := by
  intro a b hkind hname
  unfold Rules.resolve
  rw [hkind, hname]

theorem Reordered.byName {hook other : Hook} (h : hook.Reordered other) : hook.ByName := by
  cases h with
  | same hname => exact hname
  | rules => exact byName_resolve _

theorem Reordered.eq {hook other : Hook} (h : hook.Reordered other) : hook = other := by
  cases h with
  | same => rfl
  | rules htypes hkinds htypesPerm hkindsPerm =>
    funext node
    simp only [Rules.resolve, lookup_eq_of_perm htypesPerm htypes, lookup_eq_of_perm hkindsPerm hkinds]

end Hook

end Declgen
