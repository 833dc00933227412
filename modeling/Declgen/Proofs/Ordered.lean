import Mathlib.Data.List.Forall2
import Mathlib.Data.List.Nodup
import Declgen.Ordered

/-!
# Lists by key

What comes out of sorting is sorted. Where keys are distinct, it does not matter to sorting or to a lookup in
which order the items stood before. Lists whose items correspond have one for each item of the other.
-/

namespace Declgen

variable {α : Type} {key : α → String}

/-! ## Sorting -/

theorem pairwise_insertBy {a : α} {l : List α} (h : l.Pairwise fun x y => key x ≤ key y) :
    (insertBy key a l).Pairwise fun x y => key x ≤ key y := by
  induction l with
  | nil => exact List.pairwise_singleton _ _
  | cons b rest ih =>
    obtain ⟨hb, hrest⟩ := List.pairwise_cons.mp h
    simp only [insertBy]
    split
    · rename_i hlt
      refine List.pairwise_cons.mpr ⟨fun x hx => ?_, ih hrest⟩
      rcases List.mem_cons.mp ((insertBy_perm key a rest).subset hx) with rfl | hx
      · exact String.not_lt.mp (String.lt_asymm hlt)
      · exact hb x hx
    · rename_i hle
      have hab : key a ≤ key b := String.not_lt.mp hle
      refine List.pairwise_cons.mpr ⟨fun x hx => ?_, h⟩
      rcases List.mem_cons.mp hx with rfl | hx
      · exact hab
      · exact String.le_trans hab (hb x hx)

theorem pairwise_sortBy (key : α → String) (l : List α) :
    (sortBy key l).Pairwise fun x y => key x ≤ key y := by
  induction l with
  | nil => exact List.Pairwise.nil
  | cons a rest ih => exact pairwise_insertBy ih

theorem eq_of_sorted {l m : List α} (h : l.Perm m) (hkeys : (m.map key).Nodup)
    (hl : l.Pairwise fun x y => key x ≤ key y) (hm : m.Pairwise fun x y => key x ≤ key y) : l = m := by
  refine h.eq_of_pairwise (fun a b ha hb hab hba => ?_) hl hm
  exact List.inj_on_of_nodup_map hkeys (h.mem_iff.mp ha) hb (String.le_antisymm hab hba)

theorem eq_sortBy_iff {l m : List α} (hkeys : (m.map key).Nodup) :
    l = sortBy key m ↔ l.Perm m ∧ l.Pairwise fun x y => key x ≤ key y := by
  constructor
  · rintro rfl
    exact ⟨sortBy_perm key m, pairwise_sortBy key m⟩
  · rintro ⟨hperm, hsorted⟩
    have hsame := sortBy_perm key m
    exact eq_of_sorted (hperm.trans hsame.symm) ((hsame.map key).nodup_iff.mpr hkeys) hsorted (pairwise_sortBy key m)

theorem sortBy_eq_of_perm {l m : List α} (h : l.Perm m) (hkeys : (l.map key).Nodup) :
    sortBy key l = sortBy key m :=
  (eq_sortBy_iff ((h.map key).nodup_iff.mp hkeys)).mpr ⟨(sortBy_perm key l).trans h, pairwise_sortBy key l⟩

theorem sortBy_eq_self {l : List α} (h : l.Pairwise fun x y => key x ≤ key y) : sortBy key l = l := by
  induction l with
  | nil => rfl
  | cons a rest ih =>
    obtain ⟨hle, hrest⟩ := List.pairwise_cons.mp h
    rw [sortBy, ih hrest]
    cases rest with
    | nil => rfl
    | cons b rest =>
      rw [insertBy, if_neg (String.not_lt.mpr (hle b List.mem_cons_self))]

theorem filter_insertBy (a : α) (l : List α) (k : String) :
    (insertBy key a l).filter (key · == k) = (a :: l).filter (key · == k) := by
  induction l with
  | nil => rfl
  | cons b rest ih =>
    rw [insertBy]
    split
    · -- `a` moves behind `b`, so these two have different keys, and one of them is left out
      rename_i hlt
      have hne : key a ≠ key b := fun h => String.lt_irrefl _ (h ▸ hlt)
      rw [List.filter_cons, ih]
      by_cases hb : key b = k
      · simp [hb ▸ hne, hb]
      · simp [List.filter_cons, hb]
    · rfl

theorem filter_sortBy (key : α → String) (l : List α) (k : String) :
    (sortBy key l).filter (key · == k) = l.filter (key · == k) := by
  induction l with
  | nil => rfl
  | cons a rest ih => rw [sortBy, filter_insertBy, List.filter_cons, List.filter_cons, ih]

theorem exists_sortBy_eq_append (key : α → String) {l : List α} (hkeys : (l.map key).Nodup) {a : α} (ha : a ∈ l) :
    ∃ after, sortBy key l = sortBy key (l.filter fun x => key x < key a) ++ a :: after := by
  have hmem : a ∈ sortBy key l := mem_sortBy.mpr ha
  obtain ⟨before, after, hsplit⟩ := List.append_of_mem hmem
  refine ⟨after, ?_⟩
  have hsorted := pairwise_sortBy key l
  have hnodup : ((before ++ a :: after).map key).Nodup :=
    hsplit ▸ ((sortBy_perm key l).map key).nodup_iff.mpr hkeys
  rw [hsplit] at hsorted
  obtain ⟨hbefore, hrest, hacross⟩ := List.pairwise_append.mp hsorted
  obtain ⟨-, -, hdistinct⟩ := List.nodup_append.mp (List.map_append ▸ hnodup)
  have hlt : ∀ x ∈ before, key x < key a := by
    intro x hx
    have hne : key x ≠ key a :=
      hdistinct _ (List.mem_map_of_mem hx) _ (List.mem_map_of_mem List.mem_cons_self)
    exact Std.lt_of_le_of_ne (hacross x hx a List.mem_cons_self) hne
  have hge : ∀ x ∈ a :: after, ¬key x < key a := by
    intro x hx
    rcases List.mem_cons.mp hx with rfl | hx
    · exact String.lt_irrefl _
    · exact String.not_lt.mpr ((List.pairwise_cons.mp hrest).1 x hx)
  have hfilter : (l.filter fun x => key x < key a).Perm before := by
    have hkept : (before.filter fun x => key x < key a) = before :=
      List.filter_eq_self.mpr fun x hx => decide_eq_true (hlt x hx)
    have hdropped : ((a :: after).filter fun x => key x < key a) = [] :=
      List.filter_eq_nil_iff.mpr fun x hx => by simpa using hge x hx
    have hperm := (sortBy_perm key l).symm.filter fun x => key x < key a
    rw [hsplit, List.filter_append, hkept, hdropped, List.append_nil] at hperm
    exact hperm
  rw [hsplit]
  congr 1
  have hsmaller : ((l.filter fun x => key x < key a).map key).Nodup :=
    hkeys.sublist (List.filter_sublist.map key)
  exact (eq_sortBy_iff hsmaller).mpr ⟨hfilter.symm, hbefore⟩

/-! ## Lookup -/

theorem lookup_eq_of_perm {l m : List (String × α)} (h : l.Perm m) (hkeys : (l.map (·.1)).Nodup)
    (k : String) : l.lookup k = m.lookup k := by
  induction h with
  | nil => rfl
  | cons a _ ih =>
    obtain ⟨_, hrest⟩ := List.nodup_cons.mp hkeys
    obtain ⟨x, v⟩ := a
    rw [List.lookup_cons, List.lookup_cons, ih hrest]
  | swap a b rest =>
    obtain ⟨hnew, _⟩ := List.nodup_cons.mp hkeys
    obtain ⟨x, v⟩ := a
    obtain ⟨y, w⟩ := b
    have hne : y ≠ x := by
      rintro rfl
      exact hnew List.mem_cons_self
    simp only [List.lookup_cons]
    cases hy : k == y with
    | true =>
      obtain rfl := eq_of_beq hy
      simp [beq_false_of_ne hne]
    | false => rfl
  | trans hlm _ ihl ihm => rw [ihl hkeys, ihm ((hlm.map (·.1)).nodup hkeys)]

/-! ## Two lists in step -/

theorem exists_mem_of_forall₂ {β : Type} {R : α → β → Prop} {l : List α} {m : List β}
    (h : List.Forall₂ R l m) {a : α} (ha : a ∈ l) : ∃ b ∈ m, R a b := by
  induction h with
  | nil => simp at ha
  | cons hab _ ih =>
    rcases List.mem_cons.mp ha with rfl | ha
    · exact ⟨_, List.mem_cons_self, hab⟩
    · obtain ⟨b, hb, hR⟩ := ih ha
      exact ⟨b, List.mem_cons_of_mem _ hb, hR⟩

theorem forall₂_trans {β γ : Type} {R : α → β → Prop} {S : β → γ → Prop} {T : α → γ → Prop}
    (h : ∀ a b c, R a b → S b c → T a c) {l : List α} {m : List β} {n : List γ} (hlm : List.Forall₂ R l m)
    (hmn : List.Forall₂ S m n) : List.Forall₂ T l n := by
  induction hlm generalizing n with
  | nil =>
    cases hmn
    exact .nil
  | cons hab _ ih =>
    cases hmn with
    | cons hbc hrest => exact .cons (h _ _ _ hab hbc) (ih hrest)

end Declgen
