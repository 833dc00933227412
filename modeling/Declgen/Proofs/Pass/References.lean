import Declgen.Proofs.Ordered
import Declgen.Proofs.Pass.Refines
import Mathlib.Data.List.Nodup

/-!
# Mentions and what they stand for

A field mentions what is generated as a struct or as an alias. Which of the two is settled by the node that is
visited, and the name by what was first declared under the qualified name. They agree unless a model declares an
object and an enumeration under one name.
-/

namespace Declgen

variable {hook : Hook}

/-! ## Mentions in types and in nodes -/

/-- The mentions of what is generated, in the order in which they are written. -/
def TypeExpr.mentions : TypeExpr → List TypeExpr
  | .struct name => [.struct name]
  | .typeAlias name => [.typeAlias name]
  | .vec inner | .option inner | .boxed inner => inner.mentions
  | .map key value => key.mentions ++ value.mentions
  | .primitive _ | .external _ _ | .dateTime | .any => []

namespace TypeExpr

@[simp] theorem mentions_optional (t : TypeExpr) : t.optional.mentions = t.mentions := by cases t <;> rfl

@[simp] theorem mentions_expr (type : ExternalType) : type.expr.mentions = [] := by
  unfold ExternalType.expr
  split <;> rfl

@[simp] theorem mentions_mention (d : Declaration) (name : String) :
    (d.mention name).mentions = [d.mention name] := by
  cases d <;> rfl

theorem mentions_of_plain? {node : Node} {t : TypeExpr} (h : node.plain? = some t) : t.mentions = [] := by
  rcases Node.eq_of_plain? h with ⟨p, rfl⟩ | rfl <;> rfl

end TypeExpr

/-- What a node mentions. Nothing in what the hook answers is mentioned, and what is declared in the node has fields
of its own. -/
def Node.mentions (hook : Hook) (node : Node) : List Declaration :=
  match hook node with
  | some _ => []
  | none =>
    match node with
    | .array inner | .nullable inner => mentions hook inner
    | .map key value => mentions hook key ++ mentions hook value
    | node => node.declaration?.toList
termination_by structural node

namespace Node

variable {node : Node}

theorem mentions_answered {type : ExternalType} (h : hook node = some type) : node.mentions hook = [] := by
  cases node <;> simp only [mentions, h]

theorem mentions_declared {d : Declaration} (h : hook node = none) (hd : node.declaration? = some d) :
    node.mentions hook = [d] := by
  cases node with
  | array | map | nullable => simp [declaration?] at hd
  | _ => simp only [mentions, h, hd, Option.toList_some]

theorem mentions_plain {t : TypeExpr} (h : hook node = none) (hplain : node.plain? = some t) :
    node.mentions hook = [] := by
  have hd := (below_of_plain hplain (.root "" .value)).1
  cases node with
  | array | map | nullable => simp [plain?] at hplain
  | _ => simp only [mentions, h, hd, Option.toList_none]

end Node

/-! ## What stands behind a mention -/

def Artifact.mention : Artifact → TypeExpr
  | .struct o => .struct o.name
  | .block c => .typeAlias c.name

namespace Artifacts

variable {a b : Artifacts}

/-- An artifact has the name that is mentioned, and it is what it is mentioned as. -/
def Provides (a : Artifacts) : TypeExpr → Prop
  | .struct name => ∃ o ∈ a.objects, o.name = name
  | .typeAlias name => ∃ c ∈ a.constants, c.name = name
  | _ => True

instance (a : Artifacts) : DecidablePred a.Provides
  | .struct name => inferInstanceAs (Decidable (∃ o ∈ a.objects, o.name = name))
  | .typeAlias name => inferInstanceAs (Decidable (∃ c ∈ a.constants, c.name = name))
  | .primitive _ | .external _ _ | .vec _ | .map _ _ | .option _ | .boxed _ | .dateTime | .any => .isTrue trivial

theorem provides_mention_iff {d : Declaration} {name : String} :
    a.Provides (d.mention name) ↔ ∃ x ∈ a.all, x.mention = d.mention name := by
  cases d <;> simp [Provides, Declaration.mention, all, Artifact.mention, or_and_right, exists_or]

theorem Provides.mono (h : a.Extends b) {d : Declaration} {name : String} (ha : a.Provides (d.mention name)) :
    b.Provides (d.mention name) := by
  obtain ⟨x, hx, hmention⟩ := provides_mention_iff.mp ha
  exact provides_mention_iff.mpr ⟨x, h.all hx, hmention⟩

theorem provides_sorted_iff {s : TypeExpr} : a.sorted.Provides s ↔ a.Provides s := by
  cases s <;> simp only [Provides, sorted, mem_sortBy]

theorem forall_parts_iff {t : TypeExpr} : (∀ s ∈ t.parts, a.Provides s) ↔ ∀ s ∈ t.mentions, a.Provides s := by
  induction t with
  | vec inner ih | option inner ih | boxed inner ih =>
    rw [TypeExpr.parts, List.forall_mem_cons, ih]
    exact and_iff_right trivial
  | map key value ihk ihv =>
    rw [TypeExpr.parts, TypeExpr.mentions, List.forall_mem_cons, List.forall_mem_append, List.forall_mem_append, ihk,
      ihv]
    exact and_iff_right trivial
  | _ => simp [TypeExpr.parts, TypeExpr.mentions, Provides]

/-- Whatever a field mentions is there, a struct where it mentions one and a constant block where it mentions an
alias. -/
def Agree (a : Artifacts) : Prop := ∀ t ∈ a.fieldTypes, ∀ s ∈ t.parts, a.Provides s

instance (a : Artifacts) : Decidable a.Agree :=
  inferInstanceAs (Decidable (∀ t ∈ a.fieldTypes, ∀ s ∈ t.parts, a.Provides s))

theorem agree_sorted_iff :
    a.sorted.Agree ↔ ∀ o ∈ a.objects, ∀ f ∈ o.fields, ∀ s ∈ f.type.mentions, a.Provides s := by
  have htypes {P : TypeExpr → Prop} :
      (∀ t ∈ a.sorted.fieldTypes, P t) ↔ ∀ o ∈ a.objects, ∀ f ∈ o.fields, P f.type := by
    simp only [fieldTypes, sorted, List.forall_mem_flatMap, List.forall_mem_map, mem_sortBy]
  unfold Agree
  simp only [htypes, forall_parts_iff, provides_sorted_iff]

end Artifacts

/-- The mention is of what is declared. A name that is carried is the remembered one, and behind a mention without
such a name there is what it is made for. -/
def Pass.Ties (p : Pass) (d : Declaration) (s : TypeExpr) : Prop :=
  ∃ name, s = d.mention name ∧ (d.qualified = "" → p.found.Provides (d.mention name)) ∧
    (d.qualified ≠ "" → p.names.lookup? d.qualified = some name)

theorem Pass.Ties.mono {p q : Pass} (h : p.Extends q) {d : Declaration} {s : TypeExpr} (hs : p.Ties d s) :
    q.Ties d s := by
  obtain ⟨name, rfl, hanonymous, hnamed⟩ := hs
  exact ⟨name, rfl, fun he => (hanonymous he).mono h.found, fun hne => h.names.lookup (hnamed hne)⟩

theorem Visits.ties {sites : List Site} {p q : Pass} {types : List TypeExpr} (h : Visits hook sites p types q) :
    List.Forall₂ (fun s t => List.Forall₂ q.Ties (s.node.mentions hook) t.mentions) sites types := by
  induction h with
  | nil => exact .nil
  | external hhook _ ih =>
    rw [Pass.external_fst]
    exact .cons (by simp [Node.mentions_answered hhook]) ih
  | array hhook _ ih =>
    obtain ⟨hinner, hrest⟩ := List.forall₂_cons.mp ih
    exact .cons (by simpa only [Node.mentions, hhook, TypeExpr.mentions] using hinner) hrest
  | map hhook _ ih =>
    obtain ⟨hkey, hvalueRest⟩ := List.forall₂_cons.mp ih
    obtain ⟨hvalue, hrest⟩ := List.forall₂_cons.mp hvalueRest
    exact .cons (by simpa only [Node.mentions, hhook, TypeExpr.mentions] using List.rel_append hkey hvalue) hrest
  | nullable hhook _ ih =>
    obtain ⟨hinner, hrest⟩ := List.forall₂_cons.mp ih
    refine .cons ?_ hrest
    simp only [Node.mentions, hhook]
    split
    · exact hinner
    · rwa [TypeExpr.mentions_optional]
  | plain hhook hplain _ ih =>
    exact .cons (by simp [Node.mentions_plain hhook hplain, TypeExpr.mentions_of_plain? hplain]) ih
  | date hhook _ ih => exact .cons (by simp [Node.mentions, hhook, Node.declaration?, TypeExpr.mentions]) ih
  | known hhook hdeclares hmemo hrest ih =>
    obtain ⟨hne, hlookup⟩ := Pass.memoized?_eq_some_iff.mp hmemo
    refine .cons ?_ ih
    rw [Node.mentions_declared hhook hdeclares, TypeExpr.mentions_mention]
    exact .cons ⟨_, rfl, fun he => absurd he hne, fun _ => hrest.grows.names.lookup hlookup⟩ .nil
  | @object _ qualified entries name _ fields _ p' _ _ _ hhook _ hname hfields hrest _ ih =>
    refine .cons ?_ ih
    rw [Node.mentions_declared (d := .object qualified entries) hhook rfl]
    refine .cons ⟨name, rfl, fun _ => ?_, fun hne => ?_⟩ .nil
    · refine Artifacts.Provides.mono (d := .object qualified entries) hrest.grows.found ?_
      exact ⟨_, List.mem_append_right _ (List.mem_singleton_self _), rfl⟩
    · have hlookup := Allocator.lookup?_of_allocate hname hne
      exact hrest.grows.names.lookup (hfields.grows.names.lookup hlookup)
  | @constants _ _ qualified base members name _ _ _ _ _ hhook hdeclares _ hname hrest ih =>
    refine .cons ?_ ih
    rw [Node.mentions_declared hhook hdeclares]
    refine .cons ⟨name, rfl, fun _ => ?_, fun hne => ?_⟩ .nil
    · refine Artifacts.Provides.mono (d := .constants qualified base members) hrest.grows.found ?_
      exact ⟨_, List.mem_append_right _ (List.mem_singleton_self _), rfl⟩
    · exact hrest.grows.names.lookup (Allocator.lookup?_of_allocate hname hne)

/-! ## What a pass ties -/

/-- The artifact is of the kind of the declaration, and its fields mention what the entries do. -/
def Artifact.Ties (hook : Hook) (p : Pass) : Declaration → Artifact → Prop
  | .object _ entries, .struct o =>
    List.Forall₂ (fun e f => List.Forall₂ p.Ties (e.type.mentions hook) f.type.mentions) (sortBy (·.name) entries)
      o.fields
  | .constants _ _ _, .block _ => True
  | _, _ => False

theorem Artifact.Ties.mention_eq {p : Pass} {d : Declaration} {a : Artifact} (h : a.Ties hook p d) :
    a.mention = d.mention a.name := by
  cases d <;> cases a <;> first | rfl | exact h.elim

theorem Collects.ties {f : Finding} {a : Artifact} {r p : Pass} (h : Collects hook f a r) (hp : r.Extends p) :
    a.Ties hook p f.declaration := by
  cases h with
  | @object _ _ _ _ _ _ _ below _ hfields =>
    have hgrows := (Pass.extends_found (Artifacts.extends_addObject _ _)).trans hp
    have hall := forall₂_fieldArtifacts (R := fun node t => List.Forall₂ below.Ties (node.mentions hook) t.mentions)
      hfields.ties
    exact hall.imp fun e field hfield => hfield.2.2.imp fun d s => Pass.Ties.mono hgrows
  | constants => trivial

/-! ## Names declared in one way -/

def Declaration.isObject : Declaration → Bool
  | .object _ _ => true
  | .constants _ _ _ => false

theorem Declaration.mention_eq_iff {d e : Declaration} {name : String} :
    d.mention name = e.mention name ↔ d.isObject = e.isObject := by
  cases d <;> cases e <;> simp [mention, isObject]

/-- What a generated object mentions under a name is of the kind of what has claimed that name. -/
def Model.OneKind (m : Model) (hook : Hook) : Prop :=
  ∀ f ∈ m.survey hook, ∀ qualified entries, f.declaration = .object qualified entries →
    ∀ e ∈ entries, ∀ d ∈ e.type.mentions hook, d.qualified ≠ "" →
      ∀ g ∈ m.survey hook, g.claim? = some d.qualified → g.declaration.isObject = d.isObject

section Run

variable {model : Model} {prereserved : List String} {tries : Nat} {p : Pass}

theorem run_ties (h : Pass.run model hook prereserved tries = some p) :
    p.Remembers (claims (model.survey hook)) ∧ ∃ artifacts,
      List.Forall₂ (fun f a => f.Gives hook p.names a ∧ a.Ties hook p f.declaration) (model.survey hook) artifacts ∧
      p.found.all.Perm artifacts := by
  obtain ⟨hremembers, artifacts, hcollects, hperm⟩ := run_collects h
  refine ⟨hremembers, artifacts, hcollects.imp fun f a hr => ?_, hperm⟩
  obtain ⟨r, hr, hextends⟩ := hr
  exact ⟨hr.gives.mono hextends.names, hr.ties hextends⟩

theorem exists_struct_of_finding (h : Pass.run model hook prereserved tries = some p) {f : Finding}
    (hf : f ∈ model.survey hook) {qualified : String} {entries : List (Entry Node)}
    (hd : f.declaration = .object qualified entries) :
    ∃ o ∈ p.found.objects, Artifact.Ties hook p (.object qualified entries) (.struct o) := by
  obtain ⟨-, artifacts, hties, hperm⟩ := run_ties h
  obtain ⟨a, ha, -, htied⟩ := exists_mem_of_forall₂ hties hf
  rw [hd] at htied
  cases a with
  | block => exact htied.elim
  | struct o =>
    have hall : .struct o ∈ p.found.all := hperm.symm.subset ha
    exact ⟨o, by simpa [Artifacts.all] using hall, htied⟩

theorem exists_finding_of_mem_objects (h : Pass.run model hook prereserved tries = some p) {o : ObjectArtifact}
    (ho : o ∈ p.found.objects) : ∃ f ∈ model.survey hook, ∃ qualified entries,
      f.declaration = .object qualified entries ∧ Artifact.Ties hook p (.object qualified entries) (.struct o) := by
  obtain ⟨-, artifacts, hties, hperm⟩ := run_ties h
  have hmem : .struct o ∈ artifacts := hperm.subset (List.mem_append_left _ (List.mem_map_of_mem ho))
  obtain ⟨f, hf, -, htied⟩ := exists_mem_of_forall₂ hties.flip hmem
  obtain ⟨claim?, d⟩ := f
  cases d with
  | object qualified entries => exact ⟨_, hf, qualified, entries, rfl, htied⟩
  | constants => exact htied.elim

theorem exists_artifact_of_claim (h : Pass.run model hook prereserved tries = some p) {g : Finding}
    (hg : g ∈ model.survey hook) {qualified name : String} (hclaim : g.claim? = some qualified)
    (hname : p.names.lookup? qualified = some name) :
    ∃ a ∈ p.found.all, a.name = name ∧ a.mention = g.declaration.mention name := by
  obtain ⟨-, artifacts, hties, hperm⟩ := run_ties h
  obtain ⟨a, ha, hgives, htied⟩ := exists_mem_of_forall₂ hties hg
  have hsame : a.name = name := Option.some.inj ((hgives.named qualified hclaim).symm.trans hname)
  exact ⟨a, hperm.symm.subset ha, hsame, hsame ▸ htied.mention_eq⟩

theorem provides_of_oneKind (h : Pass.run model hook prereserved tries = some p) {d : Declaration} {s : TypeExpr}
    (hs : p.Ties d s) (hd : d.qualified ≠ "" → ∀ g ∈ model.survey hook, g.claim? = some d.qualified →
      g.declaration.isObject = d.isObject) : p.found.Provides s := by
  obtain ⟨name, rfl, hanonymous, hnamed⟩ := hs
  by_cases hq : d.qualified = ""
  · exact hanonymous hq
  · obtain ⟨hremembers, -⟩ := run_ties h
    have hclaimed : d.qualified ∈ claims (model.survey hook) := (hremembers _).mpr (by simp [hnamed hq])
    obtain ⟨g, hg, hclaim⟩ := List.mem_filterMap.mp hclaimed
    obtain ⟨a, ha, -, hmention⟩ := exists_artifact_of_claim h hg hclaim (hnamed hq)
    rw [Declaration.mention_eq_iff.mpr (hd hq g hg hclaim)] at hmention
    exact Artifacts.provides_mention_iff.mpr ⟨a, ha, hmention⟩

theorem isObject_eq_of_provides (h : Pass.run model hook prereserved tries = some p) {d : Declaration} {s : TypeExpr}
    (hs : p.Ties d s) (hprovides : p.found.Provides s) (hq : d.qualified ≠ "") {g : Finding}
    (hg : g ∈ model.survey hook) (hclaim : g.claim? = some d.qualified) :
    g.declaration.isObject = d.isObject := by
  obtain ⟨name, rfl, -, hnamed⟩ := hs
  obtain ⟨a, ha, haname, hmention⟩ := exists_artifact_of_claim h hg hclaim (hnamed hq)
  obtain ⟨x, hx, hxmention⟩ := Artifacts.provides_mention_iff.mp hprovides
  -- Artifacts are told apart by their names, so what is mentioned is what has claimed the name.
  have hdistinct : (p.found.all.map Artifact.name).Nodup := by
    rw [← Artifacts.names_eq]
    exact (run_underWay h).complete.distinct
  have hxname : x.name = name := by
    cases d <;> cases x <;> simp_all [Artifact.mention, Declaration.mention, Artifact.name]
  obtain rfl : a = x := List.inj_on_of_nodup_map hdistinct ha hx (haname.trans hxname.symm)
  exact Declaration.mention_eq_iff.mp (hmention.symm.trans hxmention)

theorem oneKind_of_agree (h : Pass.run model hook prereserved tries = some p) (hagree : p.found.sorted.Agree) :
    model.OneKind hook := by
  intro f hf qualified entries hdeclares e he d hd hq g hg hclaim
  obtain ⟨o, ho, hties⟩ := exists_struct_of_finding h hf hdeclares
  obtain ⟨field, hfield, hmentions⟩ := exists_mem_of_forall₂ hties (mem_sortBy.mpr he)
  obtain ⟨s, hs, htied⟩ := exists_mem_of_forall₂ hmentions hd
  have hprovides := Artifacts.agree_sorted_iff.mp hagree o ho field hfield s hs
  exact isObject_eq_of_provides h htied hprovides hq hg hclaim

theorem agree_of_oneKind (h : Pass.run model hook prereserved tries = some p) (hone : model.OneKind hook) :
    p.found.sorted.Agree := by
  refine Artifacts.agree_sorted_iff.mpr fun o ho field hfield s hs => ?_
  obtain ⟨f, hf, qualified, entries, hdeclares, hties⟩ := exists_finding_of_mem_objects h ho
  obtain ⟨e, he, hmentions⟩ := exists_mem_of_forall₂ hties.flip hfield
  obtain ⟨d, hd, htied⟩ := exists_mem_of_forall₂ hmentions.flip hs
  exact provides_of_oneKind h htied (hone f hf qualified entries hdeclares e (mem_sortBy.mp he) d hd)

/-- What fields mention is there as what it is mentioned, just when no object mentions a name in another way than it
was first declared. -/
theorem run_agrees_iff (model : Model) (hook : Hook) (prereserved : List String) (tries : Nat) (p : Pass)
    (h : Pass.run model hook prereserved tries = some p) : p.found.sorted.Agree ↔ model.OneKind hook :=
  ⟨oneKind_of_agree h, agree_of_oneKind h⟩

end Run

def chainModel : Model := [("p.Node", .object "p.Node" [
  ⟨"mode", .string "p.Mode" [⟨"On", "on"⟩], ""⟩, ⟨"next", .nullable (.object "p.Node" []), ""⟩])]

theorem run_agrees_iff_chain :
    ∃ p, Pass.run chainModel .none [] 1 = some p ∧ p.found.sorted.Agree ∧ chainModel.OneKind .none := by
  have h : (Pass.run chainModel .none [] 1).map (fun p => (p.found.sorted.objects, p.found.sorted.constants)) =
      some ([⟨"Node", [⟨"mode", .typeAlias "Mode", ""⟩, ⟨"next", .option (.boxed (.struct "Node")), ""⟩]⟩],
        [⟨"Mode", .string, [⟨"ModeOn", .str "on"⟩]⟩]) := by
    decide +kernel
  obtain ⟨p, hp, hpair⟩ := Option.map_eq_some_iff.mp h
  obtain ⟨hobjects, hconstants⟩ := Prod.mk.inj hpair
  have hagree : p.found.sorted.Agree := by
    intro t ht s hs
    have ht : t = .typeAlias "Mode" ∨ t = .option (.boxed (.struct "Node")) := by
      simpa [Artifacts.fieldTypes, hobjects] using ht
    rcases ht with rfl | rfl
    · obtain rfl : s = .typeAlias "Mode" := by simpa [TypeExpr.parts] using hs
      simp [Artifacts.Provides, hconstants]
    · have hs : s = .option (.boxed (.struct "Node")) ∨ s = .boxed (.struct "Node") ∨ s = .struct "Node" := by
        simpa [TypeExpr.parts] using hs
      rcases hs with rfl | rfl | rfl <;> simp [Artifacts.Provides, hobjects]
  exact ⟨p, hp, hagree, (run_agrees_iff chainModel .none [] 1 p hp).mp hagree⟩

/-- An object that mentions itself as if it were an enumeration. -/
def tangledModel : Model := [
  ("p.Node", .object "p.Node" [⟨"next", .nullable (.string "p.Node" [⟨"On", "on"⟩]), ""⟩])]

/-- The name of the object is taken for that of an alias. There is no such alias, and nothing stands between the struct
and the field of its own type. -/
theorem run_tangles : tangledModel.Loadable ∧ ∃ p, Pass.run tangledModel .none [] Allocator.defaultTries = some p ∧
    p.found.sorted.objects = [⟨"Node", [⟨"next", .option (.typeAlias "Node"), ""⟩]⟩] ∧
    p.found.sorted.constants = [] ∧ ¬p.found.sorted.Agree := by
  have hloadable : tangledModel.Loadable := by
    refine ⟨?_, ?_⟩
    · unfold Model.Distinct
      decide
    · decide +kernel
  have h : (Pass.run tangledModel .none [] Allocator.defaultTries).map
      (fun p => (p.found.sorted.objects, p.found.sorted.constants)) =
        some ([⟨"Node", [⟨"next", .option (.typeAlias "Node"), ""⟩]⟩], []) := by
    decide +kernel
  obtain ⟨p, hp, hpair⟩ := Option.map_eq_some_iff.mp h
  obtain ⟨hobjects, hconstants⟩ := Prod.mk.inj hpair
  refine ⟨hloadable, p, hp, hobjects, hconstants, fun hagree => ?_⟩
  have hfield : .option (.typeAlias "Node") ∈ p.found.sorted.fieldTypes := by simp [Artifacts.fieldTypes, hobjects]
  obtain ⟨c, hc, -⟩ := hagree _ hfield (.typeAlias "Node") (by simp [TypeExpr.parts])
  simp [hconstants] at hc

end Declgen
