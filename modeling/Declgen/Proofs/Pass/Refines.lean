import Declgen.Proofs.Pass.Complete
import Declgen.Proofs.Pass.Denotes
import Declgen.Proofs.Pass.Survey

/-!
# A pass realizes the survey

A pass goes where the survey of its model goes. Each finding has one artifact, made of what the finding
declares, and there is no artifact beyond these.
-/

namespace Declgen

/-! ## What a finding gives -/

/-- The field of a struct that an entry of an object becomes. -/
structure Entry.Gives (hook : Hook) (names : Allocator) (e : Entry Node) (f : FieldArtifact) : Prop where
  name : f.name = e.name
  tag : f.tag = e.tag
  type : Denotes hook names e.type f.type

/-- The artifact consists of what is declared: the entries of an object by name, the members of an
enumeration as they are listed. -/
def Artifact.Declares (hook : Hook) (names : Allocator) : Declaration → Artifact → Prop
  | .object _ entries, .struct o => List.Forall₂ (Entry.Gives hook names) (sortBy (·.name) entries) o.fields
  | .constants qualified base members, .block c => c.base = base ∧
      c.entries = members.map fun m =>
        ⟨Pass.constantName c.name (QualifiedName.bare qualified) m.key, m.value⟩
  | _, _ => False

/-- The artifact of a finding. -/
structure Finding.Gives (hook : Hook) (names : Allocator) (f : Finding) (a : Artifact) : Prop where
  /-- The artifact goes by the name that is remembered for what is claimed. -/
  named : ∀ qualified, f.claim? = some qualified → names.lookup? qualified = some a.name
  declared : a.Declares hook names f.declaration

variable {hook : Hook}

theorem Entry.Gives.mono {a b : Allocator} (h : a.Extends b) {e : Entry Node} {f : FieldArtifact}
    (hgives : e.Gives hook a f) : e.Gives hook b f :=
  ⟨hgives.name, hgives.tag, hgives.type.mono h⟩

theorem Artifact.Declares.mono {a b : Allocator} (h : a.Extends b) {d : Declaration} {x : Artifact}
    (hdeclares : x.Declares hook a d) : x.Declares hook b d := by
  cases d with
  | object qualified entries =>
    cases x with
    | struct o => exact List.Forall₂.imp (fun _ _ => Entry.Gives.mono h) hdeclares
    | block c => exact hdeclares
  | constants qualified base members => cases x <;> exact hdeclares

theorem Finding.Gives.mono {a b : Allocator} (h : a.Extends b) {f : Finding} {x : Artifact}
    (hgives : f.Gives hook a x) : f.Gives hook b x :=
  ⟨fun q hq => h.lookup (hgives.named q hq), hgives.declared.mono h⟩

theorem forall₂_fieldArtifacts {R : Node → TypeExpr → Prop} {parent : String} {index : Nat}
    {entries : List (Entry Node)} {types : List TypeExpr}
    (h : List.Forall₂ (fun s t => R s.node t) (fieldSites parent index entries) types) :
    List.Forall₂ (fun e f => f.name = e.name ∧ f.tag = e.tag ∧ R e.type f.type) entries
      (fieldArtifacts entries types) := by
  induction entries generalizing index types with
  | nil => exact .nil
  | cons e rest ih =>
    obtain ⟨t, more, htype, hrest, rfl⟩ := List.forall₂_cons_left_iff.mp h
    exact .cons ⟨rfl, rfl, htype⟩ (ih hrest)

/-! ## Spots of sites -/

/-- The root that a place stands for. -/
def Context.root? : Context → Option String
  | .root key .value => some key
  | _ => none

theorem Allocator.subject?_eq (a : Allocator) (qualified : String) (place : Context) :
    a.subject? qualified place =
      if qualified ≠ "" then some qualified else place.root?.filter fun key => (a.lookup? key).isNone := by
  unfold subject?
  by_cases hne : qualified = ""
  · rcases place with ⟨key, _ | _⟩ | _ <;> simp [hne, Context.root?, Option.filter]
  · simp [hne]

def Site.spot (s : Site) : Spot := ⟨s.place.root?, s.node⟩

@[simp] theorem Site.root?_spot (place : Context) (node : Node) :
    (Site.spot ⟨place, node⟩).root? = place.root? := rfl

@[simp] theorem Context.root?_mapKey (place : Context) : place.mapKey.root? = none := by
  cases place <;> rfl

theorem spot_fieldSites (parent : String) (index : Nat) (entries : List (Entry Node)) :
    (fieldSites parent index entries).map Site.spot = entries.map fun e => ⟨none, e.type⟩ := by
  induction entries generalizing index with
  | nil => rfl
  | cons e rest ih => simp [fieldSites, ih, Site.spot, Context.root?]

theorem Site.below_spot_object (place : Context) (qualified parent : String) (entries : List (Entry Node)) :
    (Site.spot ⟨place, .object qualified entries⟩).below =
      (fieldSites parent 0 (sortBy (·.name) entries)).map Site.spot :=
  (spot_fieldSites parent 0 _).symm

theorem Node.below_of_plain {node : Node} {t : TypeExpr} (h : node.plain? = some t) (place : Context) :
    node.declaration? = none ∧ (Site.spot ⟨place, node⟩).below = [] := by
  cases node with
  | string _ members | number _ _ members =>
    refine ⟨?_, rfl⟩
    cases members with
    | nil => rfl
    | cons => simp [plain?] at h
  | boolean | any => exact ⟨rfl, rfl⟩
  | _ => simp [plain?] at h

theorem Node.below_of_constants {node : Node} {qualified : String} {base : Primitive}
    {members : List (Member ConstantValue)} (h : node.declaration? = some (.constants qualified base members))
    (place : Context) : (Site.spot ⟨place, node⟩).below = [] := by
  cases node with
  | string | number => rfl
  | _ => simp [declaration?] at h

/-! ## The simulation -/

theorem Pass.all_external (p : Pass) (type : ExternalType) :
    (p.external type).2.names = p.names ∧ (p.external type).2.found.all = p.found.all := by
  unfold external
  split
  · exact ⟨rfl, rfl⟩
  · exact ⟨rfl, by simp [Artifacts.all]⟩

/-- The qualified names in memory are those that have been claimed. -/
def Pass.Remembers (p : Pass) (claimed : List String) : Prop :=
  ∀ qualified, qualified ∈ claimed ↔ (p.names.lookup? qualified).isSome

theorem Pass.Remembers.claim?_eq {p : Pass} {claimed : List String} (hp : p.Remembers claimed)
    (d : Declaration) (place : Context) :
    d.claim? place.root? claimed = p.names.subject? d.qualified place := by
  unfold Declaration.claim?
  rw [Allocator.subject?_eq]
  congr 2
  funext key
  cases hlookup : p.names.lookup? key <;> simp [hp key, hlookup]

theorem Pass.Remembers.allocate {p : Pass} {claimed : List String} (hp : p.Remembers claimed)
    {d : Declaration} {place : Context} {name : String} {names : Allocator}
    (hmemo : p.memoized? d.qualified = none)
    (hname : p.names.allocate d.qualified place = some (name, names)) (found : Artifacts) :
    Pass.Remembers ⟨names, found⟩ (claimed ++ (d.claim? place.root? claimed).toList) ∧
      ∀ qualified, d.claim? place.root? claimed = some qualified → names.lookup? qualified = some name := by
  rw [hp.claim?_eq]
  obtain ⟨rfl, -, -⟩ := handOut_of_memoized hmemo hname
  cases p.names.subject? d.qualified place with
  | none => exact ⟨fun q => by simpa using hp q, by simp⟩
  | some subject =>
    refine ⟨fun q => ?_, by simp⟩
    by_cases hq : q = subject <;> simp [hq, hp q]

theorem Pass.Remembers.not_mem {p : Pass} {claimed : List String} (hp : p.Remembers claimed) {qualified : String}
    (hmemo : p.memoized? qualified = none) : qualified ≠ "" → qualified ∉ claimed := by
  intro hne hmem
  have hlookup := Pass.memoized?_eq_none_iff.mp hmemo hne
  simpa [hlookup] using (hp qualified).mp hmem

/-- The artifact has been collected for the finding, and the pass has come to the point right behind. -/
inductive Collects (hook : Hook) : Finding → Artifact → Pass → Prop where
  | object {claim? qualified entries name} {names : Allocator} {fields} {p p' : Pass} :
      (∀ q, claim? = some q → names.lookup? q = some name) →
      Visits hook (fieldSites name 0 (sortBy (·.name) entries)) { p with names } fields p' →
      Collects hook ⟨claim?, .object qualified entries⟩
        (.struct ⟨name, fieldArtifacts (sortBy (·.name) entries) fields⟩)
        { p' with found := p'.found.addObject ⟨name, fieldArtifacts (sortBy (·.name) entries) fields⟩ }
  | constants {claim? qualified base members name} {names : Allocator} {found : Artifacts} :
      (∀ q, claim? = some q → names.lookup? q = some name) →
      Collects hook ⟨claim?, .constants qualified base members⟩
        (.block (constantBlock name qualified base members))
        ⟨names, found.addConstant (constantBlock name qualified base members)⟩

theorem Collects.gives {f : Finding} {a : Artifact} {p : Pass} (h : Collects hook f a p) : f.Gives hook p.names a := by
  cases h with
  | object hclaim hfields =>
    refine ⟨fun q hq => hfields.grows.names.lookup (hclaim q hq), ?_⟩
    exact (forall₂_fieldArtifacts hfields.denotes).imp fun e f ⟨hname, htag, htype⟩ => ⟨hname, htag, htype⟩
  | constants hclaim => exact ⟨hclaim, rfl, rfl⟩

/-- What visits add to a pass is what a survey of their sites finds, each collected on the way. -/
theorem Visits.collects {sites : List Site} {p q : Pass} {types : List TypeExpr}
    (h : Visits hook sites p types q) {claimed : List String} (hp : p.Remembers claimed) :
    q.Remembers (claimed ++ claims (survey hook (sites.map Site.spot) claimed)) ∧
      ∃ added, List.Forall₂ (fun f a => ∃ r : Pass, Collects hook f a r ∧ r.Extends q)
          (survey hook (sites.map Site.spot) claimed) added ∧
        q.found.all.Perm (p.found.all ++ added) := by
  induction h generalizing claimed with
  | nil => exact ⟨by simpa using hp, [], by simp, by simp⟩
  | @external _ _ _ type p _ _ hhook _ ih =>
    obtain ⟨hnames, hall⟩ := p.all_external type
    have hp' : (p.external type).2.Remembers claimed := by
      unfold Pass.Remembers
      rw [hnames]
      exact hp
    rw [List.map_cons, survey, tour_answered hhook, ← hall]
    exact ih hp'
  | array hhook _ ih =>
    rw [List.map_cons, survey, tour_undeclared hhook rfl]
    exact ih hp
  | map hhook _ ih =>
    rw [List.map_cons, survey, tour_undeclared hhook rfl]
    have hmap := ih hp
    simp only [List.map_cons, Site.spot, Context.root?_mapKey] at hmap
    exact hmap
  | nullable hhook _ ih =>
    rw [List.map_cons, survey, tour_undeclared hhook rfl]
    exact ih hp
  | plain hhook hplain _ ih =>
    obtain ⟨hd, hbelow⟩ := Node.below_of_plain hplain _
    rw [List.map_cons, survey, tour_undeclared hhook hd, hbelow]
    exact ih hp
  | date hhook _ ih =>
    rw [List.map_cons, survey, tour_undeclared hhook rfl]
    exact ih hp
  | @known _ _ d _ _ _ _ _ hhook hd hmemo _ ih =>
    obtain ⟨hne, hlookup⟩ := Pass.memoized?_eq_some_iff.mp hmemo
    have hclaimed : d.qualified ∈ claimed := (hp _).mpr (by simp [hlookup])
    rw [List.map_cons, survey, tour_claimed hhook hd hne hclaimed]
    exact ih hp
  | @object place qualified entries name _ fields _ p' rest _ q hhook hmemo hname hfields hrest ihfields ih =>
    obtain ⟨hremembers, hclaim⟩ := hp.allocate (d := .object qualified entries) hmemo hname p.found
    have hnew := hp.not_mem hmemo
    rw [List.map_cons, survey_new (d := .object qualified entries) hhook rfl hnew,
      Site.below_spot_object place qualified name, survey_append]
    obtain ⟨hremembersBelow, below, hbelow, hpermBelow⟩ := ihfields hremembers
    obtain ⟨hremembersAfter, after, hafter, hpermAfter⟩ := ih hremembersBelow
    let o : ObjectArtifact := ⟨name, fieldArtifacts (sortBy (·.name) entries) fields⟩
    -- What was collected below the struct is still there after it.
    have hobject : p'.Extends { p' with found := p'.found.addObject o } :=
      Pass.extends_found (Artifacts.extends_addObject _ o)
    have hkept := hbelow.imp fun f a hr =>
      hr.imp fun r hcollects => hcollects.imp_right fun hextends => (hextends.trans hobject).trans hrest.grows
    refine ⟨by simpa using hremembersAfter, .struct o :: (below ++ after),
      .cons ⟨_, .object hclaim hfields, hrest.grows⟩ (List.rel_append hkept hafter), ?_⟩
    -- The struct is collected after what is below it.
    have hperm := (Artifacts.all_addObject_perm p'.found o).trans (hpermBelow.cons _)
    refine (hpermAfter.trans (hperm.append_right after)).trans ?_
    rw [List.cons_append, List.append_assoc]
    exact List.perm_middle.symm
  | @constants place _ qualified base members name names p rest _ q hhook hd hmemo hname hrest ih =>
    let c : ConstantArtifact := constantBlock name qualified base members
    obtain ⟨hremembers, hclaim⟩ :=
      hp.allocate (d := .constants qualified base members) hmemo hname (p.found.addConstant c)
    have hnew := hp.not_mem hmemo
    rw [List.map_cons, survey_new (d := .constants qualified base members) hhook hd hnew,
      Node.below_of_constants hd, List.nil_append]
    obtain ⟨hremembersAfter, after, hafter, hpermAfter⟩ := ih hremembers
    refine ⟨by simpa using hremembersAfter, .block c :: after,
      .cons ⟨_, .constants hclaim, hrest.grows⟩ hafter, ?_⟩
    have hblock := (Artifacts.all_addConstant_perm p.found c).append_right after
    exact (hpermAfter.trans hblock).trans List.perm_middle.symm

/-! ## A whole pass -/

theorem spot_rootSites (model : Model) : ((sortBy (·.1) model).map rootSite).map Site.spot =
    (sortBy (·.1) model).map fun root => ⟨some root.1, root.2⟩ := by
  rw [List.map_map]
  rfl

theorem Pass.remembers_start (prereserved : List String) (tries : Nat) :
    (Pass.start (.new prereserved tries)).Remembers [] := by
  simp [Remembers, start, Allocator.new, Allocator.lookup?]

section Run

variable {model : Model} {prereserved : List String} {tries : Nat} {p : Pass}

theorem run_collects (h : Pass.run model hook prereserved tries = some p) :
    p.Remembers (claims (model.survey hook)) ∧ ∃ artifacts,
      List.Forall₂ (fun f a => ∃ r : Pass, Collects hook f a r ∧ r.Extends p) (model.survey hook) artifacts ∧
      p.found.all.Perm artifacts := by
  obtain ⟨types, hvisits⟩ := run_visits h
  obtain ⟨hremembers, artifacts, hcollects, hperm⟩ := hvisits.collects (Pass.remembers_start prereserved tries)
  rw [spot_rootSites] at hremembers hcollects
  rw [List.nil_append] at hremembers
  exact ⟨hremembers, artifacts, hcollects, by simpa [Pass.start, Artifacts.empty, Artifacts.all] using hperm⟩

theorem run_gives (h : Pass.run model hook prereserved tries = some p) :
    p.Remembers (claims (model.survey hook)) ∧ ∃ artifacts,
      List.Forall₂ (Finding.Gives hook p.names) (model.survey hook) artifacts ∧ p.found.sorted.all.Perm artifacts := by
  obtain ⟨hremembers, artifacts, hcollects, hperm⟩ := run_collects h
  refine ⟨hremembers, artifacts, hcollects.imp fun f a hr => ?_, (Artifacts.all_sorted_perm p.found).trans hperm⟩
  obtain ⟨r, hr, hextends⟩ := hr
  exact hr.gives.mono hextends.names

end Run

/-- What a pass owes to the findings of a survey. -/
structure Pass.Realizes (p : Pass) (hook : Hook) (findings : List Finding) : Prop where
  /-- A name is claimed once, and what carries a name claims it. So what claims nothing is anonymous. -/
  distinct : (claims findings).Nodup
  named : ∀ f ∈ findings, f.declaration.qualified ≠ "" → f.claim? = some f.declaration.qualified
  /-- The qualified names in memory are the claimed ones. -/
  remembered : ∀ qualified, qualified ∈ claims findings ↔ (p.names.lookup? qualified).isSome
  /-- Findings and artifacts correspond one to one. -/
  artifacts : ∃ artifacts, List.Forall₂ (Finding.Gives hook p.names) findings artifacts ∧
    p.found.sorted.all.Perm artifacts

/-- A pass that gets through has generated what the survey of its model finds. -/
theorem run_realizes (model : Model) (hook : Hook) (prereserved : List String) (tries : Nat) (p : Pass)
    (h : Pass.run model hook prereserved tries = some p) : p.Realizes hook (model.survey hook) := by
  obtain ⟨hremembers, hartifacts⟩ := run_gives h
  refine ⟨(survey_claims hook _ []).1, survey_claim?_of_named hook _ [], fun q => ?_, hartifacts⟩
  exact hremembers q

/-- An anonymous root, whose key is claimed before an object of that name is met. -/
def heirModel : Model := [
  ("pkg.Heir", .map (.object "" []) (.object "" [
    ⟨"self", .object "pkg.Heir" [⟨"lost", .any, ""⟩], ""⟩,
    ⟨"mode", .nullable (.number "pkg.Mode" .int8 [⟨"ModeOn", .int 1⟩]), "json:\"m\""⟩])),
  ("pkg.Last", .array (.object "pkg.Node" [⟨"next", .nullable (.object "pkg.Node" []), ""⟩]))]

theorem run_realizes_heir :
    ∃ p, Pass.run heirModel .none ["other.Heir"] 1 = some p ∧ p.Realizes .none (heirModel.survey .none) := by
  have h : (Pass.run heirModel .none ["other.Heir"] 1).isSome = true := by decide +kernel
  obtain ⟨p, hp⟩ := Option.isSome_iff_exists.mp h
  exact ⟨p, hp, run_realizes heirModel .none ["other.Heir"] 1 p hp⟩

example : (heirModel.survey .none).map (·.claim?) = [none, some "pkg.Heir", some "pkg.Mode", some "pkg.Node"] := by
  decide +kernel

end Declgen
