import Declgen.Proofs.Pass.Refines
import Declgen.Proofs.Pass.Reordered

/-!
# Imports

What the hook answers with a path is referred to behind an alias, which is made of seven digits of a digest of the
path. Under an alias the first path is imported that a pass comes to with these digits. A path that comes later and
has the same digits is not imported.
-/

namespace Declgen

variable {hook : Hook}

/-! ## External types in a type -/

/-- The external types in a type, in the order in which they are written. -/
def TypeExpr.externals : TypeExpr → List TypeExpr
  | .external importAlias name => [.external importAlias name]
  | .vec inner | .option inner | .boxed inner => inner.externals
  | .map key value => key.externals ++ value.externals
  | .primitive _ | .struct _ | .typeAlias _ | .dateTime | .any => []

@[simp] theorem TypeExpr.externals_optional (t : TypeExpr) : t.optional.externals = t.externals := by
  cases t <;> rfl

@[simp] theorem ExternalType.externals_expr (type : ExternalType) : type.expr.externals = [type.expr] := by
  unfold expr
  split <;> rfl

/-- What the hook answers in a node. Nothing is asked inside of what it answers, and what is declared in the node has
fields of its own. -/
def Node.overrides (hook : Hook) (node : Node) : List ExternalType :=
  match hook node with
  | some type => [type]
  | none =>
    match node with
    | .array inner | .nullable inner => overrides hook inner
    | .map key value => overrides hook key ++ overrides hook value
    | .object _ _ | .string _ _ | .number _ _ _ | .boolean | .date | .any => []
termination_by structural node

namespace Node

variable {node : Node}

theorem overrides_answered {type : ExternalType} (h : hook node = some type) : node.overrides hook = [type] := by
  cases node <;> simp only [overrides, h]

theorem overrides_undeclared (h : hook node = none) (hd : node.declaration? = none) (root? : Option String) :
    node.overrides hook = (Spot.below ⟨root?, node⟩).flatMap fun s => s.node.overrides hook := by
  cases node with
  | object name entries => simp [declaration?] at hd
  | _ => simp [overrides, h, Spot.below]

theorem overrides_declared {d : Declaration} (h : hook node = none) (hd : node.declaration? = some d) :
    node.overrides hook = [] := by
  cases node with
  | object | string | number => simp only [overrides, h]
  | _ => simp [declaration?] at hd

theorem overrides_plain {t : TypeExpr} (h : hook node = none) (hplain : node.plain? = some t) :
    node.overrides hook = [] := by
  cases node with
  | string | number | boolean | any => simp only [overrides, h]
  | _ => simp [plain?] at hplain

end Node

theorem Denotes.externals {names : Allocator} {node : Node} {t : TypeExpr} (h : Denotes hook names node t) :
    t.externals = (node.overrides hook).map ExternalType.expr := by
  induction h with
  | external hhook => simp [Node.overrides_answered hhook]
  | array hhook _ ih =>
    simp only [TypeExpr.externals, Node.overrides, hhook]
    exact ih
  | map hhook _ _ ihk ihv => simp only [TypeExpr.externals, Node.overrides, hhook, ihk, ihv, List.map_append]
  | @nullable inner t hhook _ ih =>
    simp only [Node.overrides, hhook]
    split
    · exact ih
    · rw [TypeExpr.externals_optional, ih]
  | plain hhook hplain =>
    rw [Node.overrides_plain hhook hplain]
    rcases Node.eq_of_plain? hplain with ⟨p, rfl⟩ | rfl <;> rfl
  | date hhook => simp [Node.overrides, hhook, TypeExpr.externals]
  | @declared _ d _ hhook hdeclares =>
    rw [Node.overrides_declared hhook hdeclares]
    cases d <;> rfl

/-! ## Answers in the order of a pass -/

theorem Spot.mem_below_of_object {s : Spot} {qualified : String} {entries : List (Entry Node)} {e : Entry Node}
    (h : s.node.declaration? = some (.object qualified entries)) (he : e ∈ entries) : ⟨none, e.type⟩ ∈ s.below := by
  obtain ⟨root?, node⟩ := s
  cases node with
  | object name fields =>
    obtain ⟨rfl, rfl⟩ := Declaration.object.inj (Option.some.inj h)
    exact List.mem_map.mpr ⟨e, mem_sortBy.mpr he, rfl⟩
  | string name members | number name repr members => cases members <;> simp [Node.declaration?] at h
  | _ => simp [Node.declaration?] at h

section Laws

variable {s : Spot} {rest : List Spot} {claimed : List String}

theorem overrides_subset_answers (hook : Hook) (spots : List Spot) (claimed : List String) :
    (spots.flatMap fun s => s.node.overrides hook) ⊆ answers hook spots claimed := by
  unfold answers
  fun_induction tour hook spots claimed with
  | case1 => simp
  | case2 claimed s rest type hhook ih =>
    rw [List.flatMap_cons, Node.overrides_answered hhook, List.singleton_append]
    exact List.cons_subset_cons type ih
  | case3 claimed s rest hhook hd ih =>
    rwa [List.flatMap_cons, Node.overrides_undeclared hhook hd s.root?, ← List.flatMap_append]
  | case4 claimed s rest hhook d hd hclaimed ih =>
    rwa [List.flatMap_cons, Node.overrides_declared hhook hd, List.nil_append]
  | case5 claimed s rest hhook d hd hclaimed ih =>
    rw [List.flatMap_cons, Node.overrides_declared hhook hd, List.nil_append]
    rw [List.flatMap_append] at ih
    exact fun type htype => ih (List.mem_append_right _ htype)

theorem overrides_subset_of_mem_survey (hook : Hook) (spots : List Spot) (claimed : List String) :
    ∀ f ∈ survey hook spots claimed, ∀ qualified entries, f.declaration = .object qualified entries →
      ∀ e ∈ entries, e.type.overrides hook ⊆ answers hook spots claimed := by
  unfold survey answers
  fun_induction tour hook spots claimed with
  | case1 => simp
  | case2 claimed s rest type hanswered ih =>
    intro f hf qualified entries hobject e he
    exact List.subset_cons_of_subset type (ih f hf qualified entries hobject e he)
  | case3 claimed s rest hdeclined hd ih => exact ih
  | case4 claimed s rest hdeclined d hd hclaimed ih => exact ih
  | case5 claimed s rest hdeclined d hd hclaimed ih =>
    refine List.forall_mem_cons.mpr ⟨?_, ih⟩
    rintro qualified entries rfl e he type htype
    have hbelow := Spot.mem_below_of_object hd he
    exact overrides_subset_answers hook _ _ (List.mem_flatMap.mpr ⟨_, List.mem_append_left rest hbelow, htype⟩)

end Laws

/-! ## Imports -/

/-- An import is recorded for an answer with a path, unless its alias is there. -/
def recorded (imports : List ImportRecord) (type : ExternalType) : List ImportRecord :=
  if type.path.isEmpty || imports.any (·.importAlias == importAlias type.path) then imports
  else imports ++ [⟨importAlias type.path, type.path⟩]

theorem Pass.imports_external (p : Pass) (type : ExternalType) :
    (p.external type).2.found.imports = recorded p.found.imports type := by
  unfold external recorded Artifacts.addImport
  cases type.path.isEmpty with
  | true => simp
  | false =>
    simp only [Bool.false_eq_true, if_false, Bool.false_or]
    split <;> rfl

theorem Visits.imports {sites : List Site} {p q : Pass} {types : List TypeExpr} (h : Visits hook sites p types q)
    {claimed : List String} (hp : p.Remembers claimed) :
    q.found.imports = (answers hook (sites.map Site.spot) claimed).foldl recorded p.found.imports := by
  induction h generalizing claimed with
  | nil => simp [answers]
  | @external _ _ _ type p _ _ hhook _ ih =>
    have hp' : (p.external type).2.Remembers claimed := by
      unfold Pass.Remembers
      rw [(p.all_external type).1]
      exact hp
    rw [List.map_cons, answers, tour_answered hhook, List.filterMap_cons_some (f := Stop.answer?) rfl, List.foldl_cons,
      ← Pass.imports_external]
    exact ih hp'
  | array hhook _ ih =>
    rw [List.map_cons, answers, tour_undeclared hhook rfl]
    exact ih hp
  | map hhook _ ih =>
    rw [List.map_cons, answers, tour_undeclared hhook rfl]
    have hmap := ih hp
    simp only [List.map_cons, Site.spot, Context.root?_mapKey] at hmap
    exact hmap
  | nullable hhook _ ih =>
    rw [List.map_cons, answers, tour_undeclared hhook rfl]
    exact ih hp
  | plain hhook hplain _ ih =>
    obtain ⟨hd, hbelow⟩ := Node.below_of_plain hplain _
    rw [List.map_cons, answers, tour_undeclared hhook hd, hbelow]
    exact ih hp
  | date hhook _ ih =>
    rw [List.map_cons, answers, tour_undeclared hhook rfl]
    exact ih hp
  | @known _ _ d _ _ _ _ _ hhook hd hmemo _ ih =>
    obtain ⟨hne, hlookup⟩ := Pass.memoized?_eq_some_iff.mp hmemo
    have hclaimed : d.qualified ∈ claimed := (hp _).mpr (by simp [hlookup])
    rw [List.map_cons, answers, tour_claimed hhook hd hne hclaimed]
    exact ih hp
  | @object place qualified entries name _ fields p p' rest _ q hhook hmemo hname hfields hrest ihfields ih =>
    obtain ⟨hremembers, -⟩ := hp.allocate (d := .object qualified entries) hmemo hname p.found
    have hnew := hp.not_mem hmemo
    -- The fields are visited before what is left, and then the names that they claim are remembered.
    have hremembersBelow := (hfields.collects hremembers).1
    have hbelow := ihfields hremembers
    rw [List.map_cons, answers, tour_new (d := .object qualified entries) hhook rfl hnew,
      List.filterMap_cons_none (f := Stop.answer?) rfl, Site.root?_spot, Site.below_spot_object place qualified name,
      tour_append, List.filterMap_append, List.foldl_append]
    exact hbelow ▸ ih hremembersBelow
  | @constants place _ qualified base members name names p rest _ q hhook hd hmemo hname hrest ih =>
    obtain ⟨hremembers, -⟩ := hp.allocate (d := .constants qualified base members) hmemo hname
      (p.found.addConstant (constantBlock name qualified base members))
    have hnew := hp.not_mem hmemo
    rw [List.map_cons, answers, tour_new (d := .constants qualified base members) hhook hd hnew,
      List.filterMap_cons_none (f := Stop.answer?) rfl, Node.below_of_constants hd, List.nil_append]
    exact ih hremembers

/-! ## The first path under an alias -/

def ExternalType.importedAs (type : ExternalType) (name : String) : Bool :=
  !type.path.isEmpty && importAlias type.path == name

theorem find?_recorded_step (imports : List ImportRecord) (type : ExternalType) (name : String) :
    (recorded imports type).find? (·.importAlias == name) =
      (imports.find? (·.importAlias == name)).or
        (if type.importedAs name then some ⟨name, type.path⟩ else none) := by
  unfold recorded ExternalType.importedAs
  cases type.path.isEmpty with
  | true => simp
  | false =>
    by_cases hname : importAlias type.path = name
    · subst hname
      by_cases hany : imports.any (·.importAlias == importAlias type.path) = true
      · have hfound : (imports.find? (·.importAlias == importAlias type.path)).isSome = true := by
          rwa [List.find?_isSome, ← List.any_eq_true]
        obtain ⟨i, hi⟩ := Option.isSome_iff_exists.mp hfound
        simp [hany, hi]
      · simp [hany, List.find?_append]
    · split <;> simp [List.find?_append, hname]

theorem find?_recorded (types : List ExternalType) (imports : List ImportRecord) (name : String) :
    (types.foldl recorded imports).find? (·.importAlias == name) =
      (imports.find? (·.importAlias == name)).or
        ((types.find? (·.importedAs name)).map fun type => ⟨name, type.path⟩) := by
  induction types generalizing imports with
  | nil => simp
  | cons type rest ih =>
    rw [List.foldl_cons, ih, find?_recorded_step, Option.or_assoc, List.find?_cons]
    cases type.importedAs name <;> simp

theorem mem_recorded {types : List ExternalType} {imports : List ImportRecord} {i : ImportRecord}
    (h : i ∈ types.foldl recorded imports) :
    i ∈ imports ∨ ∃ type ∈ types, type.path ≠ "" ∧ i = ⟨importAlias type.path, type.path⟩ := by
  induction types generalizing imports with
  | nil => exact .inl h
  | cons type rest ih =>
    rcases ih h with hstep | ⟨other, hother, hi⟩
    · unfold recorded at hstep
      split at hstep
      · exact .inl hstep
      · rename_i hnew
        rcases List.mem_append.mp hstep with hold | hlast
        · exact .inl hold
        · have hpath : type.path ≠ "" := by
            rintro hempty
            simp [hempty] at hnew
          exact .inr ⟨type, List.mem_cons_self .., hpath, List.mem_singleton.mp hlast⟩
    · exact .inr ⟨other, List.mem_cons_of_mem _ hother, hi⟩

theorem filter_eq_toList_find? {α : Type} {key : α → String} {l : List α} (h : (l.map key).Nodup) (name : String) :
    l.filter (key · == name) = (l.find? (key · == name)).toList := by
  induction l with
  | nil => rfl
  | cons a rest ih =>
    obtain ⟨ha, hrest⟩ := List.nodup_cons.mp h
    rw [List.filter_cons, List.find?_cons]
    by_cases hname : key a = name
    · have hnone : rest.filter (key · == name) = [] := by
        rw [List.filter_eq_nil_iff]
        intro b hb hkey
        rw [hname, ← eq_of_beq hkey] at ha
        exact ha (List.mem_map_of_mem hb)
      simp [hname, hnone]
    · have hother : (key a == name) = false := by simpa using hname
      simp [hother, ih hrest]

theorem importAlias_eq_iff {p q : String} : importAlias p = importAlias q ↔ Digest.short p 7 = Digest.short q 7 := by
  unfold importAlias
  exact String.append_right_inj _

/-! ## A whole pass -/

/-- The external types in the fields of the artifact are what the hook answers in the entries that are declared. -/
def Artifact.Refers (hook : Hook) : Declaration → Artifact → Prop
  | .object _ entries, .struct o => List.Forall₂ (fun e f => f.name = e.name ∧
      f.type.externals = (e.type.overrides hook).map ExternalType.expr) (sortBy (·.name) entries) o.fields
  | .constants _ _ _, .block _ => True
  | _, _ => False

theorem Artifact.Declares.refers {names : Allocator} {d : Declaration} {a : Artifact}
    (h : a.Declares hook names d) : a.Refers hook d := by
  cases d with
  | object qualified entries =>
    cases a with
    | struct o => exact List.Forall₂.imp (fun _ _ hgives => ⟨hgives.name, hgives.type.externals⟩) h
    | block c => exact h
  | constants qualified base members =>
    cases a with
    | struct o => exact h
    | block c => trivial

/-- The imports of a pass, as against what the hook answers in its model. -/
structure Pass.Resolves (p : Pass) (hook : Hook) (m : Model) : Prop where
  /-- Findings and artifacts correspond one to one, and so do the references in fields and the answers in entries. -/
  fields : ∃ artifacts, List.Forall₂ (fun f a => Artifact.Refers hook f.declaration a) (m.survey hook) artifacts ∧
    p.found.sorted.all.Perm artifacts
  met : ∀ f ∈ m.survey hook, ∀ qualified entries, f.declaration = .object qualified entries →
    ∀ e ∈ entries, e.type.overrides hook ⊆ m.answers hook
  /-- Under the alias of an answer there is one import, with the path of the first answer that has this alias. -/
  first : ∀ type ∈ m.answers hook, type.path ≠ "" → ∃ earliest,
    (m.answers hook).find? (·.importedAs (importAlias type.path)) = some earliest ∧
    p.found.sorted.imports.filter (·.importAlias == importAlias type.path) = [⟨importAlias type.path, earliest.path⟩]
  /-- It has the path of the answer itself if there is no answer with another path of the same seven digits. -/
  own : ∀ type ∈ m.answers hook, type.path ≠ "" →
    (∀ other ∈ m.answers hook, Digest.short other.path 7 = Digest.short type.path 7 → other.path = type.path) →
    p.found.sorted.imports.filter (·.importAlias == importAlias type.path) = [⟨importAlias type.path, type.path⟩]
  aliases : ∀ type ∈ m.answers hook, ∀ other ∈ m.answers hook,
    importAlias type.path = importAlias other.path ↔ Digest.short type.path 7 = Digest.short other.path 7
  paths : (p.found.sorted.imports.map (·.path)).Nodup
  answered : ∀ i ∈ p.found.sorted.imports, ∃ type ∈ m.answers hook, type.path ≠ "" ∧
    i = ⟨importAlias type.path, type.path⟩

section Run

variable {model : Model} {prereserved : List String} {tries : Nat} {p : Pass}

theorem run_imports (h : Pass.run model hook prereserved tries = some p) :
    p.found.imports = (model.answers hook).foldl recorded [] := by
  obtain ⟨types, hvisits⟩ := run_visits h
  have himports := hvisits.imports (Pass.remembers_start prereserved tries)
  rwa [spot_rootSites] at himports

theorem exists_refers (h : Pass.run model hook prereserved tries = some p) :
    ∃ artifacts, List.Forall₂ (fun f a => Artifact.Refers hook f.declaration a) (model.survey hook) artifacts ∧
      p.found.sorted.all.Perm artifacts := by
  obtain ⟨-, artifacts, hgives, hperm⟩ := run_gives h
  exact ⟨artifacts, hgives.imp fun _ _ hfinding => hfinding.declared.refers, hperm⟩

theorem filter_imports (h : Pass.run model hook prereserved tries = some p) (name : String) :
    p.found.sorted.imports.filter (·.importAlias == name) =
      (((model.answers hook).find? (·.importedAs name)).map fun type => ⟨name, type.path⟩).toList := by
  have hfilter : p.found.imports.filter (·.importAlias == name) =
      (((model.answers hook).find? (·.importedAs name)).map fun type => ⟨name, type.path⟩).toList := by
    rw [filter_eq_toList_find? (run_underWay h).imports, run_imports h, find?_recorded]
    rfl
  -- Sorting moves the imports, but there is one under an alias at most.
  have hperm : (p.found.sorted.imports.filter (·.importAlias == name)).Perm
      (p.found.imports.filter (·.importAlias == name)) := (sortBy_perm _ _).filter _
  rw [hfilter] at hperm
  cases hfound : (model.answers hook).find? (·.importedAs name) with
  | none =>
    rw [hfound] at hperm
    exact hperm.eq_nil
  | some type =>
    rw [hfound] at hperm
    exact hperm.eq_singleton

end Run

/-- A reference that the hook asked for resolves to the first path that came with its alias. -/
theorem run_resolves (model : Model) (hook : Hook) (prereserved : List String) (tries : Nat) (p : Pass)
    (h : Pass.run model hook prereserved tries = some p) : p.Resolves hook model := by
  have hfirst : ∀ type ∈ model.answers hook, type.path ≠ "" → ∃ earliest,
      (model.answers hook).find? (·.importedAs (importAlias type.path)) = some earliest ∧
      p.found.sorted.imports.filter (·.importAlias == importAlias type.path) =
        [⟨importAlias type.path, earliest.path⟩] := by
    intro type htype hpath
    have hown : type.importedAs (importAlias type.path) = true := by simp [ExternalType.importedAs, hpath]
    have hsome : ((model.answers hook).find? (·.importedAs (importAlias type.path))).isSome = true :=
      List.find?_isSome.mpr ⟨type, htype, hown⟩
    obtain ⟨earliest, hearliest⟩ := Option.isSome_iff_exists.mp hsome
    exact ⟨earliest, hearliest, by rw [filter_imports h, hearliest]; rfl⟩
  refine ⟨exists_refers h, ?_, hfirst, ?_, fun _ _ _ _ => importAlias_eq_iff, ?_, ?_⟩
  · exact overrides_subset_of_mem_survey hook _ []
  · intro type htype hpath hdigits
    obtain ⟨earliest, hearliest, hfilter⟩ := hfirst type htype hpath
    have hsame : earliest.path = type.path := by
      have himported := List.find?_some hearliest
      simp only [ExternalType.importedAs, Bool.and_eq_true, beq_iff_eq] at himported
      exact hdigits earliest (List.mem_of_find?_eq_some hearliest) (importAlias_eq_iff.mp himported.2)
    rw [hfilter, hsame]
  · exact ((sortBy_perm _ _).map _).nodup_iff.mpr (run_underWay h).paths_nodup
  · intro i hi
    have hi' : i ∈ p.found.imports := mem_sortBy.mp hi
    rw [run_imports h] at hi'
    rcases mem_recorded hi' with hnone | hsome
    · simp at hnone
    · exact hsome

def clockRules : Rules :=
  ⟨[], [("date", ⟨"crate::clock", "Instant"⟩), ("any", ⟨"crate::clock", "Span"⟩), ("boolean", ⟨"crate::flag", "Flag"⟩)]⟩

def clockModel : Model := [("p.Clock", .object "p.Clock" [
  ⟨"at", .nullable .date, ""⟩, ⟨"for", .map .boolean .any, ""⟩, ⟨"next", .nullable (.object "p.Clock" []), ""⟩])]

theorem run_resolves_clock :
    ∃ p, Pass.run clockModel clockRules.resolve [] 1 = some p ∧ p.Resolves clockRules.resolve clockModel := by
  have h : (Pass.run clockModel clockRules.resolve [] 1).isSome = true := by decide +kernel
  obtain ⟨p, hp⟩ := Option.isSome_iff_exists.mp h
  exact ⟨p, hp, run_resolves clockModel clockRules.resolve [] 1 p hp⟩

example : (clockModel.answers clockRules.resolve).map (·.name) = ["Instant", "Flag", "Span"] := by decide +kernel

/-- The digests of two paths start with the same seven digits. -/
def collidingRules : Rules := ⟨[], [("date", ⟨"graph::edge", "Edge"⟩), ("any", ⟨"recv::types", "Type"⟩)]⟩

def collidingModel : Model := [("p.A", .object "p.A" [⟨"x", .date, ""⟩, ⟨"y", .any, ""⟩])]

/-- The second path is not imported, and what refers to it resolves to the first. -/
theorem run_misbinds : collidingRules.resolve .any = some ⟨"recv::types", "Type"⟩ ∧
    ∃ p, Pass.run collidingModel collidingRules.resolve [] Allocator.defaultTries = some p ∧
      p.found.sorted.objects = [⟨"A", [
        ⟨"x", .external (some "external_a52480c") "Edge", ""⟩,
        ⟨"y", .external (some "external_a52480c") "Type", ""⟩]⟩] ∧
      p.found.sorted.imports = [⟨"external_a52480c", "graph::edge"⟩] := by
  have h : (Pass.run collidingModel collidingRules.resolve [] Allocator.defaultTries).map
      (fun p => (p.found.sorted.objects, p.found.sorted.imports)) = some ([⟨"A", [
        ⟨"x", .external (some "external_a52480c") "Edge", ""⟩,
        ⟨"y", .external (some "external_a52480c") "Type", ""⟩]⟩], [⟨"external_a52480c", "graph::edge"⟩]) := by
    decide +kernel
  obtain ⟨p, hp, hpair⟩ := Option.map_eq_some_iff.mp h
  obtain ⟨hobjects, himports⟩ := Prod.mk.inj hpair
  exact ⟨by decide, p, hp, hobjects, himports⟩

end Declgen
