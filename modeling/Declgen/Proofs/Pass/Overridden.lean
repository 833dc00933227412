import Declgen.Proofs.Pass.Refines
import Declgen.Proofs.Pass.Reordered

/-!
# Overridden kinds and names

The hook is asked before anything else is done about a node. So no trace is left of a kind that it answers, and what
is inside an answered node makes no difference to a pass.
-/

namespace Declgen

variable {hook : Hook} {k : Kind}

/-! ## Kinds in artifacts -/

def Primitive.kind : Primitive → Kind
  | .string => .string
  | .bool => .boolean
  | .number _ => .number

namespace TypeExpr

/-- The kind of the nodes that have a type of this form. An alias stands for strings or for numbers. -/
def kind? : TypeExpr → Option Kind
  | .primitive p => some p.kind
  | .struct _ => some .object
  | .vec _ => some .array
  | .map _ _ => some .map
  | .option _ => some .nullable
  | .dateTime => some .date
  | .any => some .any
  | .typeAlias _ | .external _ _ | .boxed _ => none

def Lacks (k : Kind) (t : TypeExpr) : Prop := ∀ part ∈ t.parts, part.kind? ≠ some k

theorem lacks_of_leaf {t : TypeExpr} (h : t.parts = [t]) (hk : t.kind? ≠ some k) : t.Lacks k := by
  unfold Lacks
  rw [h]
  exact List.forall_mem_singleton.mpr hk

theorem lacks_expr (k : Kind) (type : ExternalType) : type.expr.Lacks k := by
  unfold ExternalType.expr
  split <;> exact lacks_of_leaf rfl (by simp [kind?])

theorem lacks_vec {inner : TypeExpr} (h : Kind.array ≠ k) (hinner : inner.Lacks k) : (vec inner).Lacks k :=
  List.forall_mem_cons.mpr ⟨by simpa [kind?] using h, hinner⟩

theorem lacks_map {key value : TypeExpr} (h : Kind.map ≠ k) (hkey : key.Lacks k) (hvalue : value.Lacks k) :
    (map key value).Lacks k :=
  List.forall_mem_cons.mpr ⟨by simpa [kind?] using h, List.forall_mem_append.mpr ⟨hkey, hvalue⟩⟩

theorem lacks_optional {inner : TypeExpr} (h : Kind.nullable ≠ k) (hinner : inner.Lacks k) :
    inner.optional.Lacks k := by
  have hoption {t : TypeExpr} (ht : t.Lacks k) : (option t).Lacks k :=
    List.forall_mem_cons.mpr ⟨by simpa [kind?] using h, ht⟩
  cases inner with
  | struct name => exact hoption (List.forall_mem_cons.mpr ⟨by simp [kind?], hinner⟩)
  | _ => exact hoption hinner

end TypeExpr

theorem Node.lacks_of_plain? {node : Node} {t : TypeExpr} (h : node.plain? = some t) (hk : node.kind ≠ k) :
    t.Lacks k := by
  cases node with
  | string _ members | number _ _ members =>
    cases members with
    | nil =>
      obtain rfl := Option.some.inj h
      exact TypeExpr.lacks_of_leaf rfl fun heq => hk (Option.some.inj heq)
    | cons => simp [plain?] at h
  | boolean | any =>
    obtain rfl := Option.some.inj h
    exact TypeExpr.lacks_of_leaf rfl fun heq => hk (Option.some.inj heq)
  | _ => simp [plain?] at h

theorem Node.lacks_mention {node : Node} {d : Declaration} (h : node.declaration? = some d) (hk : node.kind ≠ k)
    (name : String) : (d.mention name).Lacks k := by
  cases d with
  | constants => exact TypeExpr.lacks_of_leaf rfl (by simp [Declaration.mention, TypeExpr.kind?])
  | object =>
    cases node with
    | object => exact TypeExpr.lacks_of_leaf rfl fun heq => hk (Option.some.inj heq)
    | string _ members | number _ _ members => cases members <;> simp [declaration?] at h
    | _ => simp [declaration?] at h

theorem Node.kind_of_constants {node : Node} {qualified : String} {base : Primitive}
    {members : List (Member ConstantValue)} (h : node.declaration? = some (.constants qualified base members)) :
    base.kind = node.kind := by
  cases node with
  | string _ values | number _ _ values =>
    cases values with
    | nil => simp [declaration?] at h
    | cons =>
      obtain ⟨-, rfl, -⟩ := Declaration.constants.inj (Option.some.inj h)
      rfl
  | _ => simp [declaration?] at h

/-- Nothing in the artifacts comes from a node of this kind. -/
structure Artifacts.Lacks (k : Kind) (a : Artifacts) : Prop where
  types : ∀ t ∈ a.fieldTypes, t.Lacks k
  blocks : ∀ c ∈ a.constants, c.base.kind ≠ k
  structs : k = .object → a.objects = []
  dates : k = .date → a.usesDateTime = false

namespace Artifacts.Lacks

variable {a : Artifacts}

theorem empty (k : Kind) : Artifacts.empty.Lacks k := by
  refine ⟨?_, ?_, fun _ => rfl, fun _ => rfl⟩
  · simp [Artifacts.empty, fieldTypes]
  · simp [Artifacts.empty]

theorem external {p : Pass} (h : p.found.Lacks k) (type : ExternalType) : (p.external type).2.found.Lacks k := by
  unfold Pass.external
  split
  · exact h
  · refine ⟨?_, by simpa using h.blocks, by simpa using h.structs, fun hk => ?_⟩
    · simpa [fieldTypes] using h.types
    · simp only [addImport]
      split
      · exact h.dates hk
      · exact h.dates hk

theorem addObject (h : a.Lacks k) (hk : Kind.object ≠ k) {o : ObjectArtifact}
    (ho : ∀ t ∈ o.fields.map (·.type), t.Lacks k) : (a.addObject o).Lacks k where
  types t ht := (mem_fieldTypes_addObject.mp ht).elim (h.types t) (ho t)
  blocks := h.blocks
  structs hobject := absurd hobject.symm hk
  dates := h.dates

theorem addConstant (h : a.Lacks k) {c : ConstantArtifact} (hc : c.base.kind ≠ k) : (a.addConstant c).Lacks k where
  types := h.types
  blocks := List.forall_mem_append.mpr ⟨h.blocks, by simpa using hc⟩
  structs := h.structs
  dates := h.dates

theorem requireDateTime (h : a.Lacks k) (hk : Kind.date ≠ k) : a.requireDateTime.Lacks k :=
  ⟨h.types, h.blocks, h.structs, fun hdate => absurd hdate.symm hk⟩

theorem sorted (h : a.Lacks k) : a.sorted.Lacks k where
  types t ht := by
    simp only [fieldTypes, Artifacts.sorted, List.mem_flatMap, mem_sortBy] at ht
    exact h.types t (List.mem_flatMap.mpr ht)
  blocks c hc := h.blocks c (mem_sortBy.mp hc)
  structs hk := by simp [Artifacts.sorted, h.structs hk, sortBy]
  dates := h.dates

end Artifacts.Lacks

def Hook.Covers (hook : Hook) (k : Kind) : Prop := ∀ node : Node, node.kind = k → (hook node).isSome = true

theorem Hook.Covers.kind_ne {node : Node} (h : hook.Covers k) (hnode : hook node = .none) : node.kind ≠ k := by
  intro hk
  have hsome := h node hk
  simp [hnode] at hsome

theorem Visits.lacks {sites : List Site} {p q : Pass} {types : List TypeExpr} (h : Visits hook sites p types q)
    (hhook : hook.Covers k) (hp : p.found.Lacks k) : q.found.Lacks k ∧ ∀ t ∈ types, t.Lacks k := by
  induction h with
  | nil => exact ⟨hp, by simp⟩
  | @external _ _ _ type _ _ _ _ _ ih =>
    obtain ⟨hq, hts⟩ := ih (hp.external type)
    rw [Pass.external_fst]
    exact ⟨hq, List.forall_mem_cons.mpr ⟨TypeExpr.lacks_expr k type, hts⟩⟩
  | array hnone _ ih =>
    obtain ⟨hq, hts⟩ := ih hp
    obtain ⟨ht, hts⟩ := List.forall_mem_cons.mp hts
    exact ⟨hq, List.forall_mem_cons.mpr ⟨TypeExpr.lacks_vec (hhook.kind_ne hnone) ht, hts⟩⟩
  | map hnone _ ih =>
    obtain ⟨hq, hts⟩ := ih hp
    obtain ⟨hkey, hts⟩ := List.forall_mem_cons.mp hts
    obtain ⟨hvalue, hts⟩ := List.forall_mem_cons.mp hts
    exact ⟨hq, List.forall_mem_cons.mpr ⟨TypeExpr.lacks_map (hhook.kind_ne hnone) hkey hvalue, hts⟩⟩
  | nullable hnone _ ih =>
    obtain ⟨hq, hts⟩ := ih hp
    obtain ⟨ht, hts⟩ := List.forall_mem_cons.mp hts
    refine ⟨hq, List.forall_mem_cons.mpr ⟨?_, hts⟩⟩
    split
    · exact ht
    · exact TypeExpr.lacks_optional (hhook.kind_ne hnone) ht
  | plain hnone hplain _ ih =>
    obtain ⟨hq, hts⟩ := ih hp
    exact ⟨hq, List.forall_mem_cons.mpr ⟨Node.lacks_of_plain? hplain (hhook.kind_ne hnone), hts⟩⟩
  | date hnone _ ih =>
    have hk := hhook.kind_ne hnone
    obtain ⟨hq, hts⟩ := ih (hp.requireDateTime hk)
    refine ⟨hq, List.forall_mem_cons.mpr ⟨?_, hts⟩⟩
    exact TypeExpr.lacks_of_leaf rfl fun heq => hk (Option.some.inj heq)
  | known hnone hdeclares _ _ ih =>
    obtain ⟨hq, hts⟩ := ih hp
    exact ⟨hq, List.forall_mem_cons.mpr ⟨Node.lacks_mention hdeclares (hhook.kind_ne hnone) _, hts⟩⟩
  | @object _ qualified entries _ _ _ _ _ _ _ _ hnone _ _ _ _ ihfields ih =>
    have hk := hhook.kind_ne hnone
    obtain ⟨hp', hfields⟩ := ihfields hp
    obtain ⟨hq, hts⟩ := ih (hp'.addObject hk fun t ht => hfields t (mem_types_of_mem_fieldArtifacts ht))
    exact ⟨hq, List.forall_mem_cons.mpr ⟨@Node.lacks_mention k (.object qualified entries) _ rfl hk _, hts⟩⟩
  | constants hnone hdeclares _ _ _ ih =>
    have hk := hhook.kind_ne hnone
    have hbase := Node.kind_of_constants hdeclares
    obtain ⟨hq, hts⟩ := ih (hp.addConstant (hbase ▸ hk))
    exact ⟨hq, List.forall_mem_cons.mpr ⟨Node.lacks_mention hdeclares hk _, hts⟩⟩

/-! ## Inside of what is answered -/

namespace Node

/-- The node with as little inside as there can be. Its kind and its name stay. -/
def husk : Node → Node
  | .array _ => .array .any
  | .map _ _ => .map .any .any
  | .object name _ => .object name []
  | .string name _ => .string name []
  | .number name repr _ => .number name repr []
  | .nullable _ => .nullable .any
  | .boolean => .boolean
  | .date => .date
  | .any => .any

theorem kind_husk (node : Node) : node.husk.kind = node.kind := by cases node <;> rfl

theorem qualifiedName?_husk (node : Node) : node.husk.qualifiedName? = node.qualifiedName? := by cases node <;> rfl

mutual
/-- The node with every answered node in it made a husk. -/
def hollow (hook : Hook) (node : Node) : Node :=
  if (hook node).isSome then node.husk
  else
    match node with
    | .array inner => .array (hollow hook inner)
    | .map key value => .map (hollow hook key) (hollow hook value)
    | .object name entries => .object name (hollowEntries hook entries)
    | .nullable inner => .nullable (hollow hook inner)
    | .string name members => .string name members
    | .number name repr members => .number name repr members
    | .boolean => .boolean
    | .date => .date
    | .any => .any
termination_by structural node

def hollowEntries (hook : Hook) (entries : List (Entry Node)) : List (Entry Node) :=
  match entries with
  | [] => []
  | e :: rest => ⟨e.name, hollow hook e.type, e.tag⟩ :: hollowEntries hook rest
termination_by structural entries
end

theorem hollowEntries_eq_map (hook : Hook) (entries : List (Entry Node)) :
    hollowEntries hook entries = entries.map fun e => ⟨e.name, e.type.hollow hook, e.tag⟩ := by
  induction entries with
  | nil => rfl
  | cons e rest ih => simp [hollowEntries, ih]

theorem hollow_answered {node : Node} (h : (hook node).isSome = true) : node.hollow hook = node.husk := by
  cases node <;> simp only [hollow, h, if_true]

theorem kind_hollow (hook : Hook) (node : Node) : (node.hollow hook).kind = node.kind := by
  cases h : (hook node).isSome with
  | true => rw [hollow_answered h, kind_husk]
  | false => cases node <;> simp [hollow, h, kind]

theorem qualifiedName?_hollow (hook : Hook) (node : Node) :
    (node.hollow hook).qualifiedName? = node.qualifiedName? := by
  cases h : (hook node).isSome with
  | true => rw [hollow_answered h, qualifiedName?_husk]
  | false => cases node <;> simp [hollow, h, qualifiedName?]

theorem isContainer_hollow (hook : Hook) (node : Node) : (node.hollow hook).isContainer = node.isContainer := by
  have hcontainer (a : Node) : a.isContainer = (a.kind = .array || a.kind = .map) := by cases a <;> rfl
  rw [hcontainer, hcontainer, kind_hollow]

/-- A visit does not look inside of what is answered, at any depth. -/
theorem visit_hollow (hhook : hook.ByName) (node : Node) : (node.hollow hook).visit hook = node.visit hook := by
  have hsame (a : Node) : hook (a.hollow hook) = hook a := hhook _ _ (kind_hollow hook a) (qualifiedName?_hollow hook a)
  induction node using Node.induction with
  | array inner ih =>
    refine visit_congr (hsame _) fun hnone hnone' => ?_
    simp only [hollow, hnone', Option.isSome_none, Bool.false_eq_true, if_false] at hnone ⊢
    funext place p
    simp only [visit, hnone, hnone', ih]
  | map key value ihk ihv =>
    refine visit_congr (hsame _) fun hnone hnone' => ?_
    simp only [hollow, hnone', Option.isSome_none, Bool.false_eq_true, if_false] at hnone ⊢
    funext place p
    simp only [visit, hnone, hnone', ihk, ihv]
  | nullable inner ih =>
    refine visit_congr (hsame _) fun hnone hnone' => ?_
    simp only [hollow, hnone', Option.isSome_none, Bool.false_eq_true, if_false] at hnone ⊢
    funext place p
    simp only [visit, hnone, hnone', ih, isContainer_hollow]
  | object name entries ih =>
    refine visit_congr (hsame _) fun hnone hnone' => ?_
    simp only [hollow, hnone', Option.isSome_none, Bool.false_eq_true, if_false] at hnone ⊢
    rw [visit_object hnone, visit_object hnone', hollowEntries_eq_map, visits_eq_map, visits_eq_map, List.map_map]
    congr 1
    exact List.map_congr_left fun e he => by simp [ih e he]
  | string | number | boolean | date | any =>
    refine visit_congr (hsame _) fun hnone hnone' => ?_
    simp only [hollow, hnone', Option.isSome_none, Bool.false_eq_true, if_false]

end Node

def Model.hollow (m : Model) (hook : Hook) : Model := m.map fun root => (root.1, root.2.hollow hook)

theorem run_hollow (hhook : hook.ByName) (m : Model) (prereserved : List String) (tries : Nat) :
    Pass.run (m.hollow hook) hook prereserved tries = Pass.run m hook prereserved tries := by
  unfold Pass.run Model.hollow
  refine Pass.roots_congr ?_ _
  rw [← @map_sortBy _ _ (·.1) (·.1) (fun root : String × Node => (root.1, root.2.hollow hook)) (fun _ => rfl),
    List.map_map]
  refine List.map_congr_left fun root _ => ?_
  simp [rootVisit, Node.visit_hollow hhook]

/-! ## Rules -/

section Rules

variable {rules : Rules}

theorem Rules.covers (h : (rules.kinds.lookup k.name).isSome = true) : Hook.Covers rules.resolve k := by
  rintro node rfl
  rw [Rules.resolve, Option.isSome_or, h, Bool.or_true]

theorem Rules.resolve_of_type {node : Node} {qualified : String} {type : ExternalType}
    (hnode : node.qualifiedName? = some qualified) (htype : rules.types.lookup qualified = some type) :
    rules.resolve node = some type := by
  rw [Rules.resolve, hnode, Option.bind_some, htype, Option.some_or]

theorem Pass.exists_imports_external (p : Pass) (type : ExternalType) :
    ∃ imports, p.external type = (type.expr, { p with found := { p.found with imports } }) := by
  unfold Pass.external ExternalType.expr Artifacts.addImport
  split
  · exact ⟨_, rfl⟩
  · dsimp only
    split
    · exact ⟨_, rfl⟩
    · exact ⟨_, rfl⟩

theorem qualifiedName?_of_declaration? {node : Node} {d : Declaration} (h : node.declaration? = some d)
    (hne : d.qualified ≠ "") : node.qualifiedName? = some d.qualified := by
  cases node with
  | object name entries =>
    obtain rfl := Option.some.inj h
    simpa [Node.qualifiedName?, Declaration.qualified] using hne
  | string name members | number name _ members =>
    cases members with
    | nil => simp [Node.declaration?] at h
    | cons =>
      obtain rfl := Option.some.inj h
      simpa [Node.qualifiedName?, Declaration.qualified] using hne
  | _ => simp [Node.declaration?] at h

/-- The artifacts of a pass by rules. -/
structure Pass.Obeys (p : Pass) (rules : Rules) (m : Model) : Prop where
  kinds : ∀ k : Kind, (rules.kinds.lookup k.name).isSome = true → p.found.sorted.Lacks k
  /-- What is generated carries no name that has a rule. -/
  names : ∀ f ∈ m.survey rules.resolve, f.declaration.qualified ≠ "" →
    rules.types.lookup f.declaration.qualified = none
  /-- What is generated is all there is, and has the types that the rules leave. -/
  artifacts : ∃ artifacts, List.Forall₂ (Finding.Gives rules.resolve p.names) (m.survey rules.resolve) artifacts ∧
    p.found.sorted.all.Perm artifacts

/-- Rules are applied wherever a pass comes to. A node of a name that has a rule becomes what the rule says, and all
that it can add are imports. What is inside of answered nodes makes no difference to a pass, and of a kind that has a
rule nothing is left. -/
theorem run_obeys (rules : Rules) (m : Model) (prereserved : List String) (tries : Nat) :
    (∀ node qualified type, Node.qualifiedName? node = some qualified → rules.types.lookup qualified = some type →
      ∀ place before, ∃ imports, node.visit rules.resolve place before =
        some (type.expr, { before with found := { before.found with imports } })) ∧
    Pass.run (m.hollow rules.resolve) rules.resolve prereserved tries =
      Pass.run m rules.resolve prereserved tries ∧
    ∀ p, Pass.run m rules.resolve prereserved tries = some p → p.Obeys rules m := by
  refine ⟨fun node qualified type hnode htype place before => ?_, run_hollow (Hook.byName_resolve rules) m _ _,
    fun p h => ⟨fun k hk => ?_, fun f hf hne => ?_, (run_gives h).2⟩⟩
  · obtain ⟨imports, himports⟩ := before.exists_imports_external type
    exact ⟨imports, himports ▸ Node.visit_of_external (Rules.resolve_of_type hnode htype) place before⟩
  · obtain ⟨types, hvisits⟩ := run_visits h
    exact (hvisits.lacks (Rules.covers hk) (.empty k)).1.sorted
  · obtain ⟨⟨_, node⟩, -, -, hnode, hdeclares, -⟩ := exists_spot_of_mem_survey hf
    by_contra hsome
    obtain ⟨type, htype⟩ := Option.ne_none_iff_exists'.mp hsome
    rw [Rules.resolve_of_type (qualifiedName?_of_declaration? hdeclares hne) htype] at hnode
    simp at hnode

end Rules

/-- The name that has a rule is that of a key and of an object. Lists are answered, also where they may be absent. -/
def vaultRules : Rules :=
  ⟨[("p.Secret", ⟨"crate::vault", "Sealed"⟩)], [("array", ⟨"", "Bag"⟩), ("string", ⟨"", "Text"⟩)]⟩

def vaultModel : Model := [
  ("p.Log", .array (.object "p.Lost" [⟨"at", .date, ""⟩])),
  ("p.Vault", .object "p.Vault" [
    ⟨"codes", .map (.string "p.Secret" [⟨"On", "on"⟩]) (.nullable (.array .any)), ""⟩,
    ⟨"inside", .nullable (.object "p.Secret" [⟨"at", .date, ""⟩]), ""⟩])]

theorem run_obeys_vault : ∃ p, Pass.run vaultModel vaultRules.resolve [] 1 = some p ∧ p.Obeys vaultRules vaultModel ∧
    ∃ imports, Node.visit vaultRules.resolve (.object "p.Secret" []) (.root "p.Vault" .value) p =
      some (.external (some (importAlias "crate::vault")) "Sealed", { p with found := { p.found with imports } }) := by
  have h : (Pass.run vaultModel vaultRules.resolve [] 1).isSome = true := by decide +kernel
  obtain ⟨p, hp⟩ := Option.isSome_iff_exists.mp h
  obtain ⟨hvisit, -, hobeys⟩ := run_obeys vaultRules vaultModel [] 1
  exact ⟨p, hp, hobeys p hp, hvisit (.object "p.Secret" []) "p.Secret" _ rfl rfl _ p⟩

end Declgen
