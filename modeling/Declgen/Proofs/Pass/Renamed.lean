import Mathlib.Data.Set.Function
import Declgen.Proofs.Pass.Refines

/-!
# Identifiers that are bound elsewhere only rename

Two passes over one model may start with different identifiers bound elsewhere. From the first name on that comes out
differently, all names below it differ as well, and so do the collisions. What a pass does next never depends on how
a name is spelled, so the two go side by side, and what they find is the same but for the names.
-/

namespace Declgen

/-! ## The same but for names -/

section Renamed

variable (R : String → String → Prop)

/-- The same type, with related names of what is generated. -/
inductive TypeExpr.Renamed : TypeExpr → TypeExpr → Prop where
  | primitive (p : Primitive) : Renamed (.primitive p) (.primitive p)
  | struct {n m : String} : R n m → Renamed (.struct n) (.struct m)
  | typeAlias {n m : String} : R n m → Renamed (.typeAlias n) (.typeAlias m)
  | external (importAlias : Option String) (name : String) :
      Renamed (.external importAlias name) (.external importAlias name)
  | vec {t u : TypeExpr} : Renamed t u → Renamed (.vec t) (.vec u)
  | map {k l v w : TypeExpr} : Renamed k l → Renamed v w → Renamed (.map k v) (.map l w)
  | option {t u : TypeExpr} : Renamed t u → Renamed (.option t) (.option u)
  | boxed {t u : TypeExpr} : Renamed t u → Renamed (.boxed t) (.boxed u)
  | dateTime : Renamed .dateTime .dateTime
  | any : Renamed .any .any

structure FieldArtifact.Renamed (f g : FieldArtifact) : Prop where
  name : f.name = g.name
  type : f.type.Renamed R g.type
  tag : f.tag = g.tag

structure ObjectArtifact.Renamed (o u : ObjectArtifact) : Prop where
  name : R o.name u.name
  fields : List.Forall₂ (FieldArtifact.Renamed R) o.fields u.fields

/-- The same constant in the blocks `n` and `m`, with the names of the blocks in front. -/
structure ConstantEntry.Renamed (n m : String) (e f : ConstantEntry) : Prop where
  name : ∃ suffix, e.name = n ++ suffix ∧ f.name = m ++ suffix
  value : e.value = f.value

structure ConstantArtifact.Renamed (c d : ConstantArtifact) : Prop where
  name : R c.name d.name
  base : c.base = d.base
  entries : List.Forall₂ (ConstantEntry.Renamed c.name d.name) c.entries d.entries

structure Artifacts.Renamed (a b : Artifacts) : Prop where
  objects : List.Forall₂ (ObjectArtifact.Renamed R) a.objects b.objects
  constants : List.Forall₂ (ConstantArtifact.Renamed R) a.constants b.constants
  imports : a.imports = b.imports
  dates : a.usesDateTime = b.usesDateTime

end Renamed

variable {R S : String → String → Prop}

theorem TypeExpr.Renamed.mono (h : ∀ n m, R n m → S n m) {t u : TypeExpr} (htype : t.Renamed R u) :
    t.Renamed S u := by
  induction htype with
  | primitive p => exact .primitive p
  | struct hname => exact .struct (h _ _ hname)
  | typeAlias hname => exact .typeAlias (h _ _ hname)
  | external importAlias name => exact .external importAlias name
  | vec _ ih => exact .vec ih
  | map _ _ ihk ihv => exact .map ihk ihv
  | option _ ih => exact .option ih
  | boxed _ ih => exact .boxed ih
  | dateTime => exact .dateTime
  | any => exact .any

theorem TypeExpr.Renamed.optional {t u : TypeExpr} (h : t.Renamed R u) : t.optional.Renamed R u.optional := by
  cases h with
  | struct hname => exact .option (.boxed (.struct hname))
  | primitive p => exact .option (.primitive p)
  | typeAlias hname => exact .option (.typeAlias hname)
  | external importAlias name => exact .option (.external importAlias name)
  | vec h => exact .option (.vec h)
  | map hk hv => exact .option (.map hk hv)
  | option h => exact .option (.option h)
  | boxed h => exact .option (.boxed h)
  | dateTime => exact .option .dateTime
  | any => exact .option .any

theorem TypeExpr.Renamed.plain {node : Node} {t : TypeExpr} (h : node.plain? = some t) : t.Renamed R t := by
  rcases Node.eq_of_plain? h with ⟨primitive, rfl⟩ | rfl
  · exact .primitive primitive
  · exact .any

theorem FieldArtifact.Renamed.mono (h : ∀ n m, R n m → S n m) {f g : FieldArtifact} (hfield : f.Renamed R g) :
    f.Renamed S g :=
  ⟨hfield.name, hfield.type.mono h, hfield.tag⟩

theorem Artifacts.Renamed.mono (h : ∀ n m, R n m → S n m) {a b : Artifacts} (hfound : a.Renamed R b) :
    a.Renamed S b where
  objects := hfound.objects.imp fun _ _ ho => ⟨h _ _ ho.name, ho.fields.imp fun _ _ => FieldArtifact.Renamed.mono h⟩
  constants := hfound.constants.imp fun _ _ hc => ⟨h _ _ hc.name, hc.base, hc.entries⟩
  imports := hfound.imports
  dates := hfound.dates

theorem Artifacts.Renamed.addObject {a b : Artifacts} (h : a.Renamed R b) {o u : ObjectArtifact}
    (ho : o.Renamed R u) : (a.addObject o).Renamed R (b.addObject u) :=
  ⟨List.rel_append h.objects (.cons ho .nil), h.constants, h.imports, h.dates⟩

theorem Artifacts.Renamed.addConstant {a b : Artifacts} (h : a.Renamed R b) {c d : ConstantArtifact}
    (hc : c.Renamed R d) : (a.addConstant c).Renamed R (b.addConstant d) :=
  ⟨h.objects, List.rel_append h.constants (.cons hc .nil), h.imports, h.dates⟩

theorem Artifacts.Renamed.addImport {a b : Artifacts} (h : a.Renamed R b) (importAlias path : String) :
    (a.addImport importAlias path).Renamed R (b.addImport importAlias path) := by
  unfold Artifacts.addImport
  rw [h.imports]
  split
  · exact h
  · exact ⟨h.objects, h.constants, rfl, h.dates⟩

theorem Artifacts.Renamed.requireDateTime {a b : Artifacts} (h : a.Renamed R b) :
    a.requireDateTime.Renamed R b.requireDateTime :=
  ⟨h.objects, h.constants, h.imports, rfl⟩

theorem renamed_constantBlock {n m : String} (h : R n m) (qualified : String) (base : Primitive)
    (members : List (Member ConstantValue)) :
    (constantBlock n qualified base members).Renamed R (constantBlock m qualified base members) := by
  refine ⟨h, rfl, ?_⟩
  induction members with
  | nil => exact .nil
  | cons member rest ih => exact .cons ⟨⟨_, rfl, rfl⟩, rfl⟩ ih

/-! ## Two allocators -/

namespace Allocator

/-- `a` and `b` have handed out `n` and `m` at the same time. -/
def Pairs (a b : Allocator) (n m : String) : Prop := (n, m) ∈ a.reserved.zip b.reserved

/-- Both have handed out as many names, and know the same qualified names, under names that were handed out at the
same time. -/
structure Alike (a b : Allocator) : Prop where
  count : a.reserved.length = b.reserved.length
  memo : ∀ qualified, Option.Rel (a.Pairs b) (a.lookup? qualified) (b.lookup? qualified)

variable {a b : Allocator}

theorem pairs_handOut (a b : Allocator) (subject? : Option String) (n m : String) :
    (a.handOut subject? n).Pairs (b.handOut subject? m) n m := by
  simp [Pairs]

theorem Pairs.handOut {x y : String} (h : a.Pairs b x y) (subject? : Option String) (n m : String) :
    (a.handOut subject? n).Pairs (b.handOut subject? m) x y :=
  List.mem_cons_of_mem _ h

theorem Alike.new (P Q : List String) (tries tries' : Nat) : (new P tries).Alike (Allocator.new Q tries') where
  count := rfl
  memo _ := .none

theorem rel_mono (h : ∀ n m, R n m → S n m) {x y : Option String} (hrel : Option.Rel R x y) : Option.Rel S x y := by
  cases hrel with
  | some hnames => exact .some (h _ _ hnames)
  | none => exact .none

theorem Alike.handOut (h : a.Alike b) (subject? : Option String) (n m : String) :
    (a.handOut subject? n).Alike (b.handOut subject? m) := by
  have hkeeps : ∀ x y, a.Pairs b x y → (a.handOut subject? n).Pairs (b.handOut subject? m) x y :=
    fun x y hold => hold.handOut subject? n m
  refine ⟨by simp [h.count], fun qualified => ?_⟩
  cases subject? with
  | none => exact rel_mono hkeeps (h.memo qualified)
  | some subject =>
    rw [lookup?_handOut_some, lookup?_handOut_some]
    split
    · exact .some (pairs_handOut a b _ n m)
    · exact rel_mono hkeeps (h.memo qualified)

theorem isNone_eq_of_rel {x y : Option String} (h : Option.Rel R x y) : x.isNone = y.isNone := by
  cases h <;> rfl

theorem Alike.subject?_congr (h : a.Alike b) {place place' : Context} (hplace : place.root? = place'.root?)
    (qualified : String) : a.subject? qualified place = b.subject? qualified place' := by
  rw [subject?_eq, subject?_eq, hplace]
  simp only [isNone_eq_of_rel (h.memo _)]

end Allocator

/-! ## Two passes -/

namespace Pass

/-- Names that two passes have handed out at the same time. -/
abbrev Pairs (p q : Pass) : String → String → Prop := p.names.Pairs q.names

structure Alike (p q : Pass) : Prop where
  names : p.names.Alike q.names
  found : p.found.Renamed (p.Pairs q) q.found

/-- From `p` and `q` on, the passes have come to `p'` and `q'` side by side. -/
structure Along (p q p' q' : Pass) : Prop where
  alike : p'.Alike q'
  keeps : ∀ n m, p.Pairs q n m → p'.Pairs q' n m

variable {p q p' q' p'' q'' : Pass}

theorem Along.refl (h : p.Alike q) : p.Along q p q := ⟨h, fun _ _ => id⟩

theorem Along.trans (h : p.Along q p' q') (h' : p'.Along q' p'' q'') : p.Along q p'' q'' :=
  ⟨h'.alike, fun n m hold => h'.keeps n m (h.keeps n m hold)⟩

/-- The steps `x` from `p` and `y` from `q`, if both are made, go side by side and give what `V` relates. -/
structure Together {α β : Type} (p q : Pass) (V : (String → String → Prop) → α → β → Prop) (x : Option (α × Pass))
    (y : Option (β × Pass)) : Prop where
  both : ∀ {s p' t q'}, x = some (s, p') → y = some (t, q') → p.Along q p' q' ∧ V (p'.Pairs q') s t

theorem Together.pure {α β : Type} {V : (String → String → Prop) → α → β → Prop} {s : α} {t : β}
    (h : p.Along q p' q') (hV : V (p'.Pairs q') s t) : Together p q V (some (s, p')) (some (t, q')) := by
  constructor
  rintro _ _ _ _ ⟨⟩ ⟨⟩
  exact ⟨h, hV⟩

theorem Together.bind {α β γ δ : Type} {V : (String → String → Prop) → α → β → Prop}
    {W : (String → String → Prop) → γ → δ → Prop} {x : Option (α × Pass)} {y : Option (β × Pass)}
    {f : α × Pass → Option (γ × Pass)} {g : β × Pass → Option (δ × Pass)} (h : Together p q V x y)
    (hthen : ∀ {s p' t q'}, p.Along q p' q' → V (p'.Pairs q') s t → Together p' q' W (f (s, p')) (g (t, q'))) :
    Together p q W (x.bind f) (y.bind g) := by
  constructor
  intro s p'' t q'' hx hy
  obtain ⟨⟨s', p'⟩, hs, hf⟩ := Option.bind_eq_some_iff.mp hx
  obtain ⟨⟨t', q'⟩, ht, hg⟩ := Option.bind_eq_some_iff.mp hy
  obtain ⟨halong, hV⟩ := h.both hs ht
  obtain ⟨halong', hW⟩ := (hthen halong hV).both hf hg
  exact ⟨halong.trans halong', hW⟩

theorem Alike.found_along (h : p.Alike q) {found found' : Artifacts} (hfound : found.Renamed (p.Pairs q) found') :
    p.Along q { p with found } { q with found := found' } :=
  ⟨⟨h.names, hfound⟩, fun _ _ => id⟩

theorem Alike.memoized? (h : p.Alike q) (qualified : String) :
    (∃ n m, p.memoized? qualified = some n ∧ q.memoized? qualified = some m ∧ p.Pairs q n m) ∨
      (p.memoized? qualified = none ∧ q.memoized? qualified = none) := by
  unfold Pass.memoized?
  split
  · exact .inr ⟨rfl, rfl⟩
  · have hmemo := h.names.memo qualified
    generalize p.names.lookup? qualified = x at hmemo ⊢
    generalize q.names.lookup? qualified = y at hmemo ⊢
    cases hmemo with
    | some hnames => exact .inl ⟨_, _, rfl, rfl, hnames⟩
    | none => exact .inr ⟨rfl, rfl⟩

theorem Alike.external (h : p.Alike q) (type : ExternalType) :
    Together p q TypeExpr.Renamed (some (p.external type)) (some (q.external type)) := by
  unfold Pass.external
  split
  · exact Together.pure (.refl h) (.external _ _)
  · exact Together.pure (h.found_along (h.found.addImport _ _)) (.external _ _)

theorem Together.allocate {γ δ : Type} {W : (String → String → Prop) → γ → δ → Prop} {qualified : String}
    {place place' : Context} {f : String × Allocator → Option (γ × Pass)} {g : String × Allocator → Option (δ × Pass)}
    (h : p.Alike q) (hplace : place.root? = place'.root?) (hp : p.memoized? qualified = none)
    (hq : q.memoized? qualified = none)
    (hthen : ∀ {n m names names'}, Pass.Alike { p with names } { q with names := names' } → names.Pairs names' n m →
      Together { p with names } { q with names := names' } W (f (n, names)) (g (m, names'))) :
    Together p q W ((p.names.allocate qualified place).bind f) ((q.names.allocate qualified place').bind g) := by
  constructor
  intro s p' t q' hx hy
  obtain ⟨⟨n, names⟩, hn, hf⟩ := Option.bind_eq_some_iff.mp hx
  obtain ⟨⟨m, names'⟩, hm, hg⟩ := Option.bind_eq_some_iff.mp hy
  -- neither name is known yet, so both allocators hand one out, and for the same qualified name
  obtain ⟨rfl, -, -⟩ := handOut_of_memoized hp hn
  obtain ⟨rfl, -, -⟩ := handOut_of_memoized hq hm
  rw [← h.names.subject?_congr hplace qualified] at hg
  generalize p.names.subject? qualified place = subject? at hf hg
  have hkeeps : ∀ x y, p.Pairs q x y → (p.names.handOut subject? n).Pairs (q.names.handOut subject? m) x y :=
    fun x y hold => hold.handOut subject? n m
  have halike : Pass.Alike ⟨p.names.handOut subject? n, p.found⟩ ⟨q.names.handOut subject? m, q.found⟩ :=
    ⟨h.names.handOut subject? n m, h.found.mono hkeeps⟩
  obtain ⟨halong, hW⟩ := (hthen halike (Allocator.pairs_handOut p.names q.names subject? n m)).both hf hg
  exact ⟨Along.trans ⟨halike, hkeeps⟩ halong, hW⟩

end Pass

/-! ## Visits side by side -/

/-- Visits of `node` in passes that are alike go side by side, whatever the names above it. -/
def Node.Parallel (hook : Hook) (node : Node) : Prop :=
  ∀ {place place' p q}, place.root? = place'.root? → p.Alike q →
    Pass.Together p q TypeExpr.Renamed (node.visit hook place p) (node.visit hook place' q)

variable {hook : Hook}

theorem Node.Parallel.of_declined {node : Node} (h : hook node = none → node.Parallel hook) :
    node.Parallel hook := by
  intro place place' p q hplace hpq
  cases hhook : hook node with
  | none => exact h hhook hplace hpq
  | some type =>
    rw [visit_of_external hhook, visit_of_external hhook]
    exact hpq.external type

theorem Node.parallel_of_plain {node : Node} {t : TypeExpr} (hplain : node.plain? = some t)
    (hvisit : node.visit hook = fun _ p => some (t, p)) : node.Parallel hook := by
  intro place place' p q hplace hpq
  rw [hvisit]
  exact Pass.Together.pure (.refl hpq) (.plain hplain)

theorem Node.parallel_of_enumeration {α : Type} {node : Node} (qualified : String) (base : Primitive)
    (value : α → ConstantValue) (members : List (Member α))
    (hvisit : node.visit hook = Pass.enumeration qualified base value members) : node.Parallel hook := by
  intro place place' p q hplace hpq
  rw [hvisit]
  unfold Pass.enumeration
  rcases hpq.memoized? qualified with ⟨n, m, hp, hq, hnames⟩ | ⟨hp, hq⟩
  · simp only [hp, hq]
    exact Pass.Together.pure (.refl hpq) (.typeAlias hnames)
  · simp only [hp, hq]
    refine Pass.Together.allocate hpq hplace hp hq fun {n m names names'} halike hnames => ?_
    have hblock := renamed_constantBlock hnames qualified base (members.map fun m => ⟨m.key, value m.value⟩)
    simp only [constantBlock, List.map_map, Function.comp_def] at hblock
    exact Pass.Together.pure (halike.found_along (halike.found.addConstant hblock)) (.typeAlias hnames)

theorem Node.fields_parallel {entries : List (Entry Node)} (h : ∀ e ∈ entries, e.type.Parallel hook)
    {p q : Pass} (hpq : p.Alike q) (n m : String) (index : Nat) :
    Pass.Together p q (fun R => List.Forall₂ (FieldArtifact.Renamed R))
      (Pass.fields n index (entries.map fun e => ⟨e.name, e.type.visit hook, e.tag⟩) p)
      (Pass.fields m index (entries.map fun e => ⟨e.name, e.type.visit hook, e.tag⟩) q) := by
  induction entries generalizing p q index with
  | nil => exact Pass.Together.pure (.refl hpq) .nil
  | cons e rest ih =>
    obtain ⟨he, hrest⟩ := List.forall_mem_cons.mp h
    refine Pass.Together.bind (he rfl hpq) fun halong htype => ?_
    refine Pass.Together.bind (ih hrest halong.alike (index + 1)) fun halong' hmore => ?_
    exact Pass.Together.pure (.refl halong'.alike) (.cons ⟨rfl, htype.mono halong'.keeps, rfl⟩ hmore)

theorem Node.parallel_of_object {qualified : String} {entries : List (Entry Node)}
    (hhook : hook (.object qualified entries) = none) (hfields : ∀ e ∈ entries, e.type.Parallel hook) :
    (Node.object qualified entries).Parallel hook := by
  intro place place' p q hplace hpq
  simp only [Node.visit, hhook, Node.visits_eq_map, Pass.object, ← map_sortBy fun e : Entry Node => rfl]
  rcases hpq.memoized? qualified with ⟨n, m, hp, hq, hnames⟩ | ⟨hp, hq⟩
  · simp only [hp, hq]
    exact Pass.Together.pure (.refl hpq) (.struct hnames)
  · simp only [hp, hq]
    refine Pass.Together.allocate hpq hplace hp hq fun {n m names names'} halike hnames => ?_
    have hsorted : ∀ e ∈ sortBy (·.name) entries, e.type.Parallel hook := fun e he => hfields e (mem_sortBy.mp he)
    refine Pass.Together.bind (Node.fields_parallel hsorted halike n m 0) fun halong hfound => ?_
    have hname := halong.keeps n m hnames
    have hobject : ObjectArtifact.Renamed _ ⟨n, _⟩ ⟨m, _⟩ := ⟨hname, hfound⟩
    exact Pass.Together.pure (halong.alike.found_along (halong.alike.found.addObject hobject)) (.struct hname)

theorem node_parallel (hook : Hook) (node : Node) : node.Parallel hook := by
  induction node using Node.induction with
  | array inner ih =>
    refine Node.Parallel.of_declined fun hhook place place' p q hplace hpq => ?_
    simp only [Node.visit, hhook]
    refine Pass.Together.bind (ih hplace hpq) fun halong htype => ?_
    exact Pass.Together.pure (.refl halong.alike) (.vec htype)
  | map key value ihk ihv =>
    refine Node.Parallel.of_declined fun hhook place place' p q hplace hpq => ?_
    simp only [Node.visit, hhook]
    refine Pass.Together.bind (ihk (by simp) hpq) fun halong hkey => ?_
    refine Pass.Together.bind (ihv hplace halong.alike) fun halong' hvalue => ?_
    exact Pass.Together.pure (.refl halong'.alike) (.map (hkey.mono halong'.keeps) hvalue)
  | nullable inner ih =>
    refine Node.Parallel.of_declined fun hhook place place' p q hplace hpq => ?_
    simp only [Node.visit, hhook]
    refine Pass.Together.bind (ih hplace hpq) fun halong htype => ?_
    refine Pass.Together.pure (.refl halong.alike) ?_
    split
    · exact htype
    · exact htype.optional
  | object name entries ih => exact Node.Parallel.of_declined fun hhook => Node.parallel_of_object hhook ih
  | string name members =>
    refine Node.Parallel.of_declined fun hhook => ?_
    cases members with
    | nil => exact Node.parallel_of_plain rfl (by funext place p; simp [Node.visit, hhook])
    | cons m ms =>
      refine Node.parallel_of_enumeration name .string .str (m :: ms) ?_
      funext place p
      simp [Node.visit, hhook]
  | number name repr members =>
    refine Node.Parallel.of_declined fun hhook => ?_
    cases members with
    | nil => exact Node.parallel_of_plain rfl (by funext place p; simp [Node.visit, hhook])
    | cons m ms =>
      refine Node.parallel_of_enumeration name (.number repr) .num (m :: ms) ?_
      funext place p
      simp [Node.visit, hhook]
  | boolean =>
    exact Node.Parallel.of_declined fun hhook =>
      Node.parallel_of_plain rfl (by funext place p; simp [Node.visit, hhook])
  | date =>
    refine Node.Parallel.of_declined fun hhook place place' p q hplace hpq => ?_
    simp only [Node.visit, hhook]
    exact Pass.Together.pure (hpq.found_along hpq.found.requireDateTime) .dateTime
  | any =>
    exact Node.Parallel.of_declined fun hhook =>
      Node.parallel_of_plain rfl (by funext place p; simp [Node.visit, hhook])

theorem roots_alike {roots : List (String × Node)} {p q p' q' : Pass} (hpq : p.Alike q)
    (hp : Pass.roots hook roots p = some p') (hq : Pass.roots hook roots q = some q') : p'.Alike q' := by
  induction roots generalizing p q with
  | nil =>
    obtain rfl := Option.some.inj hp
    obtain rfl := Option.some.inj hq
    exact hpq
  | cons root rest ih =>
    simp only [Pass.roots, Option.bind_eq_bind, Option.bind_eq_some_iff, Prod.exists] at hp hq
    obtain ⟨t, p₁, ht, hp⟩ := hp
    obtain ⟨u, q₁, hu, hq⟩ := hq
    obtain ⟨halong, -⟩ := (node_parallel hook root.2 rfl hpq).both ht hu
    exact ih halong.alike hp hq

/-! ## Two runs -/

theorem exists_bijOn_of_zip {l m : List String} (hl : l.Nodup) (hm : m.Nodup) (hcount : l.length = m.length) :
    ∃ r : String → String, Set.BijOn r {n | n ∈ l} {n | n ∈ m} ∧ ∀ x y, (x, y) ∈ l.zip m → r x = y := by
  induction l generalizing m with
  | nil =>
    obtain rfl := List.eq_nil_of_length_eq_zero hcount.symm
    exact ⟨id, by simp, by simp⟩
  | cons x l ih =>
    obtain ⟨y, m, rfl⟩ := List.exists_cons_of_length_pos (Nat.lt_of_lt_of_eq (Nat.succ_pos _) hcount)
    obtain ⟨hx, hl⟩ := List.nodup_cons.mp hl
    obtain ⟨hy, hm⟩ := List.nodup_cons.mp hm
    obtain ⟨r, hbij, hzip⟩ := ih hl hm (Nat.succ.inj hcount)
    -- `x` is not in the rest, where the map stays as it was
    have hold : Set.EqOn r (Function.update r x y) {n | n ∈ l} := by
      intro n hn
      rw [Function.update_of_ne]
      rintro rfl
      exact hx hn
    refine ⟨Function.update r x y, ?_, ?_⟩
    · have hinsert := (hbij.congr hold).insert (a := x) (by simpa using hy)
      rw [Function.update_self] at hinsert
      simpa [Set.insert_def] using hinsert
    · intro u v huv
      rcases List.mem_cons.mp huv with hnew | hrest
      · obtain ⟨rfl, rfl⟩ := Prod.mk.inj hnew
        exact Function.update_self ..
      · rw [← hold (List.of_mem_zip hrest).1]
        exact hzip u v hrest

/-- `r` takes the names that `p` has handed out to those of `q`, what `p` remembers to what `q` remembers, and what
`p` has found to what `q` has found. -/
structure Pass.Renames (r : String → String) (p q : Pass) : Prop where
  bijective : Set.BijOn r {n | n ∈ p.names.reserved} {m | m ∈ q.names.reserved}
  remembered : ∀ qualified, q.names.lookup? qualified = (p.names.lookup? qualified).map r
  found : p.found.Renamed (fun n m => r n = m) q.found

theorem Pass.Alike.exists_renames {p q : Pass} (h : p.Alike q) (hp : p.names.Sound) (hq : q.names.Sound) :
    ∃ r, p.Renames r q := by
  obtain ⟨r, hbij, hzip⟩ := exists_bijOn_of_zip hp.nodup hq.nodup h.names.count
  refine ⟨r, hbij, ?_, h.found.mono hzip⟩
  intro qualified
  have hmemo := h.names.memo qualified
  generalize p.names.lookup? qualified = x at hmemo ⊢
  generalize q.names.lookup? qualified = y at hmemo ⊢
  cases hmemo with
  | some hnames => rw [Option.map_some, hzip _ _ hnames]
  | none => rfl

/-- Whatever is bound elsewhere, and however many suffixes are tried, two passes over a model with one hook find the
same but for a renaming. -/
theorem run_renamed (model : Model) (hook : Hook) (P Q : List String) (tries tries' : Nat) (p q : Pass)
    (hp : Pass.run model hook P tries = some p) (hq : Pass.run model hook Q tries' = some q) :
    ∃ r, p.Renames r q := by
  have hstart : (Pass.start (.new P tries)).Alike (Pass.start (.new Q tries')) :=
    ⟨.new P Q tries tries', .nil, .nil, rfl, rfl⟩
  exact (roots_alike hstart hp hq).exists_renames (run_underWay hp).sound (run_underWay hq).sound

/-- With `Node` and `State` bound elsewhere, the names of both roots change, and so do those below them. -/
theorem run_renamed_linked : ∃ p q r, Pass.run linkedModel moneyHook [] 1 = some p ∧
    Pass.run linkedModel moneyHook ["other.Node", "other.State"] 2 = some q ∧ p.Renames r q := by
  have hp : (Pass.run linkedModel moneyHook [] 1).isSome = true := by decide +kernel
  have hq : (Pass.run linkedModel moneyHook ["other.Node", "other.State"] 2).isSome = true := by decide +kernel
  obtain ⟨p, hp⟩ := Option.isSome_iff_exists.mp hp
  obtain ⟨q, hq⟩ := Option.isSome_iff_exists.mp hq
  obtain ⟨r, hr⟩ := run_renamed linkedModel moneyHook [] ["other.Node", "other.State"] 1 2 p q hp hq
  exact ⟨p, q, r, hp, hq, hr⟩

end Declgen
