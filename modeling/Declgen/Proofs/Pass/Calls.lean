import Declgen.Proofs.Naming.Identifiers
import Declgen.Proofs.Pass.Roots

/-!
# The calls of a pass

A pass asks the allocator for names, one call after the other. `Walk` tells which calls these are: the sites that wait
stand in a list, the first of them asks for the name of what it declares, unless that is there, and what is below it
is put in its place. A pass that gives up has come to a call that has no answer.
-/

namespace Declgen

open Allocator (Answer Call History Nested)

/-! ## Sites -/

/-- The sites that a visit goes on to, if it asks for no name. -/
def Site.below (hook : Hook) (s : Site) : List Site :=
  match hook s.node with
  | some _ => []
  | none =>
    match s.node with
    | .array inner | .nullable inner => [⟨s.place, inner⟩]
    | .map key value => [⟨s.place.mapKey, key⟩, ⟨s.place, value⟩]
    | .object _ _ | .string _ _ | .number _ _ _ | .boolean | .date | .any => []

/-- What is declared at the site and is not there yet. -/
def Site.new? (hook : Hook) (a : Allocator) (s : Site) : Option Declaration :=
  match hook s.node with
  | some _ => none
  | none => s.node.declaration?.filter fun d => d.qualified.isEmpty || (a.lookup? d.qualified).isNone

/-- The call for the name of what is declared at the site. -/
def Site.call (s : Site) (d : Declaration) : Call := .allocate d.qualified s.place

/-- The sites in what is declared, once it has its name. -/
def Declaration.sites (name : String) : Declaration → List Site
  | .object _ entries => fieldSites name 0 (sortBy (·.name) entries)
  | .constants _ _ _ => []

section Sites

variable {hook : Hook} {a : Allocator} {s : Site} {d : Declaration} {name : String}

theorem Site.new?_eq_some_iff :
    s.new? hook a = some d ↔ hook s.node = none ∧ s.node.declaration? = some d ∧
      (d.qualified = "" ∨ a.lookup? d.qualified = none) := by
  unfold new?
  cases hook s.node <;> simp [Option.filter_eq_some_iff]

theorem Site.new?_of_external {type : ExternalType} (h : hook s.node = some type) : s.new? hook a = none := by
  simp [new?, h]

theorem Site.new?_of_undeclared (h : s.node.declaration? = none) : s.new? hook a = none := by
  unfold new?
  cases hook s.node <;> simp [h]

theorem Site.new?_of_known (hd : s.node.declaration? = some d) (hne : d.qualified ≠ "")
    (hknown : a.lookup? d.qualified = some name) : s.new? hook a = none := by
  unfold new?
  cases hook s.node <;> simp [hd, hne, hknown]

theorem Site.below_of_declared (hd : s.node.declaration? = some d) : s.below hook = [] := by
  unfold below
  cases hook s.node with
  | some => rfl
  | none =>
    obtain ⟨place, node⟩ := s
    cases node with
    | array | map | nullable => simp [Node.declaration?] at hd
    | _ => rfl

end Sites

/-! ## Walks -/

/-- `Walk hook sites a log left b`: a pass that has `sites` before it makes the calls of `log`, which take `a` to `b`,
and then it has `left` before it. -/
inductive Walk (hook : Hook) : List Site → Allocator → List Answer → List Site → Allocator → Prop where
  | stop {sites : List Site} {a : Allocator} : Walk hook sites a [] sites a
  /-- Nothing is asked for. -/
  | on {s : Site} {rest : List Site} {a b : Allocator} {log : List Answer} {left : List Site} :
      s.new? hook a = none → Walk hook (s.below hook ++ rest) a log left b → Walk hook (s :: rest) a log left b
  /-- What is declared gets its name, and what is in it is next. -/
  | call {s : Site} {d : Declaration} {name : String} {rest : List Site} {a b c : Allocator} {log : List Answer}
      {left : List Site} :
      s.new? hook a = some d → a.answer (s.call d) = some (name, b) → Walk hook (d.sites name ++ rest) b log left c →
      Walk hook (s :: rest) a (.of a (s.call d) name :: log) left c

/-- Behind the calls of `log`, a pass that has had `sites` before it makes the call `call` of `b`. -/
def Asks (hook : Hook) (sites : List Site) (a : Allocator) (log : List Answer) (b : Allocator) (call : Call) : Prop :=
  ∃ s d rest, Walk hook sites a log (s :: rest) b ∧ s.new? hook b = some d ∧ call = s.call d

/-- A pass that has `sites` before it comes to a call that has no answer. -/
def Stuck (hook : Hook) (sites : List Site) (a : Allocator) : Prop :=
  ∃ log b call, Asks hook sites a log b call ∧ b.answer call = none

variable {hook : Hook} {a b c : Allocator} {sites rest left : List Site} {log : List Answer} {s : Site}
  {d : Declaration} {name : String} {p q : Pass}

theorem Walk.append {later : List Answer} (h : Walk hook sites a log rest b) (hrest : Walk hook rest b later left c) :
    Walk hook sites a (log ++ later) left c := by
  induction h with
  | stop => exact hrest
  | on hnew _ ih => exact .on hnew (ih hrest)
  | call hnew hanswer _ ih => exact .call hnew hanswer (ih hrest)

theorem Walk.stuck (h : Walk hook sites a log rest b) (hstuck : Stuck hook rest b) : Stuck hook sites a := by
  obtain ⟨later, c, call, ⟨s, d, left, hwalk, hasks⟩, hnone⟩ := hstuck
  exact ⟨log ++ later, c, call, ⟨s, d, left, h.append hwalk, hasks⟩, hnone⟩

theorem Stuck.on (hnew : s.new? hook a = none) (h : Stuck hook (s.below hook ++ rest) a) :
    Stuck hook (s :: rest) a :=
  (Walk.on hnew .stop).stuck h

theorem stuck_of_answer (hnew : s.new? hook a = some d) (h : a.answer (s.call d) = none) : Stuck hook (s :: rest) a :=
  ⟨[], a, s.call d, ⟨s, d, rest, .stop, hnew, rfl⟩, h⟩

/-- A walk goes one way, so one that has come to its end has passed no call without an answer. -/
theorem Walk.not_stuck (h : Walk hook sites a log [] b) : ¬Stuck hook sites a := by
  rintro ⟨other, c, call, ⟨s, d, left, hwalk, hnew, rfl⟩, hnone⟩
  generalize hend : ([] : List Site) = last at h
  induction h generalizing other with
  | stop =>
    subst hend
    cases hwalk
  | on hon _ ih =>
    cases hwalk with
    | stop => simp [hnew] at hon
    | on _ hnext => exact ih _ hnext hend
    | call hcall _ _ => simp [hcall] at hon
  | call hcall hanswer _ ih =>
    cases hwalk with
    | stop =>
      obtain rfl := Option.some.inj (hcall.symm.trans hnew)
      simp [hnone] at hanswer
    | on hon _ => simp [hcall] at hon
    | call hcall' hanswer' hnext =>
      obtain rfl := Option.some.inj (hcall.symm.trans hcall')
      obtain ⟨rfl, rfl⟩ := Prod.mk.inj (Option.some.inj (hanswer.symm.trans hanswer'))
      exact ih _ hnext hend

/-! ## Passes are walks -/

theorem Visits.walks {types : List TypeExpr} (h : Visits hook sites p types q) (rest : List Site) :
    ∃ log, Walk hook (sites ++ rest) p.names log rest q.names := by
  induction h generalizing rest with
  | nil => exact ⟨[], .stop⟩
  | @external place node _ type p _ _ hhook _ ih =>
    obtain ⟨log, hwalk⟩ := ih rest
    rw [(p.all_external type).1] at hwalk
    exact ⟨log, .on (Site.new?_of_external hhook) (by simpa [Site.below, hhook] using hwalk)⟩
  | array hhook _ ih | nullable hhook _ ih | map hhook _ ih =>
    obtain ⟨log, hwalk⟩ := ih rest
    exact ⟨log, .on (Site.new?_of_undeclared rfl) (by simpa [Site.below, hhook] using hwalk)⟩
  | @plain place node _ _ _ _ _ hhook hplain _ ih =>
    obtain ⟨log, hwalk⟩ := ih rest
    refine ⟨log, .on (Site.new?_of_undeclared (Node.below_of_plain hplain place).1) ?_⟩
    cases node with
    | array | map | nullable => simp [Node.plain?] at hplain
    | _ => simpa [Site.below, hhook] using hwalk
  | date hhook _ ih =>
    obtain ⟨log, hwalk⟩ := ih rest
    exact ⟨log, .on (Site.new?_of_undeclared rfl) (by simpa [Site.below, hhook] using hwalk)⟩
  | known _ hd hmemo _ ih =>
    obtain ⟨log, hwalk⟩ := ih rest
    obtain ⟨hne, hknown⟩ := Pass.memoized?_eq_some_iff.mp hmemo
    refine ⟨log, .on (Site.new?_of_known hd hne hknown) ?_⟩
    rwa [Site.below_of_declared hd]
  | @object place qualified entries _ _ _ _ _ _ _ _ hhook hmemo hname _ _ ihfields ih =>
    obtain ⟨below, hbelow⟩ := ihfields (_ ++ rest)
    obtain ⟨after, hafter⟩ := ih rest
    refine ⟨_, .call (Site.new?_eq_some_iff (d := .object qualified entries) |>.mpr ⟨hhook, rfl, ?_⟩) hname
      (hbelow.append hafter)⟩
    exact or_iff_not_imp_left.mpr (Pass.memoized?_eq_none_iff.mp hmemo)
  | constants hhook hd hmemo hname _ ih =>
    obtain ⟨log, hwalk⟩ := ih rest
    refine ⟨_, .call (Site.new?_eq_some_iff.mpr ⟨hhook, hd, ?_⟩) hname hwalk⟩
    exact or_iff_not_imp_left.mpr (Pass.memoized?_eq_none_iff.mp hmemo)

theorem eq_none_of_bind_some {α β : Type} {x : Option α} {f : α → β} (h : (x.bind fun r => some (f r)) = none) :
    x = none := by
  cases x with
  | none => rfl
  | some r => simp at h

/-- A visit that gives up is stuck, whatever is to be visited after it. -/
def StuckAt (hook : Hook) (node : Node) : Prop :=
  ∀ {place p rest}, node.visit hook place p = none → Stuck hook (⟨place, node⟩ :: rest) p.names

theorem StuckAt.of_declined {node : Node} (h : hook node = none → StuckAt hook node) : StuckAt hook node := by
  intro place p rest hvisit
  cases hhook : hook node with
  | none => exact h hhook hvisit
  | some type => simp [Node.visit_of_external hhook] at hvisit

theorem stuck_of_fields {parent : String} {entries : List (Entry Node)} (h : ∀ e ∈ entries, StuckAt hook e.type)
    {index : Nat}
    (hfields : Pass.fields parent index (entries.map fun e => ⟨e.name, e.type.visit hook, e.tag⟩) p = none) :
    Stuck hook (fieldSites parent index entries ++ rest) p.names := by
  induction entries generalizing index p with
  | nil => simp [Pass.fields] at hfields
  | cons e entries ih =>
    obtain ⟨he, hentries⟩ := List.forall_mem_cons.mp h
    cases hvisit : e.type.visit hook (.field parent index .value) p with
    | none => exact he hvisit
    | some found =>
      obtain ⟨t, p'⟩ := found
      have hvisits := node_follows hook e.type hvisit .nil
      obtain ⟨log, hwalk⟩ := hvisits.walks (fieldSites parent (index + 1) entries ++ rest)
      simp only [List.map_cons, Pass.fields, hvisit] at hfields
      exact hwalk.stuck (ih hentries (eq_none_of_bind_some hfields))

theorem Site.new?_of_memoized {node : Node} (hhook : hook node = none) (hd : node.declaration? = some d)
    (hmemo : p.memoized? d.qualified = none) (place : Context) : Site.new? hook p.names ⟨place, node⟩ = some d :=
  new?_eq_some_iff.mpr ⟨hhook, hd, or_iff_not_imp_left.mpr (Pass.memoized?_eq_none_iff.mp hmemo)⟩

theorem stuckAt_of_enumeration {α : Type} {node : Node} {qualified : String} {base : Primitive}
    {value : α → ConstantValue} {members : List (Member α)} (hhook : hook node = none)
    (hd : node.declaration? = some (.constants qualified base (members.map fun m => ⟨m.key, value m.value⟩)))
    (hvisit : node.visit hook = Pass.enumeration qualified base value members) : StuckAt hook node := by
  intro place p rest h
  rw [hvisit, Pass.enumeration] at h
  cases hmemo : p.memoized? qualified with
  | some name => simp [hmemo] at h
  | none =>
    simp only [hmemo] at h
    exact stuck_of_answer (Site.new?_of_memoized hhook hd hmemo place) (eq_none_of_bind_some h)

theorem stuckAt_of_object {qualified : String} {entries : List (Entry Node)}
    (hhook : hook (.object qualified entries) = none) (hentries : ∀ e ∈ entries, StuckAt hook e.type) :
    StuckAt hook (.object qualified entries) := by
  intro place p rest h
  simp only [Node.visit, hhook, Node.visits_eq_map, Pass.object] at h
  cases hmemo : p.memoized? qualified with
  | some name => simp [hmemo] at h
  | none =>
    have hnew := Site.new?_of_memoized (d := .object qualified entries) hhook rfl hmemo place
    cases hname : p.names.allocate qualified place with
    | none => exact stuck_of_answer hnew hname
    | some found =>
      obtain ⟨name, names⟩ := found
      refine (Walk.call hnew hname .stop).stuck ?_
      have hsorted : ∀ e ∈ sortBy (·.name) entries, StuckAt hook e.type := fun e he => hentries e (mem_sortBy.mp he)
      simp only [hmemo, hname] at h
      rw [← map_sortBy fun e : Entry Node => rfl] at h
      exact stuck_of_fields (p := { p with names }) hsorted (eq_none_of_bind_some h)

theorem stuckAt_of_some {node : Node} {f : Context → Pass → TypeExpr × Pass}
    (h : ∀ place p, node.visit hook place p = some (f place p)) : StuckAt hook node := by
  intro place p rest hnone
  simp [h] at hnone

/-- A visit gives up only where a call in it has no answer. -/
theorem node_stuckAt (hook : Hook) (node : Node) : StuckAt hook node := by
  induction node using Node.induction with
  | array inner ih | nullable inner ih =>
    refine StuckAt.of_declined fun hhook place p rest h => .on (Site.new?_of_undeclared rfl) ?_
    simp only [Node.visit, hhook] at h
    simp only [Site.below, hhook]
    exact ih (eq_none_of_bind_some h)
  | map key value ihk ihv =>
    refine StuckAt.of_declined fun hhook place p rest h => .on (Site.new?_of_undeclared rfl) ?_
    simp only [Node.visit, hhook] at h
    simp only [Site.below, hhook, List.cons_append, List.nil_append]
    cases hkey : key.visit hook place.mapKey p with
    | none => exact ihk hkey
    | some found =>
      obtain ⟨k, p'⟩ := found
      obtain ⟨log, hwalk⟩ := (node_follows hook key hkey .nil).walks (⟨place, value⟩ :: rest)
      simp only [hkey] at h
      exact hwalk.stuck (ihv (eq_none_of_bind_some h))
  | object name entries ih => exact StuckAt.of_declined fun hhook => stuckAt_of_object hhook ih
  | string name members =>
    refine StuckAt.of_declined fun hhook => ?_
    cases members with
    | nil => exact stuckAt_of_some (f := fun _ p => (.primitive .string, p)) fun place p => by simp [Node.visit, hhook]
    | cons m ms => exact stuckAt_of_enumeration hhook rfl (by funext place p; simp [Node.visit, hhook])
  | number name repr members =>
    refine StuckAt.of_declined fun hhook => ?_
    cases members with
    | nil =>
      exact stuckAt_of_some (f := fun _ p => (.primitive (.number repr), p)) fun place p => by simp [Node.visit, hhook]
    | cons m ms => exact stuckAt_of_enumeration hhook rfl (by funext place p; simp [Node.visit, hhook])
  | boolean =>
    refine StuckAt.of_declined fun hhook => ?_
    exact stuckAt_of_some (f := fun _ p => (.primitive .bool, p)) fun place p => by simp only [Node.visit, hhook]
  | any =>
    refine StuckAt.of_declined fun hhook => ?_
    exact stuckAt_of_some (f := fun _ p => (.any, p)) fun place p => by simp only [Node.visit, hhook]
  | date =>
    refine StuckAt.of_declined fun hhook => ?_
    exact stuckAt_of_some (f := fun _ p => (.dateTime, { p with found := p.found.requireDateTime })) fun place p => by
      simp only [Node.visit, hhook]

theorem stuck_of_roots {roots : List (String × Node)} (h : Pass.roots hook roots p = none) :
    Stuck hook (roots.map rootSite) p.names := by
  induction roots generalizing p with
  | nil => simp [Pass.roots] at h
  | cons root rest ih =>
    cases hvisit : root.2.visit hook (.root root.1 .value) p with
    | none => exact node_stuckAt hook root.2 hvisit
    | some found =>
      obtain ⟨t, p'⟩ := found
      obtain ⟨log, hwalk⟩ := (node_follows hook root.2 hvisit .nil).walks (rest.map rootSite)
      simp only [Pass.roots, hvisit] at h
      exact hwalk.stuck (ih h)

theorem run_eq_none_iff {model : Model} {prereserved : List String} {tries : Nat} :
    Pass.run model hook prereserved tries = none ↔
      Stuck hook ((sortBy (·.1) model).map rootSite) (.new prereserved tries) := by
  refine ⟨fun h => stuck_of_roots h, fun hstuck => ?_⟩
  cases hrun : Pass.run model hook prereserved tries with
  | none => rfl
  | some p =>
    obtain ⟨types, hvisits⟩ := run_visits hrun
    obtain ⟨log, hwalk⟩ := hvisits.walks []
    rw [List.append_nil] at hwalk
    exact absurd hstuck hwalk.not_stuck

/-! ## What the calls go by -/

/-- The qualified names of a model: those of its roots and those that its nodes carry. -/
def Model.sources (m : Model) : List String :=
  m.map (·.1) ++ (m.flatMap fun root => root.2.declarations.map (·.qualified)).filter (· ≠ "")

/-- All that a pass can name at the site, and by the place of the site, is among the sources, and the type that the
site is a part of has its name. -/
structure Site.Ready (sources : List String) (a : Allocator) (s : Site) : Prop where
  declared : ∀ d ∈ s.node.declarations, d.qualified ≠ "" → d.qualified ∈ sources
  rooted : ∀ key, s.place.key? = some key → key ∈ sources
  parent : ∀ parent, s.place.parent? = some parent → parent ∈ a.reserved

/-- The calls lead to the allocator. They go by the sources, and by names that came out of them before. -/
structure Allocator.Orderly (prereserved : List String) (tries : Nat) (sources : List String) (log : List Answer)
    (a : Allocator) : Prop where
  history : History prereserved tries log a
  nested : Nested log
  sources : ∀ e ∈ log, e.call.sources ⊆ sources

section Sources

variable {sources prereserved : List String} {tries : Nat}

theorem Site.Ready.mono (h : a.reserved ⊆ b.reserved) (hs : s.Ready sources a) : s.Ready sources b :=
  ⟨hs.declared, hs.rooted, fun parent hparent => h (hs.parent parent hparent)⟩

theorem Site.Ready.move {place below : Context} {node inner : Node} (h : Site.Ready sources a ⟨place, node⟩)
    (hsub : inner.declarations ⊆ node.declarations) (hkey : below.key? = place.key?)
    (hparent : below.parent? = place.parent?) : Site.Ready sources a ⟨below, inner⟩ :=
  ⟨fun d hd => h.declared d (hsub hd), fun key hk => h.rooted key (hkey ▸ hk),
    fun parent hp => h.parent parent (hparent ▸ hp)⟩

theorem Site.Ready.below (h : s.Ready sources a) : ∀ t ∈ s.below hook, t.Ready sources a := by
  obtain ⟨place, node⟩ := s
  unfold Site.below
  cases hook node with
  | some => simp
  | none =>
    cases node with
    | array inner | nullable inner => exact List.forall_mem_singleton.mpr (h.move (fun _ hd => hd) rfl rfl)
    | map key value =>
      have hplace : place.mapKey.key? = place.key? ∧ place.mapKey.parent? = place.parent? := by
        cases place <;> exact ⟨rfl, rfl⟩
      have hkey := h.move (List.subset_append_left _ _) hplace.1 hplace.2
      have hvalue := h.move (List.subset_append_right _ _) rfl rfl
      exact List.forall_mem_cons.mpr ⟨hkey, List.forall_mem_singleton.mpr hvalue⟩
    | _ => simp

theorem ready_fieldSites {entries : List (Entry Node)}
    (hdeclared : ∀ e ∈ entries, ∀ d ∈ e.type.declarations, d.qualified ≠ "" → d.qualified ∈ sources)
    (hname : name ∈ a.reserved) (index : Nat) : ∀ s ∈ fieldSites name index entries, s.Ready sources a := by
  induction entries generalizing index with
  | nil => simp [fieldSites]
  | cons e rest ih =>
    obtain ⟨he, hrest⟩ := List.forall_mem_cons.mp hdeclared
    refine List.forall_mem_cons.mpr ⟨⟨he, by simp [Context.key?], ?_⟩, ih hrest (index + 1)⟩
    rintro _ ⟨⟩
    exact hname

theorem Site.Ready.inside (h : s.Ready sources a) (hd : s.node.declaration? = some d) (hname : name ∈ b.reserved) :
    ∀ t ∈ d.sites name, t.Ready sources b := by
  cases d with
  | constants => simp [Declaration.sites]
  | object qualified entries =>
    obtain ⟨place, node⟩ := s
    cases node with
    | object _ fields =>
      obtain ⟨rfl, rfl⟩ := Declaration.object.inj (Option.some.inj hd)
      refine ready_fieldSites (fun e he e' he' => h.declared e' ?_) hname 0
      exact List.mem_cons_of_mem _ (Node.mem_declarationsOfEntries.mpr ⟨e, mem_sortBy.mp he, he'⟩)
    | string name members | number name repr members => cases members <;> simp [Node.declaration?] at hd
    | _ => simp [Node.declaration?] at hd

theorem Site.Ready.call (h : s.Ready sources a) (hd : s.node.declaration? = some d) :
    (s.call d).sources ⊆ sources ∧ ∀ parent, (s.call d).parent? = some parent → parent ∈ a.reserved := by
  simp only [Site.call, Call.sources, Call.parent?]
  split
  · exact ⟨fun key hkey => h.rooted key (Option.mem_toList.mp hkey), h.parent⟩
  · rename_i hne
    have hmem := h.declared d (Node.mem_declarations_of_declaration? hd) fun hempty => hne (by simp [hempty])
    exact ⟨List.cons_subset.mpr ⟨hmem, List.nil_subset _⟩, by simp⟩

theorem Allocator.Orderly.call (h : Orderly prereserved tries sources log a) {call : Call}
    (hanswer : a.answer call = some (name, b)) (hsources : call.sources ⊆ sources)
    (hparent : ∀ parent, call.parent? = some parent → parent ∈ a.reserved) :
    Orderly prereserved tries sources (log ++ [.of a call name]) b where
  history := h.history.call hanswer
  nested := Allocator.nested_concat_iff.mpr
    ⟨h.nested, fun parent hp => (h.history.mem_reserved_iff parent).mp (hparent parent hp)⟩
  sources := List.forall_mem_append.mpr ⟨h.sources, List.forall_mem_singleton.mpr hsources⟩

theorem Walk.orderly (h : Walk hook sites a log left b) {earlier : List Answer}
    (ha : Allocator.Orderly prereserved tries sources earlier a) (hsites : ∀ s ∈ sites, s.Ready sources a) :
    Allocator.Orderly prereserved tries sources (earlier ++ log) b := by
  induction h generalizing earlier with
  | stop => rwa [List.append_nil]
  | on _ _ ih =>
    obtain ⟨hs, hrest⟩ := List.forall_mem_cons.mp hsites
    exact ih ha (List.forall_mem_append.mpr ⟨hs.below, hrest⟩)
  | @call s d name rest a b c log left hnew hanswer _ ih =>
    obtain ⟨hs, hrest⟩ := List.forall_mem_cons.mp hsites
    obtain ⟨-, hd, -⟩ := Site.new?_eq_some_iff.mp hnew
    obtain ⟨hcall, hparent⟩ := hs.call hd
    have hanswers := Allocator.answers_of_answer hanswer
    -- The name is handed out before what it names is visited, and nothing is taken back.
    have hname := hanswers.mem_reserved ha.history.sound
    have hlater := ih (ha.call hanswer hcall hparent)
      (List.forall_mem_append.mpr ⟨hs.inside hd hname, fun t ht => (hrest t ht).mono hanswers.grows.reserved⟩)
    rwa [List.append_assoc] at hlater

end Sources

section Run

variable {model : Model} {prereserved : List String} {tries : Nat}

theorem Walk.orderly_of_roots
    (h : Walk hook ((sortBy (·.1) model).map rootSite) (.new prereserved tries) log left b) :
    Allocator.Orderly prereserved tries model.sources log b := by
  have hstart : Allocator.Orderly prereserved tries model.sources [] (.new prereserved tries) :=
    ⟨.start, Allocator.nested_nil, by simp⟩
  refine h.orderly hstart fun s hs => ?_
  obtain ⟨root, hroot, rfl⟩ := List.mem_map.mp hs
  have hmem : root ∈ model := mem_sortBy.mp hroot
  refine ⟨fun d hd hne => List.mem_append_right _ (List.mem_filter.mpr ⟨?_, by simpa using hne⟩), ?_, ?_⟩
  · exact List.mem_flatMap.mpr ⟨root, hmem, List.mem_map_of_mem hd⟩
  · rintro key ⟨⟩
    exact List.mem_append_left _ (List.mem_map_of_mem hmem)
  · simp [rootSite, Context.parent?]

theorem run_orderly (h : Pass.run model hook prereserved tries = some p) :
    ∃ log, Allocator.Orderly prereserved tries model.sources log p.names := by
  obtain ⟨types, hvisits⟩ := run_visits h
  obtain ⟨log, hwalk⟩ := hvisits.walks []
  rw [List.append_nil] at hwalk
  exact ⟨log, hwalk.orderly_of_roots⟩

end Run

end Declgen
