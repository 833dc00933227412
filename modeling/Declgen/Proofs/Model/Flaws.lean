import Declgen.Proofs.Command.Check
import Declgen.Proofs.Model.RoundTrip
import Mathlib.Data.List.Infix
import Mathlib.Data.List.Nodup

/-!
# The first flaw

Loading accepts a model exactly when every root has an identifier and no object declares a field twice. Where one
root is at fault, its flaw is named: a missing identifier, or the first field that is repeated, in the order in
which the fields stand in the text.
-/

namespace Declgen

namespace Node

/-! ## Addresses -/

/-- The node at an address, which has a position among children for each step down. -/
def at? (node : Node) : List Nat → Option Node
  | [] => some node
  | i :: address => node.children[i]?.bind (·.at? address)

theorem at?_cons_eq_some_iff {node below : Node} {i : Nat} {address : List Nat} :
    node.at? (i :: address) = some below ↔ ∃ child, node.children[i]? = some child ∧ child.at? address = some below :=
  Option.bind_eq_some_iff

/-- The name nearest to an address, of the node there or of a node above it, else `path`. -/
def ownerAt (path : String) (node : Node) (address : List Nat) : String :=
  (address.inits.reverse.findSome? fun above => (node.at? above).bind qualifiedName?).getD path

theorem ownerAt_nil (path : String) (node : Node) : node.ownerAt path [] = node.qualifiedName?.getD path := by
  cases h : node.qualifiedName? <;> simp [ownerAt, at?, h]

theorem ownerAt_cons (path : String) {node child : Node} {i : Nat} (h : node.children[i]? = some child)
    (address : List Nat) :
    node.ownerAt path (i :: address) = child.ownerAt (node.qualifiedName?.getD path) address := by
  have hbelow : (fun above => (node.at? above).bind qualifiedName?) ∘ (i :: ·) =
      fun above => (child.at? above).bind qualifiedName? := by
    funext above
    simp [at?, h]
  simp only [ownerAt, List.inits_cons, List.reverse_cons, List.findSome?_append, ← List.map_reverse,
    List.findSome?_map, hbelow]
  cases List.findSome? (fun above => (child.at? above).bind qualifiedName?) address.inits.reverse with
  | some name => rfl
  | none => cases hname : node.qualifiedName? <;> simp [at?, hname]

@[elab_as_elim]
theorem induction_children {P : Node → Prop}
    (step : ∀ node : Node, (∀ child ∈ node.children, P child) → P node) (node : Node) : P node := by
  induction node using Node.induction with
  | array inner ih | nullable inner ih => exact step _ (List.forall_mem_singleton.mpr ih)
  | map key value ihk ihv => exact step _ (List.forall_mem_cons.mpr ⟨ihk, List.forall_mem_singleton.mpr ihv⟩)
  | object name entries ih => exact step _ (List.forall_mem_map.mpr ih)
  | string _ _ | number _ _ _ | boolean | date | any => exact step _ (by simp [children])

/-! ## Fields declared once -/

/-- The names of the fields that a node declares itself. -/
def entryNames : Node → List String
  | .object _ entries => entries.map (·.name)
  | _ => []

theorem distinct_iff {node : Node} :
    node.Distinct ↔ node.entryNames.Nodup ∧ ∀ child ∈ node.children, child.Distinct := by
  cases node with
  | object name entries => simp [Distinct, allDistinct_iff, entryNames, children]
  | _ => simp [Distinct, entryNames, children]

theorem Distinct.at? {node below : Node} (h : node.Distinct) {address : List Nat}
    (hat : node.at? address = some below) : below.Distinct := by
  induction address generalizing node with
  | nil =>
    obtain rfl := Option.some.inj hat
    exact h
  | cons i address ih =>
    obtain ⟨child, hchild, hbelow⟩ := at?_cons_eq_some_iff.mp hat
    exact ih ((distinct_iff.mp h).2 child (List.mem_of_getElem? hchild)) hbelow

theorem distinct_iff_at? {node : Node} :
    node.Distinct ↔ ∀ address below, node.at? address = some below → below.entryNames.Nodup := by
  constructor
  · exact fun h address below hat => (distinct_iff.mp (h.at? hat)).1
  · intro h
    induction node using induction_children with
    | step node ih =>
      refine distinct_iff.mpr ⟨h [] node rfl, fun child hchild => ih child hchild fun address below hat => ?_⟩
      obtain ⟨i, hi⟩ := List.mem_iff_getElem?.mp hchild
      exact h (i :: address) below (at?_cons_eq_some_iff.mpr ⟨child, hi, hat⟩)

/-! ## Repeated fields -/

/-- The field at `index` of the object at `address` is declared before, in the same object. -/
def Repeats (node : Node) (address : List Nat) (index : Nat) (field : String) : Prop :=
  ∃ object, node.at? address = some object ∧ object.entryNames[index]? = some field ∧
    field ∈ object.entryNames.take index

theorem not_mem_take_of_nodup {names : List String} (h : names.Nodup) {index : Nat} {field : String}
    (hfield : names[index]? = some field) : field ∉ names.take index := by
  intro hmem
  obtain ⟨j, hj, hjfield⟩ := List.mem_take_iff_getElem.mp hmem
  obtain ⟨hindex, hfield⟩ := List.getElem?_eq_some_iff.mp hfield
  have hsame := (List.Nodup.getElem_inj_iff h).mp (hjfield.trans hfield.symm)
  omega

theorem Distinct.not_repeats {node : Node} (h : node.Distinct) {address : List Nat} {index : Nat} {field : String} :
    ¬node.Repeats address index field := by
  rintro ⟨object, hat, hfield, hmem⟩
  exact not_mem_take_of_nodup (distinct_iff.mp (h.at? hat)).1 hfield hmem

theorem repeats_nil_iff {node : Node} {index : Nat} {field : String} :
    node.Repeats [] index field ↔ node.entryNames[index]? = some field ∧ field ∈ node.entryNames.take index := by
  simp [Repeats, at?]

theorem repeats_cons_iff {node : Node} {i : Nat} {address : List Nat} {index : Nat} {field : String} :
    node.Repeats (i :: address) index field ↔
      ∃ child, node.children[i]? = some child ∧ child.Repeats address index field := by
  simp only [Repeats, at?_cons_eq_some_iff]
  constructor
  · rintro ⟨object, ⟨child, hchild, hat⟩, hrepeats⟩
    exact ⟨child, hchild, object, hat, hrepeats⟩
  · rintro ⟨child, hchild, object, hat, hrepeats⟩
    exact ⟨object, ⟨child, hchild, hat⟩, hrepeats⟩

/-- No repeated field stands before this one. A field stands before what is inside it, and that before the next
field. -/
def FirstRepeat (node : Node) (address : List Nat) (index : Nat) (field : String) : Prop :=
  node.Repeats address index field ∧
    ∀ other index' field', node.Repeats other index' field' → ¬other ++ [index'] < address ++ [index]

theorem FirstRepeat.unique {node : Node} {address other : List Nat} {index index' : Nat} {field field' : String}
    (h : node.FirstRepeat address index field) (h' : node.FirstRepeat other index' field') :
    address = other ∧ field = field' := by
  have hle := h.2 _ _ _ h'.1
  have hge := h'.2 _ _ _ h.1
  have hsame : address ++ [index] = other ++ [index'] := by
    exact List.le_antisymm hle hge
  obtain ⟨rfl, hindex⟩ := List.append_inj' hsame rfl
  obtain rfl := List.singleton_inj.mp hindex
  obtain ⟨object, hat, hfield, -⟩ := h.1
  obtain ⟨object', hat', hfield', -⟩ := h'.1
  obtain rfl := Option.some.inj (hat.symm.trans hat')
  exact ⟨rfl, Option.some.inj (hfield.symm.trans hfield')⟩

theorem not_lt_of_repeats {node : Node} {i : Nat} {place : List Nat}
    (hown : ∀ j field, node.Repeats [] j field → ¬[j] < i :: place)
    (hbefore : ∀ j < i, ∀ c, node.children[j]? = some c → c.Distinct)
    (hchild : ∀ c, node.children[i]? = some c → ∀ address index field, c.Repeats address index field →
      ¬address ++ [index] < place) {address : List Nat} {index : Nat} {field : String}
    (h : node.Repeats address index field) : ¬address ++ [index] < i :: place := by
  cases address with
  | nil => exact hown _ _ h
  | cons j address =>
    obtain ⟨c, hc, hbelow⟩ := repeats_cons_iff.mp h
    rw [List.cons_append, List.cons_lt_cons_iff]
    rintro (hlt | ⟨rfl, hlt⟩)
    · exact (hbefore j hlt c hc).not_repeats hbelow
    · exact hchild c hc _ _ _ hbelow hlt

theorem FirstRepeat.below {node child : Node} {i index : Nat} {address : List Nat} {field : String}
    (h : child.FirstRepeat address index field) (hchild : node.children[i]? = some child)
    (hown : ∀ j other, node.Repeats [] j other → i < j)
    (hbefore : ∀ j < i, ∀ c, node.children[j]? = some c → c.Distinct) :
    node.FirstRepeat (i :: address) index field := by
  refine ⟨repeats_cons_iff.mpr ⟨child, hchild, h.1⟩, fun _ _ _ => not_lt_of_repeats ?_ hbefore ?_⟩
  · intro j other hrepeats hlt
    have := hown j other hrepeats
    rcases List.cons_lt_cons_iff.mp hlt with hlt | ⟨rfl, -⟩ <;> omega
  · intro c hc
    obtain rfl := Option.some.inj (hc.symm.trans hchild)
    exact h.2

theorem firstRepeat_own {node : Node} {index : Nat} {field : String} (h : node.Repeats [] index field)
    (hown : ∀ j other, node.Repeats [] j other → index ≤ j)
    (hbefore : ∀ j < index, ∀ c, node.children[j]? = some c → c.Distinct) : node.FirstRepeat [] index field := by
  refine ⟨h, fun _ _ _ => not_lt_of_repeats ?_ hbefore fun _ _ _ _ _ _ => List.not_lt_nil _⟩
  intro j other hrepeats hlt
  have := hown j other hrepeats
  rcases List.cons_lt_cons_iff.mp hlt with hlt | ⟨-, hlt⟩
  · omega
  · exact List.not_lt_nil _ hlt

/-! ## The flaw of a node -/

theorem exists_of_flawOfEntries {owner : String} {seen : List String} {entries : List (Entry Node)}
    {flaw : Model.Flaw} (h : flawOfEntries owner seen entries = some flaw) :
    ∃ before e after, entries = before ++ e :: after ∧ (∀ b ∈ before, b.name ∉ seen) ∧
      (before.map (·.name)).Nodup ∧ (∀ b ∈ before, b.type.Distinct) ∧
      ((e.name ∈ seen ∨ e.name ∈ before.map (·.name)) ∧ flaw = .duplicateField owner e.name ∨
        e.name ∉ seen ∧ e.name ∉ before.map (·.name) ∧ e.type.flaw? owner = some flaw) := by
  induction entries generalizing seen with
  | nil => simp [flawOfEntries] at h
  | cons e rest ih =>
    rw [flawOfEntries] at h
    split at h
    · rename_i hseen
      obtain rfl := Option.some.inj h
      exact ⟨[], e, rest, rfl, by simp, by simp, by simp, .inl ⟨.inl (by simpa using hseen), rfl⟩⟩
    · rename_i hnew
      have hnew : e.name ∉ seen := by simpa using hnew
      cases hflaw : e.type.flaw? owner with
      | some found =>
        rw [hflaw, Option.some_or] at h
        obtain rfl := Option.some.inj h
        exact ⟨[], e, rest, rfl, by simp, by simp, by simp, .inr ⟨hnew, by simp, hflaw⟩⟩
      | none =>
        rw [hflaw, Option.none_or] at h
        obtain ⟨before, next, after, rfl, hunseen, hnodup, hdistinct, hnext⟩ := ih h
        have hother : ∀ b ∈ before, b.name ≠ e.name := fun b hb hname => hunseen b hb (hname ▸ List.mem_cons_self)
        refine ⟨e :: before, next, after, rfl, ?_, ?_, ?_, ?_⟩
        · exact List.forall_mem_cons.mpr ⟨hnew, fun b hb => List.not_mem_of_not_mem_cons (hunseen b hb)⟩
        · exact List.nodup_cons.mpr ⟨by simpa using hother, hnodup⟩
        · exact List.forall_mem_cons.mpr ⟨flaw?_eq_none_iff.mp hflaw, hdistinct⟩
        · simp only [List.mem_cons, List.map_cons, not_or] at hnext ⊢
          tauto

theorem not_repeats_nil {node : Node} (h : node.entryNames = []) (index : Nat) (field : String) :
    ¬node.Repeats [] index field := by
  simp [repeats_nil_iff, h]

theorem length_le_of_repeats {name : String} {before after : List (Entry Node)} (h : (before.map (·.name)).Nodup)
    {j : Nat} {field : String} (hrepeats : (object name (before ++ after)).Repeats [] j field) : before.length ≤ j := by
  obtain ⟨hfield, hmem⟩ := repeats_nil_iff.mp hrepeats
  by_contra hj
  have hj : j < (before.map (·.name)).length := by simpa using hj
  rw [entryNames, List.map_append, List.getElem?_append_left hj] at hfield
  rw [entryNames, List.map_append, List.take_append_of_le_length hj.le] at hmem
  exact not_mem_take_of_nodup h hfield hmem

theorem exists_firstRepeat_below {path : String} {node child : Node} {i : Nat} {flaw : Model.Flaw}
    (hchild : node.children[i]? = some child) (hown : ∀ j other, node.Repeats [] j other → i < j)
    (hbefore : ∀ j < i, ∀ c, node.children[j]? = some c → c.Distinct)
    (h : ∃ address index field, child.FirstRepeat address index field ∧
      flaw = .duplicateField (child.ownerAt (node.qualifiedName?.getD path) address) field) :
    ∃ address index field, node.FirstRepeat address index field ∧
      flaw = .duplicateField (node.ownerAt path address) field := by
  obtain ⟨address, index, field, hfirst, rfl⟩ := h
  exact ⟨i :: address, index, field, hfirst.below hchild hown hbefore, by rw [ownerAt_cons path hchild]⟩

theorem exists_firstRepeat_of_flaw? {path : String} {node : Node} {flaw : Model.Flaw}
    (h : node.flaw? path = some flaw) : ∃ address index field,
      node.FirstRepeat address index field ∧ flaw = .duplicateField (node.ownerAt path address) field := by
  induction node using Node.induction generalizing path with
  | array inner ih | nullable inner ih =>
    refine exists_firstRepeat_below (i := 0) rfl (fun j other hrepeats => ?_) (by simp) (ih h)
    exact absurd hrepeats (not_repeats_nil rfl j other)
  | map key value ihk ihv =>
    have hnone (i : Nat) : ∀ j other, (Node.map key value).Repeats [] j other → i < j :=
      fun j other hrepeats => absurd hrepeats (not_repeats_nil rfl j other)
    rw [flaw?] at h
    cases hkey : key.flaw? path with
    | some found =>
      rw [hkey, Option.some_or] at h
      obtain rfl := Option.some.inj h
      exact exists_firstRepeat_below rfl (hnone 0) (by simp) (ihk hkey)
    | none =>
      rw [hkey, Option.none_or] at h
      refine exists_firstRepeat_below rfl (hnone 1) (fun j hj c hc => ?_) (ihv h)
      obtain rfl : j = 0 := by omega
      obtain rfl := Option.some.inj hc
      exact flaw?_eq_none_iff.mp hkey
  | object name entries ih =>
    have howner : (if name.isEmpty then path else name) = (Node.object name entries).qualifiedName?.getD path := by
      rw [qualifiedName?]
      split <;> rfl
    rw [flaw?, howner] at h
    obtain ⟨before, e, after, rfl, -, hnodup, hdistinct, hstop⟩ := exists_of_flawOfEntries h
    have hunder : (object name (before ++ e :: after)).children[before.length]? = some e.type := by
      simp [children]
    have hbefore : ∀ j < before.length, ∀ c,
        (object name (before ++ e :: after)).children[j]? = some c → c.Distinct := by
      intro j hj c hc
      rw [children, List.getElem?_map, List.getElem?_append_left hj, List.getElem?_eq_getElem hj] at hc
      obtain rfl := Option.some.inj hc
      exact hdistinct _ (List.getElem_mem hj)
    rcases hstop with ⟨hseen, rfl⟩ | ⟨-, hnew, hflaw⟩
    · have hseen : e.name ∈ before.map (·.name) := by simpa using hseen
      refine ⟨[], before.length, e.name, firstRepeat_own ?_ ?_ hbefore, by rw [ownerAt_nil]⟩
      · simpa [repeats_nil_iff, entryNames] using hseen
      · exact fun j other hrepeats => length_le_of_repeats hnodup hrepeats
    · refine exists_firstRepeat_below hunder (fun j other hrepeats => ?_) hbefore (ih e (by simp) hflaw)
      refine lt_of_le_of_ne (length_le_of_repeats hnodup hrepeats) ?_
      rintro rfl
      obtain ⟨hfield, hmem⟩ := repeats_nil_iff.mp hrepeats
      obtain rfl : e.name = other := by simpa [entryNames] using hfield
      exact hnew (by simpa [entryNames] using hmem)
  | string _ _ | number _ _ _ | boolean | date | any => simp [flaw?] at h

end Node

namespace Model

/-! ## The flaw of a root -/

variable {root : String × Node} {flaw other : Flaw}

/-- A root that loads: its name has an identifier, and no object at any depth declares a field twice. -/
structure RootSound (root : String × Node) : Prop where
  named : QualifiedName.bare root.1 ≠ ""
  distinct : ∀ address object, root.2.at? address = some object → object.entryNames.Nodup

/-- What is wrong with a root. A missing identifier is told first. -/
inductive IsFlaw (root : String × Node) : Flaw → Prop where
  | unnamed (hempty : QualifiedName.bare root.1 = "") : IsFlaw root (.emptyRootName root.1)
  | repeated {address : List Nat} {index : Nat} {field : String} (hnamed : QualifiedName.bare root.1 ≠ "")
      (hfirst : root.2.FirstRepeat address index field) :
      IsFlaw root (.duplicateField (root.2.ownerAt root.1 address) field)

theorem IsFlaw.unique (h : IsFlaw root flaw) (h' : IsFlaw root other) : flaw = other := by
  cases h with
  | unnamed hempty =>
    cases h' with
    | unnamed => rfl
    | repeated hnamed => exact absurd hempty hnamed
  | repeated hnamed hfirst =>
    cases h' with
    | unnamed hempty => exact absurd hempty hnamed
    | repeated _ hfirst' =>
      obtain ⟨rfl, rfl⟩ := hfirst.unique hfirst'
      rfl

theorem rootFlaw?_eq_none_iff_rootSound : rootFlaw? root = none ↔ RootSound root := by
  rw [rootFlaw?_eq_none_iff, Node.distinct_iff_at?]
  exact ⟨fun ⟨hnamed, hdistinct⟩ => ⟨hnamed, hdistinct⟩, fun h => ⟨h.named, h.distinct⟩⟩

theorem isFlaw_of_rootFlaw? (h : rootFlaw? root = some flaw) : IsFlaw root flaw := by
  rw [rootFlaw?] at h
  split at h
  · rename_i hempty
    obtain rfl := Option.some.inj h
    exact .unnamed (by simpa using hempty)
  · rename_i hnamed
    obtain ⟨address, index, field, hfirst, rfl⟩ := Node.exists_firstRepeat_of_flaw? h
    exact .repeated (by simpa using hnamed) hfirst

/-! ## Loading -/

theorem flaw?_eq_some_of_single {m : Model} (hflaw : rootFlaw? root = some flaw) (hroot : root ∈ m)
    (hsingle : ∀ r ∈ m, ¬RootSound r → r = root) : m.flaw? = some flaw := by
  cases hfound : m.flaw? with
  | none =>
    rw [flaw?, List.findSome?_eq_none_iff] at hfound
    simp [hfound root hroot] at hflaw
  | some found =>
    obtain ⟨r, hr, hrflaw⟩ := List.exists_of_findSome?_eq_some hfound
    have hbad : ¬RootSound r := by
      rw [← rootFlaw?_eq_none_iff_rootSound, hrflaw]
      exact Option.some_ne_none found
    obtain rfl := hsingle r hr hbad
    exact hrflaw.symm.trans hflaw

/-- In whatever order the roots are come to, a model loads exactly when every root is sound, and it is then the one
that was read. If one root is not, what is told is what is wrong with it, of which there is one. -/
theorem load_exact (e : Enumeration) {text : String} {m : Model} (h : parse text = .ok m) :
    ((∃ n, e.load text = .ok n) ↔ ∀ root ∈ m, RootSound root) ∧
      (∀ n, e.load text = .ok n → n = e.order m) ∧
      ∀ root ∈ m, ¬RootSound root → (∀ other ∈ m, ¬RootSound other → other = root) →
        ∃ flaw, e.load text = .error (.flawed flaw) ∧ ∀ other, IsFlaw root other ↔ other = flaw := by
  have hok (hnone : (e.order m).flaw? = none) : e.load text = .ok (e.order m) := by
    simp [Enumeration.load, h, hnone]
  have hflawed {flaw : Flaw} (hsome : (e.order m).flaw? = some flaw) : e.load text = .error (.flawed flaw) := by
    simp [Enumeration.load, h, hsome]
  have hmem (root : String × Node) : root ∈ e.order m ↔ root ∈ m := (e.perm m).mem_iff
  have hsound : (e.order m).flaw? = none ↔ ∀ root ∈ m, RootSound root := by
    simp only [flaw?, List.findSome?_eq_none_iff, rootFlaw?_eq_none_iff_rootSound, hmem]
  refine ⟨⟨?_, fun hroots => ⟨_, hok (hsound.mpr hroots)⟩⟩, ?_, ?_⟩
  · rintro ⟨n, hn⟩
    cases hflaw : (e.order m).flaw? with
    | none => exact hsound.mp hflaw
    | some flaw =>
      rw [hflawed hflaw] at hn
      cases hn
  · intro n hn
    cases hflaw : (e.order m).flaw? with
    | none => exact (Except.ok.inj ((hok hflaw).symm.trans hn)).symm
    | some flaw =>
      rw [hflawed hflaw] at hn
      cases hn
  · intro root hroot hbad hsingle
    rw [← rootFlaw?_eq_none_iff_rootSound] at hbad
    obtain ⟨flaw, hflaw⟩ := Option.ne_none_iff_exists'.mp hbad
    have hfound : (e.order m).flaw? = some flaw :=
      flaw?_eq_some_of_single hflaw ((hmem root).mpr hroot) fun r hr => hsingle r ((hmem r).mp hr)
    refine ⟨flaw, hflawed hfound, fun other => ⟨fun hother => hother.unique (isFlaw_of_rootFlaw? hflaw), ?_⟩⟩
    rintro rfl
    exact isFlaw_of_rootFlaw? hflaw

/-- The key of a map has no name of its own and repeats a field. -/
def ledger : String × Node := ("p.Ledger", .object "p.Ledger" [
  ⟨"at", .date, ""⟩,
  ⟨"lines", .map (.object "" [⟨"code", .boolean, ""⟩, ⟨"code", .date, ""⟩]) .boolean, ""⟩])

theorem load_exact_ledger :
    parse (Json.render (toJson [ledger])) = .ok [ledger] ∧
      load (Json.render (toJson [ledger])) = .error (.flawed (.duplicateField "p.Ledger" "code")) := by
  have hnumbers : numbers [ledger] = [] := by
    simp [numbers, ledger, Node.numbers, Node.numbersOfEntries]
  have hfits : (toJson [ledger]).Fits Json.nestingLimit :=
    ⟨by decide +kernel, by simp [numbers_toJson, hnumbers]⟩
  have hdistinct : Distinct [ledger] := List.nodup_singleton _
  have hparse : parse (Json.render (toJson [ledger])) = .ok [ledger] :=
    Json.whole_of_append (read_write hdistinct hfits [])
  have hflaw : rootFlaw? ledger = some (.duplicateField "p.Ledger" "code") := by decide +kernel
  have hbad : ¬RootSound ledger := by
    rw [← rootFlaw?_eq_none_iff_rootSound, hflaw]
    exact Option.some_ne_none _
  obtain ⟨flaw, hload, hunique⟩ := (load_exact .given hparse).2.2 ledger List.mem_cons_self hbad
    fun other hother _ => List.mem_singleton.mp hother
  have hsame := (hunique _).mp (isFlaw_of_rootFlaw? hflaw)
  rw [Enumeration.load_given, ← hsame] at hload
  exact ⟨hparse, hload⟩

end Model
end Declgen
