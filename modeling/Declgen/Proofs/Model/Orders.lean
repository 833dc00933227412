import Declgen.Proofs.Model.Flaws

/-!
# What is told of several flaws

Loading stops at the first root that has a flaw, and the roots come in no particular order. So whether a text loads is
settled, but what is told is the flaw of some root, and each of them may be the one.
-/

namespace Declgen

namespace Enumeration

/-- The order in which the root `key` comes before all others. -/
def leading (key : String) : Enumeration where
  order m := m.filter (·.1 == key) ++ m.filter fun root => !(root.1 == key)
  perm m := List.filter_append_perm _ m

/-- What is told of a text: nothing if it loads, or what is wrong with it. -/
def verdict (e : Enumeration) (text : String) : Except Model.LoadError Unit := (e.load text).map fun _ => ()

section Parsed

variable {e : Enumeration} {text : String} {m : Model}

theorem verdict_eq_ok_iff (h : Model.parse text = .ok m) : e.verdict text = .ok () ↔ (e.order m).flaw? = none := by
  unfold verdict load
  rw [h]
  cases hflaw : (e.order m).flaw? <;> simp [hflaw, Except.map]

theorem verdict_eq_error_iff (h : Model.parse text = .ok m) {flaw : Model.Flaw} :
    e.verdict text = .error (.flawed flaw) ↔ (e.order m).flaw? = some flaw := by
  unfold verdict load
  rw [h]
  cases hflaw : (e.order m).flaw? <;> simp [hflaw, Except.map]

theorem verdict_eq (h : Model.parse text = .ok m) :
    e.verdict text = (e.order m).flaw?.elim (.ok ()) fun flaw => .error (.flawed flaw) := by
  cases hflaw : (e.order m).flaw? with
  | none => exact (verdict_eq_ok_iff h).mpr hflaw
  | some flaw => exact (verdict_eq_error_iff h).mpr hflaw

end Parsed

end Enumeration

namespace Model

variable {m : Model} {root : String × Node} {flaw : Flaw}

theorem isFlaw_iff : IsFlaw root flaw ↔ rootFlaw? root = some flaw := by
  refine ⟨fun h => ?_, isFlaw_of_rootFlaw?⟩
  have hbad : ¬RootSound root := by
    intro hsound
    cases h with
    | unnamed hempty => exact hsound.named hempty
    | repeated _ hfirst => exact (Node.distinct_iff_at?.mpr hsound.distinct).not_repeats hfirst.1
  rw [← rootFlaw?_eq_none_iff_rootSound] at hbad
  obtain ⟨found, hfound⟩ := Option.ne_none_iff_exists'.mp hbad
  rw [hfound, h.unique (isFlaw_of_rootFlaw? hfound)]

theorem distinct_of_parse {text : String} (h : parse text = .ok m) : m.Distinct := by
  obtain ⟨rest, hread⟩ := Json.exists_of_whole h
  exact distinct_of_read hread

theorem exists_isFlaw_of_flaw? (h : m.flaw? = some flaw) : ∃ root ∈ m, IsFlaw root flaw := by
  obtain ⟨root, hroot, hflaw⟩ := List.exists_of_findSome?_eq_some h
  exact ⟨root, hroot, isFlaw_iff.mpr hflaw⟩

theorem Distinct.flaw?_leading (hm : m.Distinct) (hroot : root ∈ m) (hflaw : IsFlaw root flaw) :
    ((Enumeration.leading root.1).order m).flaw? = some flaw := by
  have hfirst : Model.flaw? (m.filter (·.1 == root.1)) = some flaw := by
    refine flaw?_eq_some_of_single (isFlaw_iff.mp hflaw) (by simpa using hroot) ?_
    intro r hr _
    obtain ⟨hr, hkey⟩ := List.mem_filter.mp hr
    exact List.inj_on_of_nodup_map hm hr hroot (eq_of_beq hkey)
  unfold Enumeration.leading
  rw [flaw?] at hfirst ⊢
  rw [List.findSome?_append, hfirst, Option.some_or]

/-- Whether a text loads is the same in all orders. What may be told is the flaw of any root, so it is the same in all
orders just when all roots that have a flaw have the same one. -/
theorem verdict_settled_iff {text : String} {m : Model} (h : parse text = .ok m) :
    (∀ first second : Enumeration, first.verdict text = .ok () ↔ second.verdict text = .ok ()) ∧
    (∀ flaw, (∃ e : Enumeration, e.verdict text = .error (.flawed flaw)) ↔ ∃ root ∈ m, IsFlaw root flaw) ∧
    ((∀ first second : Enumeration, first.verdict text = second.verdict text) ↔
      ∀ root ∈ m, ∀ other ∈ m, ∀ flaw told, IsFlaw root flaw → IsFlaw other told → flaw = told) := by
  have hdistinct := distinct_of_parse h
  have hperm (first second : Enumeration) : (first.order m).Perm (second.order m) :=
    (first.perm m).trans (second.perm m).symm
  have hleading {root : String × Node} (hroot : root ∈ m) {flaw : Flaw} (hflaw : IsFlaw root flaw) :
      (Enumeration.leading root.1).verdict text = .error (.flawed flaw) :=
    (Enumeration.verdict_eq_error_iff h).mpr (hdistinct.flaw?_leading hroot hflaw)
  have htold {e : Enumeration} {flaw : Flaw} (hflaw : (e.order m).flaw? = some flaw) :
      ∃ root ∈ m, IsFlaw root flaw := by
    obtain ⟨root, hroot, hroot'⟩ := exists_isFlaw_of_flaw? hflaw
    exact ⟨root, (e.perm m).mem_iff.mp hroot, hroot'⟩
  refine ⟨fun first second => ?_, fun flaw => ⟨?_, ?_⟩, ?_, ?_⟩
  · rw [Enumeration.verdict_eq_ok_iff h, Enumeration.verdict_eq_ok_iff h]
    exact flaw?_eq_none_of_perm (hperm first second)
  · rintro ⟨e, he⟩
    exact htold ((Enumeration.verdict_eq_error_iff h).mp he)
  · rintro ⟨root, hroot, hflaw⟩
    exact ⟨_, hleading hroot hflaw⟩
  · intro hsame root hroot other hother flaw told hflaw htold
    have hboth := hsame (.leading root.1) (.leading other.1)
    rw [hleading hroot hflaw, hleading hother htold] at hboth
    exact LoadError.flawed.inj (Except.error.inj hboth)
  · intro hall first second
    rw [Enumeration.verdict_eq h, Enumeration.verdict_eq h]
    cases hfirst : (first.order m).flaw? with
    | none => rw [(flaw?_eq_none_of_perm (hperm first second)).mp hfirst]
    | some flaw =>
      cases hsecond : (second.order m).flaw? with
      | none => simp [(flaw?_eq_none_of_perm (hperm first second)).mpr hsecond] at hfirst
      | some told =>
        obtain ⟨root, hroot, hflaw⟩ := htold hfirst
        obtain ⟨other, hother, hother'⟩ := htold hsecond
        rw [hall root hroot other hother flaw told hflaw hother']

theorem parse_render (hm : m.Distinct) (hnumbers : m.numbers = []) (hdepth : m.toJson.depth ≤ Json.nestingLimit) :
    parse (Json.render m.toJson) = .ok m :=
  Json.whole_of_append (read_write hm ⟨hdepth, by simp [numbers_toJson, hnumbers]⟩ [])

/-- The same object is wrong in both roots. -/
def twinModel : Model := [
  ("p.All", .array (.object "p.One" [⟨"id", .any, ""⟩, ⟨"id", .date, ""⟩])),
  ("p.One", .object "p.One" [⟨"id", .any, ""⟩, ⟨"id", .date, ""⟩])]

theorem verdict_settled_twin : parse (Json.render twinModel.toJson) = .ok twinModel ∧
    (∀ root ∈ twinModel, IsFlaw root (.duplicateField "p.One" "id")) ∧
    ∀ first second : Enumeration,
      first.verdict (Json.render twinModel.toJson) = second.verdict (Json.render twinModel.toJson) := by
  have hdistinct : twinModel.Distinct := by
    unfold Distinct
    decide
  have hparse := parse_render hdistinct (by simp [numbers, twinModel, Node.numbers, Node.numbersOfEntries])
    (by decide +kernel)
  have hflaws : ∀ root ∈ twinModel, rootFlaw? root = some (.duplicateField "p.One" "id") := by
    intro root hroot
    rcases List.mem_pair.mp hroot with rfl | rfl <;> decide +kernel
  refine ⟨hparse, fun root hroot => isFlaw_iff.mpr (hflaws root hroot), ?_⟩
  refine (verdict_settled_iff hparse).2.2.mpr ?_
  intro root hroot other hother flaw told hflaw htold
  rw [isFlaw_iff, hflaws root hroot] at hflaw
  rw [isFlaw_iff, hflaws other hother] at htold
  exact Option.some.inj (hflaw.symm.trans htold)

/-- Both roots lack an identifier, and each is the one that is told in one of the two orders. -/
theorem verdict_wavers : ¬∀ (text : String) (m : Model), parse text = .ok m →
    ∀ first second : Enumeration, first.verdict text = second.verdict text := by
  intro h
  let m : Model := [("p.", .any), ("q.", .any)]
  have hdistinct : m.Distinct := by
    unfold Distinct
    decide
  have hparse : parse (Json.render m.toJson) = .ok m :=
    parse_render hdistinct (by simp [numbers, m, Node.numbers]) (by decide +kernel)
  have hfirst : Enumeration.given.verdict (Json.render m.toJson) = .error (.flawed (.emptyRootName "p.")) :=
    (Enumeration.verdict_eq_error_iff hparse).mpr (by decide +kernel)
  have hsecond : (Enumeration.leading "q.").verdict (Json.render m.toJson) =
      .error (.flawed (.emptyRootName "q.")) :=
    (Enumeration.verdict_eq_error_iff hparse).mpr (by decide +kernel)
  have hsame := h _ _ hparse .given (.leading "q.")
  rw [hfirst, hsecond] at hsame
  simp at hsame

end Model
end Declgen
