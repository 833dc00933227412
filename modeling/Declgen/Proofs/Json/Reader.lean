import Declgen.Json.Reader

/-!
# Readers, step by step

What a reader of the members of an object keeps: a property that holds at the start, and that every member
keeps, holds at the end.
-/

namespace Declgen

theorem bind_eq_ok_iff {ε α β : Type} {x : Except ε α} {f : α → Except ε β} {b : β} :
    (x >>= f) = .ok b ↔ ∃ a, x = .ok a ∧ f a = .ok b := by
  cases x with
  | error e => simp [bind, Except.bind]
  | ok a => simp [bind, Except.bind]

theorem toOption_eq_some_iff {ε α : Type} {x : Except ε α} {a : α} : x.toOption = some a ↔ x = .ok a := by
  cases x <;> simp [Except.toOption]

theorem exists_eq_ok_of_toOption {ε α : Type} {x : Except ε α} (h : x.toOption.isSome = true) : ∃ a, x = .ok a := by
  obtain ⟨a, ha⟩ := Option.isSome_iff_exists.mp h
  exact ⟨a, toOption_eq_some_iff.mp ha⟩

@[simp] theorem ok_bind {ε α β : Type} (a : α) (f : α → Except ε β) : (Except.ok a >>= f) = f a := rfl

@[simp] theorem error_bind {ε α β : Type} (e : ε) (f : α → Except ε β) :
    ((Except.error e : Except ε α) >>= f) = .error e := rfl

@[simp] theorem map_eq_ok {ε α β : Type} (f : α → β) (a : α) : f <$> (Except.ok a : Except ε α) = .ok (f a) := rfl

@[simp] theorem pure_eq_ok {ε α : Type} (a : α) : (pure a : Except ε α) = .ok a := rfl

namespace Json

variable {σ : Type} {P : σ → Prop}

theorem loop_keeps {step : σ → Reader (σ × Bool)}
    (hstep : ∀ s cs t last rest, P s → step s cs = .ok ((t, last), rest) → P t)
    {budget cs rest : List Char} {s t : σ} (hs : P s) (h : loop step budget s cs = .ok (t, rest)) : P t := by
  induction budget generalizing s cs with
  | nil =>
    rw [loop, bind_eq_ok_iff] at h
    obtain ⟨⟨⟨u, last⟩, cs'⟩, hu, hout⟩ := h
    cases last with
    | true =>
      obtain ⟨rfl, rfl⟩ := Prod.mk.inj (Except.ok.inj hout)
      exact hstep _ _ _ _ _ hs hu
    | false => simp at hout
  | cons c budget ih =>
    rw [loop, bind_eq_ok_iff] at h
    obtain ⟨⟨⟨u, last⟩, cs'⟩, hu, hout⟩ := h
    have hkept := hstep _ _ _ _ _ hs hu
    cases last with
    | true =>
      obtain ⟨rfl, rfl⟩ := Prod.mk.inj (Except.ok.inj hout)
      exact hkept
    | false => exact ih hkept hout

theorem members_keeps {member : σ → String → Reader σ}
    (hmember : ∀ s key cs t rest, P s → member s key cs = .ok (t, rest) → P t)
    {cs rest : List Char} {s t : σ} (hs : P s) (h : members member s cs = .ok (t, rest)) : P t := by
  unfold members at h
  obtain ⟨⟨⟨first, u⟩, cs'⟩, hloop, hout⟩ := bind_eq_ok_iff.mp h
  obtain ⟨rfl, rfl⟩ := Prod.mk.inj (Except.ok.inj hout)
  refine loop_keeps (P := fun s : Bool × σ => P s.2) ?_ hs hloop
  intro s cs t last rest hs hstep
  unfold memberStep at hstep
  obtain ⟨next, hnext, hstep⟩ := bind_eq_ok_iff.mp hstep
  cases next with
  | none =>
    obtain ⟨hout, -⟩ := Prod.mk.inj (Except.ok.inj hstep)
    obtain ⟨rfl, -⟩ := Prod.mk.inj hout
    exact hs
  | some keyText =>
    obtain ⟨⟨key, afterKey⟩, hkey, hstep⟩ := bind_eq_ok_iff.mp hstep
    obtain ⟨⟨v, afterMember⟩, hv, hstep⟩ := bind_eq_ok_iff.mp hstep
    obtain ⟨hout, -⟩ := Prod.mk.inj (Except.ok.inj hstep)
    obtain ⟨rfl, -⟩ := Prod.mk.inj hout
    exact hmember _ _ _ _ _ hs hv

theorem mismatch_ne_ok {α : Type} (expected : String) (cs : List Char) (out : α × List Char) :
    mismatch expected cs ≠ .ok out := by
  intro h
  unfold mismatch at h
  split at h
  · simp at h
  · simp at h
  · obtain ⟨_, _, hout⟩ := bind_eq_ok_iff.mp h
    simp at hout

theorem exists_of_whole {α : Type} {reader : Reader α} {text : String} {a : α}
    (h : whole reader text = .ok a) : ∃ rest, reader text.toList = .ok (a, rest) := by
  obtain ⟨⟨b, rest⟩, hread, hout⟩ := bind_eq_ok_iff.mp h
  dsimp only at hout
  split at hout
  · exact ⟨rest, Except.ok.inj hout ▸ hread⟩
  · simp at hout

end Json

end Declgen
