import HomeMagic.Discipline

/-! Programs that run alone: what all their executions end in when no one else acts
between their calls. -/
namespace HomeMagic

namespace Program
variable {Call : Type} {Response : Call → Type} {α β γ σ : Type} {handler : Handler Call Response σ}

/-- Every execution of the program from a state ends in `Q`. -/
def Ensures (handler : Handler Call Response σ) : Program Call Response α → (α → σ → Prop) → σ → Prop
  | done a, Q, s => Q a s
  | call c next, Q, s => ∀ r s', handler c s r s' → (next r).Ensures handler Q s'

variable {p : Program Call Response α} {s : σ} {Q Q' : α → σ → Prop} {T : σ → σ → Prop}

theorem Ensures.mono (h : p.Ensures handler Q s) (hq : ∀ a s, Q a s → Q' a s) : p.Ensures handler Q' s := by
  induction p generalizing s with
  | done a => exact hq a s h
  | call c next ih => exact fun r s' hh => ih r (h r s' hh)

theorem Ensures.bind {f : α → Program Call Response β} {Q : β → σ → Prop}
    (h : p.Ensures handler (fun a s => (f a).Ensures handler Q s) s) :
    (p.bind f).Ensures handler Q s := by
  induction p generalizing s with
  | done a => exact h
  | call c next ih => exact fun r s' hh => ih r (h r s' hh)

theorem Ensures.and (h : p.Ensures handler Q s) (h' : p.Ensures handler Q' s) :
    p.Ensures handler (fun a s => Q a s ∧ Q' a s) s := by
  induction p generalizing s with
  | done a => exact ⟨h, h'⟩
  | call c next ih => exact fun r s' hh => ih r (h r s' hh) (h' r s' hh)

theorem Ensures.of_obeys {d : Discipline Call Response γ} {Inv : σ → γ → Prop} (hrefl : ∀ s, T s s)
    (htrans : ∀ a b c, T a b → T b c → T a c) (hvalid : ∀ c s r s', handler c s r s' → d.valid c r)
    (hcall : ∀ g c s r s', d.allows g c → handler c s r s' → Inv s g → Inv s' (d.move g c r) ∧ T s s')
    {Q : α → γ → Prop} {g : γ} (hp : p.Obeys d Q g) (hi : Inv s g) :
    p.Ensures handler (fun _ s' => (∃ g', Inv s' g') ∧ T s s') s := by
  induction p generalizing g s with
  | done a => exact ⟨⟨g, hi⟩, hrefl s⟩
  | call c next ih =>
    intro r s' hh
    obtain ⟨hi', ht⟩ := hcall g c s r s' hp.1 hh hi
    apply (ih r (hp.2 r (hvalid c s r s' hh)) hi').mono
    rintro a s'' ⟨hg, ht'⟩
    exact ⟨hg, htrans s s' s'' ht ht'⟩

theorem Ensures.of_calls (hrefl : ∀ s, T s s) (htrans : ∀ a b c, T a b → T b c → T a c)
    (hcall : ∀ c s r s', handler c s r s' → T s s') (p : Program Call Response α) (s : σ) :
    p.Ensures handler (fun _ s' => T s s') s := by
  induction p generalizing s with
  | done a => exact hrefl s
  | call c next ih =>
    intro r s' hh
    apply (ih r s').mono
    exact fun _ s'' ht => htrans s s' s'' (hcall c s r s' hh) ht

theorem Ensures.completes {s' : σ} {a : α} {trace : List (Made Call σ)} (h : p.Ensures handler Q s)
    (hrun : Completes handler Eq p s trace a s') : Q a s' := by
  induction hrun with
  | done a s => exact h
  | call hr hh _ ih =>
    subst hr
    exact ih (h _ _ hh)

def Throughout (apply : (c : Call) → σ → Response c × σ) (P : σ → Prop) : Program Call Response α → σ → Prop
  | done _, s => P s
  | call c next, s => P s ∧ (next (apply c s).1).Throughout apply P (apply c s).2

section Throughout
variable {apply : (c : Call) → σ → Response c × σ} {P P' : σ → Prop}

theorem Throughout.mono (h : p.Throughout apply P s) (hp : ∀ s, P s → P' s) : p.Throughout apply P' s := by
  induction p generalizing s with
  | done a => exact hp s h
  | call c next ih => exact ⟨hp s h.1, ih (apply c s).1 h.2⟩

theorem Throughout.runFor (h : p.Throughout apply P s) (k : ℕ) : P (p.runFor apply k s).2 := by
  induction k generalizing p s with
  | zero => cases p with
    | done a => exact h
    | call c next => exact h.1
  | succ k ih => cases p with
    | done a => exact h
    | call c next => exact ih h.2

theorem Throughout.bind {f : α → Program Call Response β} (h : p.Throughout apply P s)
    (hf : (f (p.run apply s).1).Throughout apply P (p.run apply s).2) : (p.bind f).Throughout apply P s := by
  induction p generalizing s with
  | done a => exact hf
  | call c next ih => exact ⟨h.1, ih (apply c s).1 h.2 hf⟩

theorem Throughout.last (h : p.Throughout apply P s) : P (p.run apply s).2 := by
  induction p generalizing s with
  | done a => exact h
  | call c next ih => exact ih (apply c s).1 h.2

/-- A program whose calls leave the state alone passes through no other state. -/
theorem Throughout.of_calls {C : Call → Prop} (hcall : ∀ c s, C c → (apply c s).2 = s) (hp : p.Calls C) (h : P s) :
    p.Throughout apply P s := by
  induction p with
  | done a => exact h
  | call c next ih =>
    refine ⟨h, ?_⟩
    rw [hcall c s hp.1]
    exact ih (apply c s).1 (hp.2 (apply c s).1)

end Throughout

theorem Completes.of_permitted {R : σ → σ → Prop} {apply : (c : Call) → σ → Response c × σ}
    {A : Call → σ → Prop} (hrefl : ∀ s, R s s)
    (hh : ∀ c s, A c s → handler c s (apply c s).1 (apply c s).2) (p : Program Call Response α) (s : σ)
    (ha : p.Permitted apply A s) :
    ∃ trace, Completes handler R p s trace (p.run apply s).1 (p.run apply s).2 := by
  induction p generalizing s with
  | done a => exact ⟨[], .done a s⟩
  | call c next ih =>
    obtain ⟨trace, h⟩ := ih (apply c s).1 (apply c s).2 ha.2
    exact ⟨_, .call (hrefl s) (hh c s ha.1) h⟩

end Program

namespace Fallible
variable {Call : Type} {Response : Call → Type} {ε ε' α β σ : Type} {handler : Handler Call Response σ}

def Succeeds (handler : Handler Call Response σ) (x : ExceptT ε (Program Call Response) α)
    (Q : α → σ → Prop) (s : σ) : Prop :=
  x.run.Ensures handler (fun result s' => ∃ a, result = .ok a ∧ Q a s') s

variable {x : ExceptT ε (Program Call Response) α}

theorem Succeeds.mono {Q Q' : α → σ → Prop} {s : σ} (h : Succeeds handler x Q s) (hq : ∀ a s, Q a s → Q' a s) :
    Succeeds handler x Q' s := by
  apply Program.Ensures.mono h
  rintro result s' ⟨a, hresult, ha⟩
  exact ⟨a, hresult, hq a s' ha⟩

theorem succeeds_pure {a : α} {Q : α → σ → Prop} {s : σ} (h : Q a s) :
    Succeeds handler (pure a : ExceptT ε (Program Call Response) α) Q s := ⟨a, rfl, h⟩

theorem succeeds_bind {f : α → ExceptT ε (Program Call Response) β} {Q : β → σ → Prop} {s : σ}
    (h : Succeeds handler x (fun a s' => Succeeds handler (f a) Q s') s) :
    Succeeds handler (x >>= f) Q s := by
  unfold Succeeds
  rw [run_bind]
  apply Program.Ensures.bind
  apply Program.Ensures.mono h
  rintro result s' ⟨a, rfl, ha⟩
  exact ha

theorem Succeeds.and {Q : α → σ → Prop} {Q' : Except ε α → σ → Prop} {s : σ} (h : Succeeds handler x Q s)
    (h' : x.run.Ensures handler Q' s) :
    Succeeds handler x (fun a s' => Q a s' ∧ Q' (.ok a) s') s := by
  apply (Program.Ensures.and h h').mono
  rintro result s' ⟨⟨a, rfl, ha⟩, ha'⟩
  exact ⟨a, rfl, ha, ha'⟩

theorem throughout_attempt {apply : (c : Call) → σ → Response c × σ} {P : σ → Prop} {s : σ} {wrap : ε → ε'}
    {p : Program Call Response (Except ε α)} (h : p.Throughout apply P s) :
    (attempt wrap p : ExceptT ε' (Program Call Response) α).run.Throughout apply P s := by
  apply h.bind
  cases (p.run apply s).1 <;> exact h.last

theorem throughout_bind {apply : (c : Call) → σ → Response c × σ} {P : σ → Prop}
    {f : α → ExceptT ε (Program Call Response) β} {a : α} {s s' : σ} (hx : execute apply x s = (.ok a, s'))
    (h : x.run.Throughout apply P s) (hf : (f a).run.Throughout apply P s') :
    (x >>= f).run.Throughout apply P s := by
  unfold execute at hx
  rw [run_bind]
  apply h.bind
  rw [hx]
  exact hf

end Fallible
end HomeMagic
