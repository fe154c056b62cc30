import HomeMagic.Interleaving

/-! Programs under a discipline: each program carries a ghost value that its calls
and their responses move, and may make a call only when the ghost value allows it.
An invariant that ties the shared state to the ghost values of all programs in
progress then holds in every interleaving. -/
namespace HomeMagic

/-- Which responses occur, which calls a ghost value allows and how it moves. -/
structure Discipline (Call : Type) (Response : Call → Type) (γ : Type) where
  valid : (c : Call) → Response c → Prop
  allows : γ → Call → Prop
  move : γ → (c : Call) → Response c → γ

namespace Program
variable {Call : Type} {Response : Call → Type} {α β γ σ : Type} {d : Discipline Call Response γ}
variable {p : Program Call Response α} {R : σ → σ → Prop} {g : γ} {handler : Handler Call Response σ}
  {Q : α → γ → Prop} {apply : (c : Call) → σ → Response c × σ} {f : α → Program Call Response β} {s : σ}

/-- From the ghost value `g` on the program keeps to the discipline and ends in `Q`. -/
def Obeys (d : Discipline Call Response γ) : Program Call Response α → (α → γ → Prop) → γ → Prop
  | done a, Q, g => Q a g
  | call c next, Q, g => d.allows g c ∧ ∀ r, d.valid c r → (next r).Obeys d Q (d.move g c r)

theorem Obeys.mono {Q' : α → γ → Prop} (h : p.Obeys d Q g) (hq : ∀ a g, Q a g → Q' a g) : p.Obeys d Q' g := by
  induction p generalizing g with
  | done a => exact hq a g h
  | call c next ih => exact ⟨h.1, fun r hr => ih r (h.2 r hr)⟩

theorem Obeys.bind {Q : β → γ → Prop} (h : p.Obeys d (fun a g => (f a).Obeys d Q g) g) :
    (p.bind f).Obeys d Q g := by
  induction p generalizing g with
  | done a => exact h
  | call c next ih => exact ⟨h.1, fun r hr => ih r (h.2 r hr)⟩

/-- The calls of a program, each with the state in which it is made, while others
act along `R` between them; the program may be abandoned anywhere. -/
inductive Performs (handler : Handler Call Response σ) (R : σ → σ → Prop) :
    Program Call Response α → σ → List (σ × Call) → Prop
  | stops (p : Program Call Response α) (s : σ) : Performs handler R p s []
  | acts {c : Call} {next : Response c → Program Call Response α} {s s₁ s₂ : σ} {r : Response c}
      {trace : List (σ × Call)} (hr : R s s₁) (hh : handler c s₁ r s₂)
      (h : Performs handler R (next r) s₂ trace) :
      Performs handler R (.call c next) s ((s₁, c) :: trace)

theorem Obeys.transfer {δ : Type} {g' : δ} (h : p.Obeys d Q g) (d' : Discipline Call Response δ) (J : γ → δ → Prop)
    (hvalid : ∀ c r, d'.valid c r → d.valid c r) (hallows : ∀ g g' c, J g g' → d.allows g c → d'.allows g' c)
    (hmove : ∀ g g' c r, J g g' → J (d.move g c r) (d'.move g' c r)) (hj : J g g') :
    p.Obeys d' (fun a g' => ∃ g, J g g' ∧ Q a g) g' := by
  induction p generalizing g g' with
  | done a => exact ⟨g, hj, h⟩
  | call c next ih =>
    exact ⟨hallows g g' c hj h.1, fun r hr => ih r (h.2 r (hvalid c r hr)) (hmove g g' c r hj)⟩

structure Made (Call σ : Type) where
  before : σ
  call : Call
  after : σ

/-- Whole executions of a program, with the calls it made, its result and the state
its last call left, while others act along `R` between its calls. -/
inductive Completes (handler : Handler Call Response σ) (R : σ → σ → Prop) :
    Program Call Response α → σ → List (Made Call σ) → α → σ → Prop
  | done (a : α) (s : σ) : Completes handler R (.done a) s [] a s
  | call {c : Call} {next : Response c → Program Call Response α} {s s₁ s₂ s' : σ} {r : Response c}
      {trace : List (Made Call σ)} {a : α} (hr : R s s₁) (hh : handler c s₁ r s₂)
      (h : Completes handler R (next r) s₂ trace a s') :
      Completes handler R (.call c next) s (⟨s₁, c, s₂⟩ :: trace) a s'

theorem Completes.of_bind {s' : σ} {trace : List (Made Call σ)} {b : β}
    (h : Completes handler R (p.bind f) s trace b s') :
    ∃ trace₁ a s₁ trace₂, trace = trace₁ ++ trace₂ ∧ Completes handler R p s trace₁ a s₁ ∧
      Completes handler R (f a) s₁ trace₂ b s' := by
  induction p generalizing s trace with
  | done a => exact ⟨[], a, s, trace, rfl, .done a s, h⟩
  | call c next ih =>
    cases h with
    | call hr hh h =>
      obtain ⟨trace₁, a, s₁, trace₂, rfl, hp, hf⟩ := ih _ h
      exact ⟨_ :: trace₁, a, s₁, trace₂, rfl, .call hr hh hp, hf⟩

theorem Completes.of_run (hrefl : ∀ s, R s s) (hh : ∀ c s, handler c s (apply c s).1 (apply c s).2)
    (p : Program Call Response α) (s : σ) :
    ∃ trace, Completes handler R p s trace (p.run apply s).1 (p.run apply s).2 := by
  induction p generalizing s with
  | done a => exact ⟨[], .done a s⟩
  | call c next ih =>
    obtain ⟨trace, h⟩ := ih (apply c s).1 (apply c s).2
    exact ⟨_, .call (hrefl s) (hh c s) h⟩

def trace (apply : (c : Call) → σ → Response c × σ) :
    Program Call Response α → σ → List (σ × Call)
  | done _, _ => []
  | call c next, s => (s, c) :: (next (apply c s).1).trace apply (apply c s).2

theorem Performs.of_trace (hrefl : ∀ s, R s s) (hh : ∀ c s, handler c s (apply c s).1 (apply c s).2)
    (p : Program Call Response α) (s : σ) :
    Performs handler R p s (p.trace apply s) := by
  induction p generalizing s with
  | done a => exact .stops _ s
  | call c next ih => exact .acts (hrefl s) (hh c s) (ih _ _)

theorem Performs.allowed {J : γ → Prop} (hvalid : ∀ c s r s', handler c s r s' → d.valid c r)
    (hmove : ∀ g c r, J g → J (d.move g c r)) {trace : List (σ × Call)} (h : Performs handler R p s trace)
    (hp : p.Obeys d Q g) (hj : J g) : ∀ made ∈ trace, ∃ g, J g ∧ d.allows g made.2 := by
  induction h generalizing g with
  | stops p s => exact fun made hmade => absurd hmade List.not_mem_nil
  | @acts c next s s₁ s₂ r trace hr hh h ih =>
    intro made hmade
    rcases List.mem_cons.mp hmade with rfl | hmade
    · exact ⟨g, hj, hp.1⟩
    · exact ih (hp.2 r (hvalid _ _ _ _ hh)) (hmove g c r hj) made hmade

end Program

namespace Fallible
variable {Call : Type} {Response : Call → Type} {ε α β γ : Type} {d : Discipline Call Response γ}
variable {x : ExceptT ε (Program Call Response) α}

theorem obeys_bind_any {f : α → ExceptT ε (Program Call Response) β} {Q : Except ε β → γ → Prop} {g : γ}
    (h : x.run.Obeys d (fun result g => match result with
      | .ok a => (f a).run.Obeys d Q g
      | .error error => Q (.error error) g) g) :
    (x >>= f).run.Obeys d Q g := by
  rw [run_bind]
  apply Program.Obeys.bind
  apply h.mono
  intro result g' hresult
  cases result with
  | ok a => exact hresult
  | error error => exact hresult

theorem obeys_bind {f : α → ExceptT ε (Program Call Response) β} {Q : β → γ → Prop} {g : γ}
    (h : x.run.Obeys d (OnOk (fun a g => (f a).run.Obeys d (OnOk Q) g)) g) :
    (x >>= f).run.Obeys d (OnOk Q) g := by
  apply obeys_bind_any
  apply h.mono
  intro result g' hresult
  cases result with
  | ok a => exact hresult a rfl
  | error error =>
    intro a ha
    cases ha

theorem obeys_pure {a : α} {Q : α → γ → Prop} {g : γ} (h : Q a g) :
    (pure a : ExceptT ε (Program Call Response) α).run.Obeys d (OnOk Q) g := by
  intro b hb
  cases hb
  exact h

theorem obeys_throw {error : ε} {Q : α → γ → Prop} {g : γ} :
    (throw error : ExceptT ε (Program Call Response) α).run.Obeys d (OnOk Q) g := by
  intro b hb
  cases hb

theorem completes_bind {σ : Type} {handler : Handler Call Response σ} {R : σ → σ → Prop}
    {f : α → ExceptT ε (Program Call Response) β} {s s' : σ} {trace : List (Program.Made Call σ)}
    {result : Except ε β} (h : (x >>= f).run.Completes handler R s trace result s') :
    (∃ error, result = .error error ∧ x.run.Completes handler R s trace (.error error) s') ∨
    ∃ trace₁ a s₁ trace₂, trace = trace₁ ++ trace₂ ∧ x.run.Completes handler R s trace₁ (.ok a) s₁ ∧
      (f a).run.Completes handler R s₁ trace₂ result s' := by
  rw [run_bind] at h
  obtain ⟨trace₁, first, s₁, trace₂, rfl, hx, hf⟩ := h.of_bind
  cases first with
  | ok a => exact .inr ⟨trace₁, a, s₁, trace₂, rfl, hx, hf⟩
  | error error =>
    cases hf with
    | done => exact .inl ⟨error, rfl, by rwa [List.append_nil]⟩

end Fallible

namespace Interleaves
variable {Call : Type} {Response : Call → Type} {σ α γ : Type} {rules : Rules Call Response σ α}
  {d : Discipline Call Response γ}
variable {C : σ → Prop} {Inv : σ → List γ → Prop} {initial : γ → Prop} {reached start : Processes Call Response σ α}

abbrev Disciplined {β : Type} (d : Discipline Call Response γ) (programs : List (Program Call Response β))
    (ghosts : List γ) : Prop :=
  List.Forall₂ (fun p g => p.Obeys d (fun _ _ => True) g) programs ghosts

abbrev DisciplinedTo {β : Type} (d : Discipline Call Response γ) (Q : β → γ → Prop)
    (programs : List (Program Call Response β)) (ghosts : List γ) : Prop :=
  List.Forall₂ (fun p g => p.Obeys d Q g) programs ghosts

theorem DisciplinedTo.split {β : Type} {Q : β → γ → Prop} {before after : List (Program Call Response β)}
    {p : Program Call Response β} {gs : List γ} (h : DisciplinedTo d Q (before ++ p :: after) gs) :
    ∃ gs₁ g gs₂, gs = gs₁ ++ g :: gs₂ ∧ DisciplinedTo d Q before gs₁ ∧
      p.Obeys d Q g ∧ DisciplinedTo d Q after gs₂ := by
  induction before generalizing gs with
  | nil =>
    cases h with
    | cons hobeys hafter => exact ⟨[], _, _, rfl, .nil, hobeys, hafter⟩
  | cons q before ih =>
    cases h with
    | cons hq hrest =>
      obtain ⟨gs₁, g, gs₂, rfl, hbefore, hobeys, hafter⟩ := ih hrest
      exact ⟨_ :: gs₁, g, gs₂, rfl, .cons hq hbefore, hobeys, hafter⟩

def Within (rules : Rules Call Response σ α) (C : σ → Prop) (p p' : Processes Call Response σ α) :
    Prop :=
  Interleaves rules p p' ∧ (p'.clients = [] → C p.state)

theorem disciplined_within {initial : γ → Prop} {Inv : σ → List γ → Prop} {C : σ → Prop}
    {Q : Unit → γ → Prop} (hmain : ∀ p, ¬ rules.main p)
    (hclient : ∀ p, rules.client p → ∃ g, initial g ∧ p.Obeys d Q g)
    (hvalid : ∀ c s r s', rules.handler c s r s' → d.valid c r)
    (hstart : ∀ s gs g, initial g → Inv s gs → Inv s (g :: gs))
    (hcall : ∀ c s r s' before after g, d.allows g c → rules.handler c s r s' →
      Inv s (before ++ g :: after) → Inv s' (before ++ d.move g c r :: after))
    (hcrash : ∀ s gs, C s → Inv s gs → Inv s [])
    {start reached : Processes Call Response σ α}
    (hrun : Relation.ReflTransGen (Within rules C) start reached)
    (hinv : Inv start.state []) (hidle : start.main = none) (hquiet : start.clients = []) :
    reached.main = none ∧ ∃ gs, Inv reached.state gs ∧ DisciplinedTo d Q reached.clients gs := by
  induction hrun with
  | refl => exact ⟨hidle, [], hinv, hquiet ▸ .nil⟩
  | tail _ hstep ih =>
    obtain ⟨hnone, gs, hi, hall⟩ := ih
    obtain ⟨hacts, hlost⟩ := hstep
    cases hacts with
    | start hp => exact absurd hp (hmain _)
    | advance => cases hnone
    | finish => cases hnone
    | request hp =>
      obtain ⟨g, hg, hobeys⟩ := hclient _ hp
      exact ⟨hnone, g :: gs, hstart _ _ g hg hi, .cons hobeys hall⟩
    | @serve s s' main before after c next r ha hh =>
      obtain ⟨gs₁, g, gs₂, rfl, hbefore, hobeys, hafter⟩ := DisciplinedTo.split hall
      have hnext := hobeys.2 r (hvalid c s r s' hh)
      exact ⟨hnone, gs₁ ++ d.move g c r :: gs₂, hcall c s r s' gs₁ gs₂ g hobeys.1 hh hi,
        List.rel_append hbefore (.cons hnext hafter)⟩
    | crash => exact ⟨rfl, [], hcrash _ _ (hlost rfl) hi, .nil⟩

theorem disciplined (hmain : ∀ p, ¬ rules.main p)
    (hclient : ∀ p, rules.client p → ∃ g, initial g ∧ p.Obeys d (fun _ _ => True) g)
    (hvalid : ∀ c s r s', rules.handler c s r s' → d.valid c r)
    (hstart : ∀ s gs g, initial g → Inv s gs → Inv s (g :: gs))
    (hcall : ∀ c s r s' before after g, d.allows g c → rules.handler c s r s' →
      Inv s (before ++ g :: after) → Inv s' (before ++ d.move g c r :: after))
    (hcrash : ∀ s gs, Inv s gs → Inv s []) (hrun : Relation.ReflTransGen (Interleaves rules) start reached)
    (hinv : Inv start.state []) (hidle : start.main = none) (hquiet : start.clients = []) :
    reached.main = none ∧ ∃ gs, Inv reached.state gs ∧ Disciplined d reached.clients gs := by
  have hwithin : Relation.ReflTransGen (Within rules (fun _ => True)) start reached :=
    Relation.ReflTransGen.mono (fun _ _ hstep => ⟨hstep, fun _ => trivial⟩) _ _ hrun
  exact disciplined_within hmain hclient hvalid hstart hcall (fun s gs _ => hcrash s gs) hwithin hinv
    hidle hquiet

/-- A client goes on by so many calls. -/
theorem within_of_runFor {C : σ → Prop} {apply : (c : Call) → σ → Response c × σ} {A : Call → σ → Prop}
    (hh : ∀ c s, A c s → rules.clientAllowed c s ∧ rules.handler c s (apply c s).1 (apply c s).2)
    (k : ℕ) (p : Program Call Response Unit) (s : σ) (ha : p.PermittedFor apply A k s)
    (main : Option (Program Call Response α)) (before after : List (Program Call Response Unit)) :
    Relation.ReflTransGen (Within rules C) ⟨s, main, before ++ p :: after⟩
      ⟨(p.runFor apply k s).2, main, before ++ (p.runFor apply k s).1 :: after⟩ := by
  induction k generalizing p s with
  | zero => exact .refl
  | succ k ih =>
    cases p with
    | done a => exact .refl
    | call c next =>
      obtain ⟨hallowed, hhandled⟩ := hh c s ha.1
      have hstays : before ++ next (apply c s).1 :: after ≠ [] := by simp
      exact .head ⟨.serve hallowed hhandled, fun hnil => absurd hnil hstays⟩ (ih _ _ ha.2)

end Interleaves
end HomeMagic
