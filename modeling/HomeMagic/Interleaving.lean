import Mathlib

/-! Programs whose calls are atomic on a shared state, and what holds however the
calls of several programs interleave. -/
namespace HomeMagic
open List

inductive Program (Call : Type) (Response : Call → Type) (α : Type)
  | done (value : α)
  | call (c : Call) (next : Response c → Program Call Response α)

abbrev Handler (Call : Type) (Response : Call → Type) (σ : Type) :=
  (c : Call) → σ → Response c → σ → Prop

/-- A handler that also lists, call by call, what an observer sees of each of them. -/
def Handler.tracking {Call : Type} {Response : Call → Type} {σ τ : Type}
    (handler : Handler Call Response σ) (observe : (c : Call) → Response c → σ → σ → List τ) :
    Handler Call Response (σ × List τ) :=
  fun c s r s' => handler c s.1 r s'.1 ∧ s'.2 = s.2 ++ observe c r s.1 s'.1

def trackingApply {Call : Type} {Response : Call → Type} {σ τ : Type}
    (apply : (c : Call) → σ → Response c × σ) (observe : (c : Call) → Response c → σ → σ → List τ)
    (c : Call) (s : σ × List τ) : Response c × (σ × List τ) :=
  ((apply c s.1).1, (apply c s.1).2, s.2 ++ observe c (apply c s.1).1 s.1 (apply c s.1).2)

theorem trackingApply_handles {Call : Type} {Response : Call → Type} {σ τ : Type}
    {handler : Handler Call Response σ} {apply : (c : Call) → σ → Response c × σ}
    (hh : ∀ c s, handler c s (apply c s).1 (apply c s).2)
    (observe : (c : Call) → Response c → σ → σ → List τ) (c : Call) (s : σ × List τ) :
    handler.tracking observe c s (trackingApply apply observe c s).1 (trackingApply apply observe c s).2 :=
  ⟨hh c s.1, rfl⟩

namespace Program
variable {Call : Type} {Response : Call → Type} {α β σ : Type}
variable {p : Program Call Response α} {P : Call → Prop} {Q : α → σ → Prop}

def bind : Program Call Response α → (α → Program Call Response β) → Program Call Response β
  | done a, f => f a
  | call c next, f => call c (fun r => (next r).bind f)

instance : Monad (Program Call Response) where
  pure := done
  bind := bind

theorem bind_done (p : Program Call Response α) : p.bind done = p := by
  induction p with
  | done a => rfl
  | call c next ih => exact congrArg (call c) (funext ih)

theorem bind_bind {γ : Type} (p : Program Call Response α) (f : α → Program Call Response β)
    (g : β → Program Call Response γ) : (p.bind f).bind g = p.bind (fun a => (f a).bind g) := by
  induction p with
  | done a => rfl
  | call c next ih => exact congrArg (call c) (funext ih)

instance : LawfulMonad (Program Call Response) :=
  LawfulMonad.mk' _ bind_done (fun _ _ => rfl) bind_bind

def perform (c : Call) : Program Call Response (Response c) := call c done

def run (apply : (c : Call) → σ → Response c × σ) : Program Call Response α → σ → α × σ
  | done a, s => (a, s)
  | call c next, s => (next (apply c s).1).run apply (apply c s).2

def runFor (apply : (c : Call) → σ → Response c × σ) :
    ℕ → Program Call Response α → σ → Program Call Response α × σ
  | k + 1, call c next, s => (next (apply c s).1).runFor apply k (apply c s).2
  | _, p, s => (p, s)

def PermittedFor (apply : (c : Call) → σ → Response c × σ) (A : Call → σ → Prop) :
    ℕ → Program Call Response α → σ → Prop
  | k + 1, call c next, s => A c s ∧ (next (apply c s).1).PermittedFor apply A k (apply c s).2
  | _, _, _ => True

instance PermittedFor.decidable (apply : (c : Call) → σ → Response c × σ) (A : Call → σ → Prop)
    [∀ c s, Decidable (A c s)] :
    ∀ (k : ℕ) (p : Program Call Response α) (s : σ), Decidable (p.PermittedFor apply A k s)
  | k + 1, call c next, s =>
    have := PermittedFor.decidable apply A k (next (apply c s).1) (apply c s).2
    inferInstanceAs (Decidable (A c s ∧ _))
  | 0, _, _ => inferInstanceAs (Decidable True)
  | _ + 1, done _, _ => inferInstanceAs (Decidable True)

theorem permittedFor_of_forall {apply : (c : Call) → σ → Response c × σ} {A : Call → σ → Prop}
    (ha : ∀ c s, A c s) (k : ℕ) (p : Program Call Response α) (s : σ) :
    p.PermittedFor apply A k s := by
  induction k generalizing p s with
  | zero => exact trivial
  | succ k ih =>
    cases p with
    | done a => exact trivial
    | call c next => exact ⟨ha c s, ih _ _⟩

/-- A whole run makes its calls in states that `A` allows. -/
def Permitted (apply : (c : Call) → σ → Response c × σ) (A : Call → σ → Prop) :
    Program Call Response α → σ → Prop
  | done _, _ => True
  | call c next, s => A c s ∧ (next (apply c s).1).Permitted apply A (apply c s).2

instance Permitted.decidable (apply : (c : Call) → σ → Response c × σ) (A : Call → σ → Prop)
    [∀ c s, Decidable (A c s)] :
    ∀ (p : Program Call Response α) (s : σ), Decidable (p.Permitted apply A s)
  | done _, _ => inferInstanceAs (Decidable True)
  | call c next, s =>
    have := Permitted.decidable apply A (next (apply c s).1) (apply c s).2
    inferInstanceAs (Decidable (A c s ∧ _))

theorem permitted_of_forall {apply : (c : Call) → σ → Response c × σ} {A : Call → σ → Prop}
    (ha : ∀ c s, A c s) (p : Program Call Response α) (s : σ) : p.Permitted apply A s := by
  induction p generalizing s with
  | done a => exact trivial
  | call c next ih => exact ⟨ha c s, ih _ _⟩

def PermittedAll (apply : (c : Call) → σ → Response c × σ) (A : Call → σ → Prop) :
    List (Program Call Response α) → σ → Prop
  | [], _ => True
  | p :: rest, s => p.Permitted apply A s ∧ PermittedAll apply A rest (p.run apply s).2

instance PermittedAll.decidable (apply : (c : Call) → σ → Response c × σ) (A : Call → σ → Prop)
    [∀ c s, Decidable (A c s)] :
    ∀ (programs : List (Program Call Response α)) (s : σ), Decidable (PermittedAll apply A programs s)
  | [], _ => inferInstanceAs (Decidable True)
  | p :: rest, s =>
    have := PermittedAll.decidable apply A rest (p.run apply s).2
    inferInstanceAs (Decidable (p.Permitted apply A s ∧ _))

theorem permittedAll_of_forall {apply : (c : Call) → σ → Response c × σ} {A : Call → σ → Prop}
    (ha : ∀ c s, A c s) (programs : List (Program Call Response α)) (s : σ) :
    PermittedAll apply A programs s := by
  induction programs generalizing s with
  | nil => exact trivial
  | cons p rest ih => exact ⟨permitted_of_forall ha p s, ih _⟩

def Calls (P : Call → Prop) : Program Call Response α → Prop
  | done _ => True
  | call c next => P c ∧ ∀ r, (next r).Calls P

/-- What has to hold before a program so that it keeps the invariant `I` at each of
its calls and ends in `Q`, while others change the state along `R` between its
calls. Calls are made only in states that `A` allows. -/
def Keeps (handler : Handler Call Response σ) (A : Call → σ → Prop) (R : σ → σ → Prop)
    (I : σ → Prop) : Program Call Response α → (α → σ → Prop) → σ → Prop
  | done a, Q, s => ∀ s', R s s' → Q a s'
  | call c next, Q, s => ∀ s', R s s' → A c s' → ∀ r s'', handler c s' r s'' →
      I s'' ∧ (next r).Keeps handler A R I Q s''

theorem run_bind (apply : (c : Call) → σ → Response c × σ) (p : Program Call Response α)
    (f : α → Program Call Response β) (s : σ) :
    (p.bind f).run apply s = (f (p.run apply s).1).run apply (p.run apply s).2 := by
  induction p generalizing s with
  | done a => rfl
  | call c next ih => exact ih _ _

theorem run_congr {apply apply' : (c : Call) → σ → Response c × σ} (hsame : ∀ c s, P c → apply c s = apply' c s)
    (hp : p.Calls P) (s : σ) :
    p.run apply s = p.run apply' s := by
  induction p generalizing s with
  | done a => rfl
  | call c next ih =>
    show (next (apply c s).1).run apply (apply c s).2 = (next (apply' c s).1).run apply' (apply' c s).2
    rw [hsame c s hp.1]
    exact ih _ (hp.2 _) _

theorem run_keeps {I : σ → Prop} {apply : (c : Call) → σ → Response c × σ}
    (hkeep : ∀ c s, P c → I s → I (apply c s).2) (hp : p.Calls P) {s : σ} (hs : I s) : I (p.run apply s).2 := by
  induction p generalizing s with
  | done a => exact hs
  | call c next ih => exact ih _ (hp.2 _) (hkeep c s hp.1 hs)

theorem calls_bind {f : α → Program Call Response β} (hp : p.Calls P) (hf : ∀ a, (f a).Calls P) :
    (p.bind f).Calls P := by
  induction p with
  | done a => exact hf a
  | call c next ih => exact ⟨hp.1, fun r => ih r (hp.2 r)⟩

theorem Calls.mono {P' : Call → Prop} (hp : p.Calls P) (h : ∀ c, P c → P' c) : p.Calls P' := by
  induction p with
  | done a => trivial
  | call c next ih => exact ⟨h c hp.1, fun r => ih r (hp.2 r)⟩

theorem calls_true (p : Program Call Response α) : p.Calls (fun _ => True) := by
  induction p with
  | done a => trivial
  | call c next ih => exact ⟨trivial, ih⟩

section Keeps
variable {handler : Handler Call Response σ} {A : Call → σ → Prop} {R : σ → σ → Prop} {I : σ → Prop}

theorem Keeps.mono {Q' : α → σ → Prop} {s : σ} (h : p.Keeps handler A R I Q s) (hq : ∀ a s, Q a s → Q' a s) :
    p.Keeps handler A R I Q' s := by
  induction p generalizing s with
  | done a => exact fun s' hr => hq a s' (h s' hr)
  | call c next ih =>
    intro s' hr ha r s'' hh
    obtain ⟨hi, hk⟩ := h s' hr ha r s'' hh
    exact ⟨hi, ih r hk⟩

theorem Keeps.allowed {A' : Call → σ → Prop} {s : σ} (h : p.Keeps handler A R I Q s) (ha : ∀ c s, A' c s → A c s) :
    p.Keeps handler A' R I Q s := by
  induction p generalizing s with
  | done a => exact h
  | call c next ih =>
    intro s' hr hc r s'' hh
    obtain ⟨hi, hk⟩ := h s' hr (ha c s' hc) r s'' hh
    exact ⟨hi, ih r hk⟩

theorem Keeps.stable (htrans : ∀ a b c, R a b → R b c → R a c) {s s' : σ} (h : p.Keeps handler A R I Q s)
    (hr : R s s') :
    p.Keeps handler A R I Q s' := by
  cases p with
  | done a | call c next => exact fun s'' hr' => h s'' (htrans s s' s'' hr hr')

theorem Keeps.bind (hrefl : ∀ s, R s s) {f : α → Program Call Response β} {Q : β → σ → Prop} {s : σ}
    (h : p.Keeps handler A R I (fun a s => (f a).Keeps handler A R I Q s) s) :
    (p.bind f).Keeps handler A R I Q s := by
  induction p generalizing s with
  | done a => exact h s (hrefl s)
  | call c next ih =>
    intro s' hr ha r s'' hh
    obtain ⟨hi, hk⟩ := h s' hr ha r s'' hh
    exact ⟨hi, ih r hk⟩

theorem Keeps.of_each (hcall : ∀ c s r s', P c → A c s → handler c s r s' → I s') (hp : p.Calls P) (s : σ) :
    p.Keeps handler A R I (fun _ _ => True) s := by
  induction p generalizing s with
  | done a => exact fun _ _ => trivial
  | call c next ih =>
    intro s' _ ha r s'' hh
    exact ⟨hcall c s' r s'' hp.1 ha hh, ih r (hp.2 r) s''⟩

theorem Keeps.of_calls (htrans : ∀ a b c, R a b → R b c → R a c) (hstable : ∀ s s', I s → R s s' → I s')
    (hcall : ∀ c s r s', P c → A c s → I s → handler c s r s' → I s' ∧ R s s') (hp : p.Calls P) {s : σ} (hi : I s) :
    p.Keeps handler A R I (fun _ s' => I s' ∧ R s s') s := by
  induction p generalizing s with
  | done a => exact fun s' hr => ⟨hstable s s' hi hr, hr⟩
  | call c next ih =>
    intro s' hr ha r s'' hh
    obtain ⟨hi'', hr'⟩ := hcall c s' r s'' hp.1 ha (hstable s s' hi hr) hh
    refine ⟨hi'', (ih r (hp.2 r) hi'').mono ?_⟩
    rintro a t ⟨ht, hrt⟩
    exact ⟨ht, htrans s s'' t (htrans s s' s'' hr hr') hrt⟩

end Keeps
end Program

namespace Fallible
variable {Call : Type} {Response : Call → Type} {ε α β σ : Type}
variable {ε' : Type} {wrap : ε → ε'}

def OnOk (Q : α → σ → Prop) (result : Except ε α) (s : σ) : Prop := ∀ a, result = .ok a → Q a s

theorem run_bind (x : ExceptT ε (Program Call Response) α)
    (f : α → ExceptT ε (Program Call Response) β) :
    (x >>= f).run = x.run.bind (fun result => match result with
      | .ok a => (f a).run
      | .error error => .done (.error error)) := by
  show Program.bind x.run _ = _
  congr 1

theorem calls_bind {P : Call → Prop} {x : ExceptT ε (Program Call Response) α}
    {f : α → ExceptT ε (Program Call Response) β} (hx : x.run.Calls P)
    (hf : ∀ a, (f a).run.Calls P) : (x >>= f).run.Calls P := by
  rw [run_bind]
  refine Program.calls_bind hx ?_
  intro result
  cases result with
  | ok a => exact hf a
  | error error => trivial

theorem keeps_bind {handler : Handler Call Response σ} {A : Call → σ → Prop} {R : σ → σ → Prop}
    {I : σ → Prop} (hrefl : ∀ s, R s s) {x : ExceptT ε (Program Call Response) α}
    {f : α → ExceptT ε (Program Call Response) β} {Q : β → σ → Prop} {s : σ}
    (h : x.run.Keeps handler A R I
      (OnOk (fun a s => (f a).run.Keeps handler A R I (OnOk Q) s)) s) :
    (x >>= f).run.Keeps handler A R I (OnOk Q) s := by
  rw [run_bind]
  apply Program.Keeps.bind hrefl
  apply h.mono
  intro result s' hresult
  cases result with
  | ok a => exact hresult a rfl
  | error error =>
    intro s'' _ a ha
    cases ha

theorem keeps_pure {handler : Handler Call Response σ} {A : Call → σ → Prop} {R : σ → σ → Prop}
    {I : σ → Prop} {a : α} {Q : α → σ → Prop} {s : σ} (h : ∀ s', R s s' → Q a s') :
    (pure a : ExceptT ε (Program Call Response) α).run.Keeps handler A R I (OnOk Q) s := by
  intro s' hr b hb
  cases hb
  exact h s' hr

theorem keeps_throw {handler : Handler Call Response σ} {A : Call → σ → Prop} {R : σ → σ → Prop}
    {I : σ → Prop} {error : ε} {Q : α → σ → Prop} {s : σ} :
    (throw error : ExceptT ε (Program Call Response) α).run.Keeps handler A R I (OnOk Q) s := by
  intro s' _ b hb
  cases hb

def attempt {ε' : Type} (wrap : ε → ε') (p : Program Call Response (Except ε α)) :
    ExceptT ε' (Program Call Response) α :=
  ExceptT.mk (p.bind (fun response => match response with
    | .ok value => .done (.ok value)
    | .error error => .done (.error (wrap error))))

def answer (c : Call) : ExceptT ε (Program Call Response) (Response c) :=
  ExceptT.mk (.call c (fun response => .done (.ok response)))

theorem calls_attempt {P : Call → Prop} {p : Program Call Response (Except ε α)} (hp : p.Calls P) :
    (attempt wrap p : ExceptT ε' (Program Call Response) α).run.Calls P := by
  refine Program.calls_bind hp ?_
  intro response
  cases response <;> trivial

theorem keeps_attempt {handler : Handler Call Response σ} {A : Call → σ → Prop} {R : σ → σ → Prop} {I : σ → Prop}
    (hrefl : ∀ s, R s s) {p : Program Call Response (Except ε α)} {Q : α → σ → Prop} {s : σ}
    (h : p.Keeps handler A R I (OnOk Q) s) (hstable : ∀ a s s', R s s' → Q a s → Q a s') :
    (attempt wrap p : ExceptT ε' (Program Call Response) α).run.Keeps handler A R I (OnOk Q) s := by
  apply Program.Keeps.bind hrefl
  apply h.mono
  intro response s' hresponse
  cases response with
  | ok a =>
    intro s'' hr b hb
    cases hb
    exact hstable a s' s'' hr (hresponse a rfl)
  | error error =>
    intro s'' _ b hb
    cases hb

theorem keeps_attempt_bind {handler : Handler Call Response σ} {A : Call → σ → Prop} {R : σ → σ → Prop}
    {I : σ → Prop} (hrefl : ∀ s, R s s) (htrans : ∀ a b c, R a b → R b c → R a c)
    {p : Program Call Response (Except ε α)} {f : α → ExceptT ε' (Program Call Response) β} {Q : β → σ → Prop}
    {s : σ} (h : p.Keeps handler A R I (OnOk (fun a s => (f a).run.Keeps handler A R I (OnOk Q) s)) s) :
    (attempt wrap p >>= f).run.Keeps handler A R I (OnOk Q) s :=
  keeps_bind hrefl (keeps_attempt hrefl h (fun _ _ _ hr hk => hk.stable htrans hr))

theorem keeps_answer_bind {handler : Handler Call Response σ} {A : Call → σ → Prop}
    {R : σ → σ → Prop} {I : σ → Prop} {c : Call}
    {f : Response c → ExceptT ε (Program Call Response) β} {Q : β → σ → Prop} {s : σ}
    (h : ∀ s', R s s' → A c s' → ∀ r s'', handler c s' r s'' →
      I s'' ∧ (f r).run.Keeps handler A R I (OnOk Q) s'') :
    (answer c >>= f).run.Keeps handler A R I (OnOk Q) s := by
  rw [run_bind]
  exact fun s' hr ha r s'' hh => h s' hr ha r s'' hh

def execute (apply : (c : Call) → σ → Response c × σ) (x : ExceptT ε (Program Call Response) α)
    (s : σ) : Except ε α × σ := x.run.run apply s

section Execute
variable {apply : (c : Call) → σ → Response c × σ} {x : ExceptT ε (Program Call Response) α}
  {f : α → ExceptT ε (Program Call Response) β} {a : α} {s s' : σ}

theorem execute_bind (apply : (c : Call) → σ → Response c × σ)
    (x : ExceptT ε (Program Call Response) α) (f : α → ExceptT ε (Program Call Response) β) (s : σ) :
    execute apply (x >>= f) s = match execute apply x s with
      | (.ok a, s') => execute apply (f a) s'
      | (.error error, s') => (.error error, s') := by
  unfold execute
  rw [run_bind, Program.run_bind]
  cases hx : x.run.run apply s with
  | mk result s' => cases result <;> rfl

theorem execute_bind_ok (h : execute apply x s = (.ok a, s')) :
    execute apply (x >>= f) s = execute apply (f a) s' := by
  rw [execute_bind, h]

theorem execute_bind_inv {b : β} (h : execute apply (x >>= f) s = (.ok b, s')) :
    ∃ a middle, execute apply x s = (.ok a, middle) ∧ execute apply (f a) middle = (.ok b, s') := by
  rw [execute_bind] at h
  cases hx : execute apply x s with
  | mk result middle =>
    rw [hx] at h
    cases result with
    | error error => cases h
    | ok a => exact ⟨a, middle, rfl, h⟩

theorem execute_bind_congr {apply' : (c : Call) → σ → Response c × σ}
    (hx : execute apply x s = execute apply' x s)
    (hf : ∀ a s', execute apply x s = (.ok a, s') → execute apply (f a) s' = execute apply' (f a) s') :
    execute apply (x >>= f) s = execute apply' (x >>= f) s := by
  rw [execute_bind, execute_bind, ← hx]
  cases hresult : execute apply x s with
  | mk result middle =>
    cases result with
    | error error => rfl
    | ok a => exact hf a middle hresult

theorem execute_attempt_inv {p : Program Call Response (Except ε α)}
    (h : execute apply (attempt wrap p) s = (.ok a, s')) : p.run apply s = (.ok a, s') := by
  unfold execute attempt ExceptT.mk ExceptT.run at h
  rw [Program.run_bind] at h
  cases hp : p.run apply s with
  | mk result middle =>
    rw [hp] at h
    cases result with
    | error error => cases h
    | ok value =>
      cases h
      rfl

@[simp] theorem execute_pure (apply : (c : Call) → σ → Response c × σ) (a : α) (s : σ) :
    execute apply (pure a : ExceptT ε (Program Call Response) α) s = (.ok a, s) := rfl

end Execute

end Fallible

/-- A shared state, a program of which one runs at a time and the requests being
served next to it. -/
structure Processes (Call : Type) (Response : Call → Type) (σ α : Type) where
  state : σ
  main : Option (Program Call Response α)
  clients : List (Program Call Response Unit)

structure Rules (Call : Type) (Response : Call → Type) (σ α : Type) where
  handler : Handler Call Response σ
  main : Program Call Response α → Prop
  client : Program Call Response Unit → Prop
  mainAllowed : Call → σ → Prop
  clientAllowed : Call → σ → Prop

/-- One step of an interleaving: some program starts, makes one call or ends, or the
process crashes and every program in memory is lost. -/
inductive Interleaves {Call : Type} {Response : Call → Type} {σ α : Type}
    (rules : Rules Call Response σ α) :
    Processes Call Response σ α → Processes Call Response σ α → Prop
  | start {s : σ} {clients : List (Program Call Response Unit)} {p : Program Call Response α}
      (hp : rules.main p) : Interleaves rules ⟨s, none, clients⟩ ⟨s, some p, clients⟩
  | advance {s s' : σ} {clients : List (Program Call Response Unit)} {c : Call}
      {next : Response c → Program Call Response α} {r : Response c} (ha : rules.mainAllowed c s)
      (hh : rules.handler c s r s') :
      Interleaves rules ⟨s, some (.call c next), clients⟩ ⟨s', some (next r), clients⟩
  | finish {s : σ} {clients : List (Program Call Response Unit)} {a : α} :
      Interleaves rules ⟨s, some (.done a), clients⟩ ⟨s, none, clients⟩
  | request {s : σ} {main : Option (Program Call Response α)}
      {clients : List (Program Call Response Unit)} {p : Program Call Response Unit}
      (hp : rules.client p) : Interleaves rules ⟨s, main, clients⟩ ⟨s, main, p :: clients⟩
  | serve {s s' : σ} {main : Option (Program Call Response α)}
      {before after : List (Program Call Response Unit)} {c : Call}
      {next : Response c → Program Call Response Unit} {r : Response c}
      (ha : rules.clientAllowed c s) (hh : rules.handler c s r s') :
      Interleaves rules ⟨s, main, before ++ .call c next :: after⟩
        ⟨s', main, before ++ next r :: after⟩
  | crash {s : σ} {main : Option (Program Call Response α)}
      {clients : List (Program Call Response Unit)} :
      Interleaves rules ⟨s, main, clients⟩ ⟨s, none, []⟩

namespace Interleaves
variable {Call : Type} {Response : Call → Type} {σ α : Type} {rules : Rules Call Response σ α}
variable {reached start : Processes Call Response σ α}

/-- The rule for invariants of interleavings. Client calls satisfy `P`, keep `I` and
act along `R`; the main program keeps `I` under such interference. -/
theorem invariant {P : Call → Prop} {R : σ → σ → Prop} {I : σ → Prop}
    (hrefl : ∀ s, R s s) (htrans : ∀ a b c, R a b → R b c → R a c)
    (hmain : ∀ p s, rules.main p → I s →
      p.Keeps rules.handler rules.mainAllowed R I (fun _ _ => True) s)
    (hclient : ∀ p, rules.client p → p.Calls P)
    (hcall : ∀ c s r s', P c → rules.clientAllowed c s → I s → rules.handler c s r s' →
      I s' ∧ R s s')
    {start reached : Processes Call Response σ α}
    (hrun : Relation.ReflTransGen (Interleaves rules) start reached)
    (hstart : I start.state) (hidle : start.main = none) (hquiet : start.clients = []) :
    I reached.state := by
  -- the whole configuration: the invariant, the clients' calls and the main program
  have hall : I reached.state ∧ (∀ p ∈ reached.clients, p.Calls P) ∧
      ∀ p ∈ reached.main,
        p.Keeps rules.handler rules.mainAllowed R I (fun _ _ => True) reached.state := by
    induction hrun with
    | refl =>
      refine ⟨hstart, ?_, ?_⟩
      · rw [hquiet]
        exact fun p hp => absurd hp not_mem_nil
      · rw [hidle]
        exact fun p hp => nomatch hp
    | tail _ hstep ih =>
      obtain ⟨hi, hc, hm⟩ := ih
      cases hstep with
      | start hp =>
        refine ⟨hi, hc, ?_⟩
        rintro p ⟨⟩
        exact hmain _ _ hp hi
      | advance ha hh =>
        obtain ⟨hi', hk⟩ := hm _ rfl _ (hrefl _) ha _ _ hh
        refine ⟨hi', hc, ?_⟩
        rintro p ⟨⟩
        exact hk
      | finish => exact ⟨hi, hc, fun p hp => nomatch hp⟩
      | request hp =>
        refine ⟨hi, ?_, hm⟩
        intro p hmem
        rcases mem_cons.mp hmem with rfl | hmem
        · exact hclient p hp
        · exact hc p hmem
      | @serve s s' main before after c next r ha hh =>
        have hcalls : (Program.call c next).Calls P := hc _ (by simp)
        obtain ⟨hi', hr⟩ := hcall c s r s' hcalls.1 ha hi hh
        refine ⟨hi', ?_, ?_⟩
        · intro p hmem
          rcases mem_append.mp hmem with hmem | hmem
          · exact hc p (mem_append_left _ hmem)
          · rcases mem_cons.mp hmem with rfl | hmem
            · exact hcalls.2 r
            · exact hc p (mem_append_right _ (mem_cons_of_mem _ hmem))
        · intro p hp
          exact (hm p hp).stable htrans hr
      | crash => exact ⟨hi, fun p hp => absurd hp not_mem_nil, fun p hp => nomatch hp⟩
  exact hall.1

def CallsOnly (P : Call → Prop) (processes : Processes Call Response σ α) : Prop :=
  (∀ p ∈ processes.main, p.Calls P) ∧ ∀ p ∈ processes.clients, p.Calls P

theorem guarantee {P : Call → Prop} {R : σ → σ → Prop} (hrefl : ∀ s, R s s)
    (htrans : ∀ a b c, R a b → R b c → R a c) (hmain : ∀ p, rules.main p → p.Calls P)
    (hclient : ∀ p, rules.client p → p.Calls P) (hcall : ∀ c s r s', P c → rules.handler c s r s' → R s s')
    (hstart : CallsOnly P start) (hrun : Relation.ReflTransGen (Interleaves rules) start reached) :
    CallsOnly P reached ∧ R start.state reached.state := by
  induction hrun with
  | refl => exact ⟨hstart, hrefl _⟩
  | tail _ hstep ih =>
    obtain ⟨⟨hm, hc⟩, hr⟩ := ih
    cases hstep with
    | start hp =>
      refine ⟨⟨?_, hc⟩, hr⟩
      rintro p ⟨⟩
      exact hmain _ hp
    | advance ha hh =>
      have hcalls := hm _ rfl
      refine ⟨⟨?_, hc⟩, htrans _ _ _ hr (hcall _ _ _ _ hcalls.1 hh)⟩
      rintro p ⟨⟩
      exact hcalls.2 _
    | finish => exact ⟨⟨fun p hp => (nomatch hp), hc⟩, hr⟩
    | request hp =>
      refine ⟨⟨hm, ?_⟩, hr⟩
      intro p hmem
      rcases mem_cons.mp hmem with rfl | hmem
      · exact hclient p hp
      · exact hc p hmem
    | @serve s s' main before after c next r ha hh =>
      have hcalls := hc (.call c next) (by simp)
      refine ⟨⟨hm, ?_⟩, htrans _ _ _ hr (hcall _ _ _ _ hcalls.1 hh)⟩
      intro p hmem
      rcases mem_append.mp hmem with hmem | hmem
      · exact hc p (mem_append_left _ hmem)
      · rcases mem_cons.mp hmem with rfl | hmem
        · exact hcalls.2 r
        · exact hc p (mem_append_right _ (mem_cons_of_mem _ hmem))
    | crash => exact ⟨⟨fun p hp => (nomatch hp), fun p hp => absurd hp not_mem_nil⟩, hr⟩

/-- The rule for invariants that clients, too, keep only as whole programs. Every call
acts along `R`, so each program may rely on `R` for what the others do, and on the
invariant whenever it makes a call. -/
theorem rely_guarantee {P : Call → Prop} {R : σ → σ → Prop} {I : σ → Prop} (hrefl : ∀ s, R s s)
    (htrans : ∀ a b c, R a b → R b c → R a c) (hmainCalls : ∀ p, rules.main p → p.Calls P)
    (hclientCalls : ∀ p, rules.client p → p.Calls P)
    (hcall : ∀ c s r s', P c → rules.mainAllowed c s ∨ rules.clientAllowed c s →
      rules.handler c s r s' → R s s') (hmain : ∀ p s, rules.main p → I s →
      p.Keeps rules.handler (fun c s => rules.mainAllowed c s ∧ I s) R I (fun _ _ => True) s)
    (hclient : ∀ p s, rules.client p → I s →
      p.Keeps rules.handler (fun c s => rules.clientAllowed c s ∧ I s) R I (fun _ _ => True) s)
    (hrun : Relation.ReflTransGen (Interleaves rules) start reached) (hstart : I start.state)
    (hidle : start.main = none) (hquiet : start.clients = []) :
    I reached.state := by
  have hnone : CallsOnly P start := by
    refine ⟨?_, ?_⟩
    · rw [hidle]
      exact fun p hp => nomatch hp
    · rw [hquiet]
      exact fun p hp => absurd hp not_mem_nil
  -- along the run: the invariant, and that each program under way still keeps to its part
  have hall : I reached.state ∧
      (∀ p ∈ reached.main, p.Keeps rules.handler (fun c s => rules.mainAllowed c s ∧ I s) R I
        (fun _ _ => True) reached.state) ∧
      ∀ p ∈ reached.clients, p.Keeps rules.handler (fun c s => rules.clientAllowed c s ∧ I s) R I
        (fun _ _ => True) reached.state := by
    induction hrun with
    | refl =>
      refine ⟨hstart, ?_, ?_⟩
      · rw [hidle]
        exact fun p hp => nomatch hp
      · rw [hquiet]
        exact fun p hp => absurd hp not_mem_nil
    | tail hbefore hstep ih =>
      obtain ⟨hi, hm, hc⟩ := ih
      obtain ⟨⟨hmCalls, hcCalls⟩, _⟩ := guarantee (R := fun _ _ => True) (fun _ => trivial)
        (fun _ _ _ _ _ => trivial) hmainCalls hclientCalls (fun _ _ _ _ _ _ => trivial) hnone hbefore
      cases hstep with
      | start hp =>
        refine ⟨hi, ?_, hc⟩
        rintro p ⟨⟩
        exact hmain _ _ hp hi
      | advance ha hh =>
        obtain ⟨hi', hnext⟩ := hm _ rfl _ (hrefl _) ⟨ha, hi⟩ _ _ hh
        have hacts := hcall _ _ _ _ (hmCalls _ rfl).1 (.inl ha) hh
        refine ⟨hi', ?_, fun p hp => (hc p hp).stable htrans hacts⟩
        rintro p ⟨⟩
        exact hnext
      | finish => exact ⟨hi, (fun p hp => nomatch hp), hc⟩
      | request hp =>
        refine ⟨hi, hm, ?_⟩
        intro p hmem
        rcases mem_cons.mp hmem with rfl | hmem
        · exact hclient p _ hp hi
        · exact hc p hmem
      | @serve s s' main before after c next r ha hh =>
        have hin : Program.call c next ∈ before ++ Program.call c next :: after := by simp
        -- the client that is served goes on, the others are stable under its step
        obtain ⟨hi', hnext⟩ := hc _ hin _ (hrefl _) ⟨ha, hi⟩ _ _ hh
        have hacts := hcall _ _ _ _ (hcCalls _ hin).1 (.inr ha) hh
        refine ⟨hi', fun p hp => (hm p hp).stable htrans hacts, ?_⟩
        intro p hmem
        rcases mem_append.mp hmem with hmem | hmem
        · exact (hc p (mem_append_left _ hmem)).stable htrans hacts
        · rcases mem_cons.mp hmem with rfl | hmem
          · exact hnext
          · exact (hc p (mem_append_right _ (mem_cons_of_mem _ hmem))).stable htrans hacts
      | crash => exact ⟨hi, (fun p hp => nomatch hp), fun p hp => absurd hp not_mem_nil⟩
  exact hall.1

theorem invariant_of_calls {P : Call → Prop} {I : σ → Prop}
    (hmain : ∀ p, rules.main p → p.Calls P) (hclient : ∀ p, rules.client p → p.Calls P)
    (hcall : ∀ c s r s', P c → rules.mainAllowed c s ∨ rules.clientAllowed c s → I s →
      rules.handler c s r s' → I s')
    {start reached : Processes Call Response σ α}
    (hrun : Relation.ReflTransGen (Interleaves rules) start reached)
    (hstart : I start.state) (hidle : start.main = none) (hquiet : start.clients = []) :
    I reached.state := by
  have hrefl : ∀ s : σ, I s → I s := fun _ => id
  have htrans : ∀ a b c : σ, (I a → I b) → (I b → I c) → (I a → I c) :=
    fun _ _ _ hab hbc ha => hbc (hab ha)
  refine invariant hrefl htrans ?_ hclient ?_ hrun hstart hidle hquiet
  · intro p s hp hi
    have hkeeps := Program.Keeps.of_calls htrans (fun _ _ hi h => h hi)
      (fun c s r s' hc ha hi hh => ⟨hcall c s r s' hc (.inl ha) hi hh,
        fun _ => hcall c s r s' hc (.inl ha) hi hh⟩) (hmain p hp) hi
    exact hkeeps.mono (fun _ _ _ => trivial)
  · intro c s r s' hc ha hi hh
    exact ⟨hcall c s r s' hc (.inr ha) hi hh, fun _ => hcall c s r s' hc (.inr ha) hi hh⟩

theorem of_runFor {apply : (c : Call) → σ → Response c × σ}
    (hh : ∀ c s, rules.handler c s (apply c s).1 (apply c s).2) (k : ℕ)
    (p : Program Call Response α) (s : σ) (ha : p.PermittedFor apply rules.mainAllowed k s) :
    Relation.ReflTransGen (Interleaves rules) ⟨s, some p, []⟩
      ⟨(p.runFor apply k s).2, some (p.runFor apply k s).1, []⟩ := by
  induction k generalizing p s with
  | zero => exact .refl
  | succ k ih =>
    cases p with
    | done a => exact .refl
    | call c next =>
      exact .head (.advance ha.1 (hh c s)) (ih (next (apply c s).1) (apply c s).2 ha.2)

theorem of_permitted_main {apply : (c : Call) → σ → Response c × σ}
    (hh : ∀ c s, rules.handler c s (apply c s).1 (apply c s).2) {p : Program Call Response α}
    (hp : rules.main p) (s : σ) (ha : p.Permitted apply rules.mainAllowed s)
    (clients : List (Program Call Response Unit)) :
    Relation.ReflTransGen (Interleaves rules) ⟨s, none, clients⟩ ⟨(p.run apply s).2, none, clients⟩ := by
  refine .head (.start hp) ?_
  clear hp
  induction p generalizing s with
  | done a => exact .single .finish
  | call c next ih => exact .head (.advance ha.1 (hh c s)) (ih _ _ ha.2)

theorem of_run_main {apply : (c : Call) → σ → Response c × σ}
    (hh : ∀ c s, rules.handler c s (apply c s).1 (apply c s).2)
    (ha : ∀ c s, rules.mainAllowed c s) {p : Program Call Response α} (hp : rules.main p) (s : σ)
    (clients : List (Program Call Response Unit)) :
    Relation.ReflTransGen (Interleaves rules) ⟨s, none, clients⟩ ⟨(p.run apply s).2, none, clients⟩ :=
  of_permitted_main hh hp s (Program.permitted_of_forall ha p s) clients

theorem of_handled_client {apply : (c : Call) → σ → Response c × σ} {A : Call → σ → Prop}
    (hh : ∀ c s, A c s → rules.clientAllowed c s ∧ rules.handler c s (apply c s).1 (apply c s).2)
    {p : Program Call Response Unit} (hp : rules.client p) (s : σ) (ha : p.Permitted apply A s)
    (main : Option (Program Call Response α)) (clients : List (Program Call Response Unit)) :
    Relation.ReflTransGen (Interleaves rules) ⟨s, main, clients⟩
      ⟨(p.run apply s).2, main, .done () :: clients⟩ := by
  refine .head (.request hp) ?_
  clear hp
  induction p generalizing s with
  | done a => exact .refl
  | call c next ih =>
    obtain ⟨hallowed, hhandled⟩ := hh c s ha.1
    have hstep : Interleaves rules ⟨s, main, [] ++ .call c next :: clients⟩
        ⟨(apply c s).2, main, [] ++ next (apply c s).1 :: clients⟩ := .serve hallowed hhandled
    exact .head hstep (ih _ _ ha.2)

theorem of_permitted_client {apply : (c : Call) → σ → Response c × σ}
    (hh : ∀ c s, rules.handler c s (apply c s).1 (apply c s).2)
    {p : Program Call Response Unit} (hp : rules.client p) (s : σ)
    (ha : p.Permitted apply rules.clientAllowed s)
    (main : Option (Program Call Response α)) (clients : List (Program Call Response Unit)) :
    Relation.ReflTransGen (Interleaves rules) ⟨s, main, clients⟩
      ⟨(p.run apply s).2, main, .done () :: clients⟩ :=
  of_handled_client (fun c s ha => ⟨ha, hh c s⟩) hp s ha main clients

theorem of_run_client {apply : (c : Call) → σ → Response c × σ}
    (hh : ∀ c s, rules.handler c s (apply c s).1 (apply c s).2)
    (ha : ∀ c s, rules.clientAllowed c s) {p : Program Call Response Unit} (hp : rules.client p) (s : σ)
    (main : Option (Program Call Response α)) (clients : List (Program Call Response Unit)) :
    Relation.ReflTransGen (Interleaves rules) ⟨s, main, clients⟩
      ⟨(p.run apply s).2, main, .done () :: clients⟩ :=
  of_permitted_client hh hp s (Program.permitted_of_forall ha p s) main clients

theorem of_runFor_client {apply : (c : Call) → σ → Response c × σ}
    (hh : ∀ c s, rules.handler c s (apply c s).1 (apply c s).2)
    (ha : ∀ c s, rules.clientAllowed c s) {p : Program Call Response Unit} (hp : rules.client p) (k : ℕ)
    (s : σ) (main : Option (Program Call Response α)) (clients : List (Program Call Response Unit)) :
    Relation.ReflTransGen (Interleaves rules) ⟨s, main, clients⟩
      ⟨(p.runFor apply k s).2, main, (p.runFor apply k s).1 :: clients⟩ := by
  refine .head (.request hp) ?_
  clear hp
  induction k generalizing p s with
  | zero => exact .refl
  | succ k ih =>
    cases p with
    | done a => exact .refl
    | call c next =>
      have hstep : Interleaves rules ⟨s, main, [] ++ .call c next :: clients⟩
          ⟨(apply c s).2, main, [] ++ next (apply c s).1 :: clients⟩ := .serve (ha c s) (hh c s)
      exact .head hstep (ih _)

theorem of_permitted_clients {apply : (c : Call) → σ → Response c × σ}
    (hh : ∀ c s, rules.handler c s (apply c s).1 (apply c s).2)
    (programs : List (Program Call Response Unit)) (hprograms : ∀ p ∈ programs, rules.client p) (s : σ)
    (ha : Program.PermittedAll apply rules.clientAllowed programs s)
    (main : Option (Program Call Response α)) (clients : List (Program Call Response Unit)) :
    Relation.ReflTransGen (Interleaves rules) ⟨s, main, clients⟩
      ⟨programs.foldl (fun s p => (p.run apply s).2) s, main,
        List.replicate programs.length (.done ()) ++ clients⟩ := by
  induction programs generalizing s clients with
  | nil => exact .refl
  | cons p rest ih =>
    have hfirst := of_permitted_client hh (hprograms p mem_cons_self) s ha.1 main clients
    have hrest := ih (fun q hq => hprograms q (mem_cons_of_mem _ hq)) (p.run apply s).2 ha.2
      (.done () :: clients)
    rw [append_cons, ← replicate_succ'] at hrest
    exact hfirst.trans hrest

theorem of_run_clients {apply : (c : Call) → σ → Response c × σ}
    (hh : ∀ c s, rules.handler c s (apply c s).1 (apply c s).2)
    (ha : ∀ c s, rules.clientAllowed c s) (programs : List (Program Call Response Unit))
    (hprograms : ∀ p ∈ programs, rules.client p) (s : σ) (main : Option (Program Call Response α))
    (clients : List (Program Call Response Unit)) :
    Relation.ReflTransGen (Interleaves rules) ⟨s, main, clients⟩
      ⟨programs.foldl (fun s p => (p.run apply s).2) s, main,
        List.replicate programs.length (.done ()) ++ clients⟩ :=
  of_permitted_clients hh programs hprograms s (Program.permittedAll_of_forall ha programs s) main clients

end Interleaves
end HomeMagic
