import HomeMagic.Interleaving

/-! Named programs on a shared state. The state may record who made which call; each party
relies on what the others do and guarantees what it does itself. -/
namespace HomeMagic
open List

namespace Program
variable {Call : Type} {Response : Call → Type} {α β σ : Type}
variable {p : Program Call Response α} {s : σ} {Q Q' : α → σ → Prop}

/-- What has to hold before a program so that each of its calls keeps `I` and acts along
`G`, and so that it ends in `Q`, while the others keep `I` and act along `R`. -/
def Guards (handler : Handler Call Response σ) (A : Call → σ → Prop) (R G : σ → σ → Prop) (I : σ → Prop) :
    Program Call Response α → (α → σ → Prop) → σ → Prop
  | done a, Q, s => ∀ s', R s s' → I s' → Q a s'
  | call c next, Q, s => ∀ s', R s s' → I s' → A c s' → ∀ r s'', handler c s' r s'' →
      I s'' ∧ G s' s'' ∧ (next r).Guards handler A R G I Q s''

section Guards
variable {handler : Handler Call Response σ} {A : Call → σ → Prop} {R G : σ → σ → Prop} {I : σ → Prop}

theorem Guards.mono (h : p.Guards handler A R G I Q s) (hq : ∀ a s, I s → Q a s → Q' a s) :
    p.Guards handler A R G I Q' s := by
  induction p generalizing s with
  | done a => exact fun s' hr hi => hq a s' hi (h s' hr hi)
  | call c next ih =>
    intro s' hr hi ha r s'' hh
    obtain ⟨hi', hg, hnext⟩ := h s' hr hi ha r s'' hh
    exact ⟨hi', hg, ih r hnext⟩

theorem Guards.and (h : p.Guards handler A R G I Q s) (h' : p.Guards handler A R G I Q' s) :
    p.Guards handler A R G I (fun a s => Q a s ∧ Q' a s) s := by
  induction p generalizing s with
  | done a => exact fun s' hr hi => ⟨h s' hr hi, h' s' hr hi⟩
  | call c next ih =>
    intro s' hr hi ha r s'' hh
    obtain ⟨hi', hg, hnext⟩ := h s' hr hi ha r s'' hh
    exact ⟨hi', hg, ih r hnext (h' s' hr hi ha r s'' hh).2.2⟩

theorem Guards.stable (htrans : ∀ a b c, R a b → R b c → R a c) {s' : σ} (h : p.Guards handler A R G I Q s)
    (hr : R s s') : p.Guards handler A R G I Q s' := by
  cases p with
  | done a | call c next => exact fun s'' hr' => h s'' (htrans s s' s'' hr hr')

theorem Guards.bind (hrefl : ∀ s, R s s) {f : α → Program Call Response β} {Q : β → σ → Prop} (hs : I s)
    (h : p.Guards handler A R G I (fun a s => (f a).Guards handler A R G I Q s) s) :
    (p.bind f).Guards handler A R G I Q s := by
  induction p generalizing s with
  | done a => exact h s (hrefl s) hs
  | call c next ih =>
    intro s' hr hi ha r s'' hh
    obtain ⟨hi', hg, hnext⟩ := h s' hr hi ha r s'' hh
    exact ⟨hi', hg, ih r hi' hnext⟩

theorem Guards.of_silent {P : Call → Prop} (hsilent : ∀ c s r s', P c → handler c s r s' → s' = s)
    (hrefl : ∀ s, G s s) {K : σ → Prop} (hstable : ∀ s s', R s s' → K s → K s') (hcalls : p.Calls P) (hk : K s) :
    p.Guards handler A R G I (fun _ => K) s := by
  induction p generalizing s with
  | done a => exact fun s' hr _ => hstable s s' hr hk
  | call c next ih =>
    intro s' hr hi _ r s'' hh
    obtain rfl := hsilent c s' r s'' hcalls.1 hh
    exact ⟨hi, hrefl _, ih r (hcalls.2 r) (hstable s _ hr hk)⟩

end Guards
end Program

namespace Fallible
variable {Call : Type} {Response : Call → Type} {ε ε' α β σ : Type}
variable {handler : Handler Call Response σ} {A : Call → σ → Prop} {R G : σ → σ → Prop} {I : σ → Prop}

theorem guards_bind (hrefl : ∀ s, R s s) {x : ExceptT ε (Program Call Response) α}
    {f : α → ExceptT ε (Program Call Response) β} {Q : β → σ → Prop} {s : σ} (hs : I s)
    (h : x.run.Guards handler A R G I (OnOk (fun a s => (f a).run.Guards handler A R G I (OnOk Q) s)) s) :
    (x >>= f).run.Guards handler A R G I (OnOk Q) s := by
  rw [run_bind]
  apply Program.Guards.bind hrefl hs
  apply h.mono
  intro result s' _ hresult
  cases result with
  | ok a => exact hresult a rfl
  | error error =>
    intro s'' _ _ a ha
    cases ha

theorem guards_pure {a : α} {Q : α → σ → Prop} {s : σ} (h : ∀ s', R s s' → I s' → Q a s') :
    (pure a : ExceptT ε (Program Call Response) α).run.Guards handler A R G I (OnOk Q) s := by
  intro s' hr hi b hb
  cases hb
  exact h s' hr hi

theorem guards_throw {error : ε} {Q : α → σ → Prop} {s : σ} :
    (throw error : ExceptT ε (Program Call Response) α).run.Guards handler A R G I (OnOk Q) s := by
  intro s' _ _ b hb
  cases hb

theorem guards_attempt {wrap : ε → ε'} {p : Program Call Response (Except ε α)} {Q : α → σ → Prop} {s : σ}
    (hrefl : ∀ s, R s s) (hs : I s) (hstable : ∀ a s s', R s s' → I s' → Q a s → Q a s')
    (h : p.Guards handler A R G I (OnOk Q) s) :
    (attempt wrap p : ExceptT ε' (Program Call Response) α).run.Guards handler A R G I (OnOk Q) s := by
  apply Program.Guards.bind hrefl hs
  apply h.mono
  intro response s' _ hresponse
  cases response with
  | error error =>
    intro s'' _ _ a ha
    cases ha
  | ok value =>
    intro s'' hr hi a ha
    cases ha
    exact hstable value s' s'' hr hi (hresponse value rfl)

end Fallible

structure Parties (Call : Type) (Response : Call → Type) (σ ι α : Type) where
  state : σ
  members : List (ι × Program Call Response α)

structure Duties (Call : Type) (Response : Call → Type) (σ ι α : Type) where
  handler : ι → Handler Call Response σ
  starts : ι → Program Call Response α → Prop
  allowed : ι → Call → σ → Prop

/-- A party joins under a name that nobody at work has, makes a call, or stops at any point. -/
inductive Parties.Acts {Call : Type} {Response : Call → Type} {σ ι α : Type} (duties : Duties Call Response σ ι α) :
    Parties Call Response σ ι α → Parties Call Response σ ι α → Prop
  | join {s : σ} {members : List (ι × Program Call Response α)} {i : ι} {p : Program Call Response α}
      (hfresh : ∀ member ∈ members, member.1 ≠ i) (hp : duties.starts i p) :
      Acts duties ⟨s, members⟩ ⟨s, (i, p) :: members⟩
  | act {s s' : σ} {before after : List (ι × Program Call Response α)} {i : ι} {c : Call}
      {next : Response c → Program Call Response α} {r : Response c} (ha : duties.allowed i c s)
      (hh : duties.handler i c s r s') :
      Acts duties ⟨s, before ++ (i, .call c next) :: after⟩ ⟨s', before ++ (i, next r) :: after⟩
  | stop {s : σ} {before after : List (ι × Program Call Response α)} {member : ι × Program Call Response α} :
      Acts duties ⟨s, before ++ member :: after⟩ ⟨s, before ++ after⟩

namespace Parties
variable {Call : Type} {Response : Call → Type} {σ ι α : Type} {duties : Duties Call Response σ ι α}
variable {apply : (c : Call) → σ → Response c × σ} {i : ι}

/-- The rule for invariants: what a party guarantees, every other one may rely on. -/
theorem invariant {R G : ι → σ → σ → Prop} {I : σ → Prop} (htrans : ∀ i a b c, R i a b → R i b c → R i a c)
    (hothers : ∀ i j s s', i ≠ j → I s → G j s s' → R i s s') (hrefl : ∀ i s, R i s s)
    (hstarts : ∀ i p s, duties.starts i p → I s →
      p.Guards (duties.handler i) (duties.allowed i) (R i) (G i) I (fun _ _ => True) s)
    {start reached : Parties Call Response σ ι α} (hrun : Relation.ReflTransGen (Acts duties) start reached)
    (hstart : I start.state) (hnobody : start.members = []) : I reached.state := by
  have hall : I reached.state ∧ (reached.members.map Prod.fst).Nodup ∧ ∀ member ∈ reached.members,
      member.2.Guards (duties.handler member.1) (duties.allowed member.1) (R member.1) (G member.1) I
        (fun _ _ => True) reached.state := by
    induction hrun with
    | refl =>
      rw [hnobody]
      exact ⟨hstart, nodup_nil, fun member hmember => absurd hmember not_mem_nil⟩
    | tail _ hstep ih =>
      obtain ⟨hi, hnames, hguards⟩ := ih
      cases hstep with
      | @join s members i p hfresh hp =>
        refine ⟨hi, nodup_cons.mpr ⟨?_, hnames⟩, ?_⟩
        · rw [List.mem_map]
          rintro ⟨member, hmember, hname⟩
          exact hfresh member hmember hname
        · intro member hmember
          rcases mem_cons.mp hmember with rfl | hmember
          · exact hstarts i p s hp hi
          · exact hguards member hmember
      | @act s s' before after i c next r ha hh =>
        have hactor := hguards (i, .call c next) (by simp)
        obtain ⟨hi', hg, hnext⟩ := hactor s (hrefl i s) hi ha r s' hh
        -- the names of the others differ from the one that acts
        have hnames' : ((before ++ (i, next r) :: after).map Prod.fst).Nodup := by
          simpa using hnames
        refine ⟨hi', hnames', ?_⟩
        have hkeep : ∀ member ∈ before ++ after, member.2.Guards (duties.handler member.1)
            (duties.allowed member.1) (R member.1) (G member.1) I (fun _ _ => True) s' := by
          intro member hmember
          have hmem : member ∈ before ++ (i, Program.call c next) :: after := by
            rcases mem_append.mp hmember with hmem | hmem
            · exact mem_append_left _ hmem
            · exact mem_append_right _ (mem_cons_of_mem _ hmem)
          have hne : member.1 ≠ i := by
            rw [map_append, map_cons, nodup_middle, nodup_cons, ← map_append] at hnames
            have hname : member.1 ∈ (before ++ after).map Prod.fst := List.mem_map_of_mem hmember
            intro heq
            rw [heq] at hname
            exact hnames.1 hname
          exact (hguards member hmem).stable (htrans member.1) (hothers member.1 i s s' hne hi hg)
        intro member hmember
        rcases mem_append.mp hmember with hmem | hmem
        · exact hkeep member (mem_append_left _ hmem)
        · rcases mem_cons.mp hmem with rfl | hmem
          · exact hnext
          · exact hkeep member (mem_append_right _ hmem)
      | @stop s before after member =>
        refine ⟨hi, ?_, ?_⟩
        · rw [map_append, map_cons, nodup_middle, nodup_cons, ← map_append] at hnames
          exact hnames.2
        · intro other hother
          apply hguards other
          rcases mem_append.mp hother with hmem | hmem
          · exact mem_append_left _ hmem
          · exact mem_append_right _ (mem_cons_of_mem _ hmem)
  exact hall.1

theorem runFor_acts {i : ι} {apply : (c : Call) → σ → Response c × σ}
    (hh : ∀ c s, duties.handler i c s (apply c s).1 (apply c s).2) (before after : List (ι × Program Call Response α))
    (k : ℕ) (p : Program Call Response α) (s : σ) (ha : p.PermittedFor apply (duties.allowed i) k s) :
    Relation.ReflTransGen (Acts duties) ⟨s, before ++ (i, p) :: after⟩
      ⟨(p.runFor apply k s).2, before ++ (i, (p.runFor apply k s).1) :: after⟩ := by
  induction k generalizing p s with
  | zero => exact .refl
  | succ k ih =>
    cases p with
    | done a => exact .refl
    | call c next =>
      have hact : Acts duties ⟨s, before ++ (i, .call c next) :: after⟩
          ⟨(apply c s).2, before ++ (i, next (apply c s).1) :: after⟩ := .act ha.1 (hh c s)
      exact .head hact (ih _ _ ha.2)

theorem of_runFor {i : ι} {apply : (c : Call) → σ → Response c × σ}
    (hh : ∀ c s, duties.handler i c s (apply c s).1 (apply c s).2) {p : Program Call Response α}
    (hp : duties.starts i p) (others : List (ι × Program Call Response α)) (hfresh : ∀ member ∈ others, member.1 ≠ i)
    (k : ℕ) (s : σ) (ha : p.PermittedFor apply (duties.allowed i) k s) :
    Relation.ReflTransGen (Acts duties) ⟨s, others⟩ ⟨(p.runFor apply k s).2, others⟩ := by
  have hjoin : Acts duties ⟨s, others⟩ ⟨s, [] ++ (i, p) :: others⟩ := .join hfresh hp
  have hstop : Acts duties ⟨(p.runFor apply k s).2, [] ++ (i, (p.runFor apply k s).1) :: others⟩
      ⟨(p.runFor apply k s).2, [] ++ others⟩ := .stop
  exact (Relation.ReflTransGen.head hjoin (runFor_acts hh [] others k p s ha)).tail hstop

end Parties
end HomeMagic
