import HomeMagic.AutomationPlanLowering
import HomeMagic.Inevitability

/-! Control flow inside compiled regions: references stay in the region or leave
through its continuation, and groups nest. -/
namespace HomeMagic
open List

variable {e : CompilerEnv} {ns : List AutomationPlanNode}
variable {lo hi lo' i out out' a b g : ℕ} {s : Shape} {kind : AutomationPlanNodeKind} {entries : List ℕ}
  {policy : AutomationPlanFailurePolicy}

def Within (lo out i r : ℕ) : Prop := r = out ∨ (lo ≤ r ∧ r < i)

theorem Within.mono {r : ℕ} (h : Within lo out i r) (hlo : lo' ≤ lo) (hout : Within lo' out' i out) :
    Within lo' out' i r := by
  unfold Within at *
  omega

structure GroupAt (e : CompilerEnv) (ns : List AutomationPlanNode) (lo : ℕ)
    (entries : List ℕ) (j g : ℕ) : Prop where
  ge : lo ≤ j
  lt : j < g
  join : ∃ next : ℕ, NodeAt ns j (.join (some next))
  branches : ∃ authored, authored ≠ [] ∧
    authored.length ≤ e.document.budget.maximumParallelWidth ∧
    Region e ns (.branches authored j entries) (j+1) g

theorem GroupAt.mono {j : ℕ} (h : GroupAt e ns lo entries j g) (hlo : lo' ≤ lo) : GroupAt e ns lo' entries j g :=
  ⟨Nat.le_trans hlo h.ge, h.lt, h.join, h.branches⟩

structure PolicyWithin (lo out i : ℕ) (policy : AutomationPlanFailurePolicy) : Prop where
  references : ∀ r : ℕ, r ∈ policy.references → Within lo out i r
  linked : policy ≠ .fallback none

theorem PolicyWithin.mono (h : PolicyWithin lo out i policy) (hlo : lo' ≤ lo) (hout : Within lo' out' i out) :
    PolicyWithin lo' out' i policy :=
  ⟨fun r hr => (h.references r hr).mono hlo hout, h.linked⟩

/-- What the compiler can emit at position `i` of a region from `lo` that
continues at `out`. -/
inductive Emitted (e : CompilerEnv) (ns : List AutomationPlanNode) (lo out i : ℕ) :
    AutomationPlanNodeKind → Prop
  | command {node : CommandNode} {next : ℕ} (hnode : node.next = some next)
      (hnext : Within lo out i next) (hretry : node.retry.maximumRetries ≤ maxAutomationRetries)
      (hpolicy : PolicyWithin lo out i node.onFailure) : Emitted e ns lo out i (.command node)
  | delay {durationMs next : ℕ} (hnext : Within lo out i next) :
      Emitted e ns lo out i (.delay durationMs (some next))
  | wait {condition : ResolvedAutomationCondition} {timeoutMs next : ℕ}
      {policy : AutomationPlanFailurePolicy} (hnext : Within lo out i next)
      (hpolicy : PolicyWithin lo out i policy) :
      Emitted e ns lo out i (.wait condition timeoutMs policy (some next))
  | setVariable {name : String} {value : ResolvedAutomationExpression} {next : ℕ}
      (hnext : Within lo out i next) : Emitted e ns lo out i (.setVariable name value (some next))
  | branch {condition : ResolvedAutomationCondition} {thenEntry elseEntry j : ℕ}
      (ht : Within lo out i thenEntry) (he : Within lo out i elseEntry) (hj : Within lo out i j) :
      Emitted e ns lo out i (.branch condition (some thenEntry) (some elseEntry) (some j))
  | group {kind : AutomationRunContinuationKind} {entries : List ℕ} {maximumParallel j : ℕ}
      (hg : GroupAt e ns lo entries j i) :
      Emitted e ns lo out i (.group kind entries maximumParallel (some j))
  | join {next : ℕ} (hnext : Within lo out i next) : Emitted e ns lo out i (.join (some next))

theorem Emitted.mono (h : Emitted e ns lo out i kind) (hlo : lo' ≤ lo) (hout : Within lo' out' i out) :
    Emitted e ns lo' out' i kind := by
  cases h with
  | command hnode hnext hretry hpolicy =>
    exact .command hnode (hnext.mono hlo hout) hretry (hpolicy.mono hlo hout)
  | delay hnext => exact .delay (hnext.mono hlo hout)
  | wait hnext hpolicy => exact .wait (hnext.mono hlo hout) (hpolicy.mono hlo hout)
  | setVariable hnext => exact .setVariable (hnext.mono hlo hout)
  | branch ht he hj => exact .branch (ht.mono hlo hout) (he.mono hlo hout) (hj.mono hlo hout)
  | group hg => exact .group (hg.mono hlo)
  | join hnext => exact .join (hnext.mono hlo hout)

theorem Region.policyWithin {authored : AutomationFailurePolicy} {next : ℕ}
    (h : Region e ns (.policy authored next policy) lo hi) :
    PolicyWithin lo next hi policy := by
  refine ⟨h.references, ?_⟩
  rintro rfl
  cases h with
  | plain hp => cases authored <;> cases hp

/-- Every position of a region holds a node the compiler emitted for it. -/
theorem Region.emitted (h : Region e ns s lo hi) :
    ∀ i, lo ≤ i → i < hi → ∃ kind, NodeAt ns i kind ∧ Emitted e ns lo s.next i kind := by
  induction h with
  | nil | plain | noBranch =>
    intro i hlo hhi
    omega
  | superseded _ _ ih | sequence _ ih | fallback _ ih => exact ih
  | @cons action rest next middle entry lo mid hi hr hs ihr ihs =>
    intro i hlo hhi
    have hle := hr.le
    have hm := hr.references middle (mem_singleton.mpr rfl)
    rcases Nat.lt_or_ge i mid with hi' | hi'
    · exact ihr i hlo hi'
    · obtain ⟨kind, hk, he⟩ := ihs i hi' hhi
      refine ⟨kind, hk, he.mono hle ?_⟩
      simp only [Shape.next, Within] at *
      omega
  | @command target payload retry onFailure targets segment next lo hi policy ht hr hp hn ih =>
    intro i hlo hhi
    rcases Nat.lt_or_ge i hi with hi' | hi'
    · exact ih i hlo hi'
    · -- the fallback lies before `hi`, the command itself at `hi`
      obtain rfl : i = hi := by omega
      exact ⟨_, hn, .command rfl (.inl rfl) hr hp.policyWithin⟩
  | @delay durationMs next lo hn =>
    intro i hlo hhi
    obtain rfl : i = lo := by omega
    exact ⟨_, hn, .delay (.inl rfl)⟩
  | @wait guard condition timeoutMs next lo hi onTimeout policy hc hp hn ih =>
    intro i hlo hhi
    rcases Nat.lt_or_ge i hi with hi' | hi'
    · exact ih i hlo hi'
    · obtain rfl : i = hi := by omega
      exact ⟨_, hn, .wait (.inl rfl) hp.policyWithin⟩
  | @setVariable name value expression next lo hv hn =>
    intro i hlo hhi
    obtain rfl : i = lo := by omega
    exact ⟨_, hn, .setVariable (.inl rfl)⟩
  | @branch guard condition thenActions elseActions next thenEntry elseEntry lo mid hi hj ht he hc hn
      iht ihe =>
    intro i hlo hhi
    have hlt := ht.le
    have hle := he.le
    have ht' := ht.references thenEntry (mem_singleton.mpr rfl)
    have he' := he.references elseEntry (mem_singleton.mpr rfl)
    simp only [Shape.next] at ht' he' iht ihe ⊢
    rcases Nat.lt_or_ge lo i with hlo' | hlo'
    · have hout : Within lo next i lo := .inr ⟨Nat.le_refl lo, hlo'⟩
      rcases Nat.lt_or_ge i mid with hmid | hmid
      · obtain ⟨kind, hk, hem⟩ := iht i hlo' hmid
        exact ⟨kind, hk, hem.mono (by omega) hout⟩
      · rcases Nat.lt_or_ge i hi with hi' | hi'
        · obtain ⟨kind, hk, hem⟩ := ihe i hmid hi'
          exact ⟨kind, hk, hem.mono (by omega) hout⟩
        · obtain rfl : i = hi := by omega
          refine ⟨_, hn, .branch ?_ ?_ hout⟩ <;> simp only [Within] <;> omega
    · obtain rfl : i = lo := by omega
      exact ⟨_, hj, .join (.inl rfl)⟩
  | @group action kind branches maximumParallel next lo hi entries hg hne hw hj hb hn ih =>
    intro i hlo hhi
    have hlb := hb.le
    simp only [Shape.next] at ih ⊢
    rcases Nat.lt_or_ge lo i with hlo' | hlo'
    · rcases Nat.lt_or_ge i hi with hi' | hi'
      · obtain ⟨kind, hk, hem⟩ := ih i hlo' hi'
        exact ⟨kind, hk, hem.mono (by omega) (.inr ⟨Nat.le_refl lo, hlo'⟩)⟩
      · obtain rfl : i = hi := by omega
        exact ⟨_, hn, .group ⟨Nat.le_refl lo, hlo', ⟨next, hj⟩, branches, hne, hw, hb⟩⟩
    · obtain rfl : i = lo := by omega
      exact ⟨_, hj, .join (.inl rfl)⟩
  | @moreBranches branch rest join entry lo mid hi entries hb hr ihb ihr =>
    intro i hlo hhi
    have hlb := hb.le
    rcases Nat.lt_or_ge i mid with hmid | hmid
    · exact ihb i hlo hmid
    · obtain ⟨kind, hk, hem⟩ := ihr i hmid hhi
      exact ⟨kind, hk, hem.mono hlb (.inl rfl)⟩

/-- An emitted node refers to something, inside its region or to the continuation. -/
theorem Emitted.references (h : Emitted e ns lo out i kind) :
    kind.references ≠ [] ∧ ∀ r : ℕ, r ∈ kind.references → Within lo out i r := by
  cases h with
  | @command node next hnode hnext _ hpolicy =>
    simp only [AutomationPlanNodeKind.references, hnode, Option.toList_some]
    refine ⟨by simp, ?_⟩
    intro r hr
    rcases mem_append.mp hr with hr | hr
    · exact hpolicy.references r hr
    · exact mem_singleton.mp hr ▸ hnext
  | wait hnext hpolicy =>
    refine ⟨by simp [AutomationPlanNodeKind.references], ?_⟩
    intro r hr
    rcases mem_append.mp hr with hr | hr
    · exact hpolicy.references r hr
    · exact mem_singleton.mp hr ▸ hnext
  | delay hnext | setVariable hnext | join hnext =>
    exact ⟨cons_ne_nil _ _, fun r hr => mem_singleton.mp hr ▸ hnext⟩
  | branch ht he hj =>
    refine ⟨cons_ne_nil _ _, ?_⟩
    intro r hr
    simp only [AutomationPlanNodeKind.references, Option.toList_some, mem_append,
      mem_singleton] at hr
    rcases hr with (rfl | rfl) | rfl
    · exact ht
    · exact he
    · exact hj
  | @group kind entries maximumParallel j hg =>
    refine ⟨by simp [AutomationPlanNodeKind.references], ?_⟩
    obtain ⟨authored, _, _, hb⟩ := hg.branches
    have hge := hg.ge
    have hlt := hg.lt
    intro r hr
    rcases mem_append.mp hr with hr | hr
    · have := hb.references r hr
      simp only [Shape.next, Within] at *
      omega
    · obtain rfl : r = j := mem_singleton.mp hr
      exact .inr ⟨hge, hlt⟩

theorem Region.node (h : Region e ns s lo hi) (i : ℕ) (hlo : lo ≤ i) (hhi : i < hi) :
    ∃ kind, NodeAt ns i kind ∧ kind.references ≠ [] ∧
      ∀ r : ℕ, r ∈ kind.references → Within lo s.next i r := by
  obtain ⟨kind, hk, he⟩ := h.emitted i hlo hhi
  exact ⟨kind, hk, he.references⟩

theorem Region.groupAt (h : Region e ns s lo hi) {kind : AutomationRunContinuationKind} {maximumParallel : ℕ}
    {joinRef : Option ℕ} (hlo : lo ≤ g) (hhi : g < hi)
    (hk : NodeAt ns g (.group kind entries maximumParallel joinRef)) :
    ∃ j, joinRef = some j ∧ GroupAt e ns lo entries j g := by
  obtain ⟨kind', hk', he⟩ := h.emitted g hlo hhi
  cases hk.unique hk'
  cases he with
  | group hg => exact ⟨_, rfl, hg⟩

def Step (ns : List AutomationPlanNode) (P : ℕ → Prop) (x y : ℕ) : Prop :=
  P x ∧ ∃ kind, NodeAt ns x kind ∧ y ∈ kind.references

def WalkIn (ns : List AutomationPlanNode) (lo hi : ℕ) : ℕ → ℕ → Prop :=
  Relation.ReflTransGen (Step ns (fun x => lo ≤ x ∧ x < hi))

theorem WalkIn.mono {hi' : ℕ} (h : WalkIn ns lo hi a b) (hlo : lo' ≤ lo) (hhi : hi ≤ hi') :
    WalkIn ns lo' hi' a b := by
  have hstep : Step ns (fun x => lo ≤ x ∧ x < hi) ≤ Step ns (fun x => lo' ≤ x ∧ x < hi') :=
    fun x _ hx => ⟨⟨Nat.le_trans hlo hx.1.1, Nat.lt_of_lt_of_le hx.1.2 hhi⟩, hx.2⟩
  exact Relation.ReflTransGen.mono hstep a b h

theorem WalkIn.single (hn : NodeAt ns a kind) (hlo : lo ≤ a) (hhi : a < hi) (hb : b ∈ kind.references) :
    WalkIn ns lo hi a b :=
  Relation.ReflTransGen.single ⟨⟨hlo, hhi⟩, kind, hn, hb⟩

/-- Control can pass through a fragment to its continuation. -/
theorem Region.walk_next (h : Region e ns s lo hi) :
    ∀ r ∈ s.references, WalkIn ns lo hi r s.next := by
  induction h with
  | nil => exact fun r hr => mem_singleton.mp hr ▸ Relation.ReflTransGen.refl
  | superseded _ _ ih | sequence _ ih | fallback _ ih => exact ih
  | @cons action rest next middle entry lo mid hi hr hs ihr ihs =>
    intro r hm
    have hstep := (ihs r hm).mono hr.le (Nat.le_refl hi)
    have hrest := (ihr middle (mem_singleton.mpr rfl)).mono (Nat.le_refl lo) hs.le
    exact hstep.trans hrest
  | @command target payload retry onFailure targets segment next lo hi policy ht hr hp hn ih =>
    intro r hr
    rw [mem_singleton.mp hr]
    exact .single hn hp.le (Nat.lt_succ_self hi) (mem_append_right _ (mem_singleton.mpr rfl))
  | @wait guard condition timeoutMs next lo hi onTimeout policy hc hp hn ih =>
    intro r hr
    rw [mem_singleton.mp hr]
    exact .single hn hp.le (Nat.lt_succ_self hi) (mem_append_right _ (mem_singleton.mpr rfl))
  | @delay durationMs next lo hn =>
    intro r hr
    rw [mem_singleton.mp hr]
    exact .single hn (Nat.le_refl lo) (Nat.lt_succ_self lo) (mem_singleton.mpr rfl)
  | @setVariable name value expression next lo hv hn =>
    intro r hr
    rw [mem_singleton.mp hr]
    exact .single hn (Nat.le_refl lo) (Nat.lt_succ_self lo) (mem_singleton.mpr rfl)
  | @branch guard condition thenActions elseActions next thenEntry elseEntry lo mid hi hj ht he hc hn
      iht ihe =>
    intro r hr
    have hlt := ht.le
    have hle := he.le
    rw [mem_singleton.mp hr]
    have hjoin : WalkIn ns lo (hi+1) hi lo := .single hn (by omega) (Nat.lt_succ_self hi)
      (mem_append_right _ (mem_singleton.mpr rfl))
    exact hjoin.trans (WalkIn.single hj (Nat.le_refl lo) (by omega) (mem_singleton.mpr rfl))
  | @group action kind branches maximumParallel next lo hi entries hg hne hw hj hb hn ih =>
    intro r hr
    have hlb := hb.le
    rw [mem_singleton.mp hr]
    have hjoin : WalkIn ns lo (hi+1) hi lo := .single hn (by omega) (Nat.lt_succ_self hi)
      (mem_append_right _ (mem_singleton.mpr rfl))
    exact hjoin.trans (WalkIn.single hj (Nat.le_refl lo) (by omega) (mem_singleton.mpr rfl))
  | plain hp =>
    intro r hr
    rw [Shape.references, plain_references hp] at hr
    cases hr
  | noBranch => exact fun r hr => absurd hr not_mem_nil
  | @moreBranches branch rest join entry lo mid hi entries hb hr ihb ihr =>
    intro r hm
    rcases mem_cons.mp hm with rfl | hm
    · exact (ihb r (mem_singleton.mpr rfl)).mono (Nat.le_refl lo) hr.le
    · exact (ihr r hm).mono hb.le (Nat.le_refl hi)

/-- Every node of a fragment can be reached from where control enters it. -/
theorem Region.walk_to (h : Region e ns s lo hi) :
    ∀ i, lo ≤ i → i < hi → ∃ r ∈ s.references, WalkIn ns lo hi r i := by
  induction h with
  | nil | plain | noBranch =>
    intro i hlo hhi
    omega
  | superseded _ _ ih | sequence _ ih | fallback _ ih => exact ih
  | @cons action rest next middle entry lo mid hi hr hs ihr ihs =>
    intro i hlo hhi
    rcases Nat.lt_or_ge i mid with hm | hm
    · obtain ⟨r, hr', hw⟩ := ihr i hlo hm
      rw [mem_singleton.mp hr'] at hw
      have hstep := (hs.walk_next entry (mem_singleton.mpr rfl)).mono hr.le (Nat.le_refl hi)
      exact ⟨entry, mem_singleton.mpr rfl, hstep.trans (hw.mono (Nat.le_refl lo) hs.le)⟩
    · obtain ⟨r, hr', hw⟩ := ihs i hm hhi
      exact ⟨r, hr', hw.mono hr.le (Nat.le_refl hi)⟩
  | @command target payload retry onFailure targets segment next lo hi policy ht hr hp hn ih =>
    intro i hlo hhi
    -- control enters at the command, the last node of its fragment
    refine ⟨hi, mem_singleton.mpr rfl, ?_⟩
    rcases Nat.lt_or_ge i hi with hm | hm
    · obtain ⟨r, hr, hw⟩ := ih i hlo hm
      have hin : WalkIn ns lo (hi+1) hi r :=
        .single hn hp.le (Nat.lt_succ_self hi) (mem_append_left _ hr)
      exact hin.trans (hw.mono (Nat.le_refl lo) (Nat.le_succ hi))
    · obtain rfl : i = hi := by omega
      exact Relation.ReflTransGen.refl
  | @wait guard condition timeoutMs next lo hi onTimeout policy hc hp hn ih =>
    intro i hlo hhi
    refine ⟨hi, mem_singleton.mpr rfl, ?_⟩
    rcases Nat.lt_or_ge i hi with hm | hm
    · obtain ⟨r, hr, hw⟩ := ih i hlo hm
      have hin : WalkIn ns lo (hi+1) hi r :=
        .single hn hp.le (Nat.lt_succ_self hi) (mem_append_left _ hr)
      exact hin.trans (hw.mono (Nat.le_refl lo) (Nat.le_succ hi))
    · obtain rfl : i = hi := by omega
      exact Relation.ReflTransGen.refl
  | @delay durationMs next lo hn =>
    intro i hlo hhi
    obtain rfl : i = lo := by omega
    exact ⟨i, mem_singleton.mpr rfl, Relation.ReflTransGen.refl⟩
  | @setVariable name value expression next lo hv hn =>
    intro i hlo hhi
    obtain rfl : i = lo := by omega
    exact ⟨i, mem_singleton.mpr rfl, Relation.ReflTransGen.refl⟩
  | @branch guard condition thenActions elseActions next thenEntry elseEntry lo mid hi hj ht he hc hn
      iht ihe =>
    intro i hlo hhi
    have hlt := ht.le
    have hle := he.le
    -- the branch at `hi` leads to both paths and to the join at `lo`
    have hin (r : ℕ) (hr : r ∈ [thenEntry, elseEntry, lo]) : WalkIn ns lo (hi+1) hi r :=
      .single hn (by omega) (Nat.lt_succ_self hi) hr
    refine ⟨hi, mem_singleton.mpr rfl, ?_⟩
    rcases Nat.lt_or_ge lo i with hlo' | hlo'
    · rcases Nat.lt_or_ge i mid with hm | hm
      · obtain ⟨r, hr, hw⟩ := iht i hlo' hm
        rw [mem_singleton.mp hr] at hw
        exact (hin thenEntry (by simp)).trans (hw.mono (by omega) (by omega))
      · rcases Nat.lt_or_ge i hi with hm' | hm'
        · obtain ⟨r, hr, hw⟩ := ihe i hm hm'
          rw [mem_singleton.mp hr] at hw
          exact (hin elseEntry (by simp)).trans (hw.mono (by omega) (by omega))
        · obtain rfl : i = hi := by omega
          exact Relation.ReflTransGen.refl
    · obtain rfl : i = lo := by omega
      exact hin i (by simp)
  | @group action kind branches maximumParallel next lo hi entries hg hne hw hj hb hn ih =>
    intro i hlo hhi
    have hlb := hb.le
    refine ⟨hi, mem_singleton.mpr rfl, ?_⟩
    rcases Nat.lt_or_ge lo i with hlo' | hlo'
    · rcases Nat.lt_or_ge i hi with hm | hm
      · obtain ⟨r, hr, hwalk⟩ := ih i hlo' hm
        have hin : WalkIn ns lo (hi+1) hi r :=
          .single hn (by omega) (Nat.lt_succ_self hi) (mem_append_left _ hr)
        exact hin.trans (hwalk.mono (by omega) (by omega))
      · obtain rfl : i = hi := by omega
        exact Relation.ReflTransGen.refl
    · obtain rfl : i = lo := by omega
      exact .single hn (by omega) (Nat.lt_succ_self hi)
        (mem_append_right _ (mem_singleton.mpr rfl))
  | @moreBranches branch rest join entry lo mid hi entries hb hr ihb ihr =>
    intro i hlo hhi
    rcases Nat.lt_or_ge i mid with hm | hm
    · obtain ⟨r, hr', hw⟩ := ihb i hlo hm
      rw [mem_singleton.mp hr'] at hw
      exact ⟨entry, mem_cons_self, hw.mono (Nat.le_refl lo) hr.le⟩
    · obtain ⟨r, hr', hw⟩ := ihr i hm hhi
      exact ⟨r, mem_cons_of_mem _ hr', hw.mono hb.le (Nat.le_refl hi)⟩

end HomeMagic
