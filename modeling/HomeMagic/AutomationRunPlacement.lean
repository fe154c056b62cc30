import HomeMagic.AutomationPlanWellFormed
import HomeMagic.AutomationRunMoves

/-! Where a run stands in its plan. `Placed` ties the continuation stack to the
compiled regions and carries the nodes the run can still enter. -/
namespace HomeMagic
open List

variable {n g j maximumParallel r : ℕ} {ahead : Set ℕ} {kind : AutomationPlanNodeKind}
  {outer stack : List AutomationRunContinuation} {failed : Bool} {remaining : List ℕ}

/-- A run at node `n` with this stack can still enter the nodes of the set. The
current branch of a group occupies `[start, mid)`, the branches not yet started
`[mid, g)`, and the enclosing level resumes at the join. -/
inductive Placed (e : CompilerEnv) (ns : List AutomationPlanNode) :
    ℕ → List AutomationRunContinuation → Set ℕ → Prop
  | top {n : ℕ} (hn : n < ns.length) : Placed e ns n [] {m | m < n}
  | frame {g j start mid n b : ℕ} {kind : AutomationRunContinuationKind}
      {entries remaining : List ℕ} {failed : Bool} {maximumParallel : ℕ}
      {outer : List AutomationRunContinuation} {ahead : Set ℕ} {actions : List AutomationAction}
      {rest : List (List AutomationAction)} (hp : Placed e ns g outer ahead)
      (hg : NodeAt ns g (.group kind entries maximumParallel (some j)))
      (hs : remaining <:+ entries) (hj : j < start)
      (hb : Region e ns (.block actions j b) start mid)
      (hr : Region e ns (.branches rest j remaining) mid g)
      (hn : n = j ∨ (start ≤ n ∧ n < mid)) :
      Placed e ns n (⟨g, kind, j, remaining, failed, maximumParallel⟩ :: outer)
        {m | (start ≤ m ∧ m < n) ∨ (mid ≤ m ∧ m < g) ∨ (m ∈ ahead ∧ ¬(j < m ∧ m < g))}

def Enters (ns : List AutomationPlanNode) (ahead ahead' : Set ℕ) (r : ℕ) : Prop :=
  (r ∈ ahead ∧ r ∉ ahead') ∨ ∃ next, NodeAt ns r (.join next)

def Nested (plan : AutomationExecutionPlan) : ℕ → List AutomationRunContinuation → Prop
  | _, [] => True
  | n, frame :: outer =>
    (∃ branches, plan.find frame.groupNodeId =
        some (.group frame.kind branches frame.maximumParallel (some frame.joinNodeId)) ∧
      frame.remainingBranches <:+ branches) ∧
    (n = frame.joinNodeId ∨ Inside plan frame.groupNodeId n) ∧
    Nested plan frame.groupNodeId outer

namespace CompiledPlan
variable {e : CompilerEnv} {plan : AutomationExecutionPlan} (h : CompiledPlan e plan)
include h

theorem emitted_or_complete (hk : NodeAt plan.nodes n kind) :
    (n = 0 ∧ kind = .complete) ∨ (1 ≤ n ∧ Emitted e plan.nodes 1 0 n kind) := by
  rcases Nat.eq_zero_or_pos n with rfl | hpos
  · exact .inl ⟨rfl, hk.unique h.complete⟩
  · obtain ⟨kind', hk', he⟩ := h.body.emitted n hpos hk.lt_length
    rw [hk.unique hk']
    exact .inr ⟨hpos, he⟩

theorem reference_lt (hk : NodeAt plan.nodes n kind) (hr : r ∈ kind.references) : r < n := by
  obtain ⟨kind', hk', href, _⟩ := h.node_cases n hk.lt_length
  exact href r (hk.unique hk' ▸ hr)

theorem exits_reference {o : Option ℕ} (hk : NodeAt plan.nodes n kind) (ho : o ∈ kind.exits) :
    ∃ r : ℕ, o = some r ∧ r ∈ kind.references := by
  have hpolicy (policy : AutomationPlanFailurePolicy) (next : ℕ) (hl : policy ≠ .fallback none) :
      ∃ r : ℕ, policy.exit (some next) = some r ∧ r ∈ policy.references ++ [next] := by
    cases policy with
    | fallback entry =>
      cases entry with
      | none => exact absurd rfl hl
      | some entry => exact ⟨entry, rfl, mem_append_left _ (mem_singleton.mpr rfl)⟩
    | _ => exact ⟨next, rfl, mem_append_right _ (mem_singleton.mpr rfl)⟩
  rcases h.emitted_or_complete hk with ⟨_, rfl⟩ | ⟨_, he⟩
  · cases ho
  · cases he with
    | @command node next hnode hnext _ hp =>
      simp only [AutomationPlanNodeKind.exits, AutomationPlanNodeKind.references, hnode,
        Option.toList_some, mem_cons, not_mem_nil, or_false] at ho ⊢
      rcases ho with rfl | rfl
      · exact ⟨next, rfl, by simp⟩
      · exact hpolicy node.onFailure next hp.linked
    | @wait condition timeoutMs next policy hnext hp =>
      simp only [AutomationPlanNodeKind.exits, AutomationPlanNodeKind.references,
        Option.toList_some, mem_cons, not_mem_nil, or_false] at ho ⊢
      rcases ho with rfl | rfl
      · exact ⟨next, rfl, by simp⟩
      · exact hpolicy policy next hp.linked
    | delay | setVariable => exact ⟨_, mem_singleton.mp ho, mem_singleton.mpr rfl⟩
    | @branch condition thenEntry elseEntry j ht hel hj =>
      simp only [AutomationPlanNodeKind.exits, Option.or_some, mem_cons, not_mem_nil,
        or_false] at ho
      rcases ho with rfl | rfl
      · exact ⟨thenEntry, by simp, by simp [AutomationPlanNodeKind.references]⟩
      · exact ⟨elseEntry, by simp, by simp [AutomationPlanNodeKind.references]⟩
    | group | join => cases ho

theorem frame_join {kind : AutomationRunContinuationKind} {entries : List ℕ}
    (hg : NodeAt plan.nodes g (.group kind entries maximumParallel (some j))) :
    j < g ∧ ∃ next : ℕ, NodeAt plan.nodes j (.join (some next)) := by
  obtain ⟨_, hj, hat⟩ := h.groupAt (h.find_iff.mpr hg)
  cases hj
  exact ⟨hat.lt, hat.join⟩

theorem placed_goto (hp : Placed e plan.nodes n stack ahead) (hk : NodeAt plan.nodes n kind)
    (htop : ∀ frame ∈ stack.head?, frame.joinNodeId ≠ n) (hr : r ∈ kind.references) :
    ∃ ahead', Placed e plan.nodes r stack ahead' ∧ ahead' ⊆ ahead ∧ Enters plan.nodes ahead ahead' r := by
  cases hp with
  | top hn =>
    have hlt := h.reference_lt hk hr
    refine ⟨{m | m < r}, .top (Nat.lt_trans hlt hn), ?_, .inl ⟨hlt, Nat.lt_irrefl r⟩⟩
    intro m hm
    exact Nat.lt_trans hm hlt
  | @frame g j start mid _ b gkind entries remaining failed maximumParallel outer ahead actions rest
      hp hg hs hj hb hrest hn =>
    have hne : n ≠ j := fun hnj => htop _ rfl hnj.symm
    have hin : start ≤ n ∧ n < mid := hn.resolve_left hne
    obtain ⟨kind', hk', he⟩ := hb.emitted n hin.1 hin.2
    rw [hk.unique hk'] at hr
    have hw := he.references.2 r hr
    have hlg := hrest.le
    simp only [Shape.next, Within] at hw
    refine ⟨_, .frame hp hg hs hj hb hrest (n := r) (by omega), ?_, ?_⟩
    · rintro m (hm | hm | hm)
      · exact .inl ⟨hm.1, by omega⟩
      · exact .inr (.inl hm)
      · exact .inr (.inr hm)
    · rcases hw with rfl | hw
      · obtain ⟨_, next, hjoin⟩ := h.frame_join hg
        exact .inr ⟨_, hjoin⟩
      · refine .inl ⟨.inl ⟨hw.1, hw.2⟩, ?_⟩
        rintro (hm | hm | hm)
        · omega
        · omega
        · exact hm.2 (by omega)

/-- A group is entered at its first branch. -/
theorem placed_enter {first : ℕ} {kind : AutomationRunContinuationKind} (failed : Bool)
    (hp : Placed e plan.nodes g stack ahead)
    (hg : NodeAt plan.nodes g (.group kind (first :: remaining) maximumParallel (some j))) :
    ∃ ahead', Placed e plan.nodes first (⟨g, kind, j, remaining, failed, maximumParallel⟩ :: stack)
      ahead' ∧ ahead' ⊆ ahead ∧ Enters plan.nodes ahead ahead' first := by
  -- the group's own nodes are all still ahead of the run
  have hahead : ∀ m, j < m → m < g → m ∈ ahead := by
    intro m hlo hhi
    cases hp with
    | top hn => exact hhi
    | @frame g' j' start mid _ b gkind entries remaining' failed' maximumParallel' outer ahead
        actions rest hp' hg' hs hj hb hrest hn =>
      obtain ⟨next, hjoin⟩ := (h.frame_join hg').2
      have hin : start ≤ g ∧ g < mid := by
        refine hn.resolve_left ?_
        rintro rfl
        cases hg.unique hjoin
      obtain ⟨_, hjr, hat⟩ := hb.groupAt hin.1 hin.2 hg
      cases hjr
      exact .inl ⟨by have := hat.ge; omega, hhi⟩
  obtain ⟨_, hjr, hat⟩ := h.groupAt (h.find_iff.mpr hg)
  cases hjr
  obtain ⟨next, hjoin⟩ := hat.join
  obtain ⟨authored, _, _, hbr⟩ := hat.branches
  cases hbr with
  | @moreBranches branch rest join entry lo mid hi entries hb hrest =>
    have hle := hb.le
    have hlg := hrest.le
    have he := hb.references first (mem_singleton.mpr rfl)
    simp only [Shape.next] at he
    refine ⟨_, .frame hp hg (suffix_cons first remaining) (Nat.lt_succ_self j) hb hrest he,
      ?_, ?_⟩
    · rintro m (hm | hm | hm)
      · exact hahead m (by omega) (by omega)
      · exact hahead m (by omega) hm.2
      · exact hm.1
    · rcases he with rfl | he
      · exact .inr ⟨_, hjoin⟩
      · refine .inl ⟨hahead first (by omega) (by omega), ?_⟩
        rintro (hm | hm | hm)
        · omega
        · omega
        · exact hm.2 (by omega)

theorem placed_nextBranch {b : ℕ} {kind : AutomationRunContinuationKind} {rest : List ℕ} (failed' : Bool)
    (hp : Placed e plan.nodes n (⟨g, kind, j, b :: rest, failed, maximumParallel⟩ :: outer) ahead) :
    ∃ ahead', Placed e plan.nodes b (⟨g, kind, j, rest, failed', maximumParallel⟩ :: outer) ahead' ∧
      ahead' ⊆ ahead ∧ Enters plan.nodes ahead ahead' b := by
  cases hp with
  | @frame _ _ start mid _ b' _ entries _ _ _ _ ahead actions rest' hp hg hs hj hb hrest hn =>
    have hle := hb.le
    cases hrest with
    | @moreBranches branch authored join entry lo mid' hi entries' hb' hrest' =>
      have hle' := hb'.le
      have hlg := hrest'.le
      have he := hb'.references b (mem_singleton.mpr rfl)
      simp only [Shape.next] at he
      have hs' : rest <:+ entries := (suffix_cons b rest).trans hs
      refine ⟨_, .frame hp hg hs' (by omega : j < mid) hb' hrest' he, ?_, ?_⟩
      · rintro m (hm | hm | hm)
        · exact .inr (.inl ⟨hm.1, by omega⟩)
        · exact .inr (.inl ⟨by omega, hm.2⟩)
        · exact .inr (.inr hm)
      · rcases he with rfl | he
        · obtain ⟨_, next, hjoin⟩ := h.frame_join hg
          exact .inr ⟨_, hjoin⟩
        · refine .inl ⟨.inr (.inl ⟨he.1, by omega⟩), ?_⟩
          rintro (hm | hm | hm)
          · omega
          · omega
          · exact hm.2 (by omega)

theorem placed_stopBranch {kind : AutomationRunContinuationKind} (failed' : Bool)
    (hp : Placed e plan.nodes n (⟨g, kind, j, remaining, failed, maximumParallel⟩ :: outer) ahead) :
    ∃ ahead', Placed e plan.nodes j (⟨g, kind, j, remaining, failed', maximumParallel⟩ :: outer)
      ahead' ∧ ahead' ⊆ ahead ∧ Enters plan.nodes ahead ahead' j := by
  cases hp with
  | @frame _ _ start mid _ b' _ entries _ _ _ _ ahead actions rest' hp hg hs hj hb hrest hn =>
    obtain ⟨_, next, hjoin⟩ := h.frame_join hg
    refine ⟨_, .frame hp hg hs hj hb hrest (.inl rfl), ?_, .inr ⟨_, hjoin⟩⟩
    rintro m (hm | hm | hm)
    · omega
    · exact .inr (.inl hm)
    · exact .inr (.inr hm)

/-- A join leaves its group. -/
theorem placed_leave {next : ℕ} {kind : AutomationRunContinuationKind}
    (hp : Placed e plan.nodes n (⟨g, kind, j, remaining, failed, maximumParallel⟩ :: outer) ahead)
    (hjoin : NodeAt plan.nodes j (.join (some next))) :
    ∃ ahead', Placed e plan.nodes next outer ahead' ∧ ahead' ⊆ ahead ∧
      Enters plan.nodes ahead ahead' next := by
  cases hp with
  | @frame _ _ start mid _ b' _ entries _ _ _ _ ahead actions rest' hp hg hs hj hb hrest hn =>
    have hlt := h.reference_lt hjoin (mem_singleton.mpr rfl)
    obtain ⟨hjg, _⟩ := h.frame_join hg
    cases hp with
    | top hlen =>
      refine ⟨{m | m < next}, .top (by omega), ?_, .inl ⟨.inr (.inr ⟨?_, by omega⟩), Nat.lt_irrefl next⟩⟩
      · intro m hm
        exact .inr (.inr ⟨Nat.lt_trans hm (by omega), by have : m < next := hm; omega⟩)
      · exact Nat.lt_trans hlt hjg
    | @frame g2 j2 start2 mid2 _ b2 _ entries2 _ _ _ _ ahead2 actions2 rest2 hp2 hg2 hs2 hj2 hb2
        hrest2 hn2 =>
      obtain ⟨_, next2, hjoin2⟩ := h.frame_join hg2
      have hin : start2 ≤ g ∧ g < mid2 := by
        refine hn2.resolve_left ?_
        rintro rfl
        cases hg.unique hjoin2
      obtain ⟨_, hjr, hat⟩ := hb2.groupAt hin.1 hin.2 hg
      cases hjr
      have hge := hat.ge
      have hlg2 := hrest2.le
      obtain ⟨kind', hk', he⟩ := hb2.emitted j hge (by omega)
      cases hjoin.unique hk'
      have hw := he.references.2 next (mem_singleton.mpr rfl)
      simp only [Shape.next, Within] at hw
      refine ⟨_, .frame hp2 hg2 hs2 hj2 hb2 hrest2 (n := next) (by omega), ?_, ?_⟩
      · rintro m (hm | hm | hm)
        · exact .inr (.inr ⟨.inl ⟨hm.1, by omega⟩, by omega⟩)
        · exact .inr (.inr ⟨.inr (.inl hm), by omega⟩)
        · exact .inr (.inr ⟨.inr (.inr hm), by have := hm.2; omega⟩)
      · rcases hw with rfl | hw
        · exact .inr ⟨_, hjoin2⟩
        · refine .inl ⟨.inr (.inr ⟨.inl ⟨hw.1, by omega⟩, by omega⟩), ?_⟩
          rintro (hm | hm | hm)
          · omega
          · omega
          · exact hm.2 (by omega)

theorem placed_nested (hp : Placed e plan.nodes n stack ahead) : Nested plan n stack := by
  induction hp with
  | top => trivial
  | @frame g j start mid n b kind entries remaining failed maximumParallel outer ahead actions rest hp
      hg hs hj hb hrest hn ih =>
    have hf := h.find_iff.mpr hg
    have hlg := hrest.le
    refine ⟨⟨entries, hf, hs⟩, ?_, ih⟩
    rcases hn with rfl | hn
    · exact .inl rfl
    · exact .inr ((h.inside_iff hf).mpr ⟨by omega, by omega⟩)

theorem placed_join_lt {frame : AutomationRunContinuation} (hp : Placed e plan.nodes n (frame :: outer) ahead)
    (hk : NodeAt plan.nodes n kind) (hnot : kind.isJoin = false) : (frame.joinNodeId : ℕ) < n := by
  cases hp with
  | @frame g j start mid _ b gkind entries remaining failed maximumParallel outer ahead actions rest hp
      hg hs hj hb hrest hn =>
    rcases hn with rfl | hn
    · obtain ⟨_, next, hjoin⟩ := h.frame_join hg
      cases hk.unique hjoin
      cases hnot
    · exact Nat.lt_of_lt_of_le hj hn.1

end CompiledPlan
end HomeMagic
