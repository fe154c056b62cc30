import HomeMagic.CommandDomain

/-! The command policy as a law about sets of grants: a decision is the best that a single grant gives. -/
namespace HomeMagic
open List

namespace PolicyEvaluator

variable {input : PolicyInput} {grants : List ActorGrant} {grant : ActorGrant}
variable {reasons : Finset PolicyReason} {α : Type} {a b : List α} {condition : Bool} {reason : PolicyReason}

structure Open (input : PolicyInput) : Prop where
  enabled : input.actor.enabled = true
  interactive : input.action = .approveUnlock → input.actor.kind = .user
  fresh : input.risk = .mechanical → input.freshness = .fresh
  constraint : input.risk = .mechanical → input.constraint = .available
  rate : input.rateCapacity ≠ .exhausted
  device : input.deviceCapacity ≠ .exhausted

structure Covers (input : PolicyInput) (grant : ActorGrant) : Prop where
  actor : grant.actorId = input.actor.id
  enabled : grant.enabled = true
  action : input.action ∈ grant.actions
  scope : scopeMatches grant.scope input = true
  risk : grant.maximumRisk.permits input.risk = true
  exact_ : input.risk = .security → exactScope grant.scope input = true

theorem mem_scopedGrants : grant ∈ scopedGrants input grants ↔ grant ∈ grants ∧
    grant.actorId = input.actor.id ∧ grant.enabled = true ∧ input.action ∈ grant.actions ∧
      scopeMatches grant.scope input = true := by
  unfold scopedGrants
  rw [List.mem_filter, Bool.and_eq_true, Bool.and_eq_true, Bool.and_eq_true, beq_iff_eq, contains_iff_mem,
    and_assoc, and_assoc]

theorem mem_riskMatched : grant ∈ riskMatched input grants ↔
    grant ∈ scopedGrants input grants ∧ grant.maximumRisk.permits input.risk = true := by
  unfold riskMatched
  exact List.mem_filter

theorem because_eq_empty :
    because condition reason reasons = ∅ ↔ condition = false ∧ reasons = ∅ := by
  unfold because
  cases condition with
  | false => simp
  | true => simp [Finset.insert_ne_empty]

theorem riskReasons_eq_empty : riskReasons input grants reasons = ∅ ↔
    reasons = ∅ ∧ (input.risk = .mechanical → input.freshness = .fresh ∧ input.constraint = .available ∧
      riskMatched input grants ≠ []) ∧
      (input.risk = .security → ∃ grant ∈ riskMatched input grants, exactScope grant.scope input = true) := by
  unfold riskReasons
  cases hrisk : input.risk with
  | observe => simp
  | comfort => simp
  | mechanical =>
    dsimp only
    rw [because_eq_empty, because_eq_empty, because_eq_empty]
    simp only [bne_eq_false_iff_eq, isEmpty_eq_false_iff]
    tauto
  | security =>
    dsimp only
    rw [because_eq_empty, Bool.not_eq_false', List.any_eq_true]
    simp [and_comm]

/-- Nothing is denied exactly when the input is open and one grant covers it. -/
theorem denials_eq_empty : denials input grants = ∅ ↔
    Open input ∧ ∃ grant ∈ grants, Covers input grant := by
  have hscoped : ∀ {grant}, grant ∈ riskMatched input grants → grant ∈ scopedGrants input grants :=
    fun h => (mem_riskMatched.mp h).1
  have hcovers : ∀ {grant}, grant ∈ riskMatched input grants →
      (input.risk = .security → exactScope grant.scope input = true) → grant ∈ grants ∧ Covers input grant := by
    intro grant hgrant hexact
    obtain ⟨hscope, hrisk⟩ := mem_riskMatched.mp hgrant
    obtain ⟨hmem, hactor, henabled, haction, hscope⟩ := mem_scopedGrants.mp hscope
    exact ⟨hmem, hactor, henabled, haction, hscope, hrisk, hexact⟩
  unfold denials
  dsimp only
  rw [because_eq_empty, because_eq_empty, riskReasons_eq_empty, because_eq_empty, because_eq_empty, because_eq_empty,
    because_eq_empty]
  simp only [beq_eq_false_iff_ne, Bool.not_eq_false', isEmpty_eq_false_iff, Bool.and_eq_false_iff,
    bne_eq_false_iff_eq, List.isEmpty_iff]
  constructor
  · rintro ⟨hdevice, hrate, ⟨hrisk, hnonempty, haction, henabled, -⟩, hmechanical, hsecurity⟩
    refine ⟨⟨henabled, ?_, fun h => (hmechanical h).1, fun h => (hmechanical h).2.1, hrate, hdevice⟩, ?_⟩
    · intro happrove
      exact haction.resolve_left (fun hne => hne happrove)
    · have hmatched : riskMatched input grants ≠ [] := hrisk.resolve_left hnonempty
      by_cases hsecure : input.risk = .security
      · obtain ⟨grant, hgrant, hexact⟩ := hsecurity hsecure
        exact ⟨grant, hcovers hgrant (fun _ => hexact)⟩
      · obtain ⟨grant, hgrant⟩ := exists_mem_of_ne_nil _ hmatched
        exact ⟨grant, hcovers hgrant (fun h => absurd h hsecure)⟩
  · rintro ⟨hopen, grant, hmem, hgrant⟩
    have hscope : grant ∈ scopedGrants input grants :=
      mem_scopedGrants.mpr ⟨hmem, hgrant.actor, hgrant.enabled, hgrant.action, hgrant.scope⟩
    have hmatched : grant ∈ riskMatched input grants := mem_riskMatched.mpr ⟨hscope, hgrant.risk⟩
    refine ⟨hopen.device, hopen.rate, ⟨Or.inr (ne_nil_of_mem hmatched), ne_nil_of_mem hscope, ?_,
      hopen.enabled, trivial⟩, ?_, ?_⟩
    · by_cases happrove : input.action = .approveUnlock
      · exact Or.inr (hopen.interactive happrove)
      · exact Or.inl happrove
    · intro hmechanical
      exact ⟨hopen.fresh hmechanical, hopen.constraint hmechanical, ne_nil_of_mem hmatched⟩
    · intro hsecurity
      exact ⟨grant, hmatched, hgrant.exact_ hsecurity⟩

theorem allowed_iff_denials : (evaluate input grants).allowed = true ↔ denials input grants = ∅ := by
  unfold evaluate
  dsimp only
  rw [Bool.and_eq_true, decide_eq_true_eq]
  refine and_iff_left_of_imp ?_
  intro hnone
  obtain ⟨-, grant, hmem, hgrant⟩ := denials_eq_empty.mp hnone
  have hscope : grant ∈ scopedGrants input grants :=
    mem_scopedGrants.mpr ⟨hmem, hgrant.actor, hgrant.enabled, hgrant.action, hgrant.scope⟩
  have hmatched : grant ∈ riskMatched input grants := mem_riskMatched.mpr ⟨hscope, hgrant.risk⟩
  rw [Bool.not_eq_true', isEmpty_eq_false_iff]
  exact ne_nil_of_mem hmatched

theorem allowed_iff : (evaluate input grants).allowed = true ↔ Open input ∧ ∃ grant ∈ grants, Covers input grant :=
  allowed_iff_denials.trans denials_eq_empty

theorem mem_because {other : PolicyReason} :
    other ∈ because condition reason reasons ↔ condition = true ∧ other = reason ∨ other ∈ reasons := by
  unfold because
  cases condition with
  | false => simp
  | true => simp [Finset.mem_insert]

theorem allowedByGrant_notMem_denials : PolicyReason.allowedByGrant ∉ denials input grants := by
  have hrisk : ∀ reasons : Finset PolicyReason, PolicyReason.allowedByGrant ∉ reasons →
      PolicyReason.allowedByGrant ∉ riskReasons input grants reasons := by
    intro reasons hnot
    unfold riskReasons
    cases input.risk <;> simpa [mem_because] using hnot
  have hgrants : PolicyReason.allowedByGrant ∉ because
      (!(scopedGrants input grants).isEmpty && (riskMatched input grants).isEmpty) .riskExceedsGrant
      (because (scopedGrants input grants).isEmpty .noMatchingGrant
        (because (input.action == .approveUnlock && input.actor.kind != .user) .interactiveUserRequired
          (because (!input.actor.enabled) .actorDisabled ∅))) := by
    simp [mem_because]
  have hwhole := hrisk _ hgrants
  unfold denials
  dsimp only
  rw [mem_because, mem_because]
  rintro (⟨-, h⟩ | ⟨-, h⟩ | h)
  · cases h
  · cases h
  · exact hwhole h

theorem reasons_of_allowed (h : (evaluate input grants).allowed = true) :
    (evaluate input grants).reasons = {.allowedByGrant} := by
  have hnone := allowed_iff_denials.mp h
  have hreasons : (evaluate input grants).reasons =
      because (evaluate input grants).allowed .allowedByGrant (denials input grants) := rfl
  rw [hreasons, h, hnone]
  rfl

theorem reasons_of_denied (h : (evaluate input grants).allowed = false) :
    (evaluate input grants).reasons = denials input grants := by
  have hreasons : (evaluate input grants).reasons =
      because (evaluate input grants).allowed .allowedByGrant (denials input grants) := rfl
  rw [hreasons, h]
  rfl

theorem isEmpty_congr (h : ∀ x, x ∈ a ↔ x ∈ b) : a.isEmpty = b.isEmpty := by
  rw [Bool.eq_iff_iff, List.isEmpty_iff, List.isEmpty_iff, eq_nil_iff_forall_not_mem,
    eq_nil_iff_forall_not_mem]
  exact forall_congr' (fun x => not_congr (h x))

theorem any_congr {p : α → Bool} (h : ∀ x, x ∈ a ↔ x ∈ b) : a.any p = b.any p := by
  rw [Bool.eq_iff_iff, List.any_eq_true, List.any_eq_true]
  exact exists_congr (fun x => and_congr_left (fun _ => h x))

theorem evaluate_congr {other : List ActorGrant} (h : ∀ grant, grant ∈ other ↔ grant ∈ grants) :
    evaluate input other = evaluate input grants := by
  have hscoped : ∀ grant, grant ∈ scopedGrants input other ↔ grant ∈ scopedGrants input grants := by
    intro grant
    rw [mem_scopedGrants, mem_scopedGrants, h]
  have hmatched : ∀ grant, grant ∈ riskMatched input other ↔ grant ∈ riskMatched input grants := by
    intro grant
    rw [mem_riskMatched, mem_riskMatched, hscoped]
  have hrisk : ∀ reasons, riskReasons input other reasons = riskReasons input grants reasons := by
    intro reasons
    unfold riskReasons
    rw [isEmpty_congr hmatched, any_congr hmatched]
  have hdenials : denials input other = denials input grants := by
    unfold denials
    dsimp only
    rw [isEmpty_congr hscoped, isEmpty_congr hmatched, hrisk]
  unfold evaluate
  rw [hdenials, isEmpty_congr hmatched]

/-- A decision over a list of grants allows what one of them allows alone. It depends on the set of grants
only, more grants deny nothing that was allowed, a denial has reasons and an allowance has none to deny. -/
theorem evaluate_decomposes (input : PolicyInput) (grants : List ActorGrant) :
    ((evaluate input grants).allowed = true ↔ ∃ grant ∈ grants, (evaluate input [grant]).allowed = true) ∧
      (∀ other : List ActorGrant, (∀ grant, grant ∈ other ↔ grant ∈ grants) →
        evaluate input other = evaluate input grants) ∧
      (∀ other : List ActorGrant, (∀ grant ∈ grants, grant ∈ other) → (evaluate input grants).allowed = true →
        (evaluate input other).allowed = true) ∧
      ((evaluate input grants).allowed = false → (evaluate input grants).reasons.Nonempty ∧
        .allowedByGrant ∉ (evaluate input grants).reasons) ∧
      ((evaluate input grants).allowed = true → (evaluate input grants).reasons = {.allowedByGrant}) := by
  refine ⟨?_, fun other h => evaluate_congr h, ?_, ?_, reasons_of_allowed⟩
  · constructor
    · intro hallowed
      obtain ⟨hopen, grant, hmem, hcovers⟩ := allowed_iff.mp hallowed
      have halone : (evaluate input [grant]).allowed = true :=
        allowed_iff.mpr ⟨hopen, grant, List.mem_singleton_self grant, hcovers⟩
      exact ⟨grant, hmem, halone⟩
    · rintro ⟨grant, hmem, halone⟩
      obtain ⟨hopen, single, hsingle, hcovers⟩ := allowed_iff.mp halone
      rw [List.mem_singleton.mp hsingle] at hcovers
      exact allowed_iff.mpr ⟨hopen, grant, hmem, hcovers⟩
  · intro other hmore hallowed
    obtain ⟨hopen, grant, hmem, hcovers⟩ := allowed_iff.mp hallowed
    exact allowed_iff.mpr ⟨hopen, grant, hmore grant hmem, hcovers⟩
  · intro hdenied
    rw [reasons_of_denied hdenied]
    refine ⟨?_, allowedByGrant_notMem_denials⟩
    rw [Finset.nonempty_iff_ne_empty]
    intro hnone
    rw [allowed_iff_denials.mpr hnone] at hdenied
    cases hdenied

end PolicyEvaluator

end HomeMagic
