import JamyeServer.ReadCommitted.Failure
import JamyeServer.Accounts.System

/-!
# How a sign-in fails

The errors of the statements of a sign-in, for any server that runs it.
-/

namespace JamyeServer.Accounts

open ReadCommitted Postgres Auth

variable {ε Job Out : Type} {sys : System Row Nat Idx ε Job Out} {C : Contract sys} {settings : Settings}
  {identity : NewProviderIdentity} {session : NewRefreshSession} {l l' L : Local Row Nat}
  {g g' G : ReadCommitted.Shared Row Nat Job Out}

/-- The operations of a sign-in that restores nothing. -/
def sessionOperations : List String :=
  ["user_insert", "identity_insert", "identity_convergence", "speculative_user_cleanup", "refresh_insert"]

lemma createSessionRecord_failsIn {operation : String} (h : operation ∉ sessionOperations) :
    (createSessionRecord identity session).FailsIn (· ≠ .unavailable operation) := by
  have hne : ∀ o ∈ sessionOperations, AuthRepositoryError.unavailable o ≠ .unavailable operation := by
    rintro o ho heq
    cases heq
    exact h ho
  refine .bind ?_ fun userId => .bind ?_ fun _ => .bind ?_ fun _ => trivial
  · refine .bind Prog.failsIn_select fun found => ?_
    cases found with
    | some userId => trivial
    | none =>
      refine .bind Prog.failsIn_op fun _ => .bind Prog.failsIn_op fun _ =>
        .bind (Prog.failsIn_insertRow (hne _ (by decide))) fun _ => .bind Prog.failsIn_op fun _ =>
        .bind Prog.failsIn_op fun _ => .bind (Prog.failsIn_insertOrSkip (hne _ (by decide))) fun claimed => ?_
      cases claimed with
      | true => trivial
      | false =>
        exact .bind Prog.failsIn_select fun _ => .bind (Prog.failsIn_ofOption (hne _ (by decide))) fun _ =>
          .bind (Prog.failsIn_change (hne _ (by decide))) fun _ => trivial
  · exact .bind Prog.failsIn_selectFor fun _ => Prog.failsIn_ensure nofun
  · exact .bind Prog.failsIn_op fun _ => Prog.failsIn_insertRow (hne _ (by decide))

lemma identityRestoreLookup_failsIn {grace : Nat} {P : AuthRepositoryError → Prop} :
    (identityRestoreLookup identity grace).FailsIn P := by
  refine .bind Prog.failsIn_op fun _ => .bind Prog.failsIn_op fun _ => Prog.failsIn_first fun id => ?_
  refine .bind Prog.failsIn_op fun r => ?_
  cases r with
  | none => trivial
  | some r =>
    refine .bind Prog.failsIn_op fun u => ?_
    cases u with
    | none => trivial
    | some u => exact .bind Prog.failsIn_reread fun _ => trivial

lemma authError_eq {error : AuthRepositoryError} {operation : String}
    (h : authError error = .databaseUnavailable operation) : error = .unavailable operation := by
  cases error with
  | accountSuspended => cases h
  | unavailable o =>
    cases h
    rfl

/-- An error that only a restore has comes from the statements of the restore. -/
lemma createOrRestoreSession_error {operation : String} (hop : operation ∉ sessionOperations) {now : Time}
    (h : Runs C (createOrRestoreSession settings identity now) l g (.error (.databaseUnavailable operation)) l' g' L G) :
    ∃ session l₁ g₁ l₂ g₂, Later C g g₁ ∧ l₁.writes = l.writes ∧
      Runs C (restoreDeletedIdentityRecord identity session settings.accountPurgeGrace) l₁ g₁
        (.error (.unavailable operation)) l₂ g₂ L G := by
  unfold createOrRestoreSession at h
  rcases h.bind_error with h₂ | ⟨tokenHash, l₂, g₂, h₂, hrest⟩
  · exact (Runs.not_op_error h₂).elim
  rcases hrest.bind_error with h₃ | ⟨sessionId, l₃, g₃, h₃, hrest⟩
  · exact (Runs.not_op_error h₃).elim
  rcases hrest.bind_error with h₄ | ⟨familyId, l₄, g₄, h₄, hrest⟩
  · exact (Runs.not_op_error h₄).elim
  have hg₄ : Later C g g₄ := (h₂.returns.evolve.later.trans h₃.returns.evolve.later).trans h₄.returns.evolve.later
  obtain ⟨rfl, -⟩ := h₂.fresh
  obtain ⟨rfl, -⟩ := h₃.fresh
  obtain ⟨rfl, -⟩ := h₄.fresh
  rcases hrest.bind_error with h₅ | ⟨restored, l₅, g₅, -, h₆⟩
  · obtain ⟨error, herror, h₅⟩ := h₅.mapError_error
    obtain rfl := authError_eq herror.symm
    refine ⟨_, _, g₄, _, _, hg₄, ?_, h₅⟩
    rfl
  · cases restored with
    | some issued => exact (Runs.not_ret_error h₆).elim
    | none =>
      rcases h₆.bind_error with h₇ | ⟨issued, l₆, g₆, -, h₈⟩
      · obtain ⟨error, herror, h₇⟩ := h₇.mapError_error
        exact absurd (authError_eq herror.symm) (h₇.failsIn (createSessionRecord_failsIn hop))
      · exact (Runs.not_ret_error h₈).elim

end JamyeServer.Accounts
