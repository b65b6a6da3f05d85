import JamyeServer.Accounts.Deletion
import JamyeServer.Accounts.SignIn

/-!
# Every transaction commits what it should

The contracts of accounts: their commits are `Ok`, whatever else they assume of the schedule.
-/

namespace JamyeServer.Accounts

open ReadCommitted Postgres Auth

variable {settings : Settings} {ticks : Time → Time → Bool}

theorem Fits.commits {C : Contract (system settings ticks)} (hC : Fits C) {g G : Shared} {L : Local Row Nat}
    (hg : History C g) {job : Job} {out : Outcome}
    (h : Returns C (program settings job) (Local.begin g) g (.ok out) L G) : Ok settings ⟨job, out, L⟩ G := by
  have hrun : Runs C (program settings job) (Local.begin g) g (.ok out) L G L G := ⟨h, .refl⟩
  cases job with
  | exchange identity now =>
    obtain ⟨output, l₁, g₁, h₁, h₂⟩ := hrun.bind
    obtain ⟨rfl, rfl⟩ := h₂.ret
    exact (hC.signedIn hg h₁.mapError).exchanged
  | refresh tokenHash now =>
    obtain ⟨commit, l₁, g₁, h₁, h₂⟩ := hrun.bind
    obtain ⟨rfl, rfl⟩ := h₂.ret
    have hcommit := hC.refresh hg h₁.mapError
    cases commit with
    | rotated issued => exact hcommit
    | reused => exact hcommit
  | logout sessionId now =>
    obtain ⟨x, l₁, g₁, h₁, h₂⟩ := hrun.bind
    obtain ⟨rfl, rfl⟩ := h₂.ret
    exact logout_ok h₁.mapError
  | suspend command =>
    obtain ⟨x, l₁, g₁, h₁, h₂⟩ := hrun.bind
    obtain ⟨rfl, rfl⟩ := h₂.ret
    exact hC.suspendUser hg h₁.mapError
  | unsuspend userId =>
    obtain ⟨x, l₁, g₁, h₁, h₂⟩ := hrun.bind
    obtain ⟨rfl, rfl⟩ := h₂.ret
    exact hC.unsuspendUser hg h₁.mapError
  | deleteAccount userId =>
    obtain ⟨x, l₁, g₁, h₁, h₂⟩ := hrun.bind
    obtain ⟨rfl, rfl⟩ := h₂.ret
    exact hC.deleteAccountGrace hg h₁.mapError

/-- A server at its start: nothing is committed yet and the database is well-formed. -/
structure Starts (g : Shared) : Prop where
  log : g.log = []
  unique : Unique index g.init
  wellFormed : WellFormed g.init g.used

/-- The contract of accounts, under assumptions on the schedule. -/
def contract (settings : Settings) (ticks : Time → Time → Bool) (Init : Shared → Prop)
    (hinit : ∀ g, Init g → Starts g) (Assume : Entry → Shared → Prop) : Contract (system settings ticks) where
  Init := Init
  log_init g hg := (hinit g hg).log
  unique_init g hg := (hinit g hg).unique
  Ok := Ok settings
  Assume := Assume

lemma fits_contract {Init : Shared → Prop} {hinit : ∀ g, Init g → Starts g} {Assume : Entry → Shared → Prop} :
    Fits (contract settings ticks Init hinit Assume) :=
  ⟨fun _ _ h => h, fun g hg => (hinit g hg).wellFormed⟩

lemma programs_contract {Init : Shared → Prop} {hinit : ∀ g, Init g → Starts g}
    {Assume : Entry → Shared → Prop} : (contract settings ticks Init hinit Assume).Programs := by
  intro job g hg r l' g' h
  cases r with
  | ok out => exact fits_contract.commits hg h
  | error e => trivial

/-- The schedules whose commits satisfy `Assume` in the state that they meet. -/
def CommitsWhere (Assume : Entry → Shared → Prop) (s : State) (lab : Label Job) : Prop :=
  ∀ id t out, lab = .commit id → s.find id = some t → t.prog = .ret out → Assume ⟨t.job, out, t.ran⟩ s.shared

theorem reachableWhere_history {Init : Shared → Prop} {hinit : ∀ g, Init g → Starts g}
    {Assume : Entry → Shared → Prop} {s : State}
    (h : (system settings ticks).ReachableWhere (CommitsWhere Assume) Init s) :
    History (contract settings ticks Init hinit Assume) s.shared := by
  refine (reachable_sound (C := contract settings ticks Init hinit Assume) ?_ programs_contract h).history
  intro s₁ id t out hcond hf hp
  exact ⟨hcond id t out rfl hf hp, fun _ _ => trivial⟩

/-- The states of every run have a history of commits that are `Ok`. -/
theorem reachable_history {Init : Shared → Prop} {hinit : ∀ g, Init g → Starts g} {s : State}
    (h : (system settings ticks).Reachable Init s) :
    History (contract settings ticks Init hinit fun _ _ => True) s.shared := by
  refine (reachable_sound (C := contract settings ticks Init hinit fun _ _ => True) ?_ programs_contract h).history
  intro s₁ id t out _ _ _
  exact ⟨trivial, fun _ _ => trivial⟩

section Schedules

/-- A server with an empty database. -/
def emptyServer : Shared := ⟨.empty, [], 0, 0, []⟩

lemma starts_empty : Starts emptyServer where
  log := rfl
  unique k k' i h := by simp [emptyServer, entries] at h
  wellFormed := ⟨nofun, nofun, nofun, nofun, nofun⟩

def sampleSettings : Settings := ⟨100, 1000, id⟩

/-- The transactions of a log with their outcomes. -/
def outcomes (g : Shared) : List (Job × Outcome) := g.log.map fun e => (e.job, e.out)

lemma entry_of_outcomes {g : Shared} {k : Nat} {job : Job} {out : Outcome}
    (h : (outcomes g)[k]? = some (job, out)) : ∃ e, g.log[k]? = some e ∧ e.job = job ∧ e.out = out := by
  unfold outcomes at h
  rw [List.getElem?_map, Option.map_eq_some_iff] at h
  obtain ⟨e, he, hx⟩ := h
  exact ⟨e, he, congrArg Prod.fst hx, congrArg Prod.snd hx⟩

end Schedules

end JamyeServer.Accounts
