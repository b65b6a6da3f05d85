import JamyeServer.Conversations.System
import JamyeServer.ReadCommitted.Alone
import JamyeServer.ReadCommitted.Failure

/-!
# Replays of a topic creation

A call that finds its topic stored notifies the members of the group again. Nothing comes of it for members who have
been notified and devices that have an occurrence; the others are notified of a topic that is not new.
-/

namespace JamyeServer.Conversations

open ReadCommitted Prog Postgres Rooms Notifications

section Growth

/-- No row differs. -/
def Same (s s' : Store Row) : Prop := ∀ k, s'.get k = s.get k

/-- A notification is new or has a newer source, or an occurrence is new. -/
def Grown (s s' : Store Row) : Prop :=
  (∃ i r' c', s'.get (.notifications i) = some r' ∧ r'.sourceCursor = some c' ∧
    ∀ r c, s.get (.notifications i) = some r → r.sourceCursor = some c → c < c') ∨
  ∃ i, s.get (.pushDeliveryIntents i) = none ∧ s'.get (.pushDeliveryIntents i) ≠ none

/-- What a step of the fan-out never does: take a row away, turn a notification back, touch a device. -/
structure Grows (s s' : Store Row) : Prop where
  notifications : ∀ i r c, s.get (.notifications i) = some r → r.sourceCursor = some c →
    ∃ r' c', s'.get (.notifications i) = some r' ∧ r'.sourceCursor = some c' ∧ c ≤ c'
  occurrences : ∀ i, s.get (.pushDeliveryIntents i) ≠ none → s'.get (.pushDeliveryIntents i) ≠ none
  installations : ∀ i, s'.get (.pushInstallations i) = s.get (.pushInstallations i)

/-- Nothing has changed if `P` holds, and something has if not. -/
structure Settles (P : Prop) (s s' : Store Row) : Prop where
  same : P → Same s s'
  grown : ¬ P → Grown s s'

variable {s₀ s s' : Store Row} {P Q : Prop}

lemma Grown.not_same (h : Grown s s') : ¬ Same s s' := by
  intro hsame
  rcases h with ⟨i, r', c', hr', hc', hlt⟩ | ⟨i, hnone, hsome⟩
  · exact absurd (hlt r' c' ((hsame _).symm.trans hr') hc') (Nat.lt_irrefl _)
  · exact hsome ((hsame _).trans hnone)

lemma Grown.mono (h : Grown s₀ s) (hg : Grows s s') : Grown s₀ s' := by
  rcases h with ⟨i, r, c, hr, hc, hlt⟩ | ⟨i, hnone, hsome⟩
  · obtain ⟨r', c', hr', hc', hle⟩ := hg.notifications i r c hr hc
    exact .inl ⟨i, r', c', hr', hc', fun r₀ c₀ hr₀ hc₀ => Nat.lt_of_lt_of_le (hlt r₀ c₀ hr₀ hc₀) hle⟩
  · exact .inr ⟨i, hnone, hg.occurrences i hsome⟩

lemma Grows.refl : Grows s s := ⟨fun _ r c hr hc => ⟨r, c, hr, hc, Nat.le_refl _⟩, fun _ h => h, fun _ => rfl⟩

lemma Grows.trans {s'' : Store Row} (h : Grows s s') (h' : Grows s' s'') : Grows s s'' where
  notifications i r c hr hc := by
    obtain ⟨r', c', hr', hc', hle⟩ := h.notifications i r c hr hc
    obtain ⟨r'', c'', hr'', hc'', hle'⟩ := h'.notifications i r' c' hr' hc'
    exact ⟨r'', c'', hr'', hc'', Nat.le_trans hle hle'⟩
  occurrences i hi := h'.occurrences i (h.occurrences i hi)
  installations i := (h'.installations i).trans (h.installations i)

/-- One more step. -/
lemma Settles.and (h : Settles P s₀ s) (hg : Grows s s') (hq : Same s₀ s → Settles Q s₀ s') : Settles (P ∧ Q) s₀ s' where
  same hpq := (hq (h.same hpq.1)).same hpq.2
  grown hnot := by
    by_cases hp : P
    · exact (hq (h.same hp)).grown fun hq => hnot ⟨hp, hq⟩
    · exact (h.grown hp).mono hg

lemma Settles.congr (h : Settles P s s') (hpq : P ↔ Q) : Settles Q s s' :=
  ⟨fun hq => h.same (hpq.mpr hq), fun hq => h.grown fun hp => hq (hpq.mp hp)⟩

lemma Settles.of_same (h : Settles P s s') (hsame : Same s₀ s) : Settles P s₀ s' where
  same hp k := (h.same hp k).trans (hsame k)
  grown hp := by
    rcases h.grown hp with ⟨i, r', c', hr', hc', hlt⟩ | ⟨i, hnone, hsome⟩
    · exact .inl ⟨i, r', c', hr', hc', fun r c hr => hlt r c ((hsame _).trans hr)⟩
    · exact .inr ⟨i, (hsame _).symm.trans hnone, hsome⟩

lemma Settles.same_iff (h : Settles P s s') : Same s s' ↔ P :=
  ⟨fun hsame => by_contra fun hp => (h.grown hp).not_same hsame, h.same⟩

lemma Same.unique (h : Same s s') (hs : Unique index s) : Unique index s' := by
  intro k k' i hi hi'
  rw [h] at hi hi'
  exact hs k k' i hi hi'

end Growth

section FanOut

/-- The user has a live notification with the key whose source is not older. -/
def Notified (s : Store Row) (dedupKey : DedupKey) (cursor : Nat) (userId : Uuid) : Prop :=
  ∃ i r c, s.get (.notifications i) = some r ∧ r.deletedAt = none ∧ r.userId = userId ∧ r.dedupKey = some dedupKey ∧
    r.sourceCursor = some c ∧ cursor ≤ c

/-- The device has a live occurrence of the event. -/
def Delivered (s : Store Row) (eventId installationId : Uuid) : Prop :=
  ∃ i r, s.get (.pushDeliveryIntents i) = some r ∧ r.deletedAt = none ∧ r.sourceEventId = some eventId ∧
    r.pushInstallationId = installationId

/-- The identifiers that a call draws name no notification and no occurrence. -/
def NewIds (drawn : List Uuid) (s : Store Row) : Prop :=
  ∀ i ∈ drawn, s.get (.notifications i) = none ∧ s.get (.pushDeliveryIntents i) = none

variable {server : Server} {ticks : Time → Time → Bool} {C : Contract (system server ticks)} {l l' L : Local}
  {g g' G : Shared} {s₀ s : Store Row} {fanout : Fanout} {userId : Uuid}

lemma Same.notified {s' : Store Row} (h : Same s s') {dedupKey : DedupKey} {cursor : Nat} :
    Notified s' dedupKey cursor userId ↔ Notified s dedupKey cursor userId := by
  simp only [Notified, h _]

lemma Same.delivered {s' : Store Row} (h : Same s s') {eventId installationId : Uuid} :
    Delivered s' eventId installationId ↔ Delivered s eventId installationId := by
  simp only [Delivered, h _]

lemma mem_entries_notification {r : Notification} {i : Idx} (h : i ∈ entries index (.notifications userId) (some r)) :
    r.deletedAt = none ∧ ∃ d, r.dedupKey = some d ∧ i = .notificationDedup r.userId d := by
  obtain ⟨hlive, hi⟩ := mem_indexedIf.mp h
  obtain ⟨d, hd, rfl⟩ := List.mem_map.mp hi
  exact ⟨Option.isNone_iff_eq_none.mp hlive, d, Option.mem_toList.mp hd, rfl⟩

lemma entries_of_notification {i : Uuid} {r : Notification} {d : DedupKey} (hlive : r.deletedAt = none)
    (hkey : r.dedupKey = some d) : .notificationDedup r.userId d ∈ entries index (.notifications i) (some r) := by
  refine mem_indexedIf.mpr ⟨Option.isNone_iff_eq_none.mpr hlive, ?_⟩
  rw [hkey]
  exact List.mem_singleton_self _

/-- A notification that is not older than the source is left as it is. -/
lemma refresh_eq_self {now : Time} {r : Notification} {c : Nat} (hc : r.sourceCursor = some c) (hle : fanout.sourceCursor ≤ c) :
    fanout.refresh now r = r := by
  have hnewer : fanout.newer r = false := by
    simp only [Fanout.newer, hc, Option.any_some, decide_eq_false_iff_not]
    omega
  cases r
  simp only at hc
  subst hc
  simp [Fanout.refresh, hnewer, Nat.max_eq_left hle]

/-- A notification is written with a source that is not older. -/
lemma grows_of_set {j : Uuid} {r' : Notification} (h : ∀ r c, s.get (.notifications j) = some r → r.sourceCursor = some c →
    ∃ c', r'.sourceCursor = some c' ∧ c ≤ c') : Grows s (s.set ⟨.notifications j, some r'⟩) where
  notifications i r c hr hc := by
    by_cases hij : i = j
    · subst hij
      obtain ⟨c', hc', hle⟩ := h r c hr hc
      exact ⟨r', c', Store.get_set_self .., hc', hle⟩
    · have hne : Key.notifications i ≠ .notifications j := fun heq => hij (Key.notifications.inj heq)
      exact ⟨r, c, (Store.get_set_mk_of_ne s _ hne).trans hr, hc, Nat.le_refl _⟩
  occurrences i hi := by
    have hne : Key.pushDeliveryIntents i ≠ .notifications j := nofun
    rw [Store.get_set_mk_of_ne s _ hne]
    exact hi
  installations i := by
    have hne : Key.pushInstallations i ≠ .notifications j := nofun
    exact Store.get_set_mk_of_ne s _ hne

lemma cursor_refresh (fanout : Fanout) (now : Time) (r : Notification) : ∃ c', (fanout.refresh now r).sourceCursor = some c' ∧
    fanout.sourceCursor ≤ c' ∧ ∀ c, r.sourceCursor = some c → c ≤ c' := by
  refine ⟨_, rfl, Nat.le_max_right _ _, fun c hc => ?_⟩
  rw [hc]
  exact Nat.le_max_left _ _

/-- The row with which the proposed notification collides. -/
lemma notified_row {i : Uuid} {k : Key} {now : Time} (hnew : s.get (.notifications i) = none)
    (h : collision index s (.notifications i) (fanout.notification userId now) = some k) :
    ∃ j r, k = .notifications j ∧ s.get (.notifications j) = some r ∧ r.deletedAt = none ∧ r.userId = userId ∧
      r.dedupKey = some fanout.dedupKey := by
  rw [collision, hnew] at h
  obtain ⟨-, x, hx, hk⟩ := violation_eq_some h
  change x ∈ entries index (.notifications i) (some (fanout.notification userId now)) at hx
  obtain ⟨-, d, hd, rfl⟩ := mem_entries_notification hx
  obtain ⟨j, rfl⟩ := isOf_of_mem_entries hk
  cases hr : s.get (.notifications j) with
  | none =>
    rw [hr] at hk
    cases hk
  | some r =>
    rw [hr] at hk
    obtain ⟨hlive, d', hd', heq⟩ := mem_entries_notification hk
    cases heq
    exact ⟨j, r, rfl, hr, hlive, rfl, hd'.trans hd.symm⟩

/-- A user with a live notification gets no second one. -/
lemma not_notified_of_collision {i : Uuid} {now : Time}
    (h : collision index s (.notifications i) (fanout.notification userId now) = none) :
    ¬ Notified s fanout.dedupKey fanout.sourceCursor userId := by
  rintro ⟨j, r, c, hr, hlive, rfl, hkey, -⟩
  obtain ⟨hnone, hviolation⟩ := violation_of_collision h
  have hne : Key.notifications j ≠ .notifications i := by
    intro heq
    cases heq
    rw [hnone] at hr
    cases hr
  refine violation_eq_none hviolation hne (i := .notificationDedup r.userId fanout.dedupKey) ?_ ?_
  · exact entries_of_notification (r := fanout.notification r.userId now) rfl rfl
  · rw [hr]
    exact entries_of_notification hlive hkey

lemma upsertNotification_alone {id : Uuid} (h : Runs C (upsertNotification fanout userId) l g (.ok id) l' g' L G)
    (hG : G.csn = g.csn) (hs : s = G.db.apply l.writes) :
    Grows s (G.db.apply l'.writes) ∧ (Unique index s → NewIds L.drawn s →
      Settles (Notified s fanout.dedupKey fanout.sourceCursor userId) s (G.db.apply l'.writes)) := by
  unfold upsertNotification at h
  obtain ⟨i, l₁, g₁, h₁, r₁⟩ := h.bind
  obtain ⟨now, l₂, g₂, h₂, r₂⟩ := r₁.bind
  obtain ⟨stored, l₃, g₃, h₃, r₃⟩ := r₂.bind
  obtain ⟨hl₁, _, _, -, -, -, hdrawn⟩ := h₁.fresh
  obtain ⟨rfl, -⟩ := h₂.clock
  have hw₁ : l₂.writes = l.writes := by rw [hl₁]
  have hi : i ∈ L.drawn := hdrawn.drawn (by rw [hl₁]; exact List.mem_cons_self)
  obtain ⟨hstored, -, hw₃⟩ := h₃.alone_upsert (h₂.alone_csn (h₁.alone_csn hG))
  rw [hw₁, ← hs] at hstored
  cases stored with
  | none =>
    obtain ⟨_, l₄, g₄, h₄, r₄⟩ := Runs.bind r₃
    obtain ⟨-, rfl⟩ := r₄.ret
    have hview : G.db.apply l'.writes = s.set ⟨.notifications i, some (fanout.notification userId now)⟩ := by
      rw [h₄.writes_eq touches_references, hw₃, if_pos rfl, Store.apply_cons, hw₁, hs]
    have hnone : s.get (.notifications i) = none := (violation_of_collision hstored.symm).1
    rw [hview]
    refine ⟨grows_of_set fun r c hr _ => ?_, fun _ _ => ⟨fun hnotified => ?_, fun _ => .inl ?_⟩⟩
    · rw [hnone] at hr
      cases hr
    · exact (not_notified_of_collision hstored.symm hnotified).elim
    · refine ⟨i, _, _, Store.get_set_self .., rfl, fun r c hr _ => ?_⟩
      rw [hnone] at hr
      cases hr
  | some k =>
    rw [if_neg nofun] at hw₃
    cases k with
    | notifications j =>
      obtain ⟨updated, l₄, g₄, h₄, r₄⟩ := Runs.bind r₃
      obtain ⟨rfl, rfl⟩ := r₄.ofOption
      obtain ⟨t, r, v, hr, hf, hw₄⟩ := h₄.alone_changeRow (by decide)
      rw [hw₃, hw₁, ← hs] at hr
      split at hf
      · cases hf
        have hview : G.db.apply l'.writes = s.set ⟨.notifications id, some (fanout.refresh t r)⟩ := by
          rw [hw₄, hw₃, Store.apply_cons, hw₁, hs]
        obtain ⟨c', hc', hle, hge⟩ := cursor_refresh fanout t r
        rw [hview]
        refine ⟨grows_of_set fun r₀ c hr₀ hc => ?_, fun hunique hnew => ⟨fun hnotified k => ?_, fun hnot => .inl ?_⟩⟩
        · rw [hr] at hr₀
          cases hr₀
          exact ⟨c', hc', hge c hc⟩
        · obtain ⟨j', r', c, hr', hlive', huser', hkey', hc, hcle⟩ := hnotified
          obtain ⟨j₁, r₁, hj₁, hr₁, hlive₁, huser₁, hkey₁⟩ := notified_row (hnew i hi).1 hstored.symm
          cases hj₁
          rw [hr] at hr₁
          cases hr₁
          have hj : Key.notifications id = .notifications j' := by
            refine hunique _ _ (.notificationDedup userId fanout.dedupKey) ?_ ?_
            · rw [hr, ← huser₁]
              exact entries_of_notification hlive₁ hkey₁
            · rw [hr', ← huser']
              exact entries_of_notification hlive' hkey'
          cases hj
          rw [hr] at hr'
          cases hr'
          rw [refresh_eq_self hc hcle]
          by_cases hk : k = .notifications id
          · subst hk
            rw [Store.get_set_self, hr]
          · exact Store.get_set_mk_of_ne s _ hk
        · refine ⟨id, _, c', Store.get_set_self .., hc', fun r₀ c hr₀ hc => ?_⟩
          rw [hr] at hr₀
          cases hr₀
          obtain ⟨j₁, r₁, hj₁, hr₁, hlive₁, huser₁, hkey₁⟩ := notified_row (hnew i hi).1 hstored.symm
          cases hj₁
          rw [hr] at hr₁
          cases hr₁
          have hlt : ¬ fanout.sourceCursor ≤ c := fun hcle =>
            hnot ⟨id, r, c, hr, hlive₁, huser₁, hkey₁, hc, hcle⟩
          omega
      · cases hf
    | _ => exact (Runs.not_fail r₃).elim

lemma upsertNotifications_alone {userIds : List Uuid} {ids : List (Uuid × Uuid)} {P : Prop}
    (h : Runs C (upsertNotifications fanout userIds) l g (.ok ids) l' g' L G) (hG : G.csn = g.csn)
    (hunique : Unique index s₀) (hnew : NewIds L.drawn s₀) (hp : Settles P s₀ (G.db.apply l.writes)) :
    Grows (G.db.apply l.writes) (G.db.apply l'.writes) ∧
      Settles (P ∧ ∀ u ∈ userIds, Notified s₀ fanout.dedupKey fanout.sourceCursor u) s₀ (G.db.apply l'.writes) := by
  induction userIds generalizing l g l' g' ids P with
  | nil =>
    obtain ⟨-, rfl⟩ := Runs.ret h
    exact ⟨.refl, hp.congr (by simp)⟩
  | cons u userIds ih =>
    obtain ⟨id, l₁, g₁, h₁, r₁⟩ := Runs.bind h
    obtain ⟨ids', l₂, g₂, h₂, r₂⟩ := r₁.bind
    obtain ⟨-, rfl⟩ := r₂.ret
    obtain ⟨hgrows, hstep⟩ := upsertNotification_alone h₁ hG rfl
    have hfirst : Settles (P ∧ Notified s₀ fanout.dedupKey fanout.sourceCursor u) s₀ (G.db.apply l₁.writes) := by
      refine hp.and hgrows fun hsame => ?_
      have hnew' : NewIds L.drawn (G.db.apply l.writes) := fun i hi => by
        rw [hsame, hsame]
        exact hnew i hi
      have hsettles := (hstep (hsame.unique hunique) hnew').congr hsame.notified
      exact hsettles.of_same hsame
    obtain ⟨hgrows', hrest⟩ := ih h₂ (h₁.alone_csn hG) hfirst
    refine ⟨hgrows.trans hgrows', hrest.congr ?_⟩
    simp only [List.forall_mem_cons, and_assoc]

lemma grows_of_occurrence {j : Uuid} {r : PushDeliveryIntent} : Grows s (s.set ⟨.pushDeliveryIntents j, some r⟩) where
  notifications i r' c hr' hc := by
    have hne : Key.notifications i ≠ .pushDeliveryIntents j := nofun
    exact ⟨r', c, (Store.get_set_mk_of_ne s _ hne).trans hr', hc, Nat.le_refl _⟩
  occurrences i hi := by
    by_cases hij : i = j
    · subst hij
      rw [Store.get_set_self]
      nofun
    · have hne : Key.pushDeliveryIntents i ≠ .pushDeliveryIntents j := fun heq => hij (Key.pushDeliveryIntents.inj heq)
      rw [Store.get_set_mk_of_ne s _ hne]
      exact hi
  installations i := by
    have hne : Key.pushInstallations i ≠ .pushDeliveryIntents j := nofun
    exact Store.get_set_mk_of_ne s _ hne

lemma entries_of_occurrence {i eventId : Uuid} {r : PushDeliveryIntent} (hlive : r.deletedAt = none)
    (hevent : r.sourceEventId = some eventId) :
    .delivery eventId r.pushInstallationId ∈ entries index (.pushDeliveryIntents i) (some r) := by
  refine mem_indexedIf.mpr ⟨Option.isNone_iff_eq_none.mpr hlive, List.mem_append_left _ ?_⟩
  rw [hevent]
  exact List.mem_singleton_self _

lemma mem_entries_occurrence {i eventId installationId : Uuid} {r : PushDeliveryIntent}
    (h : .delivery eventId installationId ∈ entries index (.pushDeliveryIntents i) (some r)) :
    r.deletedAt = none ∧ r.sourceEventId = some eventId ∧ r.pushInstallationId = installationId := by
  obtain ⟨hlive, hi⟩ := mem_indexedIf.mp h
  rcases List.mem_append.mp hi with hi | hi
  · obtain ⟨e, he, heq⟩ := List.mem_map.mp hi
    cases heq
    exact ⟨Option.isNone_iff_eq_none.mp hlive, Option.mem_toList.mp he, rfl⟩
  · obtain ⟨p, -, heq⟩ := List.mem_map.mp hi
    cases heq

/-- The occurrence is skipped if and only if the device has one of the event. -/
lemma collision_occurrence_iff {i notificationId : Uuid} {installation : InstallationRow} {now : Time}
    (hnone : s.get (.pushDeliveryIntents i) = none) :
    collision index s (.pushDeliveryIntents i) (fanout.occurrence installation notificationId now) ≠ none ↔
      Delivered s fanout.sourceEventId installation.id := by
  constructor
  · intro h
    rcases collision_ne_none h with hsome | ⟨k, -, x, hx, hk⟩
    · exact (hsome hnone).elim
    · obtain ⟨-, hx⟩ := mem_indexedIf.mp hx
      rw [show fanout.occurrence installation notificationId now = _ from rfl] at hx
      simp only [Fanout.occurrence, Option.toList_some, List.map_cons, List.map_nil, Option.toList_none, List.append_nil,
        List.mem_singleton] at hx
      subst hx
      obtain ⟨j, rfl⟩ := isOf_of_mem_entries hk
      cases hr : s.get (.pushDeliveryIntents j) with
      | none =>
        rw [hr] at hk
        cases hk
      | some r =>
        rw [hr] at hk
        exact ⟨j, r, hr, mem_entries_occurrence hk⟩
  · rintro ⟨j, r, hr, hlive, hevent, hdevice⟩ h
    have hne : Key.pushDeliveryIntents j ≠ .pushDeliveryIntents i := by
      intro heq
      cases heq
      rw [hnone] at hr
      cases hr
    refine violation_eq_none (violation_of_collision h).2 hne (i := .delivery fanout.sourceEventId installation.id) ?_ ?_
    · exact entries_of_occurrence (r := fanout.occurrence installation notificationId now) rfl rfl
    · rw [hr, ← hdevice]
      exact entries_of_occurrence hlive hevent

lemma insertOccurrence_alone {installation : InstallationRow} {notificationId : Uuid} {n : Nat}
    (h : Runs C (insertOccurrence fanout installation notificationId) l g (.ok n) l' g' L G) (hG : G.csn = g.csn)
    (hs : s = G.db.apply l.writes) :
    Grows s (G.db.apply l'.writes) ∧ (NewIds L.drawn s →
      Settles (Delivered s fanout.sourceEventId installation.id) s (G.db.apply l'.writes)) := by
  unfold insertOccurrence at h
  obtain ⟨i, l₁, g₁, h₁, r₁⟩ := h.bind
  obtain ⟨now, l₂, g₂, h₂, r₂⟩ := r₁.bind
  obtain ⟨inserted, l₃, g₃, h₃, r₃⟩ := r₂.bind
  obtain ⟨hl₁, _, _, -, -, -, hdrawn⟩ := h₁.fresh
  obtain ⟨rfl, -⟩ := h₂.clock
  obtain ⟨-, rfl⟩ := r₃.ret
  have hw₁ : l₂.writes = l.writes := by rw [hl₁]
  have hi : i ∈ L.drawn := hdrawn.drawn (by rw [hl₁]; exact List.mem_cons_self)
  obtain ⟨hinserted, hw₃⟩ := h₃.alone_insertOrSkip (h₂.alone_csn (h₁.alone_csn hG))
  rw [hw₁, ← hs] at hinserted
  cases inserted with
  | false =>
    have hview : G.db.apply l'.writes = s := by rw [hw₃, if_neg (by decide), hw₁, hs]
    rw [hview]
    refine ⟨.refl, fun hnew => ⟨fun _ _ => rfl, fun hnot => ?_⟩⟩
    have hcollision : collision index s (.pushDeliveryIntents i) (fanout.occurrence installation notificationId now) ≠ none := by
      intro hnone
      rw [show collision (system server ticks).index s _ _ = none from hnone] at hinserted
      cases hinserted
    exact (hnot ((collision_occurrence_iff (hnew i hi).2).mp hcollision)).elim
  | true =>
    have hview : G.db.apply l'.writes = s.set ⟨.pushDeliveryIntents i, some (fanout.occurrence installation notificationId now)⟩ := by
      rw [hw₃, if_pos rfl, Store.apply_cons, hw₁, hs]
    have hcollision := Option.isNone_iff_eq_none.mp hinserted.symm
    have hnone := (violation_of_collision hcollision).1
    rw [hview]
    refine ⟨grows_of_occurrence, fun hnew => ⟨fun hdelivered => ?_, fun _ => .inr ⟨i, hnone, ?_⟩⟩⟩
    · exact ((collision_occurrence_iff hnone).mpr hdelivered hcollision).elim
    · rw [Store.get_set_self]
      nofun

lemma insertOccurrences_alone {notificationIds : List (Uuid × Uuid)} {installations : List InstallationRow} {n : Nat} {P : Prop}
    (h : Runs C (insertOccurrences fanout notificationIds installations) l g (.ok n) l' g' L G) (hG : G.csn = g.csn)
    (hnew : NewIds L.drawn s₀) (hp : Settles P s₀ (G.db.apply l.writes)) :
    Settles (P ∧ ∀ d ∈ installations, Delivered s₀ fanout.sourceEventId d.id) s₀ (G.db.apply l'.writes) := by
  induction installations generalizing l g l' g' n P with
  | nil =>
    obtain ⟨-, rfl⟩ := Runs.ret h
    exact hp.congr (by simp)
  | cons d installations ih =>
    obtain ⟨_, l₁, g₁, h₁, r₁⟩ := Runs.bind h
    obtain ⟨-, rfl⟩ := h₁.ensure
    obtain ⟨notificationId, l₂, g₂, h₂, r₂⟩ := r₁.bind
    obtain ⟨-, rfl⟩ := h₂.ofOption
    obtain ⟨inserted, l₃, g₃, h₃, r₃⟩ := r₂.bind
    obtain ⟨count, l₄, g₄, h₄, r₄⟩ := r₃.bind
    obtain ⟨-, rfl⟩ := r₄.ret
    have hG₂ := h₂.alone_csn (h₁.alone_csn hG)
    obtain ⟨hgrows, hstep⟩ := insertOccurrence_alone h₃ hG₂ rfl
    have hfirst : Settles (P ∧ Delivered s₀ fanout.sourceEventId d.id) s₀ (G.db.apply l₃.writes) := by
      refine hp.and hgrows fun hsame => ?_
      have hnew' : NewIds L.drawn (G.db.apply l₂.writes) := fun i hi => by
        rw [hsame, hsame]
        exact hnew i hi
      exact ((hstep hnew').congr hsame.delivered).of_same hsame
    exact (ih h₄ (h₃.alone_csn hG₂) hfirst).congr (by simp only [List.forall_mem_cons, and_assoc])

/-- The users are notified of the event and their devices have its occurrence. -/
structure Covered (s : Store Row) (dedupKey : DedupKey) (eventId : Uuid) (cursor : Nat) (userIds : Uuid → Prop) : Prop where
  notified : ∀ u, userIds u → Notified s dedupKey cursor u
  delivered : ∀ d r, s.get (.pushInstallations d) = some r → userIds r.userId → r.disabledAt = none → r.deletedAt = none →
    Delivered s eventId d

/-- A fan-out changes nothing if and only if there is nothing left to do. -/
lemma fanOut_alone {userIds : List Uuid} {report : NotificationFanoutReport}
    (h : Runs C (fanOut fanout userIds) l g (.ok report) l' g' L G) (hG : G.csn = g.csn) (hunique : Unique index s)
    (hnew : NewIds L.drawn s) (hs : s = G.db.apply l.writes) :
    Settles (Covered s fanout.dedupKey fanout.sourceEventId fanout.sourceCursor (· ∈ userIds)) s (G.db.apply l'.writes) := by
  unfold fanOut at h
  split at h
  · rename_i hempty
    rw [List.isEmpty_iff] at hempty
    subst hempty
    obtain ⟨-, rfl⟩ := h.ret
    rw [← hs]
    exact ⟨fun _ _ => rfl, fun hnot => (hnot ⟨fun _ h => (List.not_mem_nil h).elim, fun _ _ _ h => (List.not_mem_nil h).elim⟩).elim⟩
  · obtain ⟨notificationIds, l₁, g₁, h₁, r₁⟩ := h.bind
    obtain ⟨installations, l₂, g₂, h₂, r₂⟩ := r₁.bind
    obtain ⟨count, l₃, g₃, h₃, r₃⟩ := r₂.bind
    obtain ⟨-, rfl⟩ := r₃.ret
    have hstart : Settles True s (G.db.apply l.writes) := by
      rw [← hs]
      exact ⟨fun _ _ => rfl, fun hnot => (hnot trivial).elim⟩
    have hG₁ := h₁.alone_csn hG
    obtain ⟨hgrows, hnotified⟩ := upsertNotifications_alone h₁ hG hunique hnew hstart
    rw [← hs] at hgrows
    obtain ⟨hmem, hfound, hw₂, -⟩ := h₂.alone_selectFor hG₁ (by decide) rfl
    rw [← hw₂] at hnotified
    have henabled : (∀ d ∈ installations, Delivered s fanout.sourceEventId d.id) ↔
        ∀ d r, s.get (.pushInstallations d) = some r → enabledFor userIds r = true → Delivered s fanout.sourceEventId d := by
      constructor
      · intro hall d r hr htest
        rw [← hgrows.installations] at hr
        have hd : d ∈ sortInstallations (G.db.apply l₁.writes)
            ((G.db.apply l₁.writes).ids Tables.pushInstallations fun _ r => enabledFor userIds r) := by
          rw [sortInstallations, List.mem_insertionSort]
          exact Store.mem_ids.mpr ⟨r, hr, htest⟩
        obtain ⟨_, hin⟩ := hfound d hd r hr
        exact hall _ (hin _ (if_pos htest))
      · intro hall a ha
        obtain ⟨d, hd, _, r, hr, hf⟩ := hmem a ha
        change (G.db.apply l₁.writes).get (.pushInstallations d) = some r at hr
        rw [hgrows.installations] at hr
        split at hf
        · rename_i htest
          cases hf
          exact hall d r hr htest
        · cases hf
    refine (insertOccurrences_alone h₃ (h₂.alone_csn hG₁) hnew hnotified).congr ?_
    rw [henabled]
    constructor
    · rintro ⟨⟨-, hn⟩, hd⟩
      refine ⟨hn, fun d r hr huser hdisabled hdeleted => hd d r hr ?_⟩
      simp [enabledFor, huser, hdisabled, hdeleted]
    · rintro ⟨hn, hd⟩
      refine ⟨⟨trivial, hn⟩, fun d r hr htest => ?_⟩
      simp only [enabledFor, Bool.and_eq_true, decide_eq_true_eq, Option.isNone_iff_eq_none] at htest
      exact hd d r hr htest.1.1 htest.1.2 htest.2

end FanOut

section Recipients

variable {server : Server} {ticks : Time → Time → Bool} {C : Contract (system server ticks)} {l l' L : Local}
  {g g' G : Shared} {s : Store Row}

lemma mem_liveMembers {groupId userId id : Uuid} : (userId, id) ∈ liveMembers s groupId ↔
    ∃ r, s.get (.memberships id) = some r ∧ r.groupId = groupId ∧ r.userId = userId ∧ r.deletedAt = none ∧
      accountLive s userId = true := by
  simp only [liveMembers, List.mem_insertionSort, List.mem_filterMap, Store.mem_ids, Bool.and_eq_true, decide_eq_true_eq,
    Option.isNone_iff_eq_none, Option.map_eq_some_iff, Prod.mk.injEq]
  constructor
  · rintro ⟨i, ⟨r, hr, ⟨hgroup, hdeleted⟩, hlive⟩, r', hr', rfl, rfl⟩
    rw [hr] at hr'
    cases hr'
    exact ⟨r, hr, hgroup, rfl, hdeleted, hlive⟩
  · rintro ⟨r, hr, hgroup, rfl, hdeleted, hlive⟩
    exact ⟨id, ⟨r, hr, ⟨hgroup, hdeleted⟩, hlive⟩, r, hr, rfl, rfl⟩

lemma lockMembership_member {groupId : Uuid} {member : Uuid × Uuid} (hmember : member ∈ liveMembers s groupId) {a : Option Uuid}
    (h : Runs C (Notifications.lockMembership groupId member) l g (.ok a) l' g' L G) (hG : G.csn = g.csn)
    (hs : s = G.db.apply l.writes) : a = some member.1 ∧ l'.writes = l.writes := by
  obtain ⟨r, hr, hgroup, huser, hdeleted, hlive⟩ := mem_liveMembers.mp hmember
  obtain ⟨x, l₁, g₁, h₁, r₁⟩ := Runs.bind h
  obtain ⟨⟨_, hx⟩, hw₁, -⟩ := h₁.alone_lockRow hG (by decide)
  rw [← hs, hr, Option.bind_some, if_pos ⟨hgroup, huser, hdeleted⟩] at hx
  subst hx
  obtain ⟨⟨_, ha⟩, hw₂, -⟩ := Runs.alone_lockRow r₁ (h₁.alone_csn hG) (by decide)
  obtain ⟨u, hu, hdeleted'⟩ := (Option.any_eq_true _ _).mp hlive
  rw [hw₁, ← hs, hu, Option.bind_some, if_pos (Option.isNone_iff_eq_none.mp hdeleted')] at ha
  exact ⟨ha, hw₂.trans hw₁⟩

lemma lockLiveRecipients_alone {groupId actorId : Uuid} {recipients : List Uuid}
    (h : Runs C (lockLiveRecipients groupId actorId) l g (.ok recipients) l' g' L G) (hG : G.csn = g.csn)
    (hs : s = G.db.apply l.writes) :
    (∀ u, u ∈ recipients ↔ u ≠ actorId ∧ ∃ m, (u, m) ∈ liveMembers s groupId) ∧ l'.writes = l.writes := by
  unfold lockLiveRecipients at h
  obtain ⟨_, l₁, g₁, h₁, r₁⟩ := h.bind
  obtain ⟨s', l₂, g₂, h₂, r₂⟩ := r₁.bind
  obtain ⟨members, l₃, g₃, h₃, r₃⟩ := r₂.bind
  obtain ⟨_, l₄, g₄, h₄, r₄⟩ := r₃.bind
  obtain ⟨-, rfl⟩ := h₄.ensure
  obtain ⟨rfl, rfl⟩ := r₄.ret
  have hw₁ := h₁.writes_eq (touches_selectFor.bind fun _ => touches_ensure)
  have hG₁ := h₁.alone_csn hG
  obtain ⟨hs', hw₂, -⟩ := h₂.alone_snapshot hG₁
  rw [hw₁, ← hs] at hs'
  subst hs'
  have hw : l₂.writes = l.writes := hw₂.trans hw₁
  obtain ⟨hmembers, hw₃⟩ := h₃.alone_collect (F := fun x => some x.1) (fun member hmember l g a l' g' hrun hG hl => by
    obtain ⟨ha, hw⟩ := lockMembership_member hmember hrun hG (by rw [hl, hs])
    exact ⟨ha, hw.trans hl⟩) (h₂.alone_csn hG₁) hw
  refine ⟨fun u => ?_, hw₃⟩
  rw [hmembers, List.mem_filter, List.mem_filterMap, decide_eq_true_eq]
  constructor
  · rintro ⟨⟨⟨u', m⟩, hm, heq⟩, hne⟩
    cases heq
    exact ⟨hne, m, hm⟩
  · rintro ⟨hne, m, hm⟩
    exact ⟨⟨(u, m), hm, rfl⟩, hne⟩

lemma recordTopicCreated_alone {command : RecordTopicNotificationCommand} {report : NotificationFanoutReport}
    (h : Runs C (recordTopicCreated command) l g (.ok report) l' g' L G) (hG : G.csn = g.csn) (hunique : Unique index s)
    (hnew : NewIds L.drawn s) (hs : s = G.db.apply l.writes) :
    ∃ e, s.get (.conversationEvents command.sourceEventId) = some e ∧
      Settles (Covered s (.topic .newTopic command.topicId) command.sourceEventId e.cursor
        fun u => u ≠ command.authorId ∧ ∃ m, (u, m) ∈ liveMembers s command.groupId) s (G.db.apply l'.writes) := by
  unfold recordTopicCreated at h
  obtain ⟨_, l₁, g₁, h₁, r₁⟩ := h.bind
  obtain ⟨-, rfl⟩ := h₁.ensure
  obtain ⟨recipients, l₂, g₂, h₂, r₂⟩ := r₁.bind
  obtain ⟨cursor, l₃, g₃, h₃, r₃⟩ := r₂.bind
  obtain ⟨⟨groupName, topicTitle⟩, l₄, g₄, h₄, r₄⟩ := r₃.bind
  have hG₁ := h₁.alone_csn hG
  have hG₂ := h₂.alone_csn hG₁
  obtain ⟨hrecipients, hw₂⟩ := lockLiveRecipients_alone h₂ hG₁ hs
  have hw₃ := h₃.writes_eq (touches_select.bind fun _ => touches_ofOption)
  have hw₄ : l₄.writes = l₃.writes := by
    refine h₄.writes_eq (touches_select.bind fun _ => touches_ofOption.bind fun _ => ?_)
    exact touches_select.bind fun _ => touches_ofOption.bind fun _ => trivial
  have hG₄ := h₄.alone_csn (h₃.alone_csn hG₂)
  unfold topicSourceCursor at h₃
  obtain ⟨found, l₅, g₅, h₅, r₅⟩ := h₃.bind
  obtain ⟨rfl, -⟩ := r₅.ofOption
  obtain ⟨hfound, -, -⟩ := h₅.alone_select hG₂
  rw [hw₂, ← hs] at hfound
  split at hfound
  · obtain ⟨e, he, hcursor⟩ := Option.bind_eq_some_iff.mp hfound.symm
    split at hcursor
    · cases hcursor
      refine ⟨e, he, ?_⟩
      have hsettles := fanOut_alone r₄ hG₄ hunique hnew (by rw [hw₄, hw₃, hw₂, hs])
      refine hsettles.congr ⟨fun hc => ?_, fun hc => ?_⟩
      · exact ⟨fun u hu => hc.notified u ((hrecipients u).mpr hu), fun d r hr hu => hc.delivered d r hr ((hrecipients _).mpr hu)⟩
      · exact ⟨fun u hu => hc.notified u ((hrecipients u).mp hu), fun d r hr hu => hc.delivered d r hr ((hrecipients _).mp hu)⟩
    · cases hcursor
  · cases hfound

end Recipients

section Call

open Topics

variable {server : Server} {ticks : Time → Time → Bool} {C : Contract (system server ticks)} {l l' L : Local}
  {g g' G : Shared} {s : Store Row}

lemma lockContextRow_alone {topic : TopicRecord} {row : Uuid × Uuid} (hrow : row ∈ contextRows s topic)
    {a : Option (Uuid × Uuid × String)} (h : Runs C (lockContextRow topic row) l g (.ok a) l' g' L G) (hG : G.csn = g.csn)
    (hs : s = G.db.apply l.writes) :
    a = (s.get (.users topic.authorId)).map (fun u => (row.1, row.2, displayName u)) ∧ l'.writes = l.writes := by
  unfold contextRows at hrow
  split at hrow
  · rename_i htopic
    obtain ⟨c, hc, hrow⟩ := List.mem_flatMap.mp hrow
    obtain ⟨e, he, rfl⟩ := List.mem_map.mp hrow
    obtain ⟨t, ht, htest⟩ := (Option.any_eq_true _ _).mp htopic
    obtain ⟨room, hroom, hrtest⟩ := Store.mem_ids.mp hc
    obtain ⟨event, hevent, hetest⟩ := Store.mem_ids.mp he
    simp only [Bool.and_eq_true, decide_eq_true_eq] at htest hrtest hetest
    obtain ⟨x, l₁, g₁, h₁, r₁⟩ := Runs.bind h
    obtain ⟨⟨_, hx⟩, hw₁, -⟩ := h₁.alone_lockRow hG (by decide)
    rw [← hs, ht, Option.bind_some, if_pos htest] at hx
    subst hx
    have hG₁ := h₁.alone_csn hG
    obtain ⟨y, l₂, g₂, h₂, r₂⟩ := Runs.bind r₁
    obtain ⟨⟨_, hy⟩, hw₂, -⟩ := h₂.alone_lockRow hG₁ (by decide)
    rw [hw₁, ← hs] at hy
    change y = Option.bind (s.get (Tables.chatrooms.key c)) _ at hy
    rw [hroom, Option.bind_some, if_pos ⟨hrtest.1.1, hrtest.1.2, hrtest.2⟩] at hy
    subst hy
    have hG₂ := h₂.alone_csn hG₁
    obtain ⟨z, l₃, g₃, h₃, r₃⟩ := Runs.bind r₂
    obtain ⟨⟨_, hz⟩, hw₃, -⟩ := h₃.alone_lockRow hG₂ (by decide)
    rw [hw₂, hw₁, ← hs] at hz
    change z = Option.bind (s.get (Tables.conversationEvents.key e)) _ at hz
    rw [hevent, Option.bind_some, if_pos hetest] at hz
    subst hz
    obtain ⟨⟨_, ha⟩, hw₄, -⟩ := Runs.alone_lockRow r₃ (h₃.alone_csn hG₂) (by decide)
    rw [hw₃, hw₂, hw₁, ← hs] at ha
    refine ⟨?_, by rw [hw₄, hw₃, hw₂, hw₁]⟩
    rw [ha]
    cases s.get (.users topic.authorId) <;> rfl
  · cases hrow

/-- The context of a topic has one room and one event. -/
lemma notificationContext_alone {topic : TopicRecord} {context : TopicNotificationContext}
    (h : Runs C (Topics.notificationContext topic) l g (.ok context) l' g' L G) (hG : G.csn = g.csn)
    (hs : s = G.db.apply l.writes) :
    contextRows s topic = [(context.conversationId, context.sourceEventId)] ∧ context.groupId = topic.groupId ∧
      context.topicId = topic.id ∧ context.authorId = topic.authorId ∧ l'.writes = l.writes := by
  unfold Topics.notificationContext at h
  obtain ⟨s', l₁, g₁, h₁, r₁⟩ := h.bind
  obtain ⟨rows, l₂, g₂, h₂, r₂⟩ := r₁.bind
  obtain ⟨hs', hw₁, -⟩ := h₁.alone_snapshot hG
  rw [← hs] at hs'
  subst hs'
  obtain ⟨hrows, hw₂⟩ := h₂.alone_collect
    (F := fun row => (s'.get (.users topic.authorId)).map fun u => (row.1, row.2, displayName u))
    (fun row hrow l g a l' g' hrun hG hl => by
      obtain ⟨ha, hw⟩ := lockContextRow_alone hrow hrun hG (by rw [hl, hs])
      exact ⟨ha, hw.trans hl⟩) (h₁.alone_csn hG) hw₁
  cases hu : s'.get (.users topic.authorId) with
  | none =>
    rw [hu] at hrows
    simp only [Option.map_none, List.filterMap_none] at hrows
    subst hrows
    exact (Runs.not_fail r₂).elim
  | some u =>
    rw [hu] at hrows
    simp only [Option.map_some, List.filterMap_eq_map'] at hrows
    match hc : contextRows s' topic with
    | [] =>
      rw [hc] at hrows
      subst hrows
      exact (Runs.not_fail r₂).elim
    | [(c, e)] =>
      rw [hc] at hrows
      subst hrows
      obtain ⟨rfl, rfl⟩ := Runs.ret r₂
      exact ⟨rfl, rfl, rfl, rfl, hw₂⟩
    | _ :: _ :: _ =>
      rw [hc] at hrows
      subst hrows
      exact (Runs.not_fail r₂).elim

lemma touches_prepareCreateTopic {text : TopicText} {authorId groupId idempotencyKey : Uuid} {title : String} {P : Key → Prop} :
    (prepareCreateTopic text authorId groupId idempotencyKey title).Touches P := by
  refine touches_ofOption.bind fun _ => ⟨trivial, fun _ => ⟨trivial, fun _ => ⟨trivial, fun _ => ⟨trivial, fun _ => ?_⟩⟩⟩⟩
  exact ⟨trivial, fun _ => ⟨trivial, fun _ => ⟨trivial, fun _ => ⟨trivial, fun _ => ⟨trivial, fun _ => trivial⟩⟩⟩⟩⟩

lemma touches_existingTopic {command : CreateTopicCommand} {P : Key → Prop} : (existingTopic command).Touches P := by
  refine touches_select.bind fun _ => touches_ofOption.bind fun _ => touches_ensure.bind fun _ => touches_ensure.bind fun _ => ?_
  refine Prog.Touches.bind ?_ fun _ => trivial
  exact touches_select.bind fun _ => touches_ofOption.bind fun _ => touches_select.bind fun _ => trivial

lemma createTopic_existing {settings : Settings} {command : CreateTopicCommand} {topic : TopicRecord}
    (h : Runs C (createTopic settings command) l g (.ok (.existing topic)) l' g' L G) (hG : G.csn = g.csn) :
    l'.writes = l.writes := by
  unfold createTopic at h
  obtain ⟨member, l₁, g₁, h₁, r₁⟩ := h.bind
  obtain ⟨now, l₂, g₂, h₂, r₂⟩ := r₁.bind
  obtain ⟨inserted, l₃, g₃, h₃, r₃⟩ := r₂.bind
  obtain ⟨rfl, -⟩ := h₂.clock
  have hw₁ : l₂.writes = l.writes := by
    refine h₁.writes_eq (touches_selectFor.bind fun _ => touches_ensure.bind fun _ => ?_)
    exact touches_select.bind fun _ => touches_ofOption
  obtain ⟨-, hw₃⟩ := h₃.alone_insertOrSkip (h₂.alone_csn (h₁.alone_csn hG))
  cases inserted with
  | true =>
    obtain ⟨created, hout⟩ := insertTopicRows_created r₃
    cases hout
  | false =>
    rw [Runs.writes_eq r₃ touches_existingTopic, hw₃, hw₁]
    rfl

/-- Every member is notified of the topic, and every device of a member has its occurrence. -/
def ReplayCovered (s : Store Row) (topic : TopicRecord) : Prop :=
  ∀ row ∈ contextRows s topic, ∀ e, s.get (.conversationEvents row.2) = some e →
    Covered s (.topic .newTopic topic.id) row.2 e.cursor
      fun u => u ≠ topic.authorId ∧ ∃ m, (u, m) ∈ liveMembers s topic.groupId

lemma createTopicHttp_existing {authorId groupId idempotencyKey : Uuid} {title : String} {topic : TopicRecord}
    (h : Runs C (createTopicHttp server.settings server.text authorId groupId idempotencyKey title) l g (.ok (.existing topic))
      l' g' L G) (hG : G.csn = g.csn) (hunique : Unique index s) (hnew : NewIds L.drawn s) (hs : s = G.db.apply l.writes) :
    Settles (ReplayCovered s topic) s (G.db.apply l'.writes) := by
  unfold createTopicHttp at h
  obtain ⟨command, l₁, g₁, h₁, r₁⟩ := h.bind
  obtain ⟨outcome, l₂, g₂, h₂, r₂⟩ := r₁.bind
  obtain ⟨context, l₃, g₃, h₃, r₃⟩ := r₂.bind
  obtain ⟨report, l₄, g₄, h₄, r₄⟩ := r₃.bind
  obtain ⟨rfl, rfl⟩ := r₄.ret
  have hw₁ := h₁.writes_eq touches_prepareCreateTopic
  have hG₁ := h₁.alone_csn hG
  have hw₂ := createTopic_existing h₂.mapError hG₁
  have hG₂ := h₂.alone_csn hG₁
  obtain ⟨hrows, hgroup, htopic, hauthor, hw₃⟩ := notificationContext_alone h₃.mapError hG₂ (s := s) (by rw [hw₂, hw₁, hs])
  obtain ⟨e, he, hsettles⟩ := recordTopicCreated_alone h₄.mapError (h₃.alone_csn hG₂) hunique hnew (by rw [hw₃, hw₂, hw₁, hs])
  simp only [CreateTopicOutcome.topic] at hrows hgroup htopic hauthor
  rw [hgroup, htopic, hauthor] at hsettles
  refine hsettles.congr ?_
  rw [ReplayCovered, hrows]
  simp only [List.mem_singleton, forall_eq, he, Option.some.injEq, forall_eq']

end Call

section Runs

open Topics

/-- The stored topic that a creation answers with. -/
def replay : Job → Outcome → Option TopicRecord
  | .createTopic _ _ _ _, .topic (.existing topic) => some topic
  | _, _ => none

/-- What a replay does when nothing else is committed from its beginning to its end. -/
def ReplaysAlone (e : Entry) (g : Shared) : Prop :=
  e.ran.start = g.csn → NewIds e.ran.drawn g.db → ∀ topic, replay e.job e.out = some topic →
    Settles (ReplayCovered g.db topic) g.db (g.db.apply e.ran.writes)

def replayContract (server : Server) (ticks : Time → Time → Bool) : Contract (system server ticks) where
  Init := Starts
  log_init _ hg := hg.log
  unique_init _ hg := hg.unique
  Ok := ReplaysAlone

variable {server : Server} {ticks : Time → Time → Bool}

lemma replay_programs : (replayContract server ticks).Programs := by
  intro job g hg r l' g' h
  cases r with
  | error e => exact trivial
  | ok out =>
    have hrun : Runs (replayContract server ticks) (program server job) (Local.begin g) g (.ok out) l' g' l' g' := ⟨h, .refl⟩
    intro hstart hnew topic hreplay
    change replay job out = some topic at hreplay
    have hG : g'.csn = g.csn := hstart.symm.trans hrun.evolve.start_eq
    have hunique : Unique index g'.db := by
      rw [← hrun.evolve.later.db_eq (Nat.le_of_eq hG)]
      exact hg.unique
    cases job with
    | createTopic authorId groupId idempotencyKey title =>
      obtain ⟨outcome, l₁, g₁, h₁, r₁⟩ := hrun.bind
      obtain ⟨rfl, rfl⟩ := r₁.ret
      cases outcome with
      | created topic' => cases hreplay
      | existing topic' =>
        cases hreplay
        exact createTopicHttp_existing h₁.mapError hG hunique hnew rfl
    | patchTopic | getTopic | listTopics | sendMessage | deleteMessage | moderatorDeleteMessage | markRead | redeem
    | register => cases hreplay

/-- In every run, the replay of a topic creation that runs alone changes no row if and only if every member is
notified of the topic and every device of a member has its occurrence. -/
theorem replay_changes_nothing_iff_covered {s : State} (hs : (system server ticks).Reachable Starts s) {k : Nat} {e : Entry}
    (he : s.shared.log[k]? = some e) (halone : e.ran.start = k) (hnew : NewIds e.ran.drawn (s.shared.version k))
    {topic : TopicRecord} (hreplay : replay e.job e.out = some topic) :
    (∀ key, (s.shared.version (k + 1)).get key = (s.shared.version k).get key) ↔
      ReplayCovered (s.shared.version k) topic := by
  have hsound : Sound (replayContract server ticks) s :=
    reachable_sound (fun _ _ _ _ _ _ _ => ⟨trivial, fun _ _ => trivial⟩) replay_programs hs
  obtain ⟨g₁, -, rfl, hc, hlater⟩ := hsound.history.entry he
  obtain ⟨hbefore, hafter⟩ := hlater.version_commit
  rw [hbefore] at hnew ⊢
  rw [hafter]
  exact (hc.ok halone hnew topic hreplay).same_iff

end Runs

section Sample

open Topics

/-- A topic is created, and the call is repeated after the member has registered a device. -/
def replaySchedule : List (Label Job) := Label.serial 1 [
  (.createTopic 1 10 7 "topic", 100, 78),
  (.register 2 "device" .ios "ExponentPushToken[a]" .production true, 40, 10),
  (.createTopic 1 10 7 "topic", 500, 58)]

/-- The last call is a replay that runs alone and draws new identifiers. It adds an occurrence. -/
def replaySummary (s : State) : Bool :=
  (s.shared.log[2]?.any fun e => decide (e.ran.start = 2) && (replay e.job e.out).isSome &&
    e.ran.drawn.all fun i => ((s.shared.version 2).get (.notifications i)).isNone &&
      ((s.shared.version 2).get (.pushDeliveryIntents i)).isNone) &&
    ((s.shared.version 2).get (.pushDeliveryIntents 551)).isNone && ((s.shared.version 3).get (.pushDeliveryIntents 551)).isSome

lemma replay_sample : ∃ s : State, sampleSystem.Reachable Starts s ∧ replaySummary s = true := by
  have hrun : (sampleSystem.run ⟨⟨sampleStore, [], 0, 0, []⟩, []⟩ replaySchedule).any replaySummary = true := by
    decide +kernel
  obtain ⟨s, hs, hsummary⟩ := (Option.any_eq_true _ _).mp hrun
  exact ⟨s, System.reachable_of_run _ starts_sampleStore hs, hsummary⟩

lemma of_replaySummary {s : State} (h : replaySummary s = true) : ∃ e topic, s.shared.log[2]? = some e ∧ e.ran.start = 2 ∧
    NewIds e.ran.drawn (s.shared.version 2) ∧ replay e.job e.out = some topic ∧
    ¬ ∀ key, (s.shared.version 3).get key = (s.shared.version 2).get key := by
  simp only [replaySummary, Bool.and_eq_true, Option.any_eq_true, decide_eq_true_eq, List.all_eq_true,
    Option.isNone_iff_eq_none, Option.isSome_iff_exists] at h
  obtain ⟨⟨⟨e, he, ⟨hstart, topic, htopic⟩, hnew⟩, hnone⟩, r, hsome⟩ := h
  refine ⟨e, topic, he, hstart, hnew, htopic, fun hsame => ?_⟩
  rw [hsame, hnone] at hsome
  cases hsome

/-- The replay adds an occurrence for the device that was registered after the creation. -/
theorem replay_adds_occurrence : ∃ s : State, sampleSystem.Reachable Starts s ∧ ∃ e topic, s.shared.log[2]? = some e ∧
    e.ran.start = 2 ∧ NewIds e.ran.drawn (s.shared.version 2) ∧ replay e.job e.out = some topic ∧
    ¬ ∀ key, (s.shared.version 3).get key = (s.shared.version 2).get key := by
  obtain ⟨s, hs, hsummary⟩ := replay_sample
  exact ⟨s, hs, of_replaySummary hsummary⟩

/-- That device has no occurrence of the topic before. -/
theorem replay_not_covered_in_sample : ∃ s : State, sampleSystem.Reachable Starts s ∧ ∃ e topic,
    s.shared.log[2]? = some e ∧ e.ran.start = 2 ∧ NewIds e.ran.drawn (s.shared.version 2) ∧
    replay e.job e.out = some topic ∧ ¬ ReplayCovered (s.shared.version 2) topic := by
  obtain ⟨s, hs, hsummary⟩ := replay_sample
  obtain ⟨e, topic, he, hstart, hnew, htopic, hchanged⟩ := of_replaySummary hsummary
  refine ⟨s, hs, e, topic, he, hstart, hnew, htopic, fun hcovered => hchanged ?_⟩
  exact (replay_changes_nothing_iff_covered hs he hstart hnew htopic).mpr hcovered

end Sample

end JamyeServer.Conversations
