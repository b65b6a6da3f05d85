import JamyeServer.Postgres.Schema

/-!
# Which table an index belongs to
-/

namespace JamyeServer.Postgres

open ReadCommitted

/-- The index entry can belong to a row with this key. -/
def Idx.IsOf : Idx → Key → Prop
  | .authIdentity _ _, k => ∃ i, k = .authIdentities i
  | .sessionParent _, k | .sessionToken _, k => ∃ i, k = .refreshSessions i
  | .membership _ _, k => ∃ i, k = .memberships i
  | .inviteCode _, k => ∃ i, k = .invites i
  | .mainChatroom _, k | .topicChatroom _, k => ∃ i, k = .chatrooms i
  | .topicIdempotency _ _, k => ∃ i, k = .topics i
  | .topicTag _ _, k => ∃ i, k = .topicTags i
  | .messageClient _ _, k | .messageAnnouncement _, k => ∃ i, k = .messages i
  | .messageMediaUpload _, k | .messageMediaObject _, k | .messageMediaPosition _ _, k => ∃ i, k = .messageMedia i
  | .mediaObject _, k | .mediaPoster _, k => ∃ i, k = .mediaUploads i
  | .eventCursor _, k => ∃ i, k = .conversationEvents i
  | .chatroomRead _ _, k => ∃ i, k = .chatroomReads i
  | .notificationDedup _ _, k => ∃ i, k = .notifications i
  | .installation _, k | .destination _ _, k => ∃ i, k = .pushInstallations i
  | .delivery _ _, k | .reportDelivery _ _, k => ∃ i, k = .pushDeliveryIntents i
  | .objectDeletion _, k => ∃ i, k = .accountObjectDeletionIntents i
  | .avatarObject _, k | .avatarUser _ _, k => ∃ i, k = .userAvatarUploads i

lemma mem_indexedIf {c : Bool} {is : List Idx} {i : Idx} : i ∈ indexedIf c is ↔ c = true ∧ i ∈ is := by
  unfold indexedIf
  split <;> simp_all

lemma isOf_of_mem_index {k : Key} {r : Row k} {i : Idx} (h : i ∈ index k r) : i.IsOf k := by
  cases k <;> simp only [index, mem_indexedIf, List.mem_cons, List.mem_append, List.mem_flatMap, List.mem_map,
    Option.mem_toList, List.not_mem_nil, or_false] at h
  case chatrooms id =>
    split at h
    · obtain rfl := List.mem_singleton.mp h
      exact ⟨_, rfl⟩
    · obtain ⟨t, -, rfl⟩ := List.mem_map.mp h
      exact ⟨_, rfl⟩
  all_goals grind [Idx.IsOf]

lemma isOf_of_mem_entries {s : Store Row} {k : Key} {i : Idx} (h : i ∈ entries index k (s.get k)) : i.IsOf k := by
  cases hrow : s.get k with
  | none =>
    rw [hrow] at h
    cases h
  | some r =>
    rw [hrow] at h
    exact isOf_of_mem_index h

/-- A store with few rows is tested row by row. -/
lemma unique_of_keys {s : Store Row} (h : ∀ k ∈ s.keys, ∀ k' ∈ s.keys, ∀ i ∈ entries index k (s.get k),
    i ∈ entries index k' (s.get k') → k = k') : Unique index s := by
  have hkeys : ∀ k i, i ∈ entries index k (s.get k) → k ∈ s.keys := by
    intro k i hi
    refine s.complete k fun hnone => ?_
    rw [hnone] at hi
    cases hi
  exact fun k k' i hi hi' => h k (hkeys k i hi) k' (hkeys k' i hi') i hi hi'

end JamyeServer.Postgres
