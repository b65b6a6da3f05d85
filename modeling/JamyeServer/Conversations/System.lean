import JamyeServer.ReadCommitted.Effects
import JamyeServer.Postgres.Groups
import JamyeServer.Postgres.Indexes
import JamyeServer.Postgres.Installations
import JamyeServer.Postgres.Topics

/-!
# Conversations

The transactions on topics, messages and read markers, next to those that bring new members and new devices.
-/

namespace JamyeServer.Conversations

open ReadCommitted Postgres Groups Push Messages Topics

/-- What the server is configured with. -/
structure Server where
  settings : Settings
  text : TopicText
  dateOf : Time → Nat
  hashtextextended : String → Nat

inductive Job
  | createTopic (authorId groupId idempotencyKey : Uuid) (title : String)
  | patchTopic (command : PatchTopicCommand)
  | getTopic (groupId topicId actorId : Uuid)
  | listTopics (groupId actorId : Uuid) (after : Option Uuid) (limit : Nat) (date : Option Nat)
  | sendMessage (actorId : Uuid) (input : SendMessageInput)
  | deleteMessage (actorId chatroomId messageId : Uuid)
  | moderatorDeleteMessage (messageId : Uuid)
  | markRead (userId chatroomId : Uuid) (anchor : ReadMarkerAnchor)
  | redeem (actorId : Uuid) (code : String) (now : Time)
  | register (userId : Uuid) (installationId : String) (platform : PushPlatform) (token : String)
      (environment : PushEnvironment) (messagePreviewEnabled : Bool)
  deriving DecidableEq

inductive Outcome
  | topic (outcome : CreateTopicOutcome)
  | record (topic : TopicRecord)
  | page (topics : List TopicRecord) (nextCursor : Option Uuid)
  | message (outcome : SendMessageOutcome)
  | done
  | moderated (outcome : ModeratorDeleteOutcome)
  | marker (marker : ReadMarker)
  | redeemed (record : InviteJoinRecord)
  | registered (outcome : UpsertPushInstallationOutcome)
  deriving DecidableEq

inductive Failure
  | topics (error : TopicsError)
  | topicsRepository (error : TopicsRepositoryError)
  | messaging (error : MessagingError)
  | messagingRepository (error : MessagingRepositoryError)
  | chatrooms (error : ChatroomsError)
  | groups (error : GroupsError)
  | push (error : PushRepositoryError)
  deriving DecidableEq

def program (server : Server) : Job → Sql Failure Outcome
  | .createTopic authorId groupId idempotencyKey title => do
    let outcome ← Prog.mapError .topics (createTopicHttp server.settings server.text authorId groupId idempotencyKey title)
    .ret (.topic outcome)
  | .patchTopic command => do
    let topic ← Prog.mapError .topicsRepository (patchTopic command)
    .ret (.record topic)
  | .getTopic groupId topicId actorId => do
    let topic ← Prog.mapError .topicsRepository (getTopic groupId topicId actorId)
    .ret (.record topic)
  | .listTopics groupId actorId after limit date => do
    let page ← Prog.mapError .topicsRepository (listTopics server.dateOf groupId actorId after limit date)
    .ret (.page page.1 page.2)
  | .sendMessage actorId input => do
    let outcome ← Prog.mapError .messaging (sendMessageHttp server.settings server.text.mask actorId input)
    .ret (.message outcome)
  | .deleteMessage actorId chatroomId messageId => do
    Prog.mapError .messagingRepository (deleteMessage actorId chatroomId messageId)
    .ret .done
  | .moderatorDeleteMessage messageId => do
    let outcome ← Prog.mapError .messagingRepository (moderatorDeleteMessage messageId)
    .ret (.moderated outcome)
  | .markRead userId chatroomId anchor => do
    let marker ← Prog.mapError .chatrooms (markReadHttp userId chatroomId anchor)
    .ret (.marker marker)
  | .redeem actorId code now => do
    let record ← Prog.mapError .groups (redeem actorId code now)
    .ret (.redeemed record)
  | .register userId installationId platform token environment messagePreviewEnabled => do
    let id ← Prog.fresh
    let outcome ← Prog.mapError .push (upsertInstallation server.hashtextextended
      ⟨id, userId, installationId, platform, .expo, token, environment, messagePreviewEnabled⟩)
    .ret (.registered outcome)

/-- The server; `ticks` says how its clock may move. -/
def system (server : Server) (ticks : Time → Time → Bool) : System Row Nat Idx Failure Job Outcome where
  index := index
  prog := program server
  ticks := ticks

abbrev Entry := ReadCommitted.Entry Row Nat Job Outcome
abbrev Shared := ReadCommitted.Shared Row Nat Job Outcome
abbrev State := ReadCommitted.State Row Nat Failure Job Outcome
abbrev Local := ReadCommitted.Local Row Nat

/-- A server at its start: nothing is committed yet. -/
structure Starts (g : Shared) : Prop where
  log : g.log = []
  unique : Unique index g.init

lemma insertTopicRows_created {server : Server} {ticks : Time → Time → Bool} {C : Contract (system server ticks)}
    {l l' L : Local} {g g' G : Shared} {settings : Settings} {command : CreateTopicCommand} {member : String × Option String}
    {createdAt : Time} {outcome : CreateTopicOutcome}
    (h : Runs C (insertTopicRows settings command member createdAt) l g (.ok outcome) l' g' L G) :
    ∃ topic, outcome = .created topic := by
  unfold insertTopicRows at h
  obtain ⟨_, _, _, -, r₁⟩ := h.bind
  obtain ⟨_, _, _, -, r₂⟩ := r₁.bind
  obtain ⟨_, _, _, -, r₃⟩ := r₂.bind
  obtain ⟨_, _, _, -, r₄⟩ := r₃.bind
  obtain ⟨_, _, _, -, r₅⟩ := r₄.bind
  obtain ⟨_, _, _, -, r₆⟩ := r₅.bind
  obtain ⟨_, _, _, -, r₇⟩ := r₆.bind
  obtain ⟨_, _, _, -, r₈⟩ := r₇.bind
  obtain ⟨_, _, _, -, r₉⟩ := r₈.bind
  obtain ⟨_, _, _, -, r₁₀⟩ := r₉.bind
  exact ⟨_, r₁₀.ret.1⟩

section Sample

def sampleServer : Server := ⟨⟨100, 1000, id⟩, ⟨id, id⟩, id, fun _ => 0⟩

abbrev sampleSystem := system sampleServer fun t t' => decide (t ≤ t')

/-- A group with its main room, its owner 1 and the member 2. -/
def sampleStore : Store Row :=
  Store.empty.apply [
    ⟨.users 1, some { nickname := "owner" }⟩,
    ⟨.users 2, some { nickname := "member" }⟩,
    ⟨.groups 10, some { name := "group", ownerId := 1 }⟩,
    ⟨.memberships 21, some { groupId := 10, userId := 1, role := .owner }⟩,
    ⟨.memberships 22, some { groupId := 10, userId := 2, role := .member }⟩,
    ⟨.chatrooms 30, some { groupId := 10, type := .main, topicId := none }⟩]

lemma starts_sampleStore : Starts ⟨sampleStore, [], 0, 0, []⟩ := ⟨rfl, unique_of_keys (by decide)⟩

end Sample

end JamyeServer.Conversations
