import JamyeServer.Text
import JamyeServer.Transition
import Mathlib.Logic.Function.Basic
import Mathlib.Data.Set.Function
import Mathlib.Data.List.Basic

/-!
# Signing in through an OAuth provider

`authorize` hands out a state and keeps the attempt behind its digest in Redis. `exchange` takes the
attempt out again, compares it with the request, asks the provider for the identity and issues a session.
A request advances one external call at a time, and the requests of all clients interleave.
-/

namespace JamyeServer.OAuth

open Text

inductive ProviderKind
  | kakao | google | apple
  deriving DecidableEq, Repr

def ProviderKind.parse (value : String) : Option ProviderKind :=
  if value = "kakao" then some .kakao
  else if value = "google" then some .google
  else if value = "apple" then some .apple
  else none

/-- The functions of other crates. `urlParse` gives the scheme and whether there is a host. -/
structure Libraries where
  sha256 : List UInt8 → List UInt8
  base64url : List UInt8 → String
  urlParse : String → Option (String × Bool)

structure AuthorizeInput where
  redirectUri : String
  codeChallenge : String
  codeChallengeMethod : String
  deriving DecidableEq, Repr

structure AuthorizeOutput where
  authorizationUrl : String
  state : String
  expiresInSeconds : Nat
  deriving DecidableEq, Repr

structure ExchangeInput where
  authorizationCode : String
  state : String
  codeVerifier : String
  redirectUri : String
  deriving DecidableEq, Repr

structure OAuthAttempt where
  provider : ProviderKind
  redirectUri : String
  codeChallenge : String
  nonce : String
  deriving DecidableEq, Repr

structure ProviderIdentity where
  providerId : String
  nickname : String
  avatarUrl : Option String
  deriving DecidableEq, Repr

structure NewProviderIdentity where
  provider : ProviderKind
  providerId : String
  nickname : String
  avatarUrl : Option String
  deriving DecidableEq, Repr

inductive OAuthProviderError
  | unavailable | invalidIdentity | invalidConfiguration
  deriving DecidableEq, Repr

inductive AuthError
  | requestValidation | oauthProviderNotSupported | oauthProviderNotAvailable | oauthAuthorizeInvalid
  | oauthExchangeInvalid | oauthCoordinationUnavailable | oauthProviderUnavailable
  | rateLimited (retryAfter : Nat)
  | rateLimitUnavailable | accountSuspended | databaseUnavailable | tokenIssuanceUnavailable | invalidConfiguration
  deriving DecidableEq, Repr

def mapProviderError : OAuthProviderError → AuthError
  | .unavailable | .invalidIdentity => .oauthProviderUnavailable
  | .invalidConfiguration => .invalidConfiguration

section Credentials

variable (lib : Libraries)

def bytes (value : String) : List UInt8 := value.toUTF8.toList

def Libraries.digest (raw : String) : List UInt8 := lib.sha256 (bytes raw)

def Libraries.pkceS256 (verifier : String) : String := lib.base64url (lib.sha256 (bytes verifier))

def hexDigit (n : Nat) : Char := "0123456789abcdef".toList.getD n '0'

def encodeHex (digest : List UInt8) : List Char :=
  digest.flatMap fun byte => [hexDigit (byte.toNat / 16), hexDigit (byte.toNat % 16)]

/-- The Redis key, as characters. -/
def attemptKey (digest : List UInt8) : List Char := "jamye:oauth-attempt:v1:".toList ++ encodeHex digest

end Credentials

section Validation

def isAsciiAlphanumeric (c : Char) : Bool := c.isAlphanum

def validBase64urlCredential (value : String) : Bool :=
  decide (value.utf8ByteSize = 43) &&
    value.toList.all fun c => isAsciiAlphanumeric c || decide (c = '-') || decide (c = '_')

def validPkceVerifier (value : String) : Bool :=
  decide (43 ≤ value.utf8ByteSize) && decide (value.utf8ByteSize ≤ 128) &&
    value.toList.all fun c => isAsciiAlphanumeric c || c ∈ ['-', '.', '_', '~']

def validateAuthorizeInput (input : AuthorizeInput) : Except AuthError Unit :=
  if input.redirectUri.isEmpty || !validBase64urlCredential input.codeChallenge then .error .requestValidation
  else if input.codeChallengeMethod ≠ "S256" then .error .oauthAuthorizeInvalid
  else .ok ()

def validateExchangeInput (input : ExchangeInput) : Except AuthError Unit :=
  if input.authorizationCode.isEmpty || decide (4096 < input.authorizationCode.utf8ByteSize) ||
      !validBase64urlCredential input.state || !validPkceVerifier input.codeVerifier || input.redirectUri.isEmpty then
    .error .requestValidation
  else .ok ()

def validAvatarUrl (lib : Libraries) (value : String) : Bool :=
  let chars := value.toList
  !chars.isEmpty && decide (chars.length ≤ 512) && !chars.any isControl && isTrimmed chars &&
    "https://".toList.isPrefixOf chars &&
    (match chars[8]? with
      | none => false
      | some c => c ∉ ['/', '?', '#']) &&
    (match lib.urlParse value with
      | none => false
      | some (scheme, hasHost) => decide (scheme = "https") && hasHost)

def validProviderIdentity (lib : Libraries) (identity : ProviderIdentity) : Bool :=
  !identity.providerId.isEmpty && decide (identity.providerId.length ≤ 128) && !identity.nickname.isEmpty &&
    decide (identity.nickname.length ≤ 64) && identity.avatarUrl.all (validAvatarUrl lib)

end Validation

/-- The slot of a provider; `hasProvider` says that an adapter is there. -/
structure OAuthProviderSlot where
  kind : ProviderKind
  enabled : Bool
  redirectUris : List String
  hasProvider : Bool
  deriving DecidableEq, Repr

def OAuthProviderSlot.disabled (kind : ProviderKind) : OAuthProviderSlot := ⟨kind, false, [], false⟩

/-- `OAuthProviderSlot::enabled`, with an adapter of the kind `adapter`. -/
def OAuthProviderSlot.enable (kind adapter : ProviderKind) (redirectUris : List String) :
    Except AuthError OAuthProviderSlot :=
  if adapter ≠ kind ∨ redirectUris = [] ∨ ∃ uri ∈ redirectUris, uri.isEmpty ∨ '*' ∈ uri.toList then
    .error .invalidConfiguration
  else .ok ⟨kind, true, redirectUris, true⟩

def OAuthProviderSlot.allowsRedirect (slot : OAuthProviderSlot) (redirectUri : String) : Bool :=
  slot.redirectUris.any fun allowed => decide (allowed = redirectUri)

/-- The service, with slots of the kinds that its constructor demands. -/
structure AuthService where
  kakao : OAuthProviderSlot
  google : OAuthProviderSlot
  kakaoKind : kakao.kind = .kakao
  googleKind : google.kind = .google

def AuthService.providerSlot (service : AuthService) (providerPath : String) : Except AuthError OAuthProviderSlot :=
  match ProviderKind.parse providerPath with
  | some .kakao => if service.kakao.enabled then .ok service.kakao else .error .oauthProviderNotAvailable
  | some .google => if service.google.enabled then .ok service.google else .error .oauthProviderNotAvailable
  | some .apple | none => .error .oauthProviderNotSupported

inductive RateLimitAnswer
  | allowed
  | denied (retryAfter : Nat)
  | unavailable
  deriving DecidableEq, Repr

def checkRateLimit : RateLimitAnswer → Except AuthError Unit
  | .allowed => .ok ()
  | .denied retryAfter => .error (.rateLimited retryAfter)
  | .unavailable => .error .rateLimitUnavailable

/-- Whether Redis answers; a command that gets no answer may still have been carried out. -/
inductive RedisAnswer
  | answered
  | lost (applied : Bool)
  deriving DecidableEq, Repr

/-- How the transaction of a sign-in ends; a commit that gets no answer may still have happened. -/
inductive SessionAnswer
  | issued (accountRestored : Bool)
  | failed (error : AuthError) (committed : Bool)
  deriving DecidableEq, Repr

inductive Answer
  | authorized (output : AuthorizeOutput)
  | exchanged (accountRestored : Bool)
  | error (error : AuthError)
  deriving DecidableEq, Repr

/-- A request and how far it is. -/
inductive Request
  | authorizeStart (providerPath : String) (input : AuthorizeInput)
  | authorizeAllowed (slot : OAuthProviderSlot) (input : AuthorizeInput) (tries : Nat)
  | authorizeCreated (slot : OAuthProviderSlot) (input : AuthorizeInput) (state nonce : String)
  | exchangeStart (providerPath : String) (input : ExchangeInput)
  | exchangeAllowed (slot : OAuthProviderSlot) (input : ExchangeInput)
  | exchangeBound (slot : OAuthProviderSlot) (input : ExchangeInput) (nonce : String)
  | exchangeIdentified (slot : OAuthProviderSlot) (input : ExchangeInput) (identity : NewProviderIdentity)
  | answered (answer : Answer)
  deriving DecidableEq, Repr

/-- `authorize`, up to its loop. -/
def AuthService.admitAuthorize (service : AuthService) (providerPath : String) (input : AuthorizeInput)
    (limit : RateLimitAnswer) : Except AuthError Request :=
  match service.providerSlot providerPath, validateAuthorizeInput input with
  | .error e, _ => .error e
  | .ok _, .error e => .error e
  | .ok slot, .ok () =>
    if slot.allowsRedirect input.redirectUri = false then .error .oauthAuthorizeInvalid
    else match checkRateLimit limit with
      | .error e => .error e
      | .ok () => .ok (.authorizeAllowed slot input 0)

/-- `exchange`, up to the digest of the state. -/
def AuthService.admitExchange (service : AuthService) (providerPath : String) (input : ExchangeInput)
    (limit : RateLimitAnswer) : Except AuthError Request :=
  match service.providerSlot providerPath, validateExchangeInput input with
  | .error e, _ => .error e
  | .ok _, .error e => .error e
  | .ok slot, .ok () =>
    if slot.allowsRedirect input.redirectUri = false then .error .oauthExchangeInvalid
    else match checkRateLimit limit with
      | .error e => .error e
      | .ok () => .ok (.exchangeAllowed slot input)

inductive Event
  | created (state : String) (attempt : OAuthAttempt)
  | issued (provider : ProviderKind) (input : ExchangeInput)
  deriving DecidableEq, Repr

/-- Redis, the requests in flight and what happened, newest first. `generated` has the states that
`authorize` drew and `presented` those that clients sent. -/
structure State where
  now : Nat
  attempts : List Char → Option (OAuthAttempt × Nat)
  requests : List Request
  generated : List String
  presented : List String
  log : List Event

def oauthAttemptTtl : Nat := 600

def maxCredentialGenerationAttempts : Nat := 3

inductive Label
  | authorize (providerPath : String) (input : AuthorizeInput)
  | exchange (providerPath : String) (input : ExchangeInput)
  | tick (seconds : Nat)
  | evict (key : List Char)
  | checkRateLimit (k : Nat) (limit : RateLimitAnswer)
  | create (k : Nat) (state nonce : Option String) (redis : RedisAnswer)
  | link (k : Nat) (url : Except OAuthProviderError String)
  | consume (k : Nat) (redis : RedisAnswer)
  | identify (k : Nat) (identity : Except OAuthProviderError ProviderIdentity)
  | issue (k : Nat) (session : SessionAnswer)
  | drop (k : Nat)

namespace State

variable (lib : Libraries) (service : AuthService) (s : State)

/-- The value of a key that has not expired. -/
def get (key : List Char) : Option OAuthAttempt :=
  match s.attempts key with
  | some (attempt, expiresAt) => if s.now < expiresAt then some attempt else none
  | none => none

/-- `SET key attempt NX EX ttl`. -/
def setNx (key : List Char) (attempt : OAuthAttempt) : Option (List Char → Option (OAuthAttempt × Nat)) :=
  match s.get key with
  | some _ => none
  | none => some (Function.update s.attempts key (some (attempt, s.now + oauthAttemptTtl)))

/-- The request at `k` goes on as `r`. -/
def advance (k : Nat) (r : Request) : State := { s with requests := s.requests.set k r }

def refuse (k : Nat) (error : AuthError) : State := s.advance k (.answered (.error error))

def checkRateLimit (k : Nat) (limit : RateLimitAnswer) : Request → Option State
  | .authorizeStart providerPath input =>
    match service.admitAuthorize providerPath input limit with
    | .ok r => some (s.advance k r)
    | .error e => some (s.refuse k e)
  | .exchangeStart providerPath input =>
    match service.admitExchange providerPath input limit with
    | .ok r => some (s.advance k r)
    | .error e => some (s.refuse k e)
  | _ => none

/-- One round of the loop of `authorize`. -/
def create (k : Nat) (state nonce : Option String) (redis : RedisAnswer) : Request → Option State
  | .authorizeAllowed slot input tries =>
    match state with
    | none => some (s.refuse k .oauthCoordinationUnavailable)
    | some state =>
      let s := { s with generated := state :: s.generated }
      match nonce with
      | none => some (s.refuse k .oauthCoordinationUnavailable)
      | some nonce =>
        let attempt : OAuthAttempt := ⟨slot.kind, input.redirectUri, input.codeChallenge, nonce⟩
        match redis, s.setNx (attemptKey (lib.digest state)) attempt with
        | .answered, some attempts =>
          some ({ s with attempts, log := .created state attempt :: s.log }.advance k
            (.authorizeCreated slot input state nonce))
        | .answered, none =>
          if tries + 1 = maxCredentialGenerationAttempts then some (s.refuse k .oauthCoordinationUnavailable)
          else some (s.advance k (.authorizeAllowed slot input (tries + 1)))
        | .lost true, some attempts =>
          some ({ s with attempts, log := .created state attempt :: s.log }.refuse k .oauthCoordinationUnavailable)
        | .lost _, _ => some (s.refuse k .oauthCoordinationUnavailable)
  | _ => none

def link (k : Nat) (url : Except OAuthProviderError String) : Request → Option State
  | .authorizeCreated slot _ state _ =>
    if slot.hasProvider = false then some (s.refuse k .invalidConfiguration)
    else match url with
      | .ok url => some (s.advance k (.answered (.authorized ⟨url, state, oauthAttemptTtl⟩)))
      | .error e => some (s.refuse k (mapProviderError e))
  | _ => none

/-- `GETDEL` and the comparison of the attempt with the request. -/
def consume (k : Nat) (redis : RedisAnswer) : Request → Option State
  | .exchangeAllowed slot input =>
    let key := attemptKey (lib.digest input.state)
    let taken := { s with attempts := Function.update s.attempts key none }
    match redis with
    | .lost applied => some ((if applied then taken else s).refuse k .oauthCoordinationUnavailable)
    | .answered =>
      match s.get key with
      | none => some (taken.refuse k .oauthExchangeInvalid)
      | some attempt =>
        if attempt.provider ≠ slot.kind ∨ attempt.redirectUri ≠ input.redirectUri ∨
            attempt.codeChallenge ≠ lib.pkceS256 input.codeVerifier then
          some (taken.refuse k .oauthExchangeInvalid)
        else some (taken.advance k (.exchangeBound slot input attempt.nonce))
  | _ => none

def identify (k : Nat) (identity : Except OAuthProviderError ProviderIdentity) : Request → Option State
  | .exchangeBound slot input _ =>
    if slot.hasProvider = false then some (s.refuse k .invalidConfiguration)
    else match identity with
      | .error e => some (s.refuse k (mapProviderError e))
      | .ok identity =>
        if validProviderIdentity lib identity = false then some (s.refuse k .oauthProviderUnavailable)
        else some (s.advance k (.exchangeIdentified slot input
          ⟨slot.kind, identity.providerId, identity.nickname, identity.avatarUrl⟩))
  | _ => none

/-- `create_or_restore_session`. -/
def issue (k : Nat) (session : SessionAnswer) : Request → Option State
  | .exchangeIdentified slot input _ =>
    match session with
    | .issued restored =>
      some ({ s with log := .issued slot.kind input :: s.log }.advance k (.answered (.exchanged restored)))
    | .failed error committed =>
      some ((if committed then { s with log := .issued slot.kind input :: s.log } else s).refuse k error)
  | _ => none

def step : Label → Option State
  | .authorize providerPath input => some { s with requests := .authorizeStart providerPath input :: s.requests }
  | .exchange providerPath input =>
    some { s with
      requests := .exchangeStart providerPath input :: s.requests, presented := input.state :: s.presented }
  | .tick seconds => some { s with now := s.now + seconds }
  | .evict key => some { s with attempts := Function.update s.attempts key none }
  | .checkRateLimit k limit => s.requests[k]?.bind (s.checkRateLimit service k limit)
  | .create k state nonce redis => s.requests[k]?.bind (s.create lib k state nonce redis)
  | .link k url => s.requests[k]?.bind (s.link k url)
  | .consume k redis => s.requests[k]?.bind (s.consume lib k redis)
  | .identify k identity => s.requests[k]?.bind (s.identify lib k identity)
  | .issue k session => s.requests[k]?.bind (s.issue k session)
  | .drop k => some { s with requests := s.requests.eraseIdx k }

/-- No request has been made yet. -/
def init (now : Nat) : State := ⟨now, fun _ => none, [], [], [], []⟩

end State

/-- The states that some run reaches. -/
def Reachable (lib : Libraries) (service : AuthService) : State → Prop :=
  Transition.Reachable (fun s => ∃ now, s = .init now) (State.step lib service)

end JamyeServer.OAuth
