import SvmCourse.Core.Base64
import SvmCourse.Signing.MultiSig

/-!
# Offline Signing

Requests that wait in memory for a private key. A request is about a web3
transaction or about a message, and keeps what is to be signed as base64 text:
the bytes of the message, or what `serializeMessage` gives. Which of the two it
is, is decided again when it is signed, by whether the text of the message is
truthy.

The time and the random part of an id come with the call. A request is expired
only when somebody tries to sign it too late.

## Main definitions

* `OfflineWeb3`: Keys, signatures and the transactions of web3.
* `createOfflineSigningRequest`, `createOfflineMessageSigningRequest`,
  `signOfflineRequest`, `cancelOfflineSigningRequest`: The service.
* `OfflineCall`, `offlineStep`: The service as a machine.
* `Touches`: What a call does to the request it is about.

## Theorems

* `offlineStep_touches`: What a call can do.
-/

namespace SvmCourse

namespace Signing

open Core Core.Base64

/-! ### Dates -/

/-- The time of a `Date`, which an invalid one does not have. -/
abbrev Date := Option Int

/-- A time is cut off to whole milliseconds, and is invalid when it is too far
    away. -/
def newDate (time : ℚ) : Date :=
  if -8640000000000000 ≤ time ∧ time ≤ 8640000000000000 then some (time.num.tdiv time.den) else none

/-- Comparing with an invalid date is false. -/
def Date.before (date : Date) (now : Int) : Bool := date.any (· < now)

/-! ### The service -/

/-- A key pair of the library. -/
structure Keypair where
  publicKey : PublicKey
  secretKey : Bytes
  deriving DecidableEq

/-- What the service uses of web3 and tweetnacl. Signing a transaction gives
    the signature in the slot of its fee payer, if there is one. -/
structure OfflineWeb3 (Transaction : Type) where
  fromSecretKey : String → Except String Keypair
  detached : Bytes → Bytes → Bytes
  verify : Bytes → Bytes → PublicKey → Bool
  serializeMessage : Transaction → Except String Bytes
  transactionFrom : Bytes → Except String Transaction
  sign : Transaction → Keypair → Except String (Option Bytes)

/-- The statuses of a request. -/
inductive OfflineStatus where
  | pending | signed | expired | cancelled
  deriving DecidableEq

/-- The text of a status. -/
def OfflineStatus.text : OfflineStatus → String
  | .pending => "pending"
  | .signed => "signed"
  | .expired => "expired"
  | .cancelled => "cancelled"

/-- A request that waits for its signature. -/
structure OfflineSigningRequest where
  id : String
  transactionData : String
  message : Option String := none
  publicKey : PublicKey
  createdAt : Date
  expiresAt : Option Date
  status : OfflineStatus := .pending

/-- The signature of a request. -/
structure OfflineSignature where
  requestId : String
  signature : String
  publicKey : PublicKey
  signedAt : Date

/-- The requests, by their ids. -/
abbrev OfflineRequests := Table OfflineSigningRequest.id

section Service

variable {Transaction : Type}

/-- Without a duration, or with a duration of zero, a request does not expire. -/
def expiryOf (now : Int) (expiresIn : Option ℚ) : Option Date :=
  match expiresIn with
  | some duration => if duration = 0 then none else some (newDate (now + duration))
  | none => none

/-- Create a request for the signature of a transaction. -/
def createOfflineSigningRequest (web3 : OfflineWeb3 Transaction) (now : Int) (random : String)
    (transaction : Transaction) (publicKey : PublicKey) (expiresIn : Option ℚ)
    (s : OfflineRequests) : Except Refusal OfflineSigningRequest × OfflineRequests :=
  match web3.serializeMessage transaction with
  | .error e => (.error s!"Failed to create offline signing request: {e}", s)
  | .ok bytes =>
    let request : OfflineSigningRequest :=
      { id := s!"offline-{now}-{random}"
        transactionData := encode bytes
        publicKey := publicKey
        createdAt := newDate now
        expiresAt := expiryOf now expiresIn }
    (.ok request, s.save request)

/-- Create a request for the signature of a message. -/
def createOfflineMessageSigningRequest (now : Int) (random : String) (message : Bytes)
    (publicKey : PublicKey) (expiresIn : Option ℚ) (s : OfflineRequests) :
    Except Refusal OfflineSigningRequest × OfflineRequests :=
  let request : OfflineSigningRequest :=
    { id := s!"offline-msg-{now}-{random}"
      -- A message request has no transaction.
      transactionData := ""
      message := some (encode message)
      publicKey := publicKey
      createdAt := newDate now
      expiresAt := expiryOf now expiresIn }
  (.ok request, s.save request)

/-- An expiry date is always truthy. -/
def OfflineSigningRequest.past (request : OfflineSigningRequest) (now : Int) : Bool :=
  request.expiresAt.any fun expiresAt => expiresAt.before now

/-- The signature over the message or the transaction of a request. An empty
    text is no message. -/
def OfflineSigningRequest.sign (web3 : OfflineWeb3 Transaction) (request : OfflineSigningRequest)
    (keypair : Keypair) : Except String String :=
  match request.message.filter (· ≠ "") with
  | some message => .ok (encode (web3.detached (decode message) keypair.secretKey))
  | none => do
    let tx ← web3.transactionFrom (decode request.transactionData)
    let signature ← web3.sign tx keypair
    pure ((signature.map encode).getD "")

/-- Load the key, compare it with the one the request names, and sign. -/
def OfflineSigningRequest.signWith (web3 : OfflineWeb3 Transaction)
    (request : OfflineSigningRequest) (privateKey : String) : Except Refusal String := do
  let keypair ← (web3.fromSecretKey privateKey).mapError fun e =>
    s!"Invalid private key format: {e}"
  require (keypair.publicKey = request.publicKey)
    "Private key does not match the expected public key"
  request.sign web3 keypair

/-- The request to be signed, if it is pending. -/
def findPending (requestId : String) (s : OfflineRequests) :
    Except Refusal OfflineSigningRequest := do
  let request ← demand (s.findOne requestId) "Offline signing request not found"
  require (request.status = .pending) s!"Request is not in pending state: {request.status.text}"
  pure request

/-- Sign a request that is pending, if the key is the right one. -/
def signOfflineRequest (web3 : OfflineWeb3 Transaction) (now : Int) (requestId privateKey : String)
    (s : OfflineRequests) : Except Refusal OfflineSignature × OfflineRequests :=
  match findPending requestId s with
  | .error e => (.error s!"Failed to sign offline request: {e}", s)
  | .ok request =>
    -- The expiry is noticed when somebody tries to sign.
    if request.past now then
      (.error "Failed to sign offline request: Offline signing request has expired",
        s.save { request with status := .expired })
    else
      match request.signWith web3 privateKey with
      | .error e => (.error s!"Failed to sign offline request: {e}", s)
      | .ok signature =>
        (.ok
          { requestId := requestId
            signature := signature
            publicKey := request.publicKey
            signedAt := newDate now },
          s.save { request with status := .signed })

/-- Cancel a request that is pending. -/
def cancelOfflineSigningRequest (requestId : String) (s : OfflineRequests) :
    Except Refusal Unit × OfflineRequests :=
  match s.findOne requestId with
  | none => (.error "Offline signing request not found", s)
  | some request =>
    if request.status = .pending then (.ok (), s.save { request with status := .cancelled })
    else (.error s!"Cannot cancel request with status: {request.status.text}", s)

/-- A base64 signature over bytes, as `verifySignature` checks it. -/
def verifySignature (web3 : OfflineWeb3 Transaction) (signature : String) (message : Bytes)
    (publicKey : PublicKey) : Bool :=
  web3.verify message (decode signature) publicKey

end Service

/-! ### The service as a machine -/

/-- The calls of the service, each at its instant. -/
inductive OfflineCall (Transaction : Type) where
  | createRequest (now : Int) (random : String) (transaction : Transaction)
      (publicKey : PublicKey) (expiresIn : Option ℚ)
  | createMessageRequest (now : Int) (random : String) (message : Bytes) (publicKey : PublicKey)
      (expiresIn : Option ℚ)
  | sign (now : Int) (requestId privateKey : String)
  | cancel (now : Int) (requestId : String)

/-- What the calls answer. -/
inductive OfflineAnswer where
  | request (request : OfflineSigningRequest)
  | signature (signature : OfflineSignature)
  | cancelled

section Machine

variable {Transaction : Type}

/-- One call on the requests. -/
def offlineStep (web3 : OfflineWeb3 Transaction) (s : OfflineRequests) :
    OfflineCall Transaction → Except Refusal OfflineAnswer × OfflineRequests
  | .createRequest now random transaction publicKey expiresIn =>
    (createOfflineSigningRequest web3 now random transaction publicKey expiresIn s).map
      (Except.map .request) id
  | .createMessageRequest now random message publicKey expiresIn =>
    (createOfflineMessageSigningRequest now random message publicKey expiresIn s).map
      (Except.map .request) id
  | .sign now requestId privateKey =>
    (signOfflineRequest web3 now requestId privateKey s).map (Except.map .signature) id
  | .cancel _ requestId =>
    (cancelOfflineSigningRequest requestId s).map (Except.map fun _ => .cancelled) id

/-- The id of the request a call makes. -/
def OfflineCall.newId : OfflineCall Transaction → Option String
  | .createRequest now random _ _ _ => some s!"offline-{now}-{random}"
  | .createMessageRequest now random _ _ _ => some s!"offline-msg-{now}-{random}"
  | .sign .. | .cancel .. => none

/-- The request a call signs or cancels. -/
def OfflineCall.requestId : OfflineCall Transaction → Option String
  | .sign _ requestId _ | .cancel _ requestId => some requestId
  | .createRequest .. | .createMessageRequest .. => none

end Machine

/-! ### What a call can do -/

section Cases

variable {Transaction : Type} {web3 : OfflineWeb3 Transaction} {s : OfflineRequests}

theorem findPending_eq {requestId : String} {request : OfflineSigningRequest}
    (hfind : s.findOne requestId = some request) (hpending : request.status = .pending) :
    findPending requestId s = .ok request := by
  unfold findPending
  rw [hfind]
  change (require (decide (request.status = .pending)) _ >>= fun _ => pure request) = _
  rw [decide_eq_true hpending]
  rfl

theorem findPending_eq_ok {requestId : String} {request : OfflineSigningRequest}
    (h : findPending requestId s = .ok request) :
    s.findOne requestId = some request ∧ request.status = .pending := by
  unfold findPending at h
  rcases bind_eq_ok h with ⟨found, hfind, h⟩
  rcases bind_eq_ok h with ⟨_, hpending, h⟩
  obtain rfl := Except.ok.inj h
  exact ⟨demand_eq_ok hfind, of_decide_eq_true (require_eq_ok hpending)⟩

/-- The key that signs a request is the one it names. -/
theorem signWith_ok {request : OfflineSigningRequest} {privateKey signature : String}
    (h : request.signWith web3 privateKey = .ok signature) :
    ∃ keypair, web3.fromSecretKey privateKey = .ok keypair ∧
      keypair.publicKey = request.publicKey ∧ request.sign web3 keypair = .ok signature := by
  unfold OfflineSigningRequest.signWith at h
  rcases bind_eq_ok h with ⟨keypair, hkey, h⟩
  rcases bind_eq_ok h with ⟨_, hsame, h⟩
  refine ⟨keypair, ?_, of_decide_eq_true (require_eq_ok hsame), h⟩
  cases hload : web3.fromSecretKey privateKey with
  | error e =>
      rw [hload] at hkey
      exact nomatch hkey
  | ok loaded =>
      rw [hload] at hkey
      exact congrArg Except.ok (Except.ok.inj hkey)

theorem signWith_eq {request : OfflineSigningRequest} {privateKey : String} {keypair : Keypair}
    (hkey : web3.fromSecretKey privateKey = .ok keypair)
    (hsame : keypair.publicKey = request.publicKey) :
    request.signWith web3 privateKey = request.sign web3 keypair := by
  unfold OfflineSigningRequest.signWith
  rw [hkey]
  change (require (decide (keypair.publicKey = request.publicKey)) _ >>=
    fun _ => request.sign web3 keypair) = _
  rw [decide_eq_true hsame]
  rfl

/-- The call changes the request it is about in its status alone, and only when
    the request is pending and, if it is signed, not past its expiry date. -/
inductive Touches (web3 : OfflineWeb3 Transaction) (s : OfflineRequests) :
    OfflineCall Transaction → Except Refusal OfflineAnswer × OfflineRequests → Prop where
  | create (call : OfflineCall Transaction) (request : OfflineSigningRequest)
      (hid : call.newId = some request.id) :
      Touches web3 s call (.ok (.request request), s.save request)
  | refuse (call : OfflineCall Transaction) (e : Refusal) : Touches web3 s call (.error e, s)
  | sign (now : Int) (privateKey : String) (request : OfflineSigningRequest) (keypair : Keypair)
      (signature : String) (hfind : s.findOne request.id = some request)
      (hpending : request.status = .pending) (hpast : request.past now = false)
      (hkey : web3.fromSecretKey privateKey = .ok keypair)
      (hsame : keypair.publicKey = request.publicKey) :
      Touches web3 s (.sign now request.id privateKey)
        (.ok (.signature ⟨request.id, signature, request.publicKey, newDate now⟩),
          s.save { request with status := .signed })
  | expire (now : Int) (privateKey : String) (request : OfflineSigningRequest) (e : Refusal)
      (hfind : s.findOne request.id = some request) (hpending : request.status = .pending) :
      Touches web3 s (.sign now request.id privateKey)
        (.error e, s.save { request with status := .expired })
  | cancel (now : Int) (request : OfflineSigningRequest)
      (hfind : s.findOne request.id = some request) (hpending : request.status = .pending) :
      Touches web3 s (.cancel now request.id)
        (.ok .cancelled, s.save { request with status := .cancelled })

theorem offlineStep_touches (web3 : OfflineWeb3 Transaction) (s : OfflineRequests)
    (call : OfflineCall Transaction) : Touches web3 s call (offlineStep web3 s call) := by
  cases call with
  | createRequest now random transaction publicKey expiresIn =>
      cases hbytes : web3.serializeMessage transaction with
      | error e =>
          simp only [offlineStep, createOfflineSigningRequest, hbytes]
          exact .refuse _ _
      | ok bytes =>
          simp only [offlineStep, createOfflineSigningRequest, hbytes]
          exact .create (.createRequest now random transaction publicKey expiresIn) _ rfl
  | createMessageRequest now random message publicKey expiresIn =>
      exact .create (.createMessageRequest now random message publicKey expiresIn) _ rfl
  | sign now requestId privateKey =>
      simp only [offlineStep, signOfflineRequest]
      cases hok : findPending requestId s with
      | error e => exact .refuse _ _
      | ok request =>
          rcases findPending_eq_ok hok with ⟨hfind, hpending⟩
          obtain rfl : request.id = requestId := Table.key_of_findOne hfind
          -- A request that is past its time is saved as expired, and the key is not
          -- even read.
          cases hpast : request.past now with
          | true =>
              simp only [hpast, if_true]
              exact .expire now privateKey request _ hfind hpending
          | false =>
              cases hsign : request.signWith web3 privateKey with
              | error e =>
                  simp only [hpast, Bool.false_eq_true, if_false, hsign]
                  exact .refuse _ _
              | ok signature =>
                  rcases signWith_ok hsign with ⟨keypair, hkey, hsame, -⟩
                  simp only [hpast, Bool.false_eq_true, if_false, hsign]
                  exact .sign now privateKey request keypair signature hfind hpending hpast hkey
                    hsame
  | cancel now requestId =>
      simp only [offlineStep, cancelOfflineSigningRequest]
      cases hfind : s.findOne requestId with
      | none => exact .refuse _ _
      | some request =>
          obtain rfl : request.id = requestId := Table.key_of_findOne hfind
          by_cases hpending : request.status = .pending
          · simp only [hpending, if_true]
            exact .cancel now request hfind hpending
          · simp only [hpending, if_false]
            exact .refuse _ _

end Cases

end Signing

end SvmCourse
