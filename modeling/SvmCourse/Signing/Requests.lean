import SvmCourse.Signing.Offline

/-!
# The Life of an Offline Request

The life of an offline request, and whether the signature it ends with is one
over the bytes that were to be signed.

A request waits, and then it is signed, expires or is cancelled, once and for
all. Expiry is noticed by whoever comes to sign, so a request that nobody signs
stays pending for ever, and one that is cancelled late is cancelled all the
same. Only who comes with the right key in time gets a signature.

The bytes come back only for messages. A transaction is stored as its message
alone and read back as the wire format, where a count and the signatures come
first, and an empty message is an empty text and taken for a transaction.

## Main definitions

* `Authorised`: A signature was given where it may be given.
* `OfflineLife`: What holds of every run.
* `Subject`: What a request is made about.
* `OfflineWeb3.Documented`: What is known of web3 and tweetnacl.
* `RoundTrips`: A request is signed, over the bytes it was made about.

## Theorems

* `offline_life`: It does, when the requests have different ids.
* `roundTrips_iff`: Which requests come back.
-/

namespace SvmCourse

namespace Signing

open Core Core.Base64 Core.Machine

section Life

variable {Transaction : Type}

/-- The signature is for a pending request in time, and the key is the one that
    the request names. -/
def Authorised (web3 : OfflineWeb3 Transaction) (s : OfflineRequests)
    (call : OfflineCall Transaction) (signature : OfflineSignature) : Prop :=
  ∃ now privateKey request keypair, call = .sign now signature.requestId privateKey ∧
    s.findOne signature.requestId = some request ∧ request.status = .pending ∧
    web3.fromSecretKey privateKey = .ok keypair ∧ keypair.publicKey = request.publicKey ∧
    request.past now = false

/-- The call has returned a signature for the request. -/
def signsRequest (id : String)
    (answered : OfflineCall Transaction × Except Refusal OfflineAnswer) : Bool :=
  match answered.2 with
  | .ok (.signature signature) => signature.requestId = id
  | _ => false

/-- Signatures are given once and where they may be given, and what has come to
    its end stays there. -/
structure OfflineLife (web3 : OfflineWeb3 Transaction) (calls : List (OfflineCall Transaction)) :
    Prop where
  once : ∀ id, (answers (offlineStep web3) calls Table.empty).countP (signsRequest id) ≤ 1
  authorised : Along (offlineStep web3)
    (fun call s r _ => ∀ signature, r = .ok (.signature signature) →
      Authorised web3 s call signature) calls Table.empty
  settled : ∀ before rest, calls = before ++ rest → ∀ id request,
    (after (offlineStep web3) before Table.empty).findOne id = some request →
      request.status ≠ .pending →
      Along (offlineStep web3) (fun call _ r t => t.findOne id = some request ∧
        (call.requestId = some id → ∃ e, r = .error e)) rest
        (after (offlineStep web3) before Table.empty)

/-- The call makes no request with an id that is taken. -/
def OfflineCall.NewHere (call : OfflineCall Transaction) (s : OfflineRequests) : Prop :=
  ∀ id, call.newId = some id → s.findOne id = none

variable {web3 : OfflineWeb3 Transaction} {s : OfflineRequests} {call : OfflineCall Transaction}
  {calls : List (OfflineCall Transaction)} {id : String} {request : OfflineSigningRequest}

theorem authorised_step (web3 : OfflineWeb3 Transaction) (s : OfflineRequests)
    (call : OfflineCall Transaction) (signature : OfflineSignature)
    (h : (offlineStep web3 s call).1 = .ok (.signature signature)) :
    Authorised web3 s call signature := by
  generalize hstep : offlineStep web3 s call = outcome at h
  have htouches := offlineStep_touches web3 s call
  rw [hstep] at htouches
  cases htouches with
  | create _ request hid => exact nomatch h
  | refuse _ e => exact nomatch h
  | sign now privateKey request keypair text hfind hpending hpast hkey hsame =>
      obtain rfl := OfflineAnswer.signature.inj (Except.ok.inj h)
      exact ⟨now, privateKey, request, keypair, rfl, hfind, hpending, hkey, hsame, hpast⟩
  | expire now privateKey request e hfind hpending => exact nomatch h
  | cancel now request hfind hpending => exact nomatch h

/-- What has come to its end stays as it is, and whoever is about it is turned
    away. -/
theorem settled_step (hnew : call.NewHere s) (hfind : s.findOne id = some request)
    (hsettled : request.status ≠ .pending) :
    (offlineStep web3 s call).2.findOne id = some request ∧
      (call.requestId = some id → ∃ e, (offlineStep web3 s call).1 = .error e) := by
  have hother : ∀ r : OfflineSigningRequest, r.id ≠ id →
      (s.save r).findOne id = some request := fun r hne => by
    rw [Table.findOne_save_of_ne hne.symm]
    exact hfind
  -- Only pending requests are saved, so the settled one is not among them.
  have hpending : ∀ r : OfflineSigningRequest, s.findOne r.id = some r → r.status = .pending →
      r.id ≠ id := by
    rintro r hr hwaits rfl
    exact hsettled (Option.some.inj (hfind.symm.trans hr) ▸ hwaits)
  generalize hstep : offlineStep web3 s call = outcome
  have htouches := offlineStep_touches web3 s call
  rw [hstep] at htouches
  cases htouches with
  | create _ request' hid =>
      have hne : request'.id ≠ id := by
        rintro rfl
        exact nomatch (hnew _ hid).symm.trans hfind
      refine ⟨hother _ hne, fun h => ?_⟩
      cases call with
      | createRequest | createMessageRequest => exact nomatch h
      | sign | cancel => exact nomatch hid
  | refuse _ e => exact ⟨hfind, fun _ => ⟨e, rfl⟩⟩
  | sign now privateKey request' keypair text hfind' hwaits hpast hkey hsame =>
      have hne := hpending request' hfind' hwaits
      exact ⟨hother _ hne, fun h => absurd (Option.some.inj h) hne⟩
  | expire now privateKey request' e hfind' hwaits =>
      exact ⟨hother _ (hpending request' hfind' hwaits), fun _ => ⟨e, rfl⟩⟩
  | cancel now request' hfind' hwaits =>
      have hne := hpending request' hfind' hwaits
      exact ⟨hother _ hne, fun h => absurd (Option.some.inj h) hne⟩

theorem settled_along (hnew : Along (offlineStep web3) (fun call s _ _ => call.NewHere s) calls s)
    (hfind : s.findOne id = some request) (hsettled : request.status ≠ .pending) :
    Along (offlineStep web3) (fun call _ r t => t.findOne id = some request ∧
      (call.requestId = some id → ∃ e, r = .error e)) calls s := by
  refine along_invariant (I := fun s => s.findOne id = some request) (fun call s hcall hs => ?_)
    hfind hnew
  have hstep : (offlineStep web3 s call).2.findOne id = some request ∧
      (call.requestId = some id → ∃ e, (offlineStep web3 s call).1 = .error e) :=
    settled_step hcall hs hsettled
  exact ⟨hstep, hstep.1⟩

/-- A signature leaves the request signed. -/
theorem signed_of_signs (h : signsRequest id (call, (offlineStep web3 s call).1) = true) :
    ∃ request, (offlineStep web3 s call).2.findOne id = some request ∧
      request.status = .signed := by
  generalize hstep : offlineStep web3 s call = outcome at h
  have htouches := offlineStep_touches web3 s call
  rw [hstep] at htouches
  cases htouches with
  | create _ request hid => exact nomatch h
  | refuse _ e => exact nomatch h
  | sign now privateKey request keypair text hfind hpending hpast hkey hsame =>
      obtain rfl : request.id = id := of_decide_eq_true h
      exact ⟨_, Table.findOne_save_self s { request with status := .signed }, rfl⟩
  | expire now privateKey request e hfind hpending => exact nomatch h
  | cancel now request hfind hpending => exact nomatch h

/-- The answer to a call about another request, or a refusal. -/
theorem not_signs_of_refused
    (h : call.requestId = some id → ∃ e, (offlineStep web3 s call).1 = .error e) :
    signsRequest id (call, (offlineStep web3 s call).1) = false := by
  rw [Bool.eq_false_iff]
  intro hsigns
  cases hanswer : (offlineStep web3 s call).1 with
  | error e =>
      rw [hanswer] at hsigns
      exact nomatch hsigns
  | ok answer =>
      rw [hanswer] at hsigns
      -- Only a signature signs, and it names the request it is for.
      cases answer with
      | request _ => exact nomatch hsigns
      | cancelled => exact nomatch hsigns
      | signature signature =>
          obtain rfl : signature.requestId = id := of_decide_eq_true hsigns
          rcases authorised_step web3 s call signature hanswer with ⟨_, _, _, _, rfl, -⟩
          rcases h rfl with ⟨e, he⟩
          exact nomatch he.symm.trans hanswer

theorem count_settled (h : Along (offlineStep web3) (fun call _ r t => t.findOne id = some request ∧
    (call.requestId = some id → ∃ e, r = .error e)) calls s) :
    (answers (offlineStep web3) calls s).countP (signsRequest id) = 0 := by
  induction calls generalizing s with
  | nil => rfl
  | cons call calls ih =>
      unfold answers
      rw [List.countP_cons_of_neg, ih h.2]
      rw [not_signs_of_refused h.1.2]
      exact Bool.false_ne_true

theorem count_signatures
    (hnew : Along (offlineStep web3) (fun call s _ _ => call.NewHere s) calls s) :
    (answers (offlineStep web3) calls s).countP (signsRequest id) ≤ 1 := by
  induction calls generalizing s with
  | nil => exact Nat.zero_le 1
  | cons call calls ih =>
      unfold answers
      cases hsigns : signsRequest id (call, (offlineStep web3 s call).1) with
      | false =>
          rw [List.countP_cons_of_neg (by rw [hsigns]; exact Bool.false_ne_true)]
          exact ih hnew.2
      | true =>
          -- The request is signed now, so it is not signed again.
          rcases signed_of_signs hsigns with ⟨request, hfind, hsigned⟩
          have hnone := count_settled (settled_along hnew.2 hfind (by rw [hsigned]; exact nofun))
          rw [List.countP_cons_of_pos hsigns, hnone]

/-- The ids of the requests grow by the ones that are made. -/
theorem offlineStep_ids (hnew : call.NewHere s) :
    (offlineStep web3 s call).2.rows.map OfflineSigningRequest.id =
        s.rows.map OfflineSigningRequest.id ∨
      ∃ id, call.newId = some id ∧ (offlineStep web3 s call).2.rows.map OfflineSigningRequest.id =
        s.rows.map OfflineSigningRequest.id ++ [id] := by
  -- Saving a request that is there only changes its status.
  have hsave : ∀ (r : OfflineSigningRequest) (status : OfflineStatus), s.findOne r.id = some r →
      (s.save { r with status := status }).rows.map OfflineSigningRequest.id =
        s.rows.map OfflineSigningRequest.id := by
    intro r status hfind
    have hrow : s.findOne ({ r with status := status } : OfflineSigningRequest).id = some r := hfind
    exact Table.map_save hrow rfl
  generalize hstep : offlineStep web3 s call = outcome
  have htouches := offlineStep_touches web3 s call
  rw [hstep] at htouches
  cases htouches with
  | create _ request hid =>
      refine Or.inr ⟨request.id, hid, ?_⟩
      rw [Table.save_rows_of_none (hnew _ hid), List.map_append, List.map_singleton]
  | refuse _ e => exact Or.inl rfl
  | sign now privateKey request keypair text hfind hpending hpast hkey hsame =>
      exact Or.inl (hsave request .signed hfind)
  | expire now privateKey request e hfind hpending => exact Or.inl (hsave request .expired hfind)
  | cancel now request hfind hpending => exact Or.inl (hsave request .cancelled hfind)

/-- With different ids every request is new where it is made. -/
theorem newHere_along (h : (s.rows.map OfflineSigningRequest.id ++
    calls.filterMap OfflineCall.newId).Nodup) :
    Along (offlineStep web3) (fun call s _ _ => call.NewHere s) calls s := by
  -- On the calls: the ids made so far are those of the rows.
  induction calls generalizing s with
  | nil => exact trivial
  | cons call calls ih =>
      have hnew : call.NewHere s := by
        intro id hid
        rw [Table.findOne_eq_none_iff]
        intro request hmem heq
        have hdisjoint := (List.nodup_append.mp h).2.2
        refine hdisjoint _ (List.mem_map_of_mem hmem) id ?_ heq
        rw [List.filterMap_cons_some hid]
        exact List.mem_cons_self ..
      refine ⟨hnew, ih ?_⟩
      have hcases := @offlineStep_ids _ web3 s call hnew
      rcases hcases with hsame | ⟨id, hid, hids⟩
      · rw [hsame]
        refine h.sublist (List.Sublist.append_left ?_ _)
        exact List.Sublist.filterMap _ (List.sublist_cons_self ..)
      · -- The id moves from the calls to come over to the rows.
        rw [hids, List.append_assoc, List.singleton_append]
        rwa [List.filterMap_cons_some hid] at h

/-- Requests with different ids live as they should, whoever signs, fails to
    sign or cancels them and however time passes. -/
theorem offline_life (web3 : OfflineWeb3 Transaction) (calls : List (OfflineCall Transaction))
    (hids : (calls.filterMap OfflineCall.newId).Nodup) : OfflineLife web3 calls := by
  have hnew : Along (offlineStep web3) (fun call s _ _ => call.NewHere s) calls Table.empty :=
    newHere_along hids
  refine ⟨fun id => count_signatures hnew, ?_, ?_⟩
  · have hauthorised : ∀ (call : OfflineCall Transaction) (s : OfflineRequests), call.NewHere s →
        True → (∀ signature, (offlineStep web3 s call).1 = .ok (.signature signature) →
          Authorised web3 s call signature) ∧ True :=
      fun call s _ _ => ⟨authorised_step web3 s call, trivial⟩
    exact along_invariant hauthorised trivial hnew
  · rintro before rest rfl id request hfind hsettled
    exact settled_along (along_append.mp hnew).2 hfind hsettled

end Life

/-! ### Round trips -/

/-- The number of signatures in front of them, seven bits to a byte. -/
def encodeLength (n : Nat) : Bytes :=
  if n < 128 then [UInt8.ofNat n] else UInt8.ofNat (n % 128 + 128) :: encodeLength (n / 128)

theorem encodeLength_pos (n : Nat) : 0 < (encodeLength n).length := by
  unfold encodeLength
  split
  · exact Nat.one_pos
  · exact Nat.succ_pos _

/-- A transaction as it is sent. -/
def wireFormat (signatures : List Bytes) (message : Bytes) : Bytes :=
  encodeLength signatures.length ++ signatures.flatten ++ message

/-- What a request is about. -/
inductive Subject (Transaction : Type) where
  | transaction (transaction : Transaction)
  | message (message : Bytes)

section RoundTrip

variable {Transaction : Type} {web3 : OfflineWeb3 Transaction}

/-- What web3 and tweetnacl promise. A signature verifies for what was signed
    and for nothing else. What a transaction that was read from bytes compiles
    to is no longer than what follows the signatures, or, when the bytes are in
    some other format, something else than the bytes. -/
structure OfflineWeb3.Documented (web3 : OfflineWeb3 Transaction) : Prop where
  verify_iff : ∀ privateKey keypair, web3.fromSecretKey privateKey = .ok keypair →
    ∀ message signed,
      (web3.verify message (web3.detached signed keypair.secretKey) keypair.publicKey = true ↔
        message = signed)
  verify_empty : ∀ message publicKey, web3.verify message [] publicKey = false
  sign : ∀ transaction keypair signature, web3.sign transaction keypair = .ok (some signature) →
    ∃ message, web3.serializeMessage transaction = .ok message ∧
      signature = web3.detached message keypair.secretKey
  parse : ∀ bytes transaction message, web3.transactionFrom bytes = .ok transaction →
    web3.serializeMessage transaction = .ok message →
      (∃ signatures rest, bytes = wireFormat signatures rest ∧ message.length ≤ rest.length) ∨
        message ≠ bytes

/-- The bytes that are to be signed. -/
def Subject.bytes (web3 : OfflineWeb3 Transaction) : Subject Transaction → Except String Bytes
  | .transaction tx => web3.serializeMessage tx
  | .message bytes => .ok bytes

/-- The call that creates the request. -/
def Subject.create (web3 : OfflineWeb3 Transaction) (now : Int) (random : String)
    (publicKey : PublicKey) (expiresIn : Option ℚ) (s : OfflineRequests) :
    Subject Transaction → Except Refusal OfflineSigningRequest × OfflineRequests
  | .transaction tx => createOfflineSigningRequest web3 now random tx publicKey expiresIn s
  | .message bytes => createOfflineMessageSigningRequest now random bytes publicKey expiresIn s

/-- The request is signed with the key, and the signature verifies for the
    bytes. -/
def RoundTrips (web3 : OfflineWeb3 Transaction) (now : Int) (request : OfflineSigningRequest)
    (privateKey : String) (bytes : Bytes) (s : OfflineRequests) : Prop :=
  ∃ signature, (signOfflineRequest web3 now request.id privateKey s).1 = .ok signature ∧
    verifySignature web3 signature.signature bytes request.publicKey = true

/-- The message of an empty text, or of none. -/
def OfflineSigningRequest.hasMessage (request : OfflineSigningRequest) : Bool :=
  (request.message.filter (· ≠ "")).isSome

variable {request : OfflineSigningRequest} {bytes : Bytes} {privateKey : String}
  {keypair : Keypair} {now : Int} {s : OfflineRequests}

/-- What reading the wire format gives is never about the bytes themselves. -/
theorem parsed_ne (hweb3 : web3.Documented) {transaction : Transaction} {message : Bytes}
    (hparse : web3.transactionFrom bytes = .ok transaction)
    (hmessage : web3.serializeMessage transaction = .ok message) : message ≠ bytes := by
  rcases hweb3.parse bytes transaction message hparse hmessage with
    ⟨signatures, rest, rfl, hlength⟩ | hne
  · intro heq
    have hcount := encodeLength_pos signatures.length
    have hlengths := congrArg List.length heq
    simp only [wireFormat, List.length_append] at hlengths
    omega
  · exact hne

/-- Signing a pending request in time comes down to the signature. -/
theorem roundTrips_signs (hfind : s.findOne request.id = some request)
    (hpending : request.status = .pending) (hpast : request.past now = false)
    (hkey : web3.fromSecretKey privateKey = .ok keypair)
    (hsame : keypair.publicKey = request.publicKey) :
    RoundTrips web3 now request privateKey bytes s ↔ ∃ signature,
      request.sign web3 keypair = .ok signature ∧
        verifySignature web3 signature bytes request.publicKey = true := by
  have hsigned := signWith_eq hkey hsame
  unfold RoundTrips signOfflineRequest
  simp only [findPending_eq hfind hpending, hpast, Bool.false_eq_true, if_false, hsigned]
  -- What is verified afterwards is the signature that was made.
  cases request.sign web3 keypair with
  | error e =>
      constructor
      · rintro ⟨_, hok, -⟩
        exact nomatch hok
      · rintro ⟨_, hok, -⟩
        exact nomatch hok
  | ok signature =>
      constructor
      · rintro ⟨_, ⟨⟩, hverify⟩
        exact ⟨signature, rfl, hverify⟩
      · rintro ⟨_, ⟨⟩, hverify⟩
        exact ⟨_, rfl, hverify⟩

theorem sign_message {text : String} (hmessage : request.message = some text) (htext : text ≠ "") :
    request.sign web3 keypair =
      .ok (encode (web3.detached (decode text) keypair.secretKey)) := by
  have hfilter : (some text).filter (fun message => message ≠ "") = some text := by
    simp [Option.filter, htext]
  unfold OfflineSigningRequest.sign
  rw [hmessage, hfilter]

/-- What is signed as a transaction is not the stored bytes. -/
theorem not_verifies_transaction (hweb3 : web3.Documented)
    (hkey : web3.fromSecretKey privateKey = .ok keypair)
    (hsame : keypair.publicKey = request.publicKey) (hmessage : request.hasMessage = false)
    (hbytes : decode request.transactionData = bytes) :
    ¬ ∃ signature, request.sign web3 keypair = .ok signature ∧
      verifySignature web3 signature bytes request.publicKey = true := by
  rintro ⟨signature, hsign, hverify⟩
  unfold OfflineSigningRequest.sign at hsign
  rw [Option.isSome_eq_false_iff.mp hmessage |> Option.isNone_iff_eq_none.mp] at hsign
  rcases bind_eq_ok hsign with ⟨transaction, hparse, hsign⟩
  rcases bind_eq_ok hsign with ⟨slot, hslot, hsign⟩
  obtain rfl := Except.ok.inj hsign
  rw [hbytes] at hparse
  unfold verifySignature at hverify
  rw [← hsame] at hverify
  cases slot with
  | none =>
      -- Nobody signed in the first slot.
      rw [show decode ((none : Option Bytes).map encode |>.getD "") = [] from rfl,
        hweb3.verify_empty] at hverify
      exact nomatch hverify
  | some signature =>
      rcases hweb3.sign _ _ _ hslot with ⟨message, hserial, rfl⟩
      rw [Option.map_some, Option.getD_some, decode_encode,
        hweb3.verify_iff privateKey keypair hkey] at hverify
      exact parsed_ne hweb3 hparse hserial hverify.symm

/-- A request comes back, signed over its bytes, exactly when it is about a
    message that is not empty. -/
theorem roundTrips_iff (hweb3 : web3.Documented) {subject : Subject Transaction}
    (hbytes : subject.bytes web3 = .ok bytes) {created : Int} {random : String}
    {publicKey : PublicKey} {expiresIn : Option ℚ} {before after : OfflineRequests}
    (hcreate : subject.create web3 created random publicKey expiresIn before = (.ok request, after))
    (hfind : s.findOne request.id = some request) (hpast : request.past now = false)
    (hkey : web3.fromSecretKey privateKey = .ok keypair) (hsame : keypair.publicKey = publicKey) :
    RoundTrips web3 now request privateKey bytes s ↔
      ∃ message, subject = .message message ∧ message ≠ [] := by
  cases subject with
  | transaction transaction =>
      -- A signed transaction is more than its message, so the signature is over other
      -- bytes.
      have hserial : web3.serializeMessage transaction = .ok bytes := hbytes
      simp only [Subject.create, createOfflineSigningRequest, hserial, Prod.mk.injEq,
        Except.ok.injEq] at hcreate
      rcases hcreate with ⟨rfl, -⟩
      rw [roundTrips_signs hfind rfl hpast hkey hsame]
      refine iff_of_false (not_verifies_transaction hweb3 hkey hsame rfl (decode_encode bytes)) ?_
      rintro ⟨message, h, -⟩
      cases h
  | message message =>
      obtain rfl : message = bytes := Except.ok.inj hbytes
      simp only [Subject.create, createOfflineMessageSigningRequest, Prod.mk.injEq,
        Except.ok.injEq] at hcreate
      rcases hcreate with ⟨rfl, -⟩
      rw [roundTrips_signs hfind rfl hpast hkey hsame]
      -- And the signature of an empty message is taken for none.
      by_cases hempty : message = []
      · subst hempty
        refine iff_of_false (not_verifies_transaction hweb3 hkey hsame rfl rfl) ?_
        rintro ⟨_, ⟨⟩, hne⟩
        exact hne rfl
      · refine iff_of_true ⟨_, sign_message rfl fun h => hempty (encode_eq_empty.mp h), ?_⟩
          ⟨message, rfl, hempty⟩
        unfold verifySignature
        simp only
        rw [decode_encode, decode_encode, ← hsame, hweb3.verify_iff privateKey keypair hkey]

end RoundTrip

/-! ### An example of web3 -/

/-- Transactions are their messages, a signature is the message with the key,
    and the wire format is read for counts of one byte. -/
def bytesWeb3 : OfflineWeb3 Bytes where
  fromSecretKey privateKey := .ok ⟨privateKey, encodeLength privateKey.length⟩
  detached message secretKey := 1 :: (message ++ secretKey)
  verify message signature publicKey :=
    signature = 1 :: (message ++ encodeLength publicKey.length)
  serializeMessage transaction := .ok transaction
  transactionFrom
    | [] => .error "Reached end of buffer unexpectedly"
    | count :: rest =>
      if count.toNat * 64 ≤ rest.length then .ok (rest.drop (count.toNat * 64))
      else .error "Reached end of buffer unexpectedly"
  sign transaction keypair := .ok (some (1 :: (transaction ++ keypair.secretKey)))

theorem bytesWeb3_key (privateKey : String) : bytesWeb3.fromSecretKey privateKey =
    .ok ⟨privateKey, encodeLength privateKey.length⟩ := rfl

theorem bytesWeb3_documented : bytesWeb3.Documented where
  verify_iff privateKey keypair hkey message signed := by
    obtain rfl := Except.ok.inj hkey
    simp [bytesWeb3, eq_comm]
  verify_empty message publicKey := rfl
  sign transaction keypair signature h :=
    ⟨transaction, rfl, (Option.some.inj (Except.ok.inj h)).symm⟩
  parse bytes transaction message hparse hmessage := by
    -- What is parsed has lost its count, so it is shorter than the bytes.
    refine Or.inr fun heq => ?_
    obtain rfl : transaction = message := Except.ok.inj hmessage
    cases bytes with
    | nil => exact nomatch hparse
    | cons count rest =>
        simp only [bytesWeb3] at hparse
        split at hparse
        · have hlengths := congrArg List.length (Except.ok.inj hparse)
          rw [heq, List.length_drop, List.length_cons] at hlengths
          omega
        · exact nomatch hparse

/-- A request that is made at time 0, can be signed until 100 and is signed at
    50 with the key it names, in the state it was made in. -/
def SignedInTime (subject : Subject Bytes) (bytes : Bytes) (Back : Prop → Prop) : Prop :=
  ∃ request after, subject.create bytesWeb3 0 "r" "a" (some 100) Table.empty =
      (.ok request, after) ∧ subject.bytes bytesWeb3 = .ok bytes ∧
    after.findOne request.id = some request ∧ request.past 50 = false ∧
    Back (RoundTrips bytesWeb3 50 request "a" bytes after)

/-- Neither a transaction nor the empty message comes back. -/
theorem not_roundTrips : bytesWeb3.Documented ∧
    SignedInTime (.transaction [1, 2, 3]) [1, 2, 3] Not ∧ SignedInTime (.message []) [] Not := by
  refine ⟨bytesWeb3_documented, ?_, ?_⟩
  · refine ⟨_, _, rfl, rfl, Table.findOne_save_self .., by decide +kernel, ?_⟩
    rw [roundTrips_signs (Table.findOne_save_self ..) rfl (by decide +kernel) rfl rfl]
    exact not_verifies_transaction bytesWeb3_documented (bytesWeb3_key "a") rfl rfl
      (decode_encode _)
  · refine ⟨_, _, rfl, rfl, Table.findOne_save_self .., by decide +kernel, ?_⟩
    rw [roundTrips_signs (Table.findOne_save_self ..) rfl (by decide +kernel) rfl rfl]
    exact not_verifies_transaction bytesWeb3_documented (bytesWeb3_key "a") rfl rfl rfl

theorem roundTrips_hello : SignedInTime (.message [104, 105]) [104, 105] id := by
  have hbytes : (Subject.message [104, 105]).bytes bytesWeb3 = .ok [104, 105] := rfl
  have hcreate : (Subject.message [104, 105]).create bytesWeb3 0 "r" "a" (some 100) Table.empty =
      createOfflineMessageSigningRequest 0 "r" [104, 105] "a" (some 100) Table.empty := rfl
  unfold createOfflineMessageSigningRequest at hcreate
  refine ⟨_, _, hcreate, hbytes, Table.findOne_save_self .., by decide +kernel, ?_⟩
  exact (roundTrips_iff bytesWeb3_documented hbytes hcreate (Table.findOne_save_self ..)
    (by decide +kernel) (bytesWeb3_key "a") rfl).mpr ⟨_, rfl, nofun⟩

/-- Two requests: one is signed and then tried again, one expires and cannot be
    cancelled any more. -/
def twoRequests : List (OfflineCall Bytes) :=
  [.createMessageRequest 0 "x" [1] "a" none, .createMessageRequest 0 "y" [2] "a" (some 100),
    .sign 50 "offline-msg-0-x" "b", .sign 60 "offline-msg-0-x" "a",
    .sign 70 "offline-msg-0-x" "a", .sign 200 "offline-msg-0-y" "a", .cancel 300 "offline-msg-0-y"]

theorem offline_life_twoRequests : OfflineLife bytesWeb3 twoRequests :=
  offline_life bytesWeb3 twoRequests (by decide +kernel)

end Signing

end SvmCourse
