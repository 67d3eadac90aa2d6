import Mathlib.Data.List.Lemmas
import StateGuard.Contracts.Records
import StateGuard.Evidence.Contracts

/-!
# The acquisition of a grounding

`acquire_razorpay_test_grounding` fetches a payment and its order and seals what it has found in a
snapshot.  The failures that it expects become the reason of a snapshot that is unavailable.

* A snapshot carries the rules of its validator as fields, so one that breaks them cannot be
  returned; `snapshot` raises on it.
* `acquire_eq` computes the acquisition stage by stage.
* `acquire_exact_iff` says when it returns: the secret can be encoded, httpx takes the URLs, and
  no body is nested too deep for `json.loads`.

What is not of this repository is a parameter (`Provider`): the URLs that httpx takes, `json.loads`,
the texts of numbers, and the digests.
-/

namespace StateGuard

namespace Grounding

open Python Checks
open Evidence (RazorpayGroundingStatus)

/-! ## Snapshots -/

inductive RazorpayGroundingReason where
  | missingEnvironment | liveCredentialRejected | invalidTestCredential | invalidPaymentReference
  | requestRejected | authenticationFailed | resourceNotFound | rateLimited | providerFailed
  | networkFailed | timeout | responseTooLarge | malformedResponse | resourceIneligible
  deriving DecidableEq, Repr

inductive RazorpaySourceEndpointKind where
  | fetchPayment | fetchLinkedOrder
  deriving DecidableEq, Repr

structure SnapshotPayload where
  status : RazorpayGroundingStatus
  unavailableReason : Option RazorpayGroundingReason := none
  runId : VerificationRunId
  acquiredAt : Int
  sourceEndpointKinds : List RazorpaySourceEndpointKind := []
  keyIdFingerprint : Option Sha256Digest := none
  paymentIdFingerprint : Option Sha256Digest := none
  orderIdFingerprint : Option Sha256Digest := none
  resourceSnapshotFingerprint : Option Sha256Digest := none
  sanitizedProjectionFingerprint : Option Sha256Digest := none
  paymentCaptured : Bool := false
  orderPaid : Bool := false
  linkageConsistent : Bool := false
  amountConsistent : Bool := false
  currencyConsistent : Bool := false
  noCurrentRefund : Bool := false
  deriving DecidableEq

namespace SnapshotPayload

def fingerprints (payload : SnapshotPayload) : List (Option Sha256Digest) :=
  [payload.keyIdFingerprint, payload.paymentIdFingerprint, payload.orderIdFingerprint,
    payload.resourceSnapshotFingerprint, payload.sanitizedProjectionFingerprint]

def consistency (payload : SnapshotPayload) : List Bool :=
  [payload.paymentCaptured, payload.orderPaid, payload.linkageConsistent,
    payload.amountConsistent, payload.currencyConsistent, payload.noCurrentRefund]

/-- `validate_snapshot`, but for the fingerprint of the snapshot itself. -/
def Valid (payload : SnapshotPayload) : Prop :=
  payload.sourceEndpointKinds.Nodup ∧
    (payload.status = .grounded →
      payload.unavailableReason = none ∧
        payload.sourceEndpointKinds = [.fetchPayment, .fetchLinkedOrder] ∧
        none ∉ payload.fingerprints ∧ false ∉ payload.consistency) ∧
    (payload.status = .unavailable →
      payload.unavailableReason ≠ none ∧ (∀ item ∈ payload.fingerprints, item = none) ∧
        true ∉ payload.consistency)

instance (payload : SnapshotPayload) : Decidable payload.Valid :=
  inferInstanceAs (Decidable (_ ∧ _))

end SnapshotPayload

/-- A snapshot that its validator takes. -/
structure RazorpayGroundingSnapshot (fingerprint : SnapshotPayload → Sha256Digest)
    extends SnapshotPayload where
  groundingFingerprint : Sha256Digest
  valid : toSnapshotPayload.Valid
  fingerprintMatches : groundingFingerprint = fingerprint toSnapshotPayload

/-- `re.fullmatch` of a lead and letters or digits. -/
def isIdentifier (lead : String) (value : Str) : Bool :=
  let start := Str.ofString lead
  let rest := value.drop start.length
  value.take start.length = start && !rest.isEmpty && rest.all fun c =>
    (48 ≤ c.val && c.val ≤ 57) || (65 ≤ c.val && c.val ≤ 90) || (97 ≤ c.val && c.val ≤ 122)

/-- `re.fullmatch` of three capital letters. -/
def isCurrency (value : Str) : Bool :=
  value.length = 3 && value.all fun c => 65 ≤ c.val && c.val ≤ 90

structure CapturedPaymentProfile where
  amount : Int
  currency : Str
  positive : 0 < amount
  isCurrency : isCurrency currency = true

/-! ## What is fetched -/

abbrev Bytes := List UInt8

/-- The exceptions that the acquisition meets. -/
inductive Raised where
  | providerResponse (reason : RazorpayGroundingReason)
  | responseTooLarge
  | malformedResponse
  | timeoutException
  | networkError
  | httpError
  | unicodeEncodeError
  | invalidUrl
  | recursionError
  | valueError
  | validationError
  deriving DecidableEq, Repr

/-- The reason of an exception that a handler catches. -/
def Raised.reason : Raised → Option RazorpayGroundingReason
  | .providerResponse reason => some reason
  | .responseTooLarge => some .responseTooLarge
  | .malformedResponse => some .malformedResponse
  | .timeoutException => some .timeout
  | .networkError => some .networkFailed
  | .httpError => some .providerFailed
  | _ => none

/-- The failures of a transport: time-outs, errors of the network, and the other `HTTPError`s. -/
inductive TransportFailure where
  | timeout | network | other
  deriving DecidableEq, Repr

def TransportFailure.raised : TransportFailure → Raised
  | .timeout => .timeoutException
  | .network => .networkError
  | .other => .httpError

/-- What becomes of a request: it fails, or a response comes whose body arrives in chunks, perhaps
until a failure, and which perhaps fails to be closed. -/
inductive Exchange where
  | failed (failure : TransportFailure)
  | response (statusCode : Nat) (chunks : List Bytes) (broken closing : Option TransportFailure)

/-- What `json.loads` does with a body.  It makes no integer of more than 4300 digits. -/
inductive Loaded where
  | value (json : Json) (written : json.integersWritten = true)
  | valueError
  | recursionError

structure Provider where
  /-- Whether httpx takes a URL. -/
  takesUrl : Str → Bool
  loads : Bytes → Loaded
  numerals : Numerals
  sha256 : Str → Sha256Digest
  snapshotFingerprint : SnapshotPayload → Sha256Digest

def statusReason (statusCode : Nat) : Option RazorpayGroundingReason :=
  if 200 ≤ statusCode ∧ statusCode < 300 then none
  else if statusCode = 400 then some .requestRejected
  else if statusCode ∈ [401, 403] then some .authenticationFailed
  else if statusCode = 404 then some .resourceNotFound
  else if statusCode = 429 then some .rateLimited
  else some .providerFailed

def maxResponseBytes : Nat := 64 * 1024

/-- The body of a response, read chunk by chunk. -/
def readBody (body : Bytes) (broken : Option TransportFailure) :
    List Bytes → Except Raised Bytes
  | [] => broken.elim (.ok body) fun failure => .error failure.raised
  | chunk :: rest =>
    if maxResponseBytes < (body ++ chunk).length then .error .responseTooLarge
    else readBody (body ++ chunk) broken rest

variable (provider : Provider)

/-- What is inside the `with` statement, and the response that is closed after it. -/
def readResponse : Exchange → Except Raised Bytes
  | .failed failure => .error failure.raised
  | .response statusCode chunks broken closing =>
    match closing with
    | some failure => .error failure.raised
    | none =>
      match statusReason statusCode with
      | some reason => .error (.providerResponse reason)
      | none => readBody [] broken chunks

/-- `_fetch_json`: the entries of the object. -/
def fetchJson (url : Str) (exchange : Exchange) : Except Raised (List (Str × Json)) := do
  raiseIf (provider.takesUrl url = false) .invalidUrl
  let body ← readResponse exchange
  match provider.loads body with
  | .recursionError => .error .recursionError
  | .value (.dict entries) _ => pure entries
  | _ => .error .malformedResponse

structure PaymentResponse where
  id : Str
  entity : Str
  amount : Int
  currency : Str
  status : Str
  captured : Bool
  orderId : Option Str
  amountRefunded : Int
  refundStatus : Option Str

structure OrderResponse where
  id : Str
  entity : Str
  amount : Int
  amountPaid : Int
  amountDue : Int
  currency : Str
  status : Str

/-- `int`, strictly. -/
def strictInt : Json → Except Exception Int
  | .int value => .ok value
  | _ => .error .validationError

/-- `bool`, strictly. -/
def strictBool : Json → Except Exception Bool
  | .bool value => .ok value
  | _ => .error .validationError

open Record

/-- `_PaymentResponse.model_validate`. -/
def readPayment (entries : List (Str × Json)) : Except Exception PaymentResponse := do
  let id ← required "id" Record.plainText entries
  let entity ← required "entity" Record.plainText entries
  let amount ← required "amount" strictInt entries
  let currency ← required "currency" Record.plainText entries
  let status ← required "status" Record.plainText entries
  let captured ← required "captured" strictBool entries
  let orderId ← required "order_id" (orNone Record.plainText) entries
  let amountRefunded ← required "amount_refunded" strictInt entries
  let refundStatus ← required "refund_status" (orNone Record.plainText) entries
  pure { id, entity, amount, currency, status, captured, orderId, amountRefunded, refundStatus }

/-- `_OrderResponse.model_validate`. -/
def readOrder (entries : List (Str × Json)) : Except Exception OrderResponse := do
  let id ← required "id" Record.plainText entries
  let entity ← required "entity" Record.plainText entries
  let amount ← required "amount" strictInt entries
  let amountPaid ← required "amount_paid" strictInt entries
  let amountDue ← required "amount_due" strictInt entries
  let currency ← required "currency" Record.plainText entries
  let status ← required "status" Record.plainText entries
  pure { id, entity, amount, amountPaid, amountDue, currency, status }

/-- A record of a response: what its schema raises is a malformed response. -/
def fetchRecord {α : Type} (read : List (Str × Json) → Except Exception α) (url : Str)
    (exchange : Exchange) : Except Raised α := do
  let entries ← fetchJson provider url exchange
  (read entries).mapError fun _ => .malformedResponse

/-- `eligible_payment`. -/
structure Eligible (paymentId : Str) (payment : PaymentResponse) : Prop where
  entity : payment.entity = Str.ofString "payment"
  id : payment.id = paymentId
  status : payment.status = Str.ofString "captured"
  captured : payment.captured = true
  ordered : ∃ orderId ∈ payment.orderId, isIdentifier "order_" orderId = true
  positive : 0 < payment.amount
  currency : isCurrency payment.currency = true
  unrefunded : payment.amountRefunded = 0
  refundStatus : payment.refundStatus = none

instance (paymentId : Str) (payment : PaymentResponse) : Decidable (Eligible paymentId payment) :=
  decidable_of_iff (payment.entity = Str.ofString "payment" ∧ payment.id = paymentId ∧
      payment.status = Str.ofString "captured" ∧ payment.captured = true ∧
      (∃ orderId ∈ payment.orderId, isIdentifier "order_" orderId = true) ∧ 0 < payment.amount ∧
      isCurrency payment.currency = true ∧ payment.amountRefunded = 0 ∧
      payment.refundStatus = none)
    ⟨fun ⟨entity, id, status, captured, ordered, positive, currency, unrefunded, refund⟩ =>
        ⟨entity, id, status, captured, ordered, positive, currency, unrefunded, refund⟩,
      fun ⟨entity, id, status, captured, ordered, positive, currency, unrefunded, refund⟩ =>
        ⟨entity, id, status, captured, ordered, positive, currency, unrefunded, refund⟩⟩

/-- The order is that of the payment, and paid with it. -/
structure Settles (payment : PaymentResponse) (order : OrderResponse) : Prop where
  entity : order.entity = Str.ofString "order"
  linked : some order.id = payment.orderId
  status : order.status = Str.ofString "paid"
  amount : payment.amount = order.amount
  paid : order.amount = order.amountPaid
  due : order.amountDue = 0
  currency : payment.currency = order.currency

instance (payment : PaymentResponse) (order : OrderResponse) : Decidable (Settles payment order) :=
  decidable_of_iff (order.entity = Str.ofString "order" ∧ some order.id = payment.orderId ∧
      order.status = Str.ofString "paid" ∧ payment.amount = order.amount ∧
      order.amount = order.amountPaid ∧ order.amountDue = 0 ∧ payment.currency = order.currency)
    ⟨fun ⟨entity, linked, status, amount, paid, due, currency⟩ =>
        ⟨entity, linked, status, amount, paid, due, currency⟩,
      fun ⟨entity, linked, status, amount, paid, due, currency⟩ =>
        ⟨entity, linked, status, amount, paid, due, currency⟩⟩

/-! ## The acquisition -/

structure RazorpayTestGroundingRequest where
  paymentIdEnv : Str
  keyIdEnv : Str
  keySecretEnv : Str

structure GroundingAcquisitionResult where
  snapshot : RazorpayGroundingSnapshot provider.snapshotFingerprint
  profile : Option CapturedPaymentProfile := none

/-- What the acquisition is called with, and what becomes of its two requests. -/
structure Acquisition where
  request : RazorpayTestGroundingRequest
  runId : VerificationRunId
  environment : Str → Option Str
  acquiredAt : Int
  payment : Exchange
  order : Exchange

namespace Acquisition

variable (acquisition : Acquisition)

def keyId : Str := (acquisition.environment acquisition.request.keyIdEnv).getD []

def keySecret : Str := (acquisition.environment acquisition.request.keySecretEnv).getD []

def paymentId : Str := (acquisition.environment acquisition.request.paymentIdEnv).getD []

def paymentUrl : Str :=
  Str.ofString "https://api.razorpay.com/v1/payments/" ++ acquisition.paymentId

end Acquisition

def orderUrl (orderId : Str) : Str := Str.ofString "https://api.razorpay.com/v1/orders/" ++ orderId

/-- `_snapshot`. -/
def snapshot (payload : SnapshotPayload) :
    Except Raised (RazorpayGroundingSnapshot provider.snapshotFingerprint) :=
  if valid : payload.Valid then
    .ok ⟨payload, provider.snapshotFingerprint payload, valid, rfl⟩
  else .error .validationError

def unavailable (acquisition : Acquisition) (reason : RazorpayGroundingReason)
    (endpoints : List RazorpaySourceEndpointKind) :
    Except Raised (GroundingAcquisitionResult provider) := do
  let sealed ← snapshot provider
    { status := .unavailable
      unavailableReason := some reason
      runId := acquisition.runId
      acquiredAt := acquisition.acquiredAt
      sourceEndpointKinds := endpoints }
  pure { snapshot := sealed }

/-- `sha256_digest`. -/
def sha256Digest (text : Str) : Except Raised Sha256Digest := do
  raiseIf (text.isUnicode = false) .unicodeEncodeError
  pure (provider.sha256 text)

/-- `fingerprint_json`. -/
def fingerprintJson (value : Json) : Except Raised Sha256Digest := do
  let text ← (canonicalJson provider.numerals value).mapError fun _ => .valueError
  sha256Digest provider text

def resourceFingerprint (kind : String) (value : Str) : Except Raised Sha256Digest :=
  sha256Digest provider (Str.ofString s!"STATEGUARD_RAZORPAY_{kind}_V1\x00" ++ value)

def capturedPaymentProfile (amount : Int) (currency : Str) :
    Except Raised CapturedPaymentProfile :=
  if valid : 0 < amount ∧ isCurrency currency = true then
    .ok ⟨amount, currency, valid.1, valid.2⟩
  else .error .validationError

def field (name : String) (value : Json) : Str × Json := (Str.ofString name, value)

/-- What the fingerprint of the resources is taken of. -/
def resourcePair (payment : PaymentResponse) (order : OrderResponse)
    (paymentIdFingerprint orderIdFingerprint : Sha256Digest) : Json :=
  .dict [
    field "payment" (.dict [
      field "id_fingerprint" (.str (Str.ofString paymentIdFingerprint)),
      field "amount" (.int payment.amount),
      field "currency" (.str payment.currency),
      field "status" (.str payment.status),
      field "captured" (.bool payment.captured),
      field "amount_refunded" (.int payment.amountRefunded),
      field "refund_status" (payment.refundStatus.elim .null .str),
      field "order_id_fingerprint" (.str (Str.ofString orderIdFingerprint))]),
    field "order" (.dict [
      field "id_fingerprint" (.str (Str.ofString orderIdFingerprint)),
      field "amount" (.int order.amount),
      field "amount_paid" (.int order.amountPaid),
      field "amount_due" (.int order.amountDue),
      field "currency" (.str order.currency),
      field "status" (.str order.status)])]

/-- The dump of a profile. -/
def CapturedPaymentProfile.json (profile : CapturedPaymentProfile) : Json :=
  .dict [
    field "amount" (.int profile.amount),
    field "currency" (.str profile.currency),
    field "status" (.str (Str.ofString "captured")),
    field "captured" (.bool true)]

/-- What is returned for a payment and the order that settles it. -/
def grounded (acquisition : Acquisition) (payment : PaymentResponse) (order : OrderResponse) :
    Except Raised (GroundingAcquisitionResult provider) := do
  let profile ← capturedPaymentProfile payment.amount payment.currency
  let paymentIdFingerprint ← resourceFingerprint provider "PAYMENT_ID" payment.id
  let orderIdFingerprint ← resourceFingerprint provider "ORDER_ID" order.id
  let resources ← fingerprintJson provider
    (resourcePair payment order paymentIdFingerprint orderIdFingerprint)
  let projection ← fingerprintJson provider profile.json
  let keyIdFingerprint ← resourceFingerprint provider "KEY_ID" acquisition.keyId
  let sealed ← snapshot provider
    { status := .grounded
      runId := acquisition.runId
      acquiredAt := acquisition.acquiredAt
      sourceEndpointKinds := [.fetchPayment, .fetchLinkedOrder]
      keyIdFingerprint := some keyIdFingerprint
      paymentIdFingerprint := some paymentIdFingerprint
      orderIdFingerprint := some orderIdFingerprint
      resourceSnapshotFingerprint := some resources
      sanitizedProjectionFingerprint := some projection
      paymentCaptured := true
      orderPaid := true
      linkageConsistent := true
      amountConsistent := true
      currencyConsistent := true
      noCurrentRefund := true }
  pure { snapshot := sealed, profile := some profile }

/-- The handlers: an exception that one of them catches is the reason of a snapshot. -/
def handled {α : Type} (acquisition : Acquisition) (endpoints : List RazorpaySourceEndpointKind)
    (next : α → Except Raised (GroundingAcquisitionResult provider)) :
    Except Raised α → Except Raised (GroundingAcquisitionResult provider)
  | .ok value => next value
  | .error raised =>
    match raised.reason with
    | some reason => unavailable provider acquisition reason endpoints
    | none => .error raised

/-- `acquire_razorpay_test_grounding`. -/
def acquire (acquisition : Acquisition) : Except Raised (GroundingAcquisitionResult provider) :=
  if acquisition.keyId = [] ∨ acquisition.keySecret = [] ∨ acquisition.paymentId = [] then
    unavailable provider acquisition .missingEnvironment []
  else if (Str.ofString "rzp_live_").isPrefixOf acquisition.keyId then
    unavailable provider acquisition .liveCredentialRejected []
  else if isIdentifier "rzp_test_" acquisition.keyId = false then
    unavailable provider acquisition .invalidTestCredential []
  else if isIdentifier "pay_" acquisition.paymentId = false then
    unavailable provider acquisition .invalidPaymentReference []
  -- The client encodes the credentials when it is built.
  else if acquisition.keySecret.isUnicode = false then .error .unicodeEncodeError
  else
    handled provider acquisition [.fetchPayment] (fun payment =>
      if ¬ Eligible acquisition.paymentId payment then
        unavailable provider acquisition .resourceIneligible [.fetchPayment]
      else
        handled provider acquisition [.fetchPayment, .fetchLinkedOrder] (fun order =>
          if ¬ Settles payment order then
            unavailable provider acquisition .resourceIneligible [.fetchPayment, .fetchLinkedOrder]
          else grounded provider acquisition payment order)
          (fetchRecord provider readOrder (orderUrl (payment.orderId.getD [])) acquisition.order))
      (fetchRecord provider readPayment acquisition.paymentUrl acquisition.payment)

/-! ## Responses -/

variable {provider : Provider} {acquisition : Acquisition} {exchange : Exchange}

/-- A response of success that comes whole, within the bound. -/
def Delivers (exchange : Exchange) (body : Bytes) : Prop :=
  ∃ statusCode chunks, exchange = .response statusCode chunks none none ∧
    statusReason statusCode = none ∧ body = chunks.flatten ∧ body.length ≤ maxResponseBytes

theorem readBody_eq_ok {body all : Bytes} {broken : Option TransportFailure}
    {chunks : List Bytes} (within : body.length ≤ maxResponseBytes) :
    readBody body broken chunks = .ok all ↔
      broken = none ∧ all = body ++ chunks.flatten ∧ all.length ≤ maxResponseBytes := by
  induction chunks generalizing body with
  | nil =>
    cases broken with
    | some failure => simp [readBody]
    | none =>
      simp only [readBody, Option.elim_none, Except.ok.injEq, List.flatten_nil, List.append_nil,
        true_and]
      constructor
      · rintro rfl
        exact ⟨rfl, within⟩
      · exact fun both => both.1.symm
  | cons chunk rest ih =>
    rw [readBody]
    split
    next exceeds =>
      refine iff_of_false (by simp) ?_
      rintro ⟨-, rfl, bounded⟩
      simp only [List.flatten_cons, List.length_append] at bounded exceeds
      omega
    next fits =>
      rw [ih (by omega), List.flatten_cons, List.append_assoc]

theorem readBody_error {body : Bytes} {broken : Option TransportFailure} {chunks : List Bytes}
    {raised : Raised} (failed : readBody body broken chunks = .error raised) :
    raised.reason ≠ none := by
  induction chunks generalizing body with
  | nil =>
    cases broken with
    | none => cases failed
    | some failure =>
      cases failed
      cases failure <;> simp [TransportFailure.raised, Raised.reason]
  | cons chunk rest ih =>
    rw [readBody] at failed
    split at failed
    next =>
      cases failed
      simp [Raised.reason]
    next => exact ih failed

theorem readResponse_eq_ok {body : Bytes} :
    readResponse exchange = .ok body ↔ Delivers exchange body := by
  cases exchange with
  | failed failure => simp [readResponse, Delivers]
  | response statusCode chunks broken closing =>
    cases closing with
    | some failure => simp [readResponse, Delivers]
    | none =>
      rw [readResponse, Delivers]
      cases reason : statusReason statusCode with
      | some reason =>
        refine iff_of_false (by simp) ?_
        rintro ⟨_, _, same, succeeds, -⟩
        cases same
        rw [reason] at succeeds
        cases succeeds
      | none =>
        refine (readBody_eq_ok (Nat.zero_le _)).trans ?_
        constructor
        · rintro ⟨rfl, rfl, bounded⟩
          exact ⟨statusCode, chunks, rfl, reason, rfl, bounded⟩
        · rintro ⟨_, _, same, -, rfl, bounded⟩
          cases same
          exact ⟨rfl, rfl, bounded⟩

theorem readResponse_error {raised : Raised} (failed : readResponse exchange = .error raised) :
    raised.reason ≠ none := by
  cases exchange with
  | failed failure =>
    cases failed
    cases failure <;> simp [TransportFailure.raised, Raised.reason]
  | response statusCode chunks broken closing =>
    cases closing with
    | some failure =>
      cases failed
      cases failure <;> simp [TransportFailure.raised, Raised.reason]
    | none =>
      rw [readResponse] at failed
      split at failed
      next =>
        cases failed
        simp [Raised.reason]
      next => exact readBody_error failed

/-- A body is nested too deep for `json.loads`. -/
def Overflows (provider : Provider) (exchange : Exchange) : Prop :=
  ∃ body, Delivers exchange body ∧ provider.loads body = .recursionError

/-- A response that is read as a record. -/
def Received {α : Type} (provider : Provider)
    (read : List (Str × Json) → Except Exception α) (exchange : Exchange) (value : α) : Prop :=
  ∃ body entries written, Delivers exchange body ∧
    provider.loads body = .value (.dict entries) written ∧ read entries = .ok value

/-- What becomes of a fetch: nothing is caught, a record, or a failure that is caught. -/
inductive Fetches {α : Type} (provider : Provider)
    (read : List (Str × Json) → Except Exception α) (url : Str) (exchange : Exchange) :
    Except Raised α → Prop where
  | escapes (raised : Raised) (uncaught : raised.reason = none)
      (cause : provider.takesUrl url = false ∨ Overflows provider exchange) :
      Fetches provider read url exchange (.error raised)
  | received (value : α) (taken : provider.takesUrl url = true)
      (whole : ¬ Overflows provider exchange) (isReceived : Received provider read exchange value) :
      Fetches provider read url exchange (.ok value)
  | caught (raised : Raised) (reason : RazorpayGroundingReason)
      (isCaught : raised.reason = some reason) (taken : provider.takesUrl url = true)
      (whole : ¬ Overflows provider exchange)
      (unreceived : ∀ value, ¬ Received provider read exchange value) :
      Fetches provider read url exchange (.error raised)

theorem Delivers.unique {body other : Bytes} (delivers : Delivers exchange body)
    (also : Delivers exchange other) : body = other :=
  Except.ok.inj ((readResponse_eq_ok.mpr delivers).symm.trans (readResponse_eq_ok.mpr also))

theorem fetchRecord_fetches {α : Type} (provider : Provider)
    (read : List (Str × Json) → Except Exception α) (url : Str) (exchange : Exchange) :
    Fetches provider read url exchange (fetchRecord provider read url exchange) := by
  rw [fetchRecord, fetchJson]
  cases taken : provider.takesUrl url with
  | false => exact .escapes _ rfl (.inl taken)
  | true =>
    rw [raiseIf_of_not (by simp), ok_bind]
    cases isRead : readResponse exchange with
    | error raised =>
      obtain ⟨reason, isCaught⟩ := Option.ne_none_iff_exists'.mp (readResponse_error isRead)
      have undelivered : ∀ body, ¬ Delivers exchange body := fun body delivers => by
        have delivered := isRead.symm.trans (readResponse_eq_ok.mpr delivers)
        cases delivered
      exact .caught raised reason isCaught taken
        (fun ⟨body, delivers, _⟩ => undelivered body delivers)
        fun _ ⟨body, _, _, delivers, _⟩ => undelivered body delivers
    | ok body =>
      have delivers := readResponse_eq_ok.mp isRead
      rw [ok_bind]
      cases loaded : provider.loads body with
      | recursionError => exact .escapes _ rfl (.inr ⟨body, delivers, loaded⟩)
      | valueError =>
        refine .caught _ _ rfl taken ?_ ?_
        · rintro ⟨other, also, overflows⟩
          rw [delivers.unique also, overflows] at loaded
          cases loaded
        · rintro value ⟨other, entries, written, also, isValue, -⟩
          rw [delivers.unique also, isValue] at loaded
          cases loaded
      | value json written =>
        have whole : ¬ Overflows provider exchange := by
          rintro ⟨other, also, overflows⟩
          rw [delivers.unique also, overflows] at loaded
          cases loaded
        cases json with
        | dict entries =>
          cases isRecord : read entries with
          | ok value =>
            simp only [Pure.pure, Except.pure, ok_bind, isRecord]
            exact .received value taken whole ⟨body, entries, written, delivers, loaded, isRecord⟩
          | error failure =>
            simp only [Pure.pure, Except.pure, ok_bind, isRecord]
            refine .caught _ _ rfl taken whole ?_
            rintro value ⟨other, others, _, also, isValue, isOk⟩
            rw [delivers.unique also, isValue] at loaded
            cases loaded
            rw [isRecord] at isOk
            cases isOk
        | _ =>
          refine .caught _ _ rfl taken whole ?_
          rintro value ⟨other, others, _, also, isValue, -⟩
          rw [delivers.unique also, isValue] at loaded
          cases loaded

/-! ## Texts and integers -/

theorem isUnicode_of_isIdentifier {lead : String} {value : Str}
    (identifier : isIdentifier lead value = true) : value.isUnicode = true := by
  simp only [isIdentifier, Bool.and_eq_true, decide_eq_true_eq, List.all_eq_true] at identifier
  obtain ⟨⟨start, -⟩, rest⟩ := identifier
  rw [← List.take_append_drop (Str.ofString lead).length value, Str.isUnicode_append, start,
    Str.isUnicode_ofString, Bool.true_and, Str.isUnicode, List.all_eq_true]
  intro c isRest
  have letter := rest c isRest
  simp only [Bool.or_eq_true, Bool.and_eq_true, decide_eq_true_eq] at letter
  simp only [CodePoint.isSurrogate, Bool.not_eq_true', decide_eq_false_iff_not]
  omega

theorem isUnicode_of_isCurrency {value : Str} (currency : isCurrency value = true) :
    value.isUnicode = true := by
  simp only [isCurrency, Bool.and_eq_true, List.all_eq_true, decide_eq_true_eq] at currency
  rw [Str.isUnicode, List.all_eq_true]
  intro c member
  have letter := currency.2 c member
  simp only [CodePoint.isSurrogate, Bool.not_eq_true', decide_eq_false_iff_not]
  omega

/-- An integer that `json.dumps` writes. -/
abbrev Written (value : Int) : Prop := (Json.int value).integersWritten = true

theorem entriesWritten_mem {entries : List (Str × Json)}
    (written : Json.entriesWritten entries = true) :
    ∀ entry ∈ entries, entry.2.integersWritten = true := by
  induction entries with
  | nil => simp
  | cons head rest ih =>
    obtain ⟨key, value⟩ := head
    rw [Json.entriesWritten, Bool.and_eq_true] at written
    intro entry membership
    rcases List.mem_cons.mp membership with rfl | later
    · exact written.1
    · exact ih written.2 entry later

theorem written_of_required {name : String} {entries : List (Str × Json)} {value : Int}
    (written : Json.entriesWritten entries = true)
    (read : required name strictInt entries = .ok value) : Written value := by
  rw [required] at read
  split at read
  next json found =>
    obtain ⟨entry, isEntry, rfl⟩ := Option.map_eq_some_iff.mp found
    have entryWritten := entriesWritten_mem written entry (List.mem_of_find?_eq_some isEntry)
    cases isJson : entry.2 with
    | int integer =>
      rw [isJson] at read entryWritten
      cases read
      exact entryWritten
    | _ =>
      rw [isJson] at read
      cases read
  next => cases read

theorem Received.payment_written {payment : PaymentResponse}
    (received : Received provider readPayment exchange payment) :
    Written payment.amount ∧ Written payment.amountRefunded := by
  obtain ⟨body, entries, written, -, -, read⟩ := received
  simp only [readPayment, bind_eq_ok, pure_eq_ok] at read
  obtain ⟨id, -, entity, -, amount, isAmount, currency, -, status, -, captured, -, orderId, -,
    refunded, isRefunded, refundStatus, -, rfl⟩ := read
  exact ⟨written_of_required written isAmount, written_of_required written isRefunded⟩

theorem Received.order_written {order : OrderResponse}
    (received : Received provider readOrder exchange order) :
    Written order.amount ∧ Written order.amountPaid ∧ Written order.amountDue := by
  obtain ⟨body, entries, written, -, -, read⟩ := received
  simp only [readOrder, bind_eq_ok, pure_eq_ok] at read
  obtain ⟨id, -, entity, -, amount, isAmount, paid, isPaid, due, isDue, currency, -, status, -,
    rfl⟩ := read
  exact ⟨written_of_required written isAmount, written_of_required written isPaid,
    written_of_required written isDue⟩

theorem Received.unique {α : Type} {read : List (Str × Json) → Except Exception α}
    {value other : α} (received : Received provider read exchange value)
    (also : Received provider read exchange other) : value = other := by
  obtain ⟨body, entries, written, delivers, loaded, isRead⟩ := received
  obtain ⟨body', entries', written', delivers', loaded', isRead'⟩ := also
  obtain rfl := delivers.unique delivers'
  rw [loaded] at loaded'
  cases loaded'
  rw [isRead] at isRead'
  exact Except.ok.inj isRead'

/-! ## Snapshots that are returned -/

theorem snapshot_of_valid {payload : SnapshotPayload} (valid : payload.Valid) :
    snapshot provider payload =
      .ok ⟨payload, provider.snapshotFingerprint payload, valid, rfl⟩ := by
  rw [snapshot, dif_pos valid]

/-- A failure that is caught is returned. -/
theorem unavailable_returns (provider : Provider) (acquisition : Acquisition)
    (reason : RazorpayGroundingReason) {endpoints : List RazorpaySourceEndpointKind}
    (distinct : endpoints.Nodup) :
    ∃ result, unavailable provider acquisition reason endpoints = .ok result ∧
      result.snapshot.status = .unavailable ∧ result.profile = none := by
  have valid : SnapshotPayload.Valid
      { status := .unavailable
        unavailableReason := some reason
        runId := acquisition.runId
        acquiredAt := acquisition.acquiredAt
        sourceEndpointKinds := endpoints } :=
    ⟨distinct, by simp, fun _ =>
      ⟨by simp, by simp [SnapshotPayload.fingerprints], by simp [SnapshotPayload.consistency]⟩⟩
  rw [unavailable, snapshot_of_valid valid]
  exact ⟨_, rfl, rfl, rfl⟩

theorem sha256Digest_of_unicode {text : Str} (unicode : text.isUnicode = true) :
    sha256Digest provider text = .ok (provider.sha256 text) := by
  rw [sha256Digest, raiseIf_of_not (by simp [unicode])]
  rfl

theorem resourceFingerprint_returns (provider : Provider) (kind : String) {value : Str}
    (unicode : value.isUnicode = true) :
    ∃ digest, resourceFingerprint provider kind value = .ok digest :=
  ⟨_, sha256Digest_of_unicode (by
    rw [Str.isUnicode_append, Str.isUnicode_ofString, unicode]
    rfl)⟩

theorem fingerprintJson_returns (provider : Provider) {value : Json}
    (written : value.integersWritten = true) (unicode : value.isUnicode = true) :
    ∃ digest, fingerprintJson provider value = .ok digest := by
  rw [fingerprintJson, canonicalJson, raiseIf_of_not (by simp [written])]
  exact ⟨_, sha256Digest_of_unicode (by rw [Json.isUnicode_text, unicode])⟩

theorem integersWritten_dict (entries : List (Str × Json)) :
    (Json.dict entries).integersWritten = Json.entriesWritten entries := rfl

theorem entriesWritten_field (name : String) (value : Json) (rest : List (Str × Json)) :
    Json.entriesWritten (field name value :: rest) =
      (value.integersWritten && Json.entriesWritten rest) := rfl

theorem integersWritten_refundStatus (refundStatus : Option Str) :
    (refundStatus.elim Json.null Json.str).integersWritten = true := by
  cases refundStatus <;> rfl

theorem resourcePair_written {payment : PaymentResponse} {order : OrderResponse}
    (paymentDigest orderDigest : Sha256Digest)
    (paymentWritten : Written payment.amount ∧ Written payment.amountRefunded)
    (orderWritten : Written order.amount ∧ Written order.amountPaid ∧ Written order.amountDue) :
    (resourcePair payment order paymentDigest orderDigest).integersWritten = true := by
  obtain ⟨amount, refunded⟩ := paymentWritten
  obtain ⟨orderAmount, paid, due⟩ := orderWritten
  simp only [resourcePair, integersWritten_dict, entriesWritten_field, amount, refunded,
    orderAmount, paid, due, integersWritten_refundStatus]
  rfl

theorem resourcePair_unicode {paymentId : Str} {payment : PaymentResponse} {order : OrderResponse}
    {paymentDigest orderDigest : Sha256Digest} (eligible : Eligible paymentId payment)
    (settles : Settles payment order) :
    (resourcePair payment order paymentDigest orderDigest).isUnicode = true := by
  have currency := isUnicode_of_isCurrency eligible.currency
  simp [resourcePair, field, Json.isUnicode, Json.entriesUnicode, Str.isUnicode_ofString,
    eligible.status, eligible.refundStatus, settles.status, ← settles.currency, currency]

/-- A payment and an order that settles it are returned as grounded, with their profile. -/
theorem grounded_returns (provider : Provider) {payment : PaymentResponse} {order : OrderResponse}
    (testKey : isIdentifier "rzp_test_" acquisition.keyId = true)
    (isPaymentId : isIdentifier "pay_" acquisition.paymentId = true)
    (paymentWritten : Written payment.amount ∧ Written payment.amountRefunded)
    (orderWritten : Written order.amount ∧ Written order.amountPaid ∧ Written order.amountDue)
    (eligible : Eligible acquisition.paymentId payment) (settles : Settles payment order) :
    ∃ result, grounded provider acquisition payment order = .ok result ∧
      result.snapshot.status = .grounded ∧
      ∃ profile ∈ result.profile, profile.amount = payment.amount ∧
        profile.currency = payment.currency := by
  have isOrderId : isIdentifier "order_" order.id = true := by
    obtain ⟨orderId, isId, identifier⟩ := eligible.ordered
    rw [Option.mem_def, ← settles.linked, Option.some.injEq] at isId
    exact isId ▸ identifier
  have currency := isUnicode_of_isCurrency eligible.currency
  have isProfile : capturedPaymentProfile payment.amount payment.currency =
      .ok ⟨payment.amount, payment.currency, eligible.positive, eligible.currency⟩ := by
    rw [capturedPaymentProfile, dif_pos ⟨eligible.positive, eligible.currency⟩]
  obtain ⟨paymentDigest, isPaymentDigest⟩ := resourceFingerprint_returns provider
    "PAYMENT_ID" (isUnicode_of_isIdentifier (eligible.id ▸ isPaymentId))
  obtain ⟨orderDigest, isOrderDigest⟩ := resourceFingerprint_returns provider
    "ORDER_ID" (isUnicode_of_isIdentifier isOrderId)
  obtain ⟨resources, isResources⟩ := fingerprintJson_returns provider
    (resourcePair_written paymentDigest orderDigest paymentWritten orderWritten)
    (resourcePair_unicode eligible settles)
  have profileWritten : (CapturedPaymentProfile.json
      ⟨payment.amount, payment.currency, eligible.positive, eligible.currency⟩).integersWritten =
        true := by
    simp only [CapturedPaymentProfile.json, integersWritten_dict, entriesWritten_field,
      paymentWritten.1]
    rfl
  obtain ⟨projection, isProjection⟩ := fingerprintJson_returns provider
    profileWritten (by
      simp [CapturedPaymentProfile.json, field, Json.isUnicode, Json.entriesUnicode,
        Str.isUnicode_ofString, currency])
  obtain ⟨keyDigest, isKeyDigest⟩ := resourceFingerprint_returns provider
    "KEY_ID" (isUnicode_of_isIdentifier testKey)
  have valid : SnapshotPayload.Valid
      { status := .grounded
        runId := acquisition.runId
        acquiredAt := acquisition.acquiredAt
        sourceEndpointKinds := [.fetchPayment, .fetchLinkedOrder]
        keyIdFingerprint := some keyDigest
        paymentIdFingerprint := some paymentDigest
        orderIdFingerprint := some orderDigest
        resourceSnapshotFingerprint := some resources
        sanitizedProjectionFingerprint := some projection
        paymentCaptured := true
        orderPaid := true
        linkageConsistent := true
        amountConsistent := true
        currencyConsistent := true
        noCurrentRefund := true } :=
    ⟨by simp, fun _ => ⟨rfl, rfl, by simp [SnapshotPayload.fingerprints],
      by simp [SnapshotPayload.consistency]⟩, by simp⟩
  rw [grounded]
  simp only [isProfile, ok_bind, isPaymentDigest, isOrderDigest, isResources, isProjection,
    isKeyDigest, snapshot_of_valid valid]
  exact ⟨_, rfl, rfl, _, rfl, rfl, rfl⟩

/-! ## When the acquisition is exact -/

/-- The credentials are of the test mode, and the payment and its order are settled. -/
structure GroundedBy (provider : Provider) (acquisition : Acquisition) (payment : PaymentResponse)
    (order : OrderResponse) : Prop where
  testKey : isIdentifier "rzp_test_" acquisition.keyId = true
  secret : acquisition.keySecret ≠ []
  paymentId : isIdentifier "pay_" acquisition.paymentId = true
  paymentReceived : Received provider readPayment acquisition.payment payment
  eligible : Eligible acquisition.paymentId payment
  orderReceived : Received provider readOrder acquisition.order order
  settles : Settles payment order

/-- A snapshot is grounded exactly for a payment and an order that settles it, and it comes with
their profile. -/
structure Exact (provider : Provider) (acquisition : Acquisition)
    (result : GroundingAcquisitionResult provider) : Prop where
  grounded : result.snapshot.status = .grounded ↔
    ∃ payment order, GroundedBy provider acquisition payment order
  profile : ∀ payment order, GroundedBy provider acquisition payment order →
    ∃ profile ∈ result.profile, profile.amount = payment.amount ∧
      profile.currency = payment.currency
  unprofiled : result.snapshot.status = .unavailable → result.profile = none

/-- Credentials and a payment id with which the payment is fetched. -/
structure Fetching (acquisition : Acquisition) : Prop where
  testKey : isIdentifier "rzp_test_" acquisition.keyId = true
  secret : acquisition.keySecret ≠ []
  paymentId : isIdentifier "pay_" acquisition.paymentId = true

/-- Something is raised that no handler catches. -/
def Escapes (provider : Provider) (acquisition : Acquisition) : Prop :=
  Fetching acquisition ∧
    (acquisition.keySecret.isUnicode = false ∨
      (provider.takesUrl acquisition.paymentUrl = false ∨
        Overflows provider acquisition.payment) ∨
      ∃ payment, Received provider readPayment acquisition.payment payment ∧
        Eligible acquisition.paymentId payment ∧
        (provider.takesUrl (orderUrl (payment.orderId.getD [])) = false ∨
          Overflows provider acquisition.order))

theorem isIdentifier_ne_nil {lead : String} {value : Str}
    (identifier : isIdentifier lead value = true) : value ≠ [] := by
  rintro rfl
  simp [isIdentifier] at identifier

theorem not_live_of_test {value : Str} (test : isIdentifier "rzp_test_" value = true) :
    (Str.ofString "rzp_live_").isPrefixOf value = false := by
  by_contra live
  simp only [isIdentifier, Bool.and_eq_true, decide_eq_true_eq] at test
  obtain ⟨rest, rfl⟩ := List.isPrefixOf_iff_prefix.mp (Bool.eq_true_of_not_eq_false live)
  have same := test.1.1
  rw [List.take_left' (by decide)] at same
  revert same
  decide

/-- Where no payment is fetched, a snapshot is returned that says why. -/
theorem acquire_unfetched (provider : Provider) (unfetched : ¬ Fetching acquisition) :
    ∃ reason, acquire provider acquisition = unavailable provider acquisition reason [] := by
  rw [acquire]
  split
  next => exact ⟨_, rfl⟩
  next given =>
    obtain ⟨-, secret, -⟩ := not_or.mp given |>.imp_right not_or.mp
    split
    next => exact ⟨_, rfl⟩
    next =>
      split
      next => exact ⟨_, rfl⟩
      next test =>
        split
        next => exact ⟨_, rfl⟩
        next isId =>
          exact absurd ⟨by simpa using test, secret, by simpa using isId⟩ unfetched

theorem Fetching.given (fetching : Fetching acquisition) :
    ¬ (acquisition.keyId = [] ∨ acquisition.keySecret = [] ∨ acquisition.paymentId = []) := by
  rintro (noKey | noSecret | noPayment)
  · exact isIdentifier_ne_nil fetching.testKey noKey
  · exact fetching.secret noSecret
  · exact isIdentifier_ne_nil fetching.paymentId noPayment

/-- A secret that cannot be encoded is met before anything is fetched. -/
theorem acquire_unencodable (fetching : Fetching acquisition)
    (unencodable : acquisition.keySecret.isUnicode = false) :
    acquire provider acquisition = .error .unicodeEncodeError := by
  rw [acquire, if_neg fetching.given, if_neg (by simp [not_live_of_test fetching.testKey]),
    if_neg (by simp [fetching.testKey]), if_neg (by simp [fetching.paymentId]),
    if_pos unencodable]

/-- The stages of a fetch. -/
theorem acquire_fetching (fetching : Fetching acquisition)
    (unicode : acquisition.keySecret.isUnicode = true) :
    acquire provider acquisition =
      handled provider acquisition [.fetchPayment] (fun payment =>
        if ¬ Eligible acquisition.paymentId payment then
          unavailable provider acquisition .resourceIneligible [.fetchPayment]
        else
          handled provider acquisition [.fetchPayment, .fetchLinkedOrder] (fun order =>
            if ¬ Settles payment order then
              unavailable provider acquisition .resourceIneligible
                [.fetchPayment, .fetchLinkedOrder]
            else grounded provider acquisition payment order)
            (fetchRecord provider readOrder (orderUrl (payment.orderId.getD []))
              acquisition.order))
        (fetchRecord provider readPayment acquisition.paymentUrl acquisition.payment) := by
  rw [acquire, if_neg fetching.given, if_neg (by simp [not_live_of_test fetching.testKey]),
    if_neg (by simp [fetching.testKey]), if_neg (by simp [fetching.paymentId]),
    if_neg (by simp [unicode])]

/-- A snapshot that is unavailable is exact where nothing grounds the acquisition. -/
theorem exact_of_unavailable (reason : RazorpayGroundingReason)
    {endpoints : List RazorpaySourceEndpointKind} (distinct : endpoints.Nodup)
    (ungrounded : ∀ payment order, ¬ GroundedBy provider acquisition payment order) :
    ∃ result, unavailable provider acquisition reason endpoints = .ok result ∧
      Exact provider acquisition result := by
  obtain ⟨result, returned, status, profile⟩ :=
    unavailable_returns provider acquisition reason distinct
  refine ⟨result, returned, ?_, ?_, fun _ => profile⟩
  · rw [status]
    exact iff_of_false (by simp) fun ⟨payment, order, settled⟩ => ungrounded payment order settled
  · exact fun payment order settled => absurd settled (ungrounded payment order)

/-- What is returned where a fetch fails with what no handler catches. -/
theorem handled_escapes {α : Type} {endpoints : List RazorpaySourceEndpointKind}
    {next : α → Except Raised (GroundingAcquisitionResult provider)} {raised : Raised}
    (uncaught : raised.reason = none) :
    handled provider acquisition endpoints next (.error raised) = .error raised := by
  rw [handled, uncaught]

theorem handled_caught {α : Type} {endpoints : List RazorpaySourceEndpointKind}
    {next : α → Except Raised (GroundingAcquisitionResult provider)} {raised : Raised}
    {reason : RazorpayGroundingReason} (isCaught : raised.reason = some reason) :
    handled provider acquisition endpoints next (.error raised) =
      unavailable provider acquisition reason endpoints := by
  rw [handled, isCaught]

/-- An outcome of the acquisition: what no handler catches escapes, or the result is exact. -/
def Decided (provider : Provider) (acquisition : Acquisition)
    (outcome : Except Raised (GroundingAcquisitionResult provider)) : Prop :=
  (∃ raised, outcome = .error raised) ∧ Escapes provider acquisition ∨
    (∃ result, outcome = .ok result ∧ Exact provider acquisition result) ∧
      ¬ Escapes provider acquisition

/-- Nothing escapes where each URL that is requested is taken and each body is read. -/
theorem contained_of_taken (unicode : acquisition.keySecret.isUnicode = true)
    (taken : provider.takesUrl acquisition.paymentUrl = true)
    (whole : ¬ Overflows provider acquisition.payment)
    (ordered : ∀ payment, Received provider readPayment acquisition.payment payment →
      Eligible acquisition.paymentId payment →
        provider.takesUrl (orderUrl (payment.orderId.getD [])) = true ∧
          ¬ Overflows provider acquisition.order) :
    ¬ Escapes provider acquisition := by
  rintro ⟨-, noUnicode | (untaken | overflows) | ⟨payment, received, eligible, cause⟩⟩
  · simp [unicode] at noUnicode
  · simp [taken] at untaken
  · exact whole overflows
  · obtain ⟨orderTaken, orderWhole⟩ := ordered payment received eligible
    rcases cause with untaken | overflows
    · simp [orderTaken] at untaken
    · exact orderWhole overflows

section Stages

variable {payment : PaymentResponse} {order : OrderResponse} (fetching : Fetching acquisition)
  (paymentReceived : Received provider readPayment acquisition.payment payment)
  (eligible : Eligible acquisition.paymentId payment)

include fetching paymentReceived eligible

/-- The result is exact once the payment and its order are received. -/
theorem exact_of_received
    (orderReceived : Received provider readOrder acquisition.order order) :
    ∃ result, (if ¬ Settles payment order then
        unavailable provider acquisition .resourceIneligible [.fetchPayment, .fetchLinkedOrder]
      else grounded provider acquisition payment order) = .ok result ∧
      Exact provider acquisition result := by
  by_cases settles : Settles payment order
  · rw [if_neg (not_not.mpr settles)]
    obtain ⟨result, returned, status, profile⟩ := grounded_returns provider
      fetching.testKey fetching.paymentId paymentReceived.payment_written
      orderReceived.order_written eligible settles
    refine ⟨result, returned, ?_, ?_, ?_⟩
    · refine iff_of_true status ⟨payment, order, ?_⟩
      exact ⟨fetching.testKey, fetching.secret, fetching.paymentId, paymentReceived, eligible,
        orderReceived, settles⟩
    · intro other _ settled
      obtain rfl := paymentReceived.unique settled.paymentReceived
      exact profile
    · rw [status]
      simp
  · rw [if_pos settles]
    refine exact_of_unavailable _ (by decide) ?_
    intro other otherOrder settled
    obtain rfl := paymentReceived.unique settled.paymentReceived
    obtain rfl := orderReceived.unique settled.orderReceived
    exact settles settled.settles

/-- The fetch of the order decides the outcome once an eligible payment is received. -/
theorem decided_of_payment (unicode : acquisition.keySecret.isUnicode = true)
    (taken : provider.takesUrl acquisition.paymentUrl = true)
    (whole : ¬ Overflows provider acquisition.payment) :
    Decided provider acquisition
      (handled provider acquisition [.fetchPayment, .fetchLinkedOrder] (fun order =>
        if ¬ Settles payment order then
          unavailable provider acquisition .resourceIneligible [.fetchPayment, .fetchLinkedOrder]
        else grounded provider acquisition payment order)
        (fetchRecord provider readOrder (orderUrl (payment.orderId.getD []))
          acquisition.order)) := by
  generalize fetched : fetchRecord provider readOrder (orderUrl (payment.orderId.getD []))
    acquisition.order = outcome
  have fetches := fetched ▸ fetchRecord_fetches provider readOrder
    (orderUrl (payment.orderId.getD [])) acquisition.order
  have contained : provider.takesUrl (orderUrl (payment.orderId.getD [])) = true →
      ¬ Overflows provider acquisition.order → ¬ Escapes provider acquisition := by
    intro orderTaken orderWhole
    refine contained_of_taken unicode taken whole fun other received _ => ?_
    obtain rfl := paymentReceived.unique received
    exact ⟨orderTaken, orderWhole⟩
  cases fetches with
  | escapes raised uncaught cause =>
    rw [handled_escapes uncaught]
    exact .inl ⟨⟨raised, rfl⟩, fetching, .inr (.inr ⟨payment, paymentReceived, eligible, cause⟩)⟩
  | caught raised reason isCaught orderTaken orderWhole unreceived =>
    rw [handled_caught isCaught]
    refine .inr ⟨exact_of_unavailable reason (by decide) ?_, contained orderTaken orderWhole⟩
    exact fun payment order settled => unreceived order settled.orderReceived
  | received order orderTaken orderWhole orderReceived =>
    rw [handled]
    exact .inr ⟨exact_of_received fetching paymentReceived eligible orderReceived,
      contained orderTaken orderWhole⟩

end Stages

/-- The fetch of the payment decides the outcome, or the fetch of its order does. -/
theorem decided_of_fetching (fetching : Fetching acquisition)
    (unicode : acquisition.keySecret.isUnicode = true) :
    Decided provider acquisition (acquire provider acquisition) := by
  rw [acquire_fetching fetching unicode]
  generalize fetched : fetchRecord provider readPayment acquisition.paymentUrl
    acquisition.payment = outcome
  have fetches := fetched ▸ fetchRecord_fetches provider readPayment
    acquisition.paymentUrl acquisition.payment
  cases fetches with
  | escapes raised uncaught cause =>
    rw [handled_escapes uncaught]
    exact .inl ⟨⟨raised, rfl⟩, fetching, .inr (.inl cause)⟩
  | caught raised reason isCaught taken whole unreceived =>
    rw [handled_caught isCaught]
    refine .inr ⟨exact_of_unavailable reason (by decide) ?_, ?_⟩
    · exact fun payment order settled => unreceived payment settled.paymentReceived
    · exact contained_of_taken unicode taken whole
        fun payment received _ => absurd received (unreceived payment)
  | received payment taken whole isReceived =>
    rw [handled]
    by_cases eligible : Eligible acquisition.paymentId payment
    · rw [if_neg (not_not.mpr eligible)]
      exact decided_of_payment fetching isReceived eligible unicode taken whole
    · rw [if_pos eligible]
      refine .inr ⟨exact_of_unavailable _ (by decide) ?_, ?_⟩
      · intro other order settled
        obtain rfl := isReceived.unique settled.paymentReceived
        exact eligible settled.eligible
      · refine contained_of_taken unicode taken whole fun other received isEligible => ?_
        obtain rfl := isReceived.unique received
        exact absurd isEligible eligible

/-- The acquisition raises what no handler catches, or returns an exact result. -/
theorem acquire_decided (provider : Provider) (acquisition : Acquisition) :
    Decided provider acquisition (acquire provider acquisition) := by
  by_cases fetching : Fetching acquisition
  · cases unicode : acquisition.keySecret.isUnicode with
    | false =>
      exact .inl ⟨⟨_, acquire_unencodable fetching unicode⟩, fetching, .inl unicode⟩
    | true => exact decided_of_fetching fetching unicode
  · obtain ⟨reason, isUnavailable⟩ := acquire_unfetched provider fetching
    rw [isUnavailable]
    refine .inr ⟨exact_of_unavailable reason List.nodup_nil ?_, fun escapes => fetching escapes.1⟩
    exact fun payment order settled => fetching ⟨settled.testKey, settled.secret, settled.paymentId⟩

/-- The acquisition returns an exact result exactly when nothing escapes its handlers: a secret
that cannot be encoded, a URL that httpx does not take, or a body nested too deep. -/
theorem acquire_exact_iff (provider : Provider) (acquisition : Acquisition) :
    (∃ result, acquire provider acquisition = .ok result ∧
        Exact provider acquisition result) ↔ ¬ Escapes provider acquisition := by
  rcases acquire_decided provider acquisition with ⟨⟨raised, isRaised⟩, escapes⟩ |
    ⟨returned, contained⟩
  · refine iff_of_false ?_ (not_not.mpr escapes)
    rintro ⟨result, isResult, -⟩
    rw [isRaised] at isResult
    cases isResult
  · exact iff_of_true returned contained

/-! ## What escapes -/

/-- A provider whose `json.loads` overflows on more than a thousand opening brackets. -/
def bracketProvider : Provider where
  takesUrl := fun _ => true
  loads := fun body =>
    if 1000 < body.length ∧ body.all (· = 91) then .recursionError else .valueError
  numerals := ⟨fun value => toString value, fun _ => none⟩
  sha256 := fun _ => "sha256:0"
  snapshotFingerprint := fun _ => "sha256:1"

/-- The acquisition with a secret, answered with a body of brackets. -/
def bracketAcquisition (secret : Str) (depth : Nat) : Acquisition where
  request := ⟨Str.ofString "PAYMENT_ID", Str.ofString "KEY_ID", Str.ofString "KEY_SECRET"⟩
  runId := "sgvrun_1"
  environment := fun name =>
    if name = Str.ofString "PAYMENT_ID" then some (Str.ofString "pay_1")
    else if name = Str.ofString "KEY_ID" then some (Str.ofString "rzp_test_1")
    else if name = Str.ofString "KEY_SECRET" then some secret
    else none
  acquiredAt := 0
  payment := .response 200 [List.replicate depth 91] none none
  order := .failed .network

theorem fetchRecord_brackets {α : Type} {read : List (Str × Json) → Except Exception α}
    {url : Str} {depth : Nat} (deep : 1000 < depth) (small : depth ≤ maxResponseBytes) :
    fetchRecord bracketProvider read url (.response 200 [List.replicate depth 91] none none) =
      .error .recursionError := by
  have isBody : readResponse (.response 200 [List.replicate depth 91] none none) =
      .ok (List.replicate depth 91) := by
    have fits : ¬maxResponseBytes < (List.replicate depth (91 : UInt8)).length := by
      rw [List.length_replicate]
      omega
    simp only [readResponse, readBody, List.nil_append, if_neg fits]
    rfl
  have overflows : bracketProvider.loads (List.replicate depth 91) = .recursionError :=
    if_pos ⟨by rwa [List.length_replicate], by simp⟩
  rw [fetchRecord, fetchJson, raiseIf_of_not (by simp [bracketProvider]), ok_bind, isBody, ok_bind,
    overflows]
  rfl

/-- A body that is nested too deep and a secret with a lone surrogate raise. -/
theorem bracketAcquisition_raises :
    acquire bracketProvider (bracketAcquisition (Str.ofString "secret") 2000) =
        .error .recursionError ∧
      acquire bracketProvider (bracketAcquisition [0xDC80] 0) = .error .unicodeEncodeError := by
  refine ⟨?_, by rfl⟩
  have fetching : Fetching (bracketAcquisition (Str.ofString "secret") 2000) :=
    ⟨by decide +kernel, by decide +kernel, by decide +kernel⟩
  have overflows : fetchRecord bracketProvider readPayment
      (bracketAcquisition (Str.ofString "secret") 2000).paymentUrl
      (bracketAcquisition (Str.ofString "secret") 2000).payment = .error .recursionError :=
    fetchRecord_brackets (by decide) (by decide)
  rw [acquire_fetching fetching (by decide +kernel), overflows]
  rfl

end Grounding

end StateGuard
