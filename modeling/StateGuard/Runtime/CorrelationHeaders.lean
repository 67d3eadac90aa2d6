import Mathlib.Data.List.Lemmas
import StateGuard.Contracts.Vocabulary

/-!
# Correlation headers

`CorrelationASGIWrapper` takes the correlation and the acknowledgement failure of a request from
its headers and forwards the others.  It takes a header only while it has found no valid one of
that name, so a header after a valid one of its name is forwarded to the merchant.

`correlate_strips_iff` says for which requests it forwards none.
-/

namespace StateGuard

namespace Asgi

abbrev Bytes := List UInt8

abbrev Header := Bytes × Bytes

/-- A `bytes` literal of the source. -/
def bytes (literal : String) : Bytes := literal.toList.map fun c => c.toNat.toUInt8

/-- `bytes.lower`. -/
def lower (name : Bytes) : Bytes :=
  name.map fun byte => if 65 ≤ byte ∧ byte ≤ 90 then byte + 32 else byte

/-- `bytes.decode("ascii")`, if it does not raise. -/
def decodeAscii (value : Bytes) : Option (List Char) :=
  if value.all (· < 128) then some (value.map fun byte => Char.ofNat byte.toNat) else none

def correlationHeader : Bytes := bytes "x-stateguard-request-id"

def ackFailureHeader : Bytes := bytes "x-stateguard-acknowledgement-failure"

inductive ManagedAcknowledgementFailureMode where
  | forceNon2xxAfterSuccess
  deriving DecidableEq, Repr

/-- `ManagedAcknowledgementFailureMode(...)`, if it does not raise. -/
def readMode (text : List Char) : Option ManagedAcknowledgementFailureMode :=
  if text = "FORCE_NON_2XX_AFTER_SUCCESS".toList then some .forceNon2xxAfterSuccess else none

/-- A text that matches the pattern of an identifier: its lead and 32 hexadecimal digits. -/
def readIdentifier (lead : String) (text : List Char) : Option String :=
  let digits := text.drop lead.toList.length
  if text.take lead.toList.length = lead.toList ∧ digits.length = 32 ∧
      digits.all ("0123456789abcdef".toList.contains ·) then
    some (String.ofList text)
  else none

/-- The request id of a value, if `decode` and `validate_python` take it. -/
def readRequestId (value : Bytes) : Option RuntimeRequestId :=
  (decodeAscii value).bind (readIdentifier "sgreq_")

/-- The parts of a text before and after its first colon. -/
def splitColon (text : List Char) : Option (List Char × List Char) :=
  match text.dropWhile (· ≠ ':') with
  | [] => none
  | _ :: rest => some (text.takeWhile (· ≠ ':'), rest)

/-- The acknowledgement failure of a value, if nothing raises on it. -/
def readAcknowledgementFailure (value : Bytes) :
    Option (ManagedAcknowledgementFailureMode × GraphNodeId) := do
  let text ← decodeAscii value
  let (rawMode, rawNodeId) ← splitColon text
  let mode ← readMode rawMode
  let nodeId ← readIdentifier "sgnode_" rawNodeId
  pure (mode, nodeId)

/-- What the loop over the headers has found, with the headers it keeps. -/
structure Correlation where
  requestId : Option RuntimeRequestId := none
  acknowledgementFailure : Option (ManagedAcknowledgementFailureMode × GraphNodeId) := none
  headers : List Header := []
  deriving DecidableEq

/-- One pass of the loop over the headers. -/
def Correlation.consume (found : Correlation) (header : Header) : Correlation :=
  if lower header.1 = correlationHeader ∧ found.requestId = none then
    { found with requestId := readRequestId header.2 }
  else if lower header.1 = ackFailureHeader ∧ found.acknowledgementFailure = none then
    { found with acknowledgementFailure := readAcknowledgementFailure header.2 }
  else { found with headers := found.headers ++ [header] }

/-- The part of a scope that the wrapper reads. -/
structure Scope where
  type : String
  headers : List Header := []
  deriving DecidableEq

/-- `CorrelationASGIWrapper.__call__`: the scope that the application is called with, and the
context variables during the call. -/
def correlate (scope : Scope) :
    Scope × Option RuntimeRequestId ×
      Option (ManagedAcknowledgementFailureMode × GraphNodeId) :=
  if scope.type ≠ "http" then (scope, none, none)
  else
    let found := scope.headers.foldl Correlation.consume {}
    ({ scope with headers := found.headers }, found.requestId, found.acknowledgementFailure)

/-! ## What is to be forwarded -/

/-- The name of a header is one of StateGuard's. -/
def IsStateGuard (header : Header) : Prop :=
  lower header.1 = correlationHeader ∨ lower header.1 = ackFailureHeader

instance (header : Header) : Decidable (IsStateGuard header) :=
  inferInstanceAs (Decidable (_ ∨ _))

/-- Every other header is forwarded, in order, and no header of StateGuard's.  What the request
carries is what one of its headers says, or nothing. -/
structure Strips (scope : Scope)
    (result : Scope × Option RuntimeRequestId ×
      Option (ManagedAcknowledgementFailureMode × GraphNodeId)) : Prop where
  headers : result.1.headers = scope.headers.filter fun header => ¬ IsStateGuard header
  scopeType : result.1.type = scope.type
  requestId : ∀ requestId ∈ result.2.1, ∃ header ∈ scope.headers,
    lower header.1 = correlationHeader ∧ readRequestId header.2 = some requestId
  acknowledgementFailure : ∀ failure ∈ result.2.2, ∃ header ∈ scope.headers,
    lower header.1 = ackFailureHeader ∧ readAcknowledgementFailure header.2 = some failure

/-- A header of StateGuard's whose value is valid. -/
def Valid (header : Header) : Prop :=
  lower header.1 = correlationHeader ∧ (readRequestId header.2).isSome ∨
    lower header.1 = ackFailureHeader ∧ (readAcknowledgementFailure header.2).isSome

/-- No header follows a valid header of its name. -/
def ValidLast (headers : List Header) : Prop :=
  headers.Pairwise fun first later => ¬ (Valid first ∧ lower later.1 = lower first.1)

theorem correlationHeader_ne : correlationHeader ≠ ackFailureHeader := by decide

theorem valid_correlation {header : Header} (named : lower header.1 = correlationHeader) :
    Valid header ↔ (readRequestId header.2).isSome := by
  simp [Valid, named, correlationHeader_ne]

theorem valid_ackFailure {header : Header} (named : lower header.1 = ackFailureHeader) :
    Valid header ↔ (readAcknowledgementFailure header.2).isSome := by
  simp [Valid, named, correlationHeader_ne.symm]

theorem Valid.isStateGuard {header : Header} (valid : Valid header) : IsStateGuard header :=
  valid.imp And.left And.left

/-! ## The loop -/

variable {found : Correlation} {header : Header} {headers : List Header}

theorem consume_correlation (named : lower header.1 = correlationHeader)
    (unfound : found.requestId = none) :
    found.consume header = { found with requestId := readRequestId header.2 } := by
  rw [Correlation.consume, if_pos ⟨named, unfound⟩]

theorem consume_ackFailure (named : lower header.1 = ackFailureHeader)
    (unfound : found.acknowledgementFailure = none) :
    found.consume header =
      { found with acknowledgementFailure := readAcknowledgementFailure header.2 } := by
  rw [Correlation.consume, if_neg fun both => correlationHeader_ne (both.1.symm.trans named),
    if_pos ⟨named, unfound⟩]

/-- A header is taken when it is of StateGuard's and no valid one of its name has been found. -/
def Taken (found : Correlation) (header : Header) : Prop :=
  lower header.1 = correlationHeader ∧ found.requestId = none ∨
    lower header.1 = ackFailureHeader ∧ found.acknowledgementFailure = none

theorem consume_of_not_taken (untaken : ¬ Taken found header) :
    found.consume header = { found with headers := found.headers ++ [header] } := by
  obtain ⟨notRequest, notFailure⟩ := not_or.mp untaken
  rw [Correlation.consume, if_neg notRequest, if_neg notFailure]

/-- The loop keeps every header that is not StateGuard's. -/
theorem length_kept (found : Correlation) (headers : List Header) :
    found.headers.length + (headers.filter fun header => ¬ IsStateGuard header).length ≤
      (headers.foldl Correlation.consume found).headers.length := by
  induction headers generalizing found with
  | nil => simp
  | cons header rest ih =>
    rw [List.foldl_cons]
    refine le_trans ?_ (ih _)
    by_cases taken : Taken found header
    · rcases taken with ⟨named, unfound⟩ | ⟨named, unfound⟩
      · have ours : IsStateGuard header := .inl named
        rw [consume_correlation named unfound, List.filter_cons_of_neg (by simpa using ours)]
      · have ours : IsStateGuard header := .inr named
        rw [consume_ackFailure named unfound, List.filter_cons_of_neg (by simpa using ours)]
    · rw [consume_of_not_taken taken, List.length_append, List.length_singleton]
      have bound := List.length_filter_le (fun header => decide ¬ IsStateGuard header) [header]
      rw [← List.singleton_append, List.filter_append, List.length_append]
      rw [List.length_singleton] at bound
      omega

/-- A header of StateGuard's follows one that has been found. -/
def Clear (found : Correlation) (headers : List Header) : Prop :=
  (found.requestId.isSome → ∀ header ∈ headers, lower header.1 ≠ correlationHeader) ∧
    (found.acknowledgementFailure.isSome → ∀ header ∈ headers, lower header.1 ≠ ackFailureHeader) ∧
    ValidLast headers

theorem validLast_cons_correlation {rest : List Header}
    (named : lower header.1 = correlationHeader) :
    ValidLast (header :: rest) ↔
      ((readRequestId header.2).isSome → ∀ other ∈ rest, lower other.1 ≠ correlationHeader) ∧
        ValidLast rest := by
  rw [ValidLast, List.pairwise_cons]
  refine and_congr_left fun _ => ?_
  simp only [valid_correlation named, named, not_and]
  constructor
  · intro apart valid other isOther
    exact apart other isOther valid
  · intro apart other isOther valid
    exact apart valid other isOther

theorem validLast_cons_ackFailure {rest : List Header}
    (named : lower header.1 = ackFailureHeader) :
    ValidLast (header :: rest) ↔
      ((readAcknowledgementFailure header.2).isSome →
          ∀ other ∈ rest, lower other.1 ≠ ackFailureHeader) ∧ ValidLast rest := by
  rw [ValidLast, List.pairwise_cons]
  refine and_congr_left fun _ => ?_
  simp only [valid_ackFailure named, named, not_and]
  constructor
  · intro apart valid other isOther
    exact apart other isOther valid
  · intro apart other isOther valid
    exact apart valid other isOther

theorem validLast_cons_other {rest : List Header} (other : ¬ IsStateGuard header) :
    ValidLast (header :: rest) ↔ ValidLast rest := by
  rw [ValidLast, List.pairwise_cons]
  exact and_iff_right fun _ _ both => other both.1.isStateGuard

/-- The loop forwards the other headers exactly when no header follows a valid one of its name. -/
theorem kept_iff (found : Correlation) (headers : List Header) :
    (headers.foldl Correlation.consume found).headers =
        found.headers ++ headers.filter (fun header => ¬ IsStateGuard header) ↔
      Clear found headers := by
  induction headers generalizing found with
  | nil => simp [Clear, ValidLast]
  | cons header rest ih =>
    rw [List.foldl_cons]
    by_cases ours : IsStateGuard header
    · rw [List.filter_cons_of_neg (by simpa using ours)]
      by_cases taken : Taken found header
      · rcases taken with ⟨named, unfound⟩ | ⟨named, unfound⟩
        · rw [consume_correlation named unfound]
          refine (ih _).trans ?_
          simp only [Clear, validLast_cons_correlation named, unfound, List.forall_mem_cons, named,
            ne_eq, correlationHeader_ne, not_false_eq_true, true_and]
          simp [and_left_comm]
        · rw [consume_ackFailure named unfound]
          refine (ih _).trans ?_
          simp only [Clear, validLast_cons_ackFailure named, unfound, List.forall_mem_cons, named,
            ne_eq, correlationHeader_ne.symm, not_false_eq_true, true_and]
          simp
      · -- The header is forwarded: it follows a valid one of its name.
        rw [consume_of_not_taken taken]
        refine iff_of_false ?_ ?_
        · intro kept
          have lengths := congrArg List.length kept
          have longer := length_kept { found with headers := found.headers ++ [header] } rest
          simp only [List.length_append, List.length_singleton] at lengths longer
          omega
        · rintro ⟨noRequest, noFailure, -⟩
          refine taken (ours.imp (fun named => ⟨named, ?_⟩) fun named => ⟨named, ?_⟩)
          · by_contra isFound
            exact noRequest (Option.isSome_iff_ne_none.mpr isFound) header (by simp) named
          · by_contra isFound
            exact noFailure (Option.isSome_iff_ne_none.mpr isFound) header (by simp) named
    · have untaken : ¬ Taken found header :=
        fun taken => ours (taken.imp And.left And.left)
      rw [List.filter_cons_of_pos (by simpa using ours), consume_of_not_taken untaken]
      have same : found.headers ++ header :: rest.filter (fun header => ¬ IsStateGuard header) =
          (found.headers ++ [header]) ++ rest.filter fun header => ¬ IsStateGuard header := by
        simp
      rw [same]
      refine (ih _).trans ?_
      obtain ⟨notRequest, notFailure⟩ := not_or.mp ours
      simp only [Clear, validLast_cons_other ours, List.forall_mem_cons, ne_eq, notRequest,
        notFailure, not_false_eq_true, true_and]

/-- What the loop has found is what a header says, or what it had found before. -/
theorem foldl_consume_carried (found : Correlation) (headers : List Header) :
    (∀ requestId ∈ (headers.foldl Correlation.consume found).requestId,
      found.requestId = some requestId ∨ ∃ header ∈ headers,
        lower header.1 = correlationHeader ∧ readRequestId header.2 = some requestId) ∧
    ∀ failure ∈ (headers.foldl Correlation.consume found).acknowledgementFailure,
      found.acknowledgementFailure = some failure ∨ ∃ header ∈ headers,
        lower header.1 = ackFailureHeader ∧
          readAcknowledgementFailure header.2 = some failure := by
  induction headers generalizing found with
  | nil => exact ⟨fun _ => .inl, fun _ => .inl⟩
  | cons header rest ih =>
    rw [List.foldl_cons]
    obtain ⟨requests, failures⟩ := ih (found.consume header)
    constructor
    · intro requestId carried
      rcases requests requestId carried with before | ⟨other, isOther, value⟩
      · rw [Correlation.consume] at before
        split at before
        next taken => exact .inr ⟨header, by simp, taken.1, before⟩
        next => split at before <;> exact .inl before
      · exact .inr ⟨other, by simp [isOther], value⟩
    · intro failure carried
      rcases failures failure carried with before | ⟨other, isOther, value⟩
      · rw [Correlation.consume] at before
        split at before
        next => exact .inl before
        next =>
          split at before
          next taken => exact .inr ⟨header, by simp, taken.1, before⟩
          next => exact .inl before
      · exact .inr ⟨other, by simp [isOther], value⟩

/-- The wrapper forwards no header of StateGuard's, and every other, exactly when the request is of
HTTP and no header follows a valid one of its name, or it is not of HTTP and has none. -/
theorem correlate_strips_iff (scope : Scope) :
    Strips scope (correlate scope) ↔
      if scope.type = "http" then ValidLast scope.headers
      else ∀ header ∈ scope.headers, ¬ IsStateGuard header := by
  unfold correlate
  by_cases http : scope.type = "http"
  · rw [if_neg (not_not.mpr http), if_pos http]
    have kept := kept_iff {} scope.headers
    simp only [List.nil_append, Clear, Option.isSome_none, Bool.false_eq_true, false_implies,
      true_and] at kept
    rw [← kept]
    constructor
    · exact fun strips => strips.headers
    · intro same
      obtain ⟨requests, failures⟩ := foldl_consume_carried {} scope.headers
      refine ⟨same, rfl, ?_, ?_⟩
      · intro requestId carried
        exact (requests requestId carried).resolve_left (by simp)
      · intro failure carried
        exact (failures failure carried).resolve_left (by simp)
  · rw [if_pos http, if_neg http]
    constructor
    · intro strips header isHeader
      have same : scope.headers = scope.headers.filter fun header => ¬ IsStateGuard header :=
        strips.headers
      rw [same] at isHeader
      simpa using (List.mem_filter.mp isHeader).2
    · intro foreign
      refine ⟨?_, rfl, by simp, by simp⟩
      refine (List.filter_eq_self.mpr fun header isHeader => ?_).symm
      simpa using foreign header isHeader

/-- A second correlation header is forwarded to the merchant. -/
theorem secondHeader_forwarded :
    ∃ headers : List Header, (∀ header ∈ headers, IsStateGuard header) ∧
      (correlate { type := "http", headers }).1.headers ≠ [] ∧
      ¬ Strips { type := "http", headers } (correlate { type := "http", headers }) := by
  refine ⟨[(correlationHeader, bytes "sgreq_0123456789abcdef0123456789abcdef"),
    (correlationHeader, bytes "second")], by decide +kernel, by decide +kernel, ?_⟩
  intro strips
  have same := strips.headers
  revert same
  decide +kernel

end Asgi

end StateGuard
